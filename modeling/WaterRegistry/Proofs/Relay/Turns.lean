import WaterRegistry.Relay.Program

/-!
# Taking turns

The two sides of a join run on one task, each with a relay of its own that is put in the place of the
task's relay for as long as the side has its turn.  So a side gets on with its own steps and nothing
else: whatever the schedule is, what it will have answered in the end is what it answers when it runs
by itself, and the task has its own relay back after every turn.
-/

namespace WaterRegistry
namespace Relay

theorem runAll_cons (action : Action) (rest : List Action) (relay : Relay) :
    runAll (action :: rest) relay =
      match action relay with
      | (none, after) => (none, after)
      | (some inner, after) =>
        ((runAll rest after).1.map ((after, inner) :: ·), (runAll rest after).2) :=
  rfl

/-- In a run that comes to its end every action has an answer. -/
theorem length_of_runAll {actions : List Action} {relay : Relay} {answers : List Answer}
    (h : (runAll actions relay).1 = some answers) : answers.length = actions.length := by
  induction actions generalizing relay answers with
  | nil =>
      cases h
      rfl
  | cons action rest ih =>
      rw [runAll_cons] at h
      split at h
      · cases h
      · obtain ⟨more, hmore, rfl⟩ := Option.map_eq_some_iff.1 h
        rw [List.length_cons, List.length_cons, ih hmore]

namespace Side

/-- What a side will have answered once it has been run to its end by itself. -/
def outcome (side : Side) : Option (List Answer) :=
  (runAll side.remaining side.relay).1.map (side.answers ++ ·)

theorem outcome_start (root : Json) (actions : List Action) :
    (start root actions).outcome = (runAll actions (capturing root)).1 := by
  rw [outcome, start]
  cases (runAll actions (capturing root)).1 <;> rfl

/-- A turn gives the task its relay back, and leaves what the side will have answered. -/
theorem takeTurn_cases (side : Side) (relay : Relay) :
    (∃ next, side.takeTurn relay = (some next, relay) ∧ next.outcome = side.outcome ∧
        next.remaining = side.remaining.tail) ∨
      side.takeTurn relay = (none, relay) ∧ side.outcome = none := by
  obtain ⟨own, remaining, answers⟩ := side
  cases remaining with
  | nil => exact .inl ⟨_, rfl, rfl, rfl⟩
  | cons action rest =>
      simp only [takeTurn, outcome, runAll_cons]
      rcases action own with ⟨_ | inner, after⟩
      · exact .inr ⟨rfl, rfl⟩
      · refine .inl ⟨_, rfl, ?_, rfl⟩
        simp [Option.map_map, Function.comp_def]

/-- A side that has done some of its actions has given the first of all the answers it will give. -/
theorem answers_eq_take {side : Side} {all : List Answer} {actions : List Action} {turns : Nat}
    (h : side.outcome = some all) (hlength : all.length = actions.length)
    (hremaining : side.remaining = actions.drop turns) : side.answers = all.take turns := by
  obtain ⟨more, hrun, rfl⟩ := Option.map_eq_some_iff.1 h
  have hmore : more.length = actions.length - turns := by
    rw [length_of_runAll hrun, hremaining, List.length_drop]
  rw [List.length_append, hmore] at hlength
  by_cases hturns : turns ≤ actions.length
  · have : turns = side.answers.length := by omega
    rw [this, List.take_left]
  · have : more = [] := List.eq_nil_of_length_eq_zero (by omega)
    rw [this, List.append_nil, List.take_of_length_le (by omega)]

end Side

/-- Under every schedule the task keeps its relay.  The sides have done as many steps as they have had
turns, and what they will have answered is left as it is; or one of them crashes, which it does by
itself as well. -/
theorem interleave_cases (schedule : List Turn) (left right : Side) (relay : Relay) :
    (∃ first second, interleave schedule left right relay = (some (first, second), relay) ∧
        first.outcome = left.outcome ∧ second.outcome = right.outcome ∧
        first.remaining = left.remaining.drop (schedule.count .left) ∧
        second.remaining = right.remaining.drop (schedule.count .right)) ∨
      interleave schedule left right relay = (none, relay) ∧
        (left.outcome = none ∨ right.outcome = none) := by
  induction schedule generalizing left right with
  | nil => exact .inl ⟨left, right, rfl, rfl, rfl, rfl, rfl⟩
  | cons turn rest ih =>
      cases turn with
      | left =>
          rw [interleave]
          rcases left.takeTurn_cases relay with ⟨next, hturn, hnext, htail⟩ | ⟨hturn, hnone⟩
          · rw [hturn]
            rcases ih next right with ⟨first, second, hrun, hfirst, hsecond, hl, hr⟩ | ⟨hrun, hcrash⟩
            · refine .inl ⟨first, second, hrun, hfirst.trans hnext, hsecond, ?_, ?_⟩
              · rw [hl, htail, List.drop_tail, List.count_cons_self]
              · simpa using hr
            · rw [hnext] at hcrash
              exact .inr ⟨hrun, hcrash⟩
          · rw [hturn]
            exact .inr ⟨rfl, .inl hnone⟩
      | right =>
          rw [interleave]
          rcases right.takeTurn_cases relay with ⟨next, hturn, hnext, htail⟩ | ⟨hturn, hnone⟩
          · rw [hturn]
            rcases ih left next with ⟨first, second, hrun, hfirst, hsecond, hl, hr⟩ | ⟨hrun, hcrash⟩
            · refine .inl ⟨first, second, hrun, hfirst, hsecond.trans hnext, ?_, ?_⟩
              · simpa using hl
              · rw [hr, htail, List.drop_tail, List.count_cons_self]
            · rw [hnext] at hcrash
              exact .inr ⟨hrun, hcrash⟩
          · rw [hturn]
            exact .inr ⟨rfl, .inr hnone⟩

theorem count_alternating (turn : Turn) (rounds : Nat) :
    (alternating rounds).count turn = rounds := by
  induction rounds with
  | zero => rfl
  | succ rounds ih => cases turn <;> simp [alternating, ih]

/-- A join answers with what its sides answer by themselves. -/
theorem action_join (leftRoot : Json) (left : List Step) (rightRoot : Json) (right : List Step)
    (relay : Relay) :
    (Step.join leftRoot left rightRoot right).action relay =
      ((run left (capturing leftRoot)).1.bind fun leftAnswers =>
        (run right (capturing rightRoot)).1.map fun rightAnswers =>
          .joined leftAnswers rightAnswers, relay) := by
  have hleft := Side.outcome_start leftRoot (Step.actions left)
  have hright := Side.outcome_start rightRoot (Step.actions right)
  simp only [Step.action, run, ← hleft, ← hright]
  rcases interleave_cases (alternating (max (Step.actions left).length (Step.actions right).length))
      (.start leftRoot (Step.actions left)) (.start rightRoot (Step.actions right)) relay with
    ⟨first, second, hrun, hfirst, hsecond, hl, hr⟩ | ⟨hrun, hcrash⟩
  · -- There are as many rounds as the longer side has steps, so none is left of either.
    have hdone : ∀ {side : Side}, side.remaining = [] → side.outcome = some side.answers := by
      intro side hside
      simp [Side.outcome, hside, runAll]
    rw [count_alternating, Side.start, List.drop_eq_nil_of_le (Nat.le_max_left _ _)] at hl
    rw [count_alternating, Side.start, List.drop_eq_nil_of_le (Nat.le_max_right _ _)] at hr
    rw [← hfirst, ← hsecond, hdone hl, hdone hr]
    simp only [Side.start] at hrun ⊢
    rw [hrun]
    rfl
  · simp only [Side.start] at hrun hcrash ⊢
    rw [hrun]
    rcases hcrash with hnone | hnone
    · rw [hnone]
      rfl
    · rw [hnone]
      simp

end Relay
end WaterRegistry
