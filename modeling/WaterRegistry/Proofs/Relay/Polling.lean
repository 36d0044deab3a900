import WaterRegistry.Proofs.Relay.Blocks

/-!
# Polling

A task is not run from its first step to its last: it is polled, and a poll may end after any step, also
inside a block, and inside a block of that block.  What is kept between two polls is a routine.  A block
that has been left open keeps a relay of its own with it.  The relay is put in the place of the relay
around the block for as long as the block is polled, and the relay around it is put back afterwards.

`Polls` lets a routine get on with one thing of those that it can get on with: a join with either side,
and a step that is a block with the whole block or only with its opening.  A poll that does several things
is several polls in a row, and what a task does that is being waited for is done in polls of the one that
waits.  What comes out of a routine in the end is the same however it is polled.
-/

namespace WaterRegistry
namespace Relay

/-- What is kept of a program between two polls. -/
inductive Routine where
  /-- No block is open: the answers so far, and the steps that are left. -/
  | between (answers : List Answer) (rest : List Step)
  /-- A block is open, on a task of its own or on this one: its own relay, and how far its steps are. -/
  | within (isTask : Bool) (answers : List Answer) (own : Relay) (inner : Routine) (rest : List Step)
  /-- A join is open: of each side its own relay, and how far its steps are. -/
  | joining (answers : List Answer) (leftOwn : Relay) (left : Routine) (rightOwn : Relay)
      (right : Routine) (rest : List Step)

/-- The routine that opening a block leads to. -/
def Step.opened (answers : List Answer) (rest : List Step) : Step → Option Routine
  | .look | .set _ | .clear | .crash | .capture _ _ => none
  | .scope steps => some (.within false answers fresh (.between [] steps) rest)
  | .spawn steps => some (.within true answers .outside (.between [] steps) rest)
  | .withEntity root steps | .cancel root steps =>
    some (.within false answers (capturing root) (.between [] steps) rest)
  | .join leftRoot left rightRoot right =>
    some (.joining answers (capturing leftRoot) (.between [] left) (capturing rightRoot)
      (.between [] right) rest)

theorem Step.isBlock_of_opened {step : Step} {answers : List Answer} {rest : List Step}
    {routine : Routine} (h : step.opened answers rest = some routine) : step.isBlock = true := by
  cases step <;> simp_all [opened, isBlock]

/-- One poll of a routine on a task with the given relay: the routine afterwards, or none if it has
crashed, and the relay of the task. -/
inductive Polls : Routine → Relay → Option Routine → Relay → Prop where
  | acts {step relay inner after answers rest} (haction : step.action relay = (some inner, after)) :
      Polls (.between answers (step :: rest)) relay
        (some (.between (answers ++ [(after, inner)]) rest)) after
  | crashes {step relay after answers rest} (haction : step.action relay = (none, after)) :
      Polls (.between answers (step :: rest)) relay none after
  | opens {step answers rest routine relay} (hopened : step.opened answers rest = some routine) :
      Polls (.between answers (step :: rest)) relay (some routine) relay
  | within {inner own next after isTask answers rest relay} (hinner : Polls inner own (some next) after) :
      Polls (.within isTask answers own inner rest) relay
        (some (.within isTask answers after next rest)) relay
  | innerCrashes {inner own after answers rest relay} (hinner : Polls inner own none after) :
      Polls (.within false answers own inner rest) relay none relay
  | taskCrashes {inner own after answers rest relay} (hinner : Polls inner own none after) :
      Polls (.within true answers own inner rest) relay
        (some (.between (answers ++ [(relay, .crashed)]) rest)) relay
  | closes {isTask answers own inner rest relay} :
      Polls (.within isTask answers own (.between inner []) rest) relay
        (some (.between (answers ++ [(relay, .answers inner)]) rest)) relay
  | left {answers leftOwn left next after rightOwn right rest relay}
      (hside : Polls left leftOwn (some next) after) :
      Polls (.joining answers leftOwn left rightOwn right rest) relay
        (some (.joining answers after next rightOwn right rest)) relay
  | right {answers leftOwn left rightOwn right next after rest relay}
      (hside : Polls right rightOwn (some next) after) :
      Polls (.joining answers leftOwn left rightOwn right rest) relay
        (some (.joining answers leftOwn left after next rest)) relay
  | leftCrashes {answers leftOwn left after rightOwn right rest relay}
      (hside : Polls left leftOwn none after) :
      Polls (.joining answers leftOwn left rightOwn right rest) relay none relay
  | rightCrashes {answers leftOwn left rightOwn right after rest relay}
      (hside : Polls right rightOwn none after) :
      Polls (.joining answers leftOwn left rightOwn right rest) relay none relay
  | joins {answers leftOwn left rightOwn right rest relay} :
      Polls (.joining answers leftOwn (.between left []) rightOwn (.between right []) rest) relay
        (some (.between (answers ++ [(relay, .joined left right)]) rest)) relay

/-- The routine and the relay of its task after a number of polls. -/
inductive Polled (start : Routine) (here : Relay) : Nat → Routine → Relay → Prop where
  | zero : Polled start here 0 start here
  | succ {polls routine relay next after} (hpolled : Polled start here polls routine relay)
      (hpoll : Polls routine relay (some next) after) : Polled start here (polls + 1) next after

/-! ## What comes out in the end -/

/-- What a program ends with once one more of its steps has answered, or crashed. -/
def resume (answers : List Answer) (rest : List Step) (inner : Option Inner) (relay : Relay) :
    Option (List Answer) × Relay :=
  match inner with
  | none => (none, relay)
  | some inner => ((run rest relay).1.map (answers ++ (relay, inner) :: ·), (run rest relay).2)

/-- What a block on this task, or on a task of its own, answers when its steps have come to an end. -/
def closing (isTask : Bool) (inner : Option (List Answer)) : Option Inner :=
  if isTask then some ((inner.map .answers).getD .crashed) else inner.map .answers

/-- What a routine ends with when all that is open and all that is left is run one after the other. -/
def Routine.outcome : Routine → Relay → Option (List Answer) × Relay
  | .between answers rest, relay => ((run rest relay).1.map (answers ++ ·), (run rest relay).2)
  | .within isTask answers own inner rest, relay =>
    resume answers rest (closing isTask (inner.outcome own).1) relay
  | .joining answers leftOwn left rightOwn right rest, relay =>
    resume answers rest
      ((left.outcome leftOwn).1.bind fun leftAnswers =>
        (right.outcome rightOwn).1.map fun rightAnswers => .joined leftAnswers rightAnswers) relay

/-- What is ended with after a poll. -/
def Routine.outcome? : Option Routine → Relay → Option (List Answer) × Relay
  | none, relay => (none, relay)
  | some routine, relay => routine.outcome relay

namespace Routine

theorem outcome_finished (answers : List Answer) (relay : Relay) :
    (between answers []).outcome relay = (some answers, relay) := by
  simp [outcome, run, Step.actions, runAll]

theorem outcome_concat (answers : List Answer) (rest : List Step) (inner : Inner) (relay : Relay) :
    (between (answers ++ [(relay, inner)]) rest).outcome relay =
      resume answers rest (some inner) relay := by
  simp [outcome, resume]

theorem outcome_cons (answers : List Answer) (step : Step) (rest : List Step) (relay : Relay) :
    (between answers (step :: rest)).outcome relay =
      resume answers rest (step.action relay).1 (step.action relay).2 := by
  rw [outcome, run_cons]
  rcases step.action relay with ⟨_ | inner, after⟩
  · rfl
  · simp [resume, Option.map_map, Function.comp_def]

/-- Opening a block leaves what comes out. -/
theorem outcome_of_opened {step : Step} {answers : List Answer} {rest : List Step} {routine : Routine}
    (h : step.opened answers rest = some routine) (relay : Relay) :
    routine.outcome relay = (between answers (step :: rest)).outcome relay := by
  rw [outcome_cons, action_of_isBlock (Step.isBlock_of_opened h)]
  cases step <;> cases h <;> simp [outcome, closing, Step.inner]

/-- The answers so far are the first of those that come out. -/
def answers : Routine → List Answer
  | between answers _ | within _ answers _ _ _ | joining answers _ _ _ _ _ => answers

end Routine

/-- No poll changes what comes out in the end; a routine that crashes would have come to nothing. -/
theorem Polls.outcome_eq {routine : Routine} {relay after : Relay} {result : Option Routine}
    (h : Polls routine relay result after) : routine.outcome relay = Routine.outcome? result after := by
  induction h with
  | acts haction => rw [Routine.outcome_cons, haction, Routine.outcome?, Routine.outcome_concat]
  | crashes haction => rw [Routine.outcome_cons, haction, resume, Routine.outcome?]
  | opens hopened => exact (Routine.outcome_of_opened hopened _).symm
  | within _ ih | left _ ih | right _ ih => simp only [Routine.outcome?, Routine.outcome, ih]
  | innerCrashes _ ih | leftCrashes _ ih =>
      rw [Routine.outcome, ih]
      rfl
  | rightCrashes _ ih =>
      simp [Routine.outcome, Routine.outcome?, ih, resume]
  | taskCrashes _ ih =>
      rw [Routine.outcome?, Routine.outcome_concat, Routine.outcome, ih]
      rfl
  | @closes isTask =>
      rw [Routine.outcome?, Routine.outcome_concat, Routine.outcome, Routine.outcome_finished]
      cases isTask <;> rfl
  | joins =>
      rw [Routine.outcome?, Routine.outcome_concat, Routine.outcome, Routine.outcome_finished,
        Routine.outcome_finished]
      rfl

theorem Polled.outcome_eq {start routine : Routine} {here relay : Relay} {polls : Nat}
    (h : Polled start here polls routine relay) : start.outcome here = routine.outcome relay := by
  induction h with
  | zero => rfl
  | succ _ hpoll ih => exact ih.trans hpoll.outcome_eq

/-- The answers so far are the first of those that come out. -/
theorem Routine.answers_prefix {routine : Routine} {relay : Relay} {all : List Answer}
    (h : (routine.outcome relay).1 = some all) : routine.answers <+: all := by
  have hresume : ∀ {answers : List Answer} {rest inner},
      (resume answers rest inner relay).1 = some all → answers <+: all := by
    intro answers rest inner hall
    cases inner with
    | none => cases hall
    | some inner =>
        obtain ⟨more, -, rfl⟩ := Option.map_eq_some_iff.1 hall
        exact List.prefix_append _ _
  cases routine with
  | between answers rest =>
      obtain ⟨more, -, rfl⟩ := Option.map_eq_some_iff.1 h
      exact List.prefix_append _ _
  | within isTask answers own inner rest => exact hresume h
  | joining answers leftOwn left rightOwn right rest => exact hresume h

/-! ## How many polls there can be -/

mutual

/-- How many polls a step can take. -/
def Step.weight : Step → Nat
  | .look | .set _ | .clear | .crash | .capture _ _ => 1
  | .scope steps | .spawn steps | .withEntity _ steps | .cancel _ steps => Step.weights steps + 2
  | .join _ left _ right => Step.weights left + Step.weights right + 2

/-- How many polls steps can take. -/
def Step.weights : List Step → Nat
  | [] => 0
  | step :: rest => step.weight + Step.weights rest

end

/-- How many polls a routine can still take. -/
def Routine.weight : Routine → Nat
  | .between _ rest => Step.weights rest
  | .within _ _ _ inner rest => inner.weight + 1 + Step.weights rest
  | .joining _ _ left _ right rest => left.weight + right.weight + 1 + Step.weights rest

theorem Step.weight_pos (step : Step) : 0 < step.weight := by
  cases step <;> simp [Step.weight]

theorem Routine.weight_of_opened {step : Step} {answers : List Answer} {rest : List Step}
    {routine : Routine} (h : step.opened answers rest = some routine) :
    routine.weight < (between answers (step :: rest)).weight := by
  cases step <;> cases h <;> simp [weight, Step.weights, Step.weight]

theorem Polls.weight_lt {routine : Routine} {relay after : Relay} {result : Option Routine}
    (h : Polls routine relay result after) : ∀ next ∈ result, next.weight < routine.weight := by
  induction h with
  | @acts step =>
      rintro next ⟨⟩
      have := step.weight_pos
      simp only [Routine.weight, Step.weights]
      omega
  | opens hopened =>
      rintro next ⟨⟩
      exact Routine.weight_of_opened hopened
  | within _ ih | left _ ih | right _ ih =>
      rintro next ⟨⟩
      have := ih _ rfl
      simp only [Routine.weight]
      omega
  | taskCrashes | closes | joins =>
      rintro next ⟨⟩
      simp only [Routine.weight]
      omega
  | crashes | innerCrashes | leftCrashes | rightCrashes => exact nofun

/-- However a routine is polled, it takes no more polls than it has weight. -/
theorem Polled.add_weight_le {start routine : Routine} {here relay : Relay} {polls : Nat}
    (h : Polled start here polls routine relay) : polls + routine.weight ≤ start.weight := by
  induction h with
  | zero => omega
  | succ _ hpoll ih =>
      have := hpoll.weight_lt _ rfl
      omega

/-- A routine can be polled until it has no step left. -/
theorem Routine.finished_or_polls (routine : Routine) (relay : Relay) :
    (∃ answers, routine = between answers []) ∨ ∃ result after, Polls routine relay result after := by
  induction routine generalizing relay with
  | between answers rest =>
      cases rest with
      | nil => exact .inl ⟨answers, rfl⟩
      | cons step rest =>
          rcases haction : step.action relay with ⟨_ | inner, after⟩
          · exact .inr ⟨_, _, .crashes haction⟩
          · exact .inr ⟨_, _, .acts haction⟩
  | within isTask answers own inner rest ih =>
      rcases ih own with ⟨answered, rfl⟩ | ⟨_ | next, after, hpoll⟩
      · exact .inr ⟨_, _, .closes⟩
      · cases isTask with
        | false => exact .inr ⟨_, _, .innerCrashes hpoll⟩
        | true => exact .inr ⟨_, _, .taskCrashes hpoll⟩
      · exact .inr ⟨_, _, .within hpoll⟩
  | joining answers leftOwn left rightOwn right rest ihleft ihright =>
      rcases ihleft leftOwn with ⟨leftAnswers, rfl⟩ | ⟨_ | next, after, hpoll⟩
      · rcases ihright rightOwn with ⟨rightAnswers, rfl⟩ | ⟨_ | next, after, hpoll⟩
        · exact .inr ⟨_, _, .joins⟩
        · exact .inr ⟨_, _, .rightCrashes hpoll⟩
        · exact .inr ⟨_, _, .right hpoll⟩
      · exact .inr ⟨_, _, .leftCrashes hpoll⟩
      · exact .inr ⟨_, _, .left hpoll⟩

end Relay
end WaterRegistry
