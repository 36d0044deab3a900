import WaterRegistry.Proofs.Relay.Polling

/-!
# Interleaved creations are isolated

Two creations run on one task and take turns.  Neither finds what the other binds, and the task never
finds what either of them binds: each answers what it answers when it runs by itself.  This is so when
the turns are whole steps, and when they are polls that end at any depth inside the steps.
-/

namespace WaterRegistry
namespace Relay

/-! ## Programs that do not crash -/

mutual

/-- Whether a step comes to its end.  A crash on a task of its own ends that task only. -/
def Step.crashFree : Step → Bool
  | .look | .set _ | .clear | .spawn _ | .capture _ _ => true
  | .crash => false
  | .scope steps | .withEntity _ steps | .cancel _ steps => Step.allCrashFree steps
  | .join _ left _ right => Step.allCrashFree left && Step.allCrashFree right

/-- Whether all steps come to their end. -/
def Step.allCrashFree : List Step → Bool
  | [] => true
  | step :: rest => step.crashFree && Step.allCrashFree rest

end

mutual

theorem isSome_action (step : Step) (relay : Relay) :
    (step.action relay).1.isSome = step.crashFree := by
  cases step with
  | look => rfl
  | set binding => rfl
  | clear => rfl
  | crash => rfl
  | scope steps =>
      rw [action_of_isBlock rfl, Step.inner, Option.isSome_map, isSome_run, Step.crashFree]
  | spawn steps => rw [action_of_isBlock rfl, Step.inner, Option.isSome_some, Step.crashFree]
  | withEntity root steps =>
      rw [action_of_isBlock rfl, Step.inner, Option.isSome_map, isSome_run, Step.crashFree]
  | cancel root steps =>
      rw [action_of_isBlock rfl, Step.inner, Option.isSome_map, isSome_run, Step.crashFree]
  | capture root fails => rfl
  | join leftRoot left rightRoot right =>
      rw [action_of_isBlock rfl, Step.inner, Step.crashFree, ← isSome_run left (capturing leftRoot),
        ← isSome_run right (capturing rightRoot)]
      cases (run left (capturing leftRoot)).1 <;> simp

/-- The programs that crash are those that hold a crash, other than on a task of its own. -/
theorem isSome_run (steps : List Step) (relay : Relay) :
    (run steps relay).1.isSome = Step.allCrashFree steps := by
  cases steps with
  | nil => rfl
  | cons step rest =>
      rw [run_cons, Step.allCrashFree, ← isSome_action step relay]
      rcases step.action relay with ⟨_ | inner, after⟩
      · rfl
      · rw [← isSome_run rest after, Option.isSome_map]
        rfl

end

/-! ## What a creation finds -/

/-- The relay after steps that do not crash. -/
def relayAfter (steps : List Step) (relay : Relay) : Relay :=
  steps.foldl (fun relay step => step.leaves relay) relay

theorem relayAfter_blocks {steps : List Step} (h : ∀ step ∈ steps, step.isBlock = true)
    (relay : Relay) : relayAfter steps relay = relay := by
  induction steps with
  | nil => rfl
  | cons step rest ih =>
      rw [relayAfter, List.foldl_cons, Step.leaves_of_isBlock (h step List.mem_cons_self)]
      exact ih fun step hmem => h step (List.mem_cons_of_mem _ hmem)

theorem eq_relayAfter_of_run {steps : List Step} {start here : Relay} {answers : List Answer}
    (h : run steps start = (some answers, here)) : here = relayAfter steps start := by
  induction steps generalizing start answers with
  | nil =>
      cases h
      rfl
  | cons step rest ih =>
      have hafter := action_snd step start
      rw [run_cons] at h
      rcases haction : step.action start with ⟨_ | inner, after⟩
      · rw [haction] at h
        cases h
      · rw [haction] at h hafter
        obtain rfl : after = step.leaves start := hafter
        obtain ⟨hanswers, hhere⟩ := Prod.mk.inj h
        obtain ⟨more, hmore, -⟩ := Option.map_eq_some_iff.1 hanswers
        exact ih (Prod.ext hmore hhere)

theorem capturing_eq (root : Json) : capturing root = .inside (Binding.ofRoot? root) := by
  rw [capturing, bindRoot]
  cases Binding.ofRoot? root <;> rfl

/-- What a creation answers by itself, and what it finds with its looks. -/
structure AnswersAlone (root : Json) (steps : List Step) (answers : List Answer) : Prop where
  /-- So the creation answers in every relay, and leaves the relay. -/
  withEntity_eq : ∀ relay, Relay.withEntity root (run steps) relay = (some answers, relay)
  /-- A first look, with nothing bound or cleared before it, finds the entity that the request carries. -/
  first_look : ∀ before after, steps = before ++ .look :: after →
    (∀ step ∈ before, step.isBlock = true) →
      answers[before.length]? = some (.inside (Binding.ofRoot? root), .nothing)
  /-- Every look finds what the creation itself has bound last. -/
  look : ∀ before after, steps = before ++ .look :: after →
    answers[before.length]? = some (relayAfter before (capturing root), .nothing)

/-- A program that does not crash has answers by itself. -/
theorem exists_answersAlone (root : Json) {steps : List Step} (h : Step.allCrashFree steps = true) :
    ∃ answers, (run steps (capturing root)).1 = some answers ∧ AnswersAlone root steps answers := by
  rw [← isSome_run steps (capturing root)] at h
  obtain ⟨answers, hanswers⟩ := Option.isSome_iff_exists.1 h
  have hlook : ∀ before after, steps = before ++ .look :: after →
      answers[before.length]? = some (relayAfter before (capturing root), .nothing) := by
    rintro before after rfl
    rw [run_append] at hanswers
    rcases hbefore : run before (capturing root) with ⟨_ | first, here⟩
    · rw [hbefore] at hanswers
      cases hanswers
    · -- The look is the next step, in the relay that the steps before it have left.
      rw [hbefore] at hanswers
      obtain ⟨more, hmore, rfl⟩ := Option.map_eq_some_iff.1 hanswers
      obtain ⟨last, -, rfl⟩ := Option.map_eq_some_iff.1 hmore
      have hlength : first.length = before.length := by
        rw [length_of_runAll (congrArg Prod.fst hbefore), length_actions]
      rw [← hlength, List.getElem?_append_right (Nat.le_refl _), Nat.sub_self,
        ← eq_relayAfter_of_run hbefore]
      rfl
  refine ⟨answers, hanswers, ?_, ?_, hlook⟩
  · intro relay
    exact Prod.ext hanswers rfl
  · intro before after hsteps hblocks
    rw [hlook before after hsteps, relayAfter_blocks hblocks, capturing_eq]

/-! ## Taking turns -/

/-- A side whose program does not crash has had, under every schedule, the first answers that the program
gives by itself: as many as it has had turns. -/
theorem interleave_eq {leftRoot rightRoot : Json} {left right : List Step}
    {leftAnswers rightAnswers : List Answer}
    (hleft : (run left (capturing leftRoot)).1 = some leftAnswers)
    (hright : (run right (capturing rightRoot)).1 = some rightAnswers)
    (schedule : List Turn) (enclosing : Relay) :
    ∃ first second,
      interleave schedule (.start leftRoot (Step.actions left)) (.start rightRoot (Step.actions right))
          enclosing = (some (first, second), enclosing) ∧
        first.answers = leftAnswers.take (schedule.count .left) ∧
        second.answers = rightAnswers.take (schedule.count .right) := by
  have houtcome : (Side.start leftRoot (Step.actions left)).outcome = some leftAnswers :=
    (Side.outcome_start leftRoot _).trans hleft
  have houtcome' : (Side.start rightRoot (Step.actions right)).outcome = some rightAnswers :=
    (Side.outcome_start rightRoot _).trans hright
  rcases interleave_cases schedule (.start leftRoot (Step.actions left))
      (.start rightRoot (Step.actions right)) enclosing with
    ⟨first, second, hrun, hfirst, hsecond, hl, hr⟩ | ⟨-, hnone | hnone⟩
  · exact ⟨first, second, hrun,
      Side.answers_eq_take (hfirst.trans houtcome) (length_of_runAll hleft) hl,
      Side.answers_eq_take (hsecond.trans houtcome') (length_of_runAll hright) hr⟩
  · rw [houtcome] at hnone
    cases hnone
  · rw [houtcome'] at hnone
    cases hnone

/-! ## Turns that end inside the steps -/

/-- Where a program of one join can stand between two polls. -/
inductive JoinStage (join : Step) (leftAnswers rightAnswers : List Answer) (enclosing : Relay) :
    Routine → Prop where
  | unopened : JoinStage join leftAnswers rightAnswers enclosing (.between [] [join])
  /-- The answers so far of each side are the first of those that it gives by itself. -/
  | opened {leftOwn left rightOwn right} (hleft : left.answers <+: leftAnswers)
      (hright : right.answers <+: rightAnswers) :
      JoinStage join leftAnswers rightAnswers enclosing (.joining [] leftOwn left rightOwn right [])
  | finished : JoinStage join leftAnswers rightAnswers enclosing
      (.between [(enclosing, .joined leftAnswers rightAnswers)] [])

/-- A join keeps the relay of its task at every point between two polls. -/
theorem polled_join {leftRoot rightRoot : Json} {left right : List Step} {enclosing relay : Relay}
    {routine : Routine} {polls : Nat}
    (h : Polled (.between [] [.join leftRoot left rightRoot right]) enclosing polls routine relay) :
    relay = enclosing ∧
      (routine = .between [] [.join leftRoot left rightRoot right] ∨
        (∃ leftOwn first rightOwn second, routine = .joining [] leftOwn first rightOwn second []) ∨
        ∃ inner, routine = .between [(enclosing, inner)] []) := by
  induction h with
  | zero => exact ⟨rfl, .inl rfl⟩
  | succ _ hpoll ih =>
      obtain ⟨rfl, rfl | ⟨_, _, _, _, rfl⟩ | ⟨inner, rfl⟩⟩ := ih
      · cases hpoll with
        | acts haction =>
            obtain ⟨-, rfl⟩ := Prod.mk.inj ((action_of_isBlock rfl _).symm.trans haction)
            exact ⟨rfl, .inr (.inr ⟨_, rfl⟩)⟩
        | opens hopened =>
            obtain rfl := Option.some.inj hopened
            exact ⟨rfl, .inr (.inl ⟨_, _, _, _, rfl⟩)⟩
      · -- Whichever side is polled, it is polled with its own relay.
        cases hpoll with
        | left => exact ⟨rfl, .inr (.inl ⟨_, _, _, _, rfl⟩)⟩
        | right => exact ⟨rfl, .inr (.inl ⟨_, _, _, _, rfl⟩)⟩
        | joins => exact ⟨rfl, .inr (.inr ⟨_, rfl⟩)⟩
      · cases hpoll

theorem resume_last (inner : Option Inner) (relay : Relay) :
    resume [] [] inner relay = (inner.map fun inner => [(relay, inner)], relay) := by
  cases inner <;> rfl

/-- However a join of two programs that do not crash is polled: every stage is one of those of a join,
and it does not crash. -/
theorem joinStage_of_polled {leftRoot rightRoot : Json} {left right : List Step}
    {leftAnswers rightAnswers : List Answer} {enclosing relay : Relay} {routine : Routine} {polls : Nat}
    (hleft : (run left (capturing leftRoot)).1 = some leftAnswers)
    (hright : (run right (capturing rightRoot)).1 = some rightAnswers)
    (h : Polled (.between [] [.join leftRoot left rightRoot right]) enclosing polls routine relay) :
    JoinStage (.join leftRoot left rightRoot right) leftAnswers rightAnswers enclosing routine ∧
      ∀ after, ¬ Polls routine relay none after := by
  have houtcome : routine.outcome relay =
      (some [(enclosing, .joined leftAnswers rightAnswers)], enclosing) := by
    rw [← h.outcome_eq, Routine.outcome_cons, action_join, hleft, hright]
    rfl
  refine ⟨?_, fun after hcrash => ?_⟩
  · obtain ⟨rfl, rfl | ⟨leftOwn, first, rightOwn, second, rfl⟩ | ⟨inner, rfl⟩⟩ := polled_join h
    · exact .unopened
    · rw [Routine.outcome, resume_last] at houtcome
      obtain ⟨inner, hinner, hlast⟩ := Option.map_eq_some_iff.1 (congrArg Prod.fst houtcome)
      obtain ⟨_, hfirst, hboth⟩ := Option.bind_eq_some_iff.1 hinner
      obtain ⟨_, hsecond, rfl⟩ := Option.map_eq_some_iff.1 hboth
      cases hlast
      exact .opened (Routine.answers_prefix hfirst) (Routine.answers_prefix hsecond)
    · rw [Routine.outcome_finished] at houtcome
      cases houtcome
      exact .finished
  · rw [hcrash.outcome_eq] at houtcome
    cases houtcome

/-- Two creations whose programs do not crash run on one task.  Each of them has the answers that it has
by itself, whose looks find the entity of its own request until the creation itself binds or clears; the
answers are those that a join gives.  Whatever the schedule of their turns, and wherever polls end inside
the steps, each creation has at every point given the first of those answers, and the relay of the task
is what it was.  Polls never crash and, as long as the join has not been finished, go on; there are no
more of them than the join has weight. -/
theorem interleaved_creations_isolated (leftRoot rightRoot : Json) (left right : List Step)
    (hleft : Step.allCrashFree left = true) (hright : Step.allCrashFree right = true) :
    ∃ leftAnswers rightAnswers,
      AnswersAlone leftRoot left leftAnswers ∧ AnswersAlone rightRoot right rightAnswers ∧
      ∀ enclosing : Relay,
        let join := Step.join leftRoot left rightRoot right
        join.action enclosing = (some (.joined leftAnswers rightAnswers), enclosing) ∧
        (∀ schedule, ∃ first second,
          interleave schedule (.start leftRoot (Step.actions left))
              (.start rightRoot (Step.actions right)) enclosing = (some (first, second), enclosing) ∧
            first.answers = leftAnswers.take (schedule.count .left) ∧
            second.answers = rightAnswers.take (schedule.count .right)) ∧
        ∀ polls routine relay, Polled (.between [] [join]) enclosing polls routine relay →
          relay = enclosing ∧ polls ≤ join.weight ∧
          JoinStage join leftAnswers rightAnswers enclosing routine ∧
          (∀ after, ¬ Polls routine relay none after) ∧
          (routine ≠ .between [(enclosing, .joined leftAnswers rightAnswers)] [] →
            ∃ next after, Polls routine relay (some next) after) := by
  obtain ⟨leftAnswers, hrunleft, haloneleft⟩ := exists_answersAlone leftRoot hleft
  obtain ⟨rightAnswers, hrunright, haloneright⟩ := exists_answersAlone rightRoot hright
  refine ⟨leftAnswers, rightAnswers, haloneleft, haloneright, fun enclosing => ⟨?_, ?_, ?_⟩⟩
  · rw [action_join, hrunleft, hrunright]
    rfl
  · exact fun schedule => interleave_eq hrunleft hrunright schedule enclosing
  · intro polls routine relay hpolled
    obtain ⟨hstage, hcrash⟩ := joinStage_of_polled hrunleft hrunright hpolled
    refine ⟨(polled_join hpolled).1, ?_, hstage, hcrash, fun hopen => ?_⟩
    · have := hpolled.add_weight_le
      simp only [Routine.weight, Step.weights] at this
      omega
    · rcases routine.finished_or_polls relay with ⟨answers, rfl⟩ | ⟨_ | next, after, hpoll⟩
      · cases hstage
        exact absurd rfl hopen
      · exact absurd hpoll (hcrash after)
      · exact ⟨next, after, hpoll⟩

/-- A facility is created next to a request that carries no entity, in a scope where an organisation is
bound.  Under one schedule both have had two turns; under polls, one has been left inside its first step. -/
theorem interleaved_creations_isolated_of_facility_and_bare_request :
    let organisation : Binding := ⟨.null, "Organisation"⟩
    let facility : Json := .obj [("WaterFacility", .str "a")]
    let left : List Step := [.scope [.set organisation, .spawn [.crash]], .look, .clear]
    let right : List Step := [.look, .set organisation, .withEntity facility [.clear], .look]
    let join : Step := .join facility left (.obj []) right
    let enclosing : Relay := .inside (some organisation)
    Step.allCrashFree left = true ∧ Step.allCrashFree right = true ∧
      ∃ leftAnswers rightAnswers,
        leftAnswers[1]? = some (.inside (some ⟨.str "a", "WaterFacility"⟩), .nothing) ∧
        rightAnswers[0]? = some (.inside none, .nothing) ∧
        rightAnswers[3]? = some (.inside (some organisation), .nothing) ∧
        (∃ first second,
          interleave [.right, .left, .left, .right] (.start facility (Step.actions left))
              (.start (.obj []) (Step.actions right)) enclosing = (some (first, second), enclosing) ∧
            first.answers = leftAnswers.take 2 ∧ second.answers = rightAnswers.take 2) ∧
        ∃ routine, Polled (.between [] [join]) enclosing 3 routine enclosing ∧
          JoinStage join leftAnswers rightAnswers enclosing routine := by
  intro organisation facility left right join enclosing
  obtain ⟨leftAnswers, rightAnswers, hleft, hright, hall⟩ :=
    interleaved_creations_isolated facility (.obj []) left right rfl rfl
  obtain ⟨-, hturns, hpolls⟩ := hall enclosing
  have hopened : Polled (.between [] [join]) enclosing 3 _ enclosing :=
    ((Polled.zero.succ (.opens rfl)).succ (.left (.opens rfl))).succ (.left (.within (.acts rfl)))
  exact ⟨rfl, rfl, leftAnswers, rightAnswers,
    hleft.first_look [.scope [.set organisation, .spawn [.crash]]] [.clear] rfl (by simp [Step.isBlock]),
    hright.first_look [] _ rfl nofun,
    hright.look [.look, .set organisation, .withEntity facility [.clear]] [] rfl,
    hturns [.right, .left, .left, .right], _, hopened, (hpolls _ _ _ hopened).2.2.1⟩

end Relay
end WaterRegistry
