import WaterRegistry.Proofs.Relay.Turns

/-!
# Blocks neither leak out nor look in

A block runs its steps in a scope of its own, or on a task of its own.  What they bind stays there, and
what is bound around the block is not found by them: the block answers the same in every relay, and
leaves the relay as it is, however it ends.  A creation is bound and cleared inside its scope, so that
not even the clearing at its end, or at its cancellation, is noticed outside.

As the steps of a block are a program of their own, with a relay to start with, all of this holds again
for the blocks among them, at every depth.
-/

namespace WaterRegistry
namespace Relay

/-- Whether a step runs other code in a scope or on a task of its own. -/
def Step.isBlock : Step → Bool
  | .look | .set _ | .clear | .crash => false
  | .scope _ | .spawn _ | .withEntity _ _ | .cancel _ _ | .capture _ _ | .join _ _ _ _ => true

/-- What a block answers, if it does not crash: what its steps answer in the relay that the block starts
them with.  Of the relay around the block there is no mention. -/
def Step.inner : Step → Option Inner
  | .look | .set _ | .clear => some .nothing
  | .crash => none
  | .scope steps => (run steps fresh).1.map .answers
  | .spawn steps => some (((run steps .outside).1.map .answers).getD .crashed)
  | .withEntity root steps | .cancel root steps => (run steps (capturing root)).1.map .answers
  | .capture root fails => some (.captured (recorderResult fails) (capturing root))
  | .join leftRoot left rightRoot right =>
    (run left (capturing leftRoot)).1.bind fun leftAnswers =>
      (run right (capturing rightRoot)).1.map fun rightAnswers =>
        .joined leftAnswers rightAnswers

/-- A block leaves the relay as it is. -/
theorem action_of_isBlock {block : Step} (h : block.isBlock = true) (relay : Relay) :
    block.action relay = (block.inner, relay) := by
  cases block with
  | look => cases h
  | set binding => cases h
  | clear => cases h
  | crash => cases h
  | scope steps => rfl
  | spawn steps =>
      simp only [Step.action, Step.inner, run]
      cases (runAll (Step.actions steps) .outside).1 <;> rfl
  | withEntity root steps => rfl
  | cancel root steps => rfl
  | capture root fails => rfl
  | join leftRoot left rightRoot right => exact action_join leftRoot left rightRoot right relay

/-- The relay after a step: binding and clearing change it, and nothing else. -/
def Step.leaves (step : Step) (relay : Relay) : Relay :=
  match step with
  | .set binding => relay.set binding
  | .clear => relay.clear
  | _ => relay

theorem action_snd (step : Step) (relay : Relay) : (step.action relay).2 = step.leaves relay := by
  cases step with
  | look => rfl
  | set binding => rfl
  | clear => rfl
  | crash => rfl
  | _ => rw [action_of_isBlock rfl]; rfl

/-- Outside a scope no step changes the relay. -/
theorem Step.leaves_outside (step : Step) : step.leaves .outside = .outside := by
  cases step <;> rfl

theorem Step.leaves_of_isBlock {block : Step} (h : block.isBlock = true) (relay : Relay) :
    block.leaves relay = relay := by
  rw [← action_snd, action_of_isBlock h]

theorem length_actions (steps : List Step) : (Step.actions steps).length = steps.length := by
  induction steps with
  | nil => rfl
  | cons step rest ih => rw [Step.actions, List.length_cons, List.length_cons, ih]

theorem run_cons (step : Step) (rest : List Step) (relay : Relay) :
    run (step :: rest) relay =
      match step.action relay with
      | (none, after) => (none, after)
      | (some inner, after) =>
        ((run rest after).1.map ((after, inner) :: ·), (run rest after).2) :=
  rfl

/-- The second part of a program goes on in the relay that the first part has left. -/
theorem run_append (first second : List Step) (start : Relay) :
    run (first ++ second) start =
      match run first start with
      | (none, here) => (none, here)
      | (some answers, here) => ((run second here).1.map (answers ++ ·), (run second here).2) := by
  induction first generalizing start with
  | nil => simp [run, Step.actions, runAll]
  | cons step rest ih =>
      rw [List.cons_append, run_cons, run_cons]
      rcases step.action start with ⟨_ | inner, after⟩
      · rfl
      · simp only [ih after]
        rcases run rest after with ⟨_ | answers, here⟩
        · rfl
        · simp [Option.map_map, Function.comp_def]

/-- Outside a scope nothing is bound after any of the steps, and nothing at the end. -/
theorem run_outside (steps : List Step) :
    (run steps .outside).2 = .outside ∧
      ∀ answers, (run steps .outside).1 = some answers → ∀ answer ∈ answers, answer.1 = .outside := by
  induction steps with
  | nil =>
      refine ⟨rfl, ?_⟩
      rintro answers ⟨⟩ answer hmem
      cases hmem
  | cons step rest ih =>
      have hafter := (action_snd step .outside).trans step.leaves_outside
      rw [run_cons]
      rcases haction : step.action .outside with ⟨_ | inner, after⟩
      · rw [haction] at hafter
        exact ⟨hafter, nofun⟩
      · rw [haction] at hafter
        obtain rfl : after = .outside := hafter
        refine ⟨ih.1, fun answers hanswers => ?_⟩
        obtain ⟨more, hmore, rfl⟩ := Option.map_eq_some_iff.1 hanswers
        exact List.forall_mem_cons.2 ⟨rfl, ih.2 more hmore⟩

/-- Wherever a block stands in a program, and whatever relay the program starts in: the block finds the
relay that the steps before it have left, answers as it does in any other relay, and the steps after it
go on in the relay that it has found.  If it crashes, the relay is the same.  Outside a scope, nothing is
bound after any step of a program. -/
theorem blocks_neither_leak_nor_look (steps : List Step) :
    (∀ before block after, steps = before ++ block :: after → block.isBlock = true →
      ∀ start answers here, run before start = (some answers, here) →
        run steps start =
          match block.inner with
          | none => (none, here)
          | some inner =>
            ((run after here).1.map fun more => answers ++ (here, inner) :: more,
              (run after here).2)) ∧
    (run steps .outside).2 = .outside ∧
    ∀ answers, (run steps .outside).1 = some answers →
      answers.length = steps.length ∧
        ∀ answer ∈ answers, answer.1.inScope = false ∧ answer.1.current = none := by
  refine ⟨?_, (run_outside steps).1, fun answers hanswers => ⟨?_, fun answer hmem => ?_⟩⟩
  · rintro before block after rfl hblock start answers here hbefore
    rw [run_append, hbefore]
    dsimp only
    rw [run_cons, action_of_isBlock hblock]
    cases block.inner with
    | none => rfl
    | some inner => simp [Option.map_map, Function.comp_def]
  · rw [length_of_runAll hanswers, length_actions]
  · rw [(run_outside steps).2 answers hanswers answer hmem]
    exact ⟨rfl, rfl⟩

/-- A creation crashes on a task of its own, next to one that has bound an organisation: the task ends,
and the organisation is still bound. -/
theorem blocks_neither_leak_nor_look_of_crashed_task :
    let organisation : Relay := .inside (some ⟨.null, "Organisation"⟩)
    let facility : Json := .obj [("WaterFacility", .str "a")]
    let block : Step := .spawn [.look, .withEntity facility [.look, .clear, .crash]]
    block.isBlock = true ∧
      run [.set ⟨.null, "Organisation"⟩] fresh = (some [(organisation, .nothing)], organisation) ∧
      run [.set ⟨.null, "Organisation"⟩, block, .look] fresh =
        (some [(organisation, .nothing), (organisation, .crashed), (organisation, .nothing)],
          organisation) := by
  refine ⟨rfl, rfl, ?_⟩
  refine ((blocks_neither_leak_nor_look _).1 [.set ⟨.null, "Organisation"⟩] _ [.look] rfl rfl fresh
    _ _ rfl).trans ?_
  rfl

end Relay
end WaterRegistry
