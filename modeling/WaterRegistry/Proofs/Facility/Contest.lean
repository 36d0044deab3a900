import WaterRegistry.Facility.Registry

/-!
# Creations that contend for the store

A creation sends the store at most two requests: a search for duplicates and, if that does not refuse
it, an insertion.  The store serves one request after the other, so between the two it may serve
requests of other creations.  `Stage` cuts a creation at the points where it waits for the store, and
a `Contest` serves several creations in any order.  A creation that is served on its own does what
`FacilityRegistry.createWith` does.
-/

namespace WaterRegistry

/-- How far a creation has come: the request that the store has still to serve, or the answer. -/
inductive Stage where
  | searching (draft : Draft) (query : SearchQuery) (decide : SearchResult → Generation)
  | inserting (insertion : Insertion)
  | finished (answer : Except RegistryError String)

namespace Stage

/-- The stage that follows when identifiers have been generated or refused. -/
def ofGeneration (draft : Draft) (generation : Generation) : Stage :=
  match draft.complete generation with
  | .error error => .finished (.error error)
  | .ok insertion => .inserting insertion

/-- The stage at which a creation first waits for the store. -/
def start (config : Config) (root : Json) : Stage :=
  match Draft.ofRoot config root with
  | .error error => .finished (.error error)
  | .ok draft =>
    if draft.fields.isEmpty then ofGeneration draft (.ok .empty)
    else
      match Facility.inquire (Relay.capturing root).current draft.fields with
      | .settled generation => ofGeneration draft generation
      | .search query decide => .searching draft query decide

/-- The result of a search that may fail. -/
def searchResult (failure : Option SearchError) (store : Store) (query : SearchQuery) :
    SearchResult :=
  match failure with
  | none => .ok (store.search query)
  | some error => .error error

/-- The stage after the store has served the request, and the store after it. -/
def serve (failure : Option SearchError) : Stage × Store → Stage × Store
  | (searching draft query decide, store) =>
    (ofGeneration draft (decide (searchResult failure store query)), store)
  | (inserting insertion, store) => ((store.insert insertion).map finished id)
  | (finished answer, store) => (finished answer, store)

end Stage

/-- Which creation is served next, and whether its search fails. -/
structure Turn where
  index : Nat
  failure : Option SearchError

/-- A store and the creations that it serves. -/
structure Contest where
  store : Store
  stages : List Stage

namespace Contest

/-- Creations for some requests, none of which has been served. -/
def start (config : Config) (store : Store) (roots : List Json) : Contest :=
  ⟨store, roots.map (Stage.start config)⟩

/-- Serves one creation. -/
def serve (contest : Contest) (turn : Turn) : Contest :=
  match contest.stages[turn.index]? with
  | none => contest
  | some stage =>
    let (next, store) := Stage.serve turn.failure (stage, contest.store)
    ⟨store, contest.stages.set turn.index next⟩

/-- Serves creations in the order of some turns. -/
def run (contest : Contest) (turns : List Turn) : Contest :=
  turns.foldl serve contest

end Contest

namespace Stage

/-- Once identifiers have been generated or refused, one further request at most is served. -/
theorem serve_ofGeneration (failure : Option SearchError) (draft : Draft) (generation : Generation)
    (store : Store) :
    serve failure (ofGeneration draft generation, store) =
      match draft.complete generation with
      | .error error => (.finished (.error error), store)
      | .ok insertion => (store.insert insertion).map finished id := by
  unfold ofGeneration
  cases draft.complete generation <;> rfl

/-- A creation that is served until it is finished, and by itself, does what the registry does. -/
theorem serve_serve_start (registry : FacilityRegistry) (root : Json)
    (failure next : Option SearchError) :
    serve next (serve failure (start registry.config root, registry.store)) =
      (.finished (registry.createWith (searchResult failure registry.store) root).1,
        (registry.createWith (searchResult failure registry.store) root).2.store) := by
  show _ = (registry.store.create registry.config (FacilityRegistry.generate
    (searchResult failure registry.store) root) root).map finished id
  unfold Store.create start
  cases Draft.ofRoot registry.config root with
  | error error => rfl
  | ok draft =>
      cases hfields : draft.fields.isEmpty with
      | true =>
          simp only [if_true, serve_ofGeneration, Draft.generation, hfields]
          cases draft.complete (.ok .empty) <;> rfl
      | false =>
          simp only [Bool.false_eq_true, if_false, Draft.generation, hfields,
            FacilityRegistry.generate]
          cases Facility.inquire (Relay.capturing root).current draft.fields with
          | settled generation =>
              simp only [serve_ofGeneration, Inquiry.answeredBy]
              cases draft.complete generation <;> rfl
          | search query decide =>
              simp only [serve.eq_1, serve_ofGeneration, Inquiry.answeredBy]
              cases draft.complete (decide (searchResult failure registry.store query)) <;> rfl

/-- The number of requests that the store has still to serve at most. -/
def remaining : Stage → Nat
  | searching _ _ _ => 2
  | inserting _ => 1
  | finished _ => 0

theorem remaining_serve (failure : Option SearchError) (stage : Stage) (store : Store) :
    (serve failure (stage, store)).1.remaining ≤ stage.remaining - 1 := by
  cases stage with
  | searching draft query decide =>
      show (ofGeneration draft _).remaining ≤ 1
      unfold ofGeneration
      split
      · exact Nat.zero_le 1
      · exact Nat.le_refl 1
  | inserting insertion => exact Nat.le_refl 0
  | finished answer => exact Nat.le_refl 0

theorem remaining_eq_zero {stage : Stage} (h : stage.remaining = 0) :
    ∃ answer, stage = .finished answer := by
  cases stage with
  | finished answer => exact ⟨answer, rfl⟩
  | _ => cases h

end Stage

namespace Contest

/-- A turn takes the creation on that it is for, and leaves the others where they are. -/
theorem remaining_serve {contest : Contest} {index : Nat} {stage : Stage}
    (h : contest.stages[index]? = some stage) (turn : Turn) :
    ∃ next, (contest.serve turn).stages[index]? = some next ∧
      next.remaining ≤ stage.remaining - if turn.index = index then 1 else 0 := by
  unfold serve
  by_cases hindex : turn.index = index
  · subst hindex
    obtain ⟨hlt, _⟩ := List.getElem?_eq_some_iff.1 h
    simp only [h, if_true]
    exact ⟨_, List.getElem?_set_self hlt, Stage.remaining_serve turn.failure stage contest.store⟩
  · rw [if_neg hindex]
    cases contest.stages[turn.index]? with
    | none => exact ⟨stage, h, Nat.le_refl _⟩
    | some other => exact ⟨stage, by rw [List.getElem?_set_ne hindex, h], Nat.le_refl _⟩

/-- A creation has at most as many requests left as turns have not been given to it. -/
theorem remaining_run {contest : Contest} {index : Nat} {stage : Stage}
    (h : contest.stages[index]? = some stage) (turns : List Turn) :
    ∃ last, (contest.run turns).stages[index]? = some last ∧
      last.remaining ≤ stage.remaining - turns.countP (·.index = index) := by
  induction turns generalizing contest stage with
  | nil => exact ⟨stage, h, Nat.le_refl _⟩
  | cons turn rest ih =>
      obtain ⟨next, hnext, hle⟩ := remaining_serve h turn
      obtain ⟨last, hlast, hrest⟩ := ih hnext
      refine ⟨last, hlast, ?_⟩
      rw [List.countP_cons]
      simp only [decide_eq_true_eq]
      omega

/-- Two turns finish a creation, in whatever order the turns of all creations are given. -/
theorem finished_run {contest : Contest} {index : Nat} (hlt : index < contest.stages.length)
    {turns : List Turn} (hturns : 2 ≤ turns.countP (·.index = index)) :
    ∃ answer, (contest.run turns).stages[index]? = some (.finished answer) := by
  obtain ⟨last, hlast, hle⟩ := remaining_run (List.getElem?_eq_getElem hlt) turns
  have htwo : contest.stages[index].remaining ≤ 2 := by
    cases contest.stages[index] <;> simp [Stage.remaining]
  obtain ⟨answer, rfl⟩ := Stage.remaining_eq_zero (show last.remaining = 0 by omega)
  exact ⟨answer, hlast⟩

end Contest
end WaterRegistry
