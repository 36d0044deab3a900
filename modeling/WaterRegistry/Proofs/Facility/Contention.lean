import WaterRegistry.Proofs.Facility.Contender

/-!
# The duplicate check under contention

The result of a search may be out of date when the insertion is served that it has let pass.  The
store compares again, so an identifier is never stored twice.  In the other direction, what a search
or the store finds is never taken away again, so a creation is refused for good reason only, and of
several creations with a new identifier the first insertion that is served is accepted.
-/

namespace WaterRegistry
namespace Contest

/-- Whether the creation at a place has been answered with an id. -/
def Accepted (contest : Contest) (index : Nat) : Prop :=
  ∃ osid, contest.stages[index]? = some (.finished (.ok osid))

/-- The invariant of contenders for a store.  Whatever is stored has been there before or has been
brought by a contender, and contenders that have been accepted differ in their identifiers. -/
structure Fair (before : Store) (contenders : List Contender) (contest : Contest) : Prop where
  registered : contest.store.Registered
  kept : ∀ id, before.HasFacility id → contest.store.HasFacility id
  length_eq : contest.stages.length = contenders.length
  stands : ∀ (index : Nat) (contender : Contender) (stage : Stage),
    contenders[index]? = some contender →
    contest.stages[index]? = some stage → contender.Stands before contest.store stage
  brought : ∀ id, contest.store.HasFacility id → before.HasFacility id ∨
    ∃ (index : Nat) (contender : Contender), contenders[index]? = some contender ∧
      contender.id = id ∧ contest.Accepted index
  single : ∀ (index other : Nat) (contender rival : Contender),
    contenders[index]? = some contender → contenders[other]? = some rival →
    contender.id = rival.id →
    contest.Accepted index → contest.Accepted other → index = other

theorem fair_start {before : Store} (h : before.Registered) (contenders : List Contender) :
    (start FacilityRegistry.defaultConfig before (contenders.map (·.root))).Fair before
      contenders := by
  have hstage : ∀ (index : Nat) (stage : Stage), (start FacilityRegistry.defaultConfig before
      (contenders.map (·.root))).stages[index]? = some stage →
      ∃ contender : Contender, contenders[index]? = some contender ∧
        stage = contender.searching := by
    intro index stage hstage
    simp only [start, List.map_map, List.getElem?_map, Option.map_eq_some_iff] at hstage
    obtain ⟨contender, hcontender, rfl⟩ := hstage
    exact ⟨contender, hcontender, contender.start_root⟩
  -- All are searching, so none has been accepted.
  have hnone : ∀ index, ¬ (start FacilityRegistry.defaultConfig before
      (contenders.map (·.root))).Accepted index := by
    rintro index ⟨osid, hosid⟩
    obtain ⟨contender, _, hsearching⟩ := hstage index _ hosid
    cases hsearching
  constructor
  case registered => exact h
  case kept => exact fun _ hid => hid
  case length_eq => simp [start]
  case stands =>
    intro index contender stage hcontender hserved
    obtain ⟨found, hfound, rfl⟩ := hstage index stage hserved
    rw [hcontender, Option.some.injEq] at hfound
    rw [hfound]
    exact .searching
  case brought => exact fun _ hid => .inl hid
  case single => exact fun _ _ _ _ _ _ _ haccepted => absurd haccepted (hnone _)

theorem getElem?_set_eq {stages : List Stage} {index : Nat} {stage : Stage}
    (hstage : stages[index]? = some stage) (next : Stage) (other : Nat) :
    (stages.set index next)[other]? = if other = index then some next else stages[other]? := by
  by_cases hother : other = index
  · subst hother
    obtain ⟨hlt, _⟩ := List.getElem?_eq_some_iff.1 hstage
    rw [if_pos rfl, List.getElem?_set_self hlt]
  · rw [if_neg hother, List.getElem?_set_ne (Ne.symm hother)]

theorem accepted_set_of_ne {index other : Nat} (h : other ≠ index) (contest : Contest)
    (store : Store) (next : Stage) :
    (⟨store, contest.stages.set index next⟩ : Contest).Accepted other ↔
      contest.Accepted other := by
  apply exists_congr
  intro osid
  show (contest.stages.set index next)[other]? = _ ↔ _
  rw [List.getElem?_set_ne (Ne.symm h)]

namespace Fair

variable {before : Store} {contenders : List Contender} {contest : Contest} {index : Nat}
  {contender : Contender}

/-- What holds of the stages goes on to hold if it holds of the one that is new. -/
theorem stands_set (h : contest.Fair before contenders) {after : Store} {stage next : Stage}
    (hcontender : contenders[index]? = some contender)
    (hstage : contest.stages[index]? = some stage)
    (hkept : ∀ id, contest.store.HasFacility id → after.HasFacility id)
    (hstands : contender.Stands before after next) (other : Nat) (rival : Contender)
    (found : Stage) (hrival : contenders[other]? = some rival)
    (hfound : (contest.stages.set index next)[other]? = some found) :
    rival.Stands before after found := by
  rw [getElem?_set_eq hstage] at hfound
  split at hfound
  · rename_i hother
    subst hother
    rw [hcontender, Option.some.injEq] at hrival
    rw [Option.some.injEq] at hfound
    rw [← hrival, ← hfound]
    exact hstands
  · exact (h.stands other rival found hrival hfound).mono hkept

/-- A step that leaves the store as it is keeps the invariant if it accepts nothing new. -/
theorem quiet (h : contest.Fair before contenders) {stage next : Stage}
    (hcontender : contenders[index]? = some contender)
    (hstage : contest.stages[index]? = some stage)
    (hstands : contender.Stands before contest.store next)
    (hsame : ∀ osid, next = .finished (.ok osid) ↔ stage = .finished (.ok osid)) :
    (⟨contest.store, contest.stages.set index next⟩ : Contest).Fair before contenders := by
  have haccepted : ∀ other,
      (⟨contest.store, contest.stages.set index next⟩ : Contest).Accepted other ↔
        contest.Accepted other := by
    intro other
    by_cases hother : other = index
    · apply exists_congr
      intro osid
      show (contest.stages.set index next)[other]? = _ ↔ _
      rw [getElem?_set_eq hstage, if_pos hother, hother, hstage, Option.some.injEq,
        Option.some.injEq]
      exact hsame osid
    · exact accepted_set_of_ne hother contest contest.store next
  constructor
  case registered => exact h.registered
  case kept => exact h.kept
  case length_eq => exact List.length_set.trans h.length_eq
  case stands => exact h.stands_set hcontender hstage (fun _ hid => hid) hstands
  case brought =>
    intro id hid
    rcases h.brought id hid with hbefore | ⟨other, rival, hrival, hown, hother⟩
    · exact .inl hbefore
    · exact .inr ⟨other, rival, hrival, hown, (haccepted other).2 hother⟩
  case single =>
    intro first second one two hone htwo hid hfirst hsecond
    exact h.single first second one two hone htwo hid ((haccepted first).1 hfirst)
      ((haccepted second).1 hsecond)

theorem hasFacility (h : contest.Fair before contenders)
    (hcontender : contenders[index]? = some contender) (haccepted : contest.Accepted index) :
    contest.store.HasFacility contender.id := by
  obtain ⟨osid, hosid⟩ := haccepted
  cases h.stands index contender _ hcontender hosid with
  | accepted _ hstored _ => exact hstored

/-- An accepted insertion keeps the invariant, since no contender with the same identifier has been
accepted before. -/
theorem inserts (h : contest.Fair before contenders) {after : Store} {osid : String}
    (hcontender : contenders[index]? = some contender)
    (hstage : contest.stages[index]? = some (.inserting contender.insertion))
    (hinsert : contest.store.insert contender.insertion = (.ok osid, after)) :
    (⟨after, contest.stages.set index (.finished (.ok osid))⟩ : Contest).Fair before
      contenders := by
  obtain ⟨hregistered, hnew, hstored⟩ := Contender.insert_eq_ok h.registered hinsert
  have hkept : ∀ id, contest.store.HasFacility id → after.HasFacility id :=
    fun id hid => (hstored id).2 (.inl hid)
  have hothers : ∀ other, other ≠ index →
      ((⟨after, contest.stages.set index (.finished (.ok osid))⟩ : Contest).Accepted other ↔
        contest.Accepted other) :=
    fun other hother => accepted_set_of_ne hother contest after _
  -- A rival that has been accepted before would have its identifier in the store.
  have hrivals : ∀ other rival, contenders[other]? = some rival → contest.Accepted other →
      rival.id ≠ contender.id := by
    intro other rival hrival hother hid
    have hheld := h.hasFacility hrival hother
    rw [hid] at hheld
    exact hnew hheld
  constructor
  case registered => exact hregistered
  case kept => exact fun id hid => hkept id (h.kept id hid)
  case length_eq => exact List.length_set.trans h.length_eq
  case stands =>
    apply h.stands_set hcontender hstage hkept
    exact .accepted osid ((hstored _).2 (.inr rfl)) fun hbefore => hnew (h.kept _ hbefore)
  case brought =>
    intro id hid
    have hself : (⟨after, contest.stages.set index (.finished (.ok osid))⟩ : Contest).Accepted
        index := ⟨osid, by
      show (contest.stages.set index _)[index]? = _
      rw [getElem?_set_eq hstage, if_pos rfl]⟩
    rcases (hstored id).1 hid with hold | rfl
    · rcases h.brought id hold with hbefore | ⟨other, rival, hrival, hown, hother⟩
      · exact .inl hbefore
      · right
        refine ⟨other, rival, hrival, hown, ?_⟩
        by_cases hsame : other = index
        · rw [hsame]
          exact hself
        · exact (hothers other hsame).2 hother
    · exact .inr ⟨index, contender, hcontender, rfl, hself⟩
  case single =>
    intro first second one two hone htwo hid hfirst hsecond
    by_cases hfirst' : first = index <;> by_cases hsecond' : second = index
    · rw [hfirst', hsecond']
    · rw [hfirst', hcontender, Option.some.injEq] at hone
      subst hone
      exact absurd hid.symm (hrivals second two htwo ((hothers second hsecond').1 hsecond))
    · rw [hsecond', hcontender, Option.some.injEq] at htwo
      subst htwo
      exact absurd hid (hrivals first one hone ((hothers first hfirst').1 hfirst))
    · exact h.single first second one two hone htwo hid ((hothers first hfirst').1 hfirst)
        ((hothers second hsecond').1 hsecond)

/-- Whatever is served next, the invariant is kept. -/
theorem serve (h : contest.Fair before contenders) (turn : Turn) :
    (contest.serve turn).Fair before contenders := by
  unfold Contest.serve
  cases hstage : contest.stages[turn.index]? with
  | none => exact h
  | some stage =>
      obtain ⟨contender, hcontender⟩ :
          ∃ contender, contenders[turn.index]? = some contender := by
        obtain ⟨hlt, _⟩ := List.getElem?_eq_some_iff.1 hstage
        rw [h.length_eq] at hlt
        exact ⟨_, List.getElem?_eq_getElem hlt⟩
      -- Only an insertion that is accepted changes the store.
      cases h.stands _ _ _ hcontender hstage with
      | searching =>
          rcases contender.serve_searching turn.failure contest.store with
            hserve | ⟨hserve, hheld⟩
          · simp only [hserve]
            exact h.quiet hcontender hstage .inserting (by simp [Contender.searching])
          · simp only [hserve]
            exact h.quiet hcontender hstage (.refused _ (.inl rfl) hheld)
              (by simp [Contender.searching])
      | inserting =>
          rcases hinsert : contest.store.insert contender.insertion with ⟨answer, after⟩
          simp only [Stage.serve, hinsert, Prod.map, id]
          cases answer with
          | ok osid => exact h.inserts hcontender hstage hinsert
          | error error =>
              obtain ⟨rfl, hrefusal, hheld⟩ := Contender.insert_eq_error hinsert
              exact h.quiet hcontender hstage (.refused error hrefusal hheld) (by simp)
      | accepted osid hnow hbefore =>
          exact h.quiet hcontender hstage (.accepted osid hnow hbefore) (by simp)
      | refused error hrefusal hnow =>
          exact h.quiet hcontender hstage (.refused error hrefusal hnow) (by simp)

theorem run (h : contest.Fair before contenders) (turns : List Turn) :
    (contest.run turns).Fair before contenders := by
  induction turns generalizing contest with
  | nil => exact h
  | cons turn rest ih => exact ih (h.serve turn)

theorem pairwise_ids (h : contest.Fair before contenders) :
    (contest.store.documentsOf facilityType).Pairwise fun earlier later =>
      earlier.get? facilityIdField ≠ later.get? facilityIdField := by
  apply h.registered.distinct.imp_of_mem
  intro earlier later hearlier hlater hid
  rw [h.registered.identified earlier hearlier, h.registered.identified later hlater]
  intro hsame
  exact hid (by simpa using hsame)

/-- A refused contender has been refused because its identifier is taken. -/
theorem isRefusal (h : contest.Fair before contenders) {error : RegistryError}
    (hcontender : contenders[index]? = some contender)
    (hstage : contest.stages[index]? = some (.finished (.error error))) :
    Facility.IsRefusal contender.id error ∧ contest.store.HasFacility contender.id := by
  cases h.stands index contender _ hcontender hstage with
  | refused _ hrefusal hheld => exact ⟨hrefusal, hheld⟩

/-- When all are finished, a new identifier has been brought by one contender. -/
theorem exists_accepted (h : contest.Fair before contenders)
    (hfinished : ∀ stage ∈ contest.stages, ∃ answer, stage = .finished answer)
    (hcontender : contender ∈ contenders) (hnew : ¬ before.HasFacility contender.id) :
    ∃ (index : Nat) (winner : Contender), contenders[index]? = some winner ∧
      winner.id = contender.id ∧ contest.Accepted index := by
  obtain ⟨index, hindex⟩ := List.getElem?_of_mem hcontender
  obtain ⟨stage, hstage⟩ : ∃ stage, contest.stages[index]? = some stage := by
    obtain ⟨hlt, _⟩ := List.getElem?_eq_some_iff.1 hindex
    rw [← h.length_eq] at hlt
    exact ⟨_, List.getElem?_eq_getElem hlt⟩
  obtain ⟨answer, rfl⟩ := hfinished stage (List.mem_of_getElem? hstage)
  cases answer with
  | ok osid => exact ⟨index, contender, hindex, rfl, osid, hstage⟩
  | error error =>
      -- The identifier is stored by now, and it has not been stored at the start.
      obtain ⟨_, hheld⟩ := h.isRefusal hindex hstage
      rcases h.brought _ hheld with hbefore | hbrought
      · exact absurd hbefore hnew
      · exact hbrought

end Fair

/-- Facilities are created side by side, in a registry that has served any requests before, and are
served in any order, with any of the searches failing.  At every moment the stored identifiers
differ, and a creation that has been refused has been so because its identifier is stored.  Once all
are finished, of the creations with an identifier that has not been stored before exactly one has
been accepted. -/
theorem contention_registers_once (earlier : List FacilityRequest) (contenders : List Contender)
    (turns : List Turn) :
    let before :=
      ((⟨FacilityRegistry.defaultConfig, .empty⟩ : FacilityRegistry).createAll earlier).2.store
    let contest :=
      (start FacilityRegistry.defaultConfig before (contenders.map (·.root))).run turns
    ((contest.store.documentsOf facilityType).Pairwise fun one other =>
      one.get? facilityIdField ≠ other.get? facilityIdField) ∧
    (∀ (index : Nat) (contender : Contender) (error : RegistryError),
      contenders[index]? = some contender →
      contest.stages[index]? = some (.finished (.error error)) →
      Facility.IsRefusal contender.id error ∧ contest.store.HasFacility contender.id) ∧
    ((∀ stage ∈ contest.stages, ∃ answer, stage = .finished answer) →
      ∀ contender ∈ contenders, ¬ before.HasFacility contender.id →
        ∃ index, (∃ winner, contenders[index]? = some winner ∧ winner.id = contender.id ∧
            contest.Accepted index) ∧
          ∀ (other : Nat) (rival : Contender), contenders[other]? = some rival →
            rival.id = contender.id → contest.Accepted other → other = index) := by
  intro before contest
  have hbefore : before.Registered :=
    FacilityRegistry.registered_createAll Store.registered_empty rfl List.mem_cons_self
      Facility.isNamed_defaultField earlier
  have hfair : contest.Fair before contenders := (fair_start hbefore contenders).run turns
  refine ⟨hfair.pairwise_ids, fun _ _ _ => hfair.isRefusal, ?_⟩
  intro hfinished contender hcontender hnew
  obtain ⟨index, winner, hwinner, hid, haccepted⟩ :=
    hfair.exists_accepted hfinished hcontender hnew
  refine ⟨index, ⟨winner, hwinner, hid, haccepted⟩, ?_⟩
  intro other rival hrival hsame hother
  exact hfair.single other index rival winner hrival hwinner (hsame.trans hid.symm) hother haccepted

def wellContender : Contender :=
  ⟨[("geoCode", .str "6CVX")], []⟩

def springContender : Contender :=
  ⟨[("geoCode", .str "6CVY")], [("note", .null)]⟩

/-- A spring is stored already when it is submitted again and a well is submitted twice.  Both
searches for the well are served before one of its insertions. -/
theorem contention_registers_once_of_stale_searches :
    let earlier := [(⟨springContender.root, fun _ => .error .timeout⟩ : FacilityRequest)]
    let contenders := [wellContender, wellContender, springContender]
    let before :=
      ((⟨FacilityRegistry.defaultConfig, .empty⟩ : FacilityRegistry).createAll earlier).2.store
    let contest :=
      (start FacilityRegistry.defaultConfig before (contenders.map (·.root))).run
        [⟨0, none⟩, ⟨1, none⟩, ⟨1, none⟩, ⟨2, none⟩, ⟨0, some .timeout⟩]
    (∀ stage ∈ contest.stages, ∃ answer, stage = .finished answer) ∧
      ¬ before.HasFacility wellContender.id ∧ before.HasFacility springContender.id ∧
      ∃ index, contest.Accepted index ∧
        ∀ (other : Nat) (rival : Contender), contenders[other]? = some rival →
          rival.id = wellContender.id → contest.Accepted other → other = index := by
  intro earlier contenders before contest
  have hremaining : ∀ stage ∈ contest.stages, stage.remaining = 0 := by decide +kernel
  have hfinished : ∀ stage ∈ contest.stages, ∃ answer, stage = .finished answer :=
    fun stage hstage => Stage.remaining_eq_zero (hremaining stage hstage)
  have hnew : ¬ before.HasFacility wellContender.id := by
    unfold Store.HasFacility
    decide +kernel
  have hheld : before.HasFacility springContender.id := by
    unfold Store.HasFacility
    decide +kernel
  obtain ⟨_, _, hone⟩ := contention_registers_once earlier contenders
    [⟨0, none⟩, ⟨1, none⟩, ⟨1, none⟩, ⟨2, none⟩, ⟨0, some .timeout⟩]
  obtain ⟨index, ⟨_, _, _, haccepted⟩, hunique⟩ :=
    hone hfinished wellContender List.mem_cons_self hnew
  exact ⟨hfinished, hnew, hheld, index, haccepted, hunique⟩

end Contest
end WaterRegistry
