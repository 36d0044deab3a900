import WaterRegistry.Proofs.Creation.Backstop
import WaterRegistry.Proofs.Document.Commuting

/-!
# The order in which identifiers are written

A creation writes generated values in ascending order of their paths.  Where no path leads through
the place of another one, any other order would do as well: the documents read alike, and the store,
which compares values and quotes them in its refusals, cannot tell them apart.  What it keeps is the
same document under the same id, and only its fields may stand in another order.
-/

namespace WaterRegistry

/-- Paths of which neither leads through the place of the other. -/
def PathsApart (first second : String) : Prop :=
  ¬ Json.pathKeys first <+: Json.pathKeys second ∧ ¬ Json.pathKeys second <+: Json.pathKeys first

theorem PathsApart.symm {first second : String} (h : PathsApart first second) :
    PathsApart second first :=
  ⟨h.2, h.1⟩

namespace Draft

theorem readsLike_writeAll {a b : Json} (h : a.ReadsLike b) (entries : List (String × String)) :
    (writeAll a entries).ReadsLike (writeAll b entries) := by
  induction entries generalizing a b with
  | nil => exact h
  | cons entry rest ih => exact ih (h.writeKeys (.str entry.2) (Json.pathKeys entry.1)).2

/-- Values for paths that are apart can be written in every order. -/
theorem readsLike_writeAll_of_perm {entries order : List (String × String)}
    (hperm : entries.Perm order) (hapart : entries.Pairwise fun a b => PathsApart a.1 b.1)
    {a b : Json} (h : a.ReadsLike b) : (writeAll a entries).ReadsLike (writeAll b order) := by
  induction hperm generalizing a b with
  | nil => exact h
  | cons entry _ ih =>
      exact ih (List.pairwise_cons.1 hapart).2
        (h.writeKeys (.str entry.2) (Json.pathKeys entry.1)).2
  | swap first second rest =>
      have hpair : PathsApart second.1 first.1 :=
        (List.pairwise_cons.1 hapart).1 first List.mem_cons_self
      have hswapped := Json.writeKeys_comm hpair.1 hpair.2 a (.str second.2) (.str first.2)
      exact (readsLike_writeAll hswapped rest).trans
        (readsLike_writeAll h (first :: second :: rest))
  | trans hleft _ ihleft ihright =>
      have hmiddle := hleft.pairwise hapart fun h => h.symm
      exact (ihleft hapart h).trans (ihright hmiddle (.refl b))

end Draft

theorem Json.ReadsLike.displayText_eq {a b : Json} (h : a.ReadsLike b) :
    a.displayText = b.displayText := by
  obtain rfl | ⟨fields, others, rfl, rfl⟩ := h.eq_or_exists_obj
  · rfl
  · rfl

namespace Store

/-- Two stores hold the same documents, up to the order of their fields, under the same ids. -/
structure SameContent (a b : Store) : Prop where
  nextId_eq : a.nextId = b.nextId
  entities : ∀ entityType, List.Forall₂
    (fun x y => x.osid = y.osid ∧ x.document.same y.document = true)
    (a.entitiesOf entityType) (b.entitiesOf entityType)

theorem SameContent.refl (store : Store) : store.SameContent store where
  nextId_eq := rfl
  entities _ := List.forall₂_same.2 fun entity _ => ⟨rfl, Json.same_refl entity.document⟩

variable {a b : Json}

theorem rel_constrainedValue? (h : a.ReadsLike b) (path : String) :
    Option.Rel Json.ReadsLike (constrainedValue? a path) (constrainedValue? b path) := by
  have hrel := h.rel_pointer? (pointerOfPath path)
  unfold constrainedValue?
  generalize a.pointer? (pointerOfPath path) = found at hrel ⊢
  generalize b.pointer? (pointerOfPath path) = other at hrel ⊢
  cases hrel with
  | none => exact .none
  | some hvalue =>
      -- Only null is exempt, and it is no object, so both values are compared or neither is.
      obtain rfl | ⟨fields, others, rfl, rfl⟩ := hvalue.eq_or_exists_obj
      · split <;> first | exact .none | exact .some (.refl _)
      · exact .some hvalue

theorem holds_congr {stored : List StoredEntity} {path : String} (h : a.ReadsLike b) :
    holds stored path a = holds stored path b := by
  have hsame (other : Json) : other.same a = true ↔ other.same b = true :=
    ⟨fun ha => Json.same_trans ha h.same,
      fun hb => Json.same_trans hb (by rw [Json.same_comm]; exact h.same)⟩
  rw [Bool.eq_iff_iff, holds_iff, holds_iff]
  simp only [hsame]

theorem rel_firstViolation? (h : a.ReadsLike b) (stored : List StoredEntity)
    (paths : List String) :
    Option.Rel (fun x y => x.1 = y.1 ∧ x.2.ReadsLike y.2)
      (firstViolation? stored a paths) (firstViolation? stored b paths) := by
  induction paths with
  | nil => exact .none
  | cons path rest ih =>
      have hrel := rel_constrainedValue? h path
      unfold firstViolation?
      generalize constrainedValue? a path = found at hrel ⊢
      generalize constrainedValue? b path = other at hrel ⊢
      cases hrel with
      | none => exact ih
      | @some value _ hvalue =>
          dsimp only
          rw [← holds_congr hvalue]
          cases holds stored path value with
          | true => exact .some ⟨rfl, hvalue⟩
          | false => exact ih

/-- Insertions of documents that read alike get the same answer, and leave the same content. -/
theorem insert_readsLike (h : a.ReadsLike b) (store : Store) (entityType : String)
    (paths : List String) :
    (store.insert ⟨entityType, a, paths⟩).1 = (store.insert ⟨entityType, b, paths⟩).1 ∧
      (store.insert ⟨entityType, a, paths⟩).2.SameContent
        (store.insert ⟨entityType, b, paths⟩).2 := by
  obtain rfl | ⟨fields, others, rfl, rfl⟩ := h.eq_or_exists_obj
  · exact ⟨rfl, .refl _⟩
  · have hrel := rel_firstViolation? h (store.entitiesOf entityType) paths
    simp only [insert]
    generalize firstViolation? _ (.obj fields) paths = violation at hrel ⊢
    generalize firstViolation? _ (.obj others) paths = other at hrel ⊢
    cases hrel with
    | some hviolated =>
        obtain ⟨hpath, hvalue⟩ := hviolated
        exact ⟨by simp only [hpath, hvalue.displayText_eq], .refl store⟩
    | none =>
        -- The id is written like any other value, so the documents read alike behind it.
        refine ⟨rfl, rfl, fun name => ?_⟩
        have hsame : (Json.obj (Fields.set osidField (.str store.nextOsid) fields)).same
            (.obj (Fields.set osidField (.str store.nextOsid) others)) = true :=
          (h.writeKeys (.str store.nextOsid) [osidField]).2.same
        have hstored := (SameContent.refl store).entities name
        simp only [entitiesOf, lookup_addEntity]
        split
        · exact List.rel_append hstored (.cons ⟨rfl, hsame⟩ .nil)
        · exact hstored

/-- Two values whose paths are apart can be written in either order: each is accepted or refused as
in the other order, and the documents that come out are the same.  So where the paths of generated
values are apart from each other, a creation that writes them in ascending order of their paths
gives the answer and leaves the content that every other order would give and leave. -/
theorem independent_writes_commute :
    (∀ (document first second : Json) (path other : String), PathsApart path other →
      ((document.writePath other second).1.writePath path first).2 =
          (document.writePath path first).2 ∧
        ((document.writePath path first).1.writePath other second).2 =
          (document.writePath other second).2 ∧
        ((document.writePath path first).1.writePath other second).1.same
          ((document.writePath other second).1.writePath path first).1 = true) ∧
    (∀ (store : Store) (config : Config) (generate : List IdentifierField → Generation)
      (root : Json) (draft : Draft) (generated : GeneratedIdentifier)
      (order : List (String × String)),
      Draft.ofRoot config root = .ok draft → draft.generation generate = .ok generated →
      (generated.entries.Pairwise fun x y => PathsApart x.1 y.1) →
      generated.entries.Perm order →
      let ascending := store.create config generate root
      let reordered := store.insert
        ⟨draft.entityType, Draft.writeAll draft.document order, draft.fields.map (·.path)⟩
      ascending.1 = reordered.1 ∧ ascending.2.SameContent reordered.2) := by
  constructor
  · intro document first second path other hapart
    exact ⟨Json.accepted_writeKeys hapart.2 document first second,
      Json.accepted_writeKeys hapart.1 document second first,
      (Json.writeKeys_comm hapart.1 hapart.2 document first second).same⟩
  · intro store config generate root draft generated order hdraft hgenerated hapart hperm
      ascending reordered
    have hfill : (Draft.fill draft.document generated).ReadsLike
        (Draft.writeAll draft.document order) :=
      Draft.readsLike_writeAll_of_perm hperm hapart (.refl draft.document)
    have hcreate : ascending = store.insert ⟨draft.entityType,
        Draft.fill draft.document generated, draft.fields.map (·.path)⟩ :=
      create_eq_insert hdraft hgenerated store
    rw [hcreate]
    exact insert_readsLike hfill store draft.entityType (draft.fields.map (·.path))

/-- A configuration of pumps. -/
def pumpConfig : Config :=
  { Config.basic with schemas := [⟨"Pump", [⟨"code/main"⟩, ⟨"code/side"⟩, ⟨"name/of"⟩]⟩] }

/-- Generated texts for a pump; nothing can be written below its name. -/
def pumpTexts : GeneratedIdentifier :=
  .ofEntries [("code/main", "A"), ("code/side", "B"), ("name/of", "C")]

/-- The object for both codes is made by the write that comes first, so the codes stand in the order
of the writes. -/
theorem independent_writes_commute_below_missing_object :
    let pump := Json.obj [("name", .str "North")]
    let root := Json.obj [("Pump", pump)]
    let order := [("name/of", "C"), ("code/side", "B"), ("code/main", "A")]
    let ascending := Store.empty.create pumpConfig (fun _ => .ok pumpTexts) root
    let reordered := Store.empty.insert
      ⟨"Pump", Draft.writeAll pump order, ["code/main", "code/side", "name/of"]⟩
    PathsApart "code/main" "code/side" ∧
      (pumpTexts.entries.Pairwise fun x y => PathsApart x.1 y.1) ∧ pumpTexts.entries.Perm order ∧
      ascending.2.get? "Pump" "1-1" = some (.obj [("name", .str "North"),
        ("code", .obj [("main", .str "A"), ("side", .str "B")]), ("osid", .str "1-1")]) ∧
      reordered.2.get? "Pump" "1-1" = some (.obj [("name", .str "North"),
        ("code", .obj [("side", .str "B"), ("main", .str "A")]), ("osid", .str "1-1")]) ∧
      ascending.1 = reordered.1 ∧ ascending.2.SameContent reordered.2 ∧
      ((pump.writePath "code/main" (.str "A")).1.writePath "code/side" (.str "B")).1.same
        ((pump.writePath "code/side" (.str "B")).1.writePath "code/main" (.str "A")).1 = true := by
  intro pump root order ascending reordered
  have hapart : PathsApart "code/main" "code/side" := by
    unfold PathsApart
    decide
  have hentries : pumpTexts.entries.Pairwise fun x y => PathsApart x.1 y.1 := by
    unfold PathsApart
    decide
  have hperm : pumpTexts.entries.Perm order := by decide
  obtain ⟨hanswer, hcontent⟩ := independent_writes_commute.2 Store.empty pumpConfig
    (fun _ => .ok pumpTexts) root ⟨"Pump", pump, [⟨"code/main"⟩, ⟨"code/side"⟩, ⟨"name/of"⟩]⟩
    pumpTexts order rfl rfl hentries hperm
  exact ⟨hapart, hentries, hperm, rfl, rfl, hanswer, hcontent,
    (independent_writes_commute.1 pump (.str "A") (.str "B") "code/main" "code/side" hapart).2.2⟩

end Store
end WaterRegistry
