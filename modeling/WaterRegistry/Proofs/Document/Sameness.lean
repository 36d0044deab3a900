import Mathlib.Data.List.Sort
import WaterRegistry.Json.Equality
import WaterRegistry.Proofs.Document.Writing

/-!
# Documents that read alike

Whoever follows keys through a document meets objects, of which nothing but the next key is seen,
and other values, behind which there is nothing to follow.  Two documents in which the same is met
everywhere differ at most in the order of fields, so they are the same as documents are compared.
Pointers, which lead into lists as well, find values in them that read alike in turn.
-/

namespace WaterRegistry

/-- A table is told from what it gives for each key. -/
theorem SortedTable.ext_get? {α : Type} {a b : SortedTable α}
    (h : ∀ key, a.get? key = b.get? key) : a = b := by
  have hirrefl : Std.Irrefl fun x y : String × α => x.1 < y.1 :=
    ⟨fun x => String.lt_irrefl x.1⟩
  have hantisymm : Std.Antisymm fun x y : String × α => x.1 < y.1 :=
    ⟨fun x y hlt hgt => absurd hgt (String.lt_asymm hlt)⟩
  have hentries : a.entries = b.entries := by
    refine a.ascending.eq_of_mem_iff b.ascending ?_
    rintro ⟨key, value⟩
    rw [← get?_eq_some_iff, ← get?_eq_some_iff, h key]
  cases a
  cases b
  simpa using hentries

namespace Json

theorem canonicalFields_ascending (fields : Fields) :
    (canonicalFields fields).Pairwise fun a b => a.1 < b.1 := by
  induction fields with
  | nil => exact .nil
  | cons field rest ih => exact SortedTable.place_ascending ih

/-- The canonical forms of fields by their keys. -/
def canonicalTable (fields : Fields) : SortedTable Json :=
  ⟨canonicalFields fields, canonicalFields_ascending fields⟩

theorem get?_canonicalTable (key : String) (fields : Fields) :
    (canonicalTable fields).get? key = (Fields.get? key fields).map canonical := by
  change (canonicalFields fields).lookup key = (Fields.get? key fields).map canonical
  induction fields with
  | nil => rfl
  | cons field rest ih =>
      obtain ⟨name, value⟩ := field
      rw [canonicalFields, SortedTable.lookup_place, ih, Fields.get?]
      by_cases hname : name = key
      · simp [hname]
      · simp [hname, Ne.symm hname]

/-- Objects are the same exactly if they have the same values under every key. -/
theorem same_obj_iff {a b : Fields} : (Json.obj a).same (.obj b) = true ↔
    ∀ key, (Fields.get? key a).map canonical = (Fields.get? key b).map canonical := by
  rw [same_iff, canonical, canonical, Json.obj.injEq]
  constructor
  · intro h key
    have htable : canonicalTable a = canonicalTable b := by simpa [canonicalTable] using h
    rw [← get?_canonicalTable, ← get?_canonicalTable, htable]
  · intro h
    have htable : canonicalTable a = canonicalTable b := by
      apply SortedTable.ext_get?
      intro key
      rw [get?_canonicalTable, get?_canonicalTable, h key]
    exact congrArg SortedTable.entries htable

/-- What a value looks like to someone who follows keys: an object, of which nothing is seen, or
another value. -/
inductive Node where
  | object
  | leaf (value : Json)

def node : Json → Node
  | .obj _ => .object
  | value => .leaf value

/-- What is met in the place that the keys lead to. -/
def nodeAt? (document : Json) (keys : List String) : Option Node :=
  (document.getKeys? keys).map node

@[simp] theorem nodeAt?_nil (document : Json) : document.nodeAt? [] = some document.node :=
  rfl

theorem nodeAt?_obj_cons (fields : Fields) (key : String) (keys : List String) :
    (Json.obj fields).nodeAt? (key :: keys) =
      (Fields.get? key fields).bind fun inner => inner.nodeAt? keys := by
  rw [nodeAt?, getKeys?_obj_cons, Option.map_bind]
  rfl

/-- The same is met in every place of two documents.  They differ at most in the order of fields,
lists aside. -/
def ReadsLike (a b : Json) : Prop :=
  ∀ keys, a.nodeAt? keys = b.nodeAt? keys

namespace ReadsLike

variable {a b c : Json}

@[refl] theorem refl (a : Json) : a.ReadsLike a :=
  fun _ => rfl

theorem trans (h : a.ReadsLike b) (h' : b.ReadsLike c) : a.ReadsLike c :=
  fun keys => (h keys).trans (h' keys)

/-- Documents that read alike are one value, or both are objects. -/
theorem eq_or_exists_obj (h : a.ReadsLike b) :
    a = b ∨ ∃ fields others, a = .obj fields ∧ b = .obj others := by
  have hroot : a.node = b.node := Option.some.inj (h [])
  cases a <;> cases b <;> simp_all [node]

theorem rel_get? {fields others : Fields} (h : (Json.obj fields).ReadsLike (.obj others))
    (key : String) :
    Option.Rel ReadsLike (Fields.get? key fields) (Fields.get? key others) := by
  have hbelow : ∀ keys, ((Fields.get? key fields).bind fun inner => inner.nodeAt? keys) =
      (Fields.get? key others).bind fun inner => inner.nodeAt? keys := by
    intro keys
    rw [← nodeAt?_obj_cons, ← nodeAt?_obj_cons, h]
  -- Where there is a value at all, something is met in its place, so the key is in both or in none.
  have hroot := hbelow []
  generalize Fields.get? key fields = found at hbelow hroot ⊢
  generalize Fields.get? key others = other at hbelow hroot ⊢
  cases found with
  | none =>
      cases other with
      | none => exact .none
      | some value => simp at hroot
  | some inner =>
      cases other with
      | none => simp at hroot
      | some value => exact .some fun keys => by simpa using hbelow keys

/-- Pointers lead to values that read alike as well. -/
theorem rel_followTokens (h : a.ReadsLike b) (tokens : List String) :
    Option.Rel ReadsLike (a.followTokens tokens) (b.followTokens tokens) := by
  induction tokens generalizing a b with
  | nil => exact .some h
  | cons token rest ih =>
      obtain rfl | ⟨fields, others, rfl, rfl⟩ := h.eq_or_exists_obj
      · cases a.followTokens (token :: rest) with
        | none => exact .none
        | some value => exact .some (.refl value)
      · have hrel := h.rel_get? token
        rw [followTokens, followTokens, step?, step?]
        generalize Fields.get? token fields = found at hrel ⊢
        generalize Fields.get? token others = other at hrel ⊢
        cases hrel with
        | none => exact .none
        | some hinner => exact ih hinner

theorem rel_pointer? (h : a.ReadsLike b) (pointer : String) :
    Option.Rel ReadsLike (a.pointer? pointer) (b.pointer? pointer) := by
  rw [pointer?, pointer?]
  cases pointerTokens? pointer with
  | none => exact .none
  | some tokens => exact h.rel_followTokens tokens

end ReadsLike

theorem sizeOf_lt_of_get? {key : String} {fields : Fields} {inner : Json}
    (h : Fields.get? key fields = some inner) : sizeOf inner < sizeOf (Json.obj fields) := by
  induction fields with
  | nil => cases h
  | cons field rest ih =>
      obtain ⟨name, value⟩ := field
      rw [Fields.get?] at h
      split at h
      · cases h
        simp
        omega
      · have := ih h
        simp at this ⊢
        omega

/-- Documents that read alike are the same: below each key the values read alike in turn, and they
are smaller. -/
theorem ReadsLike.same {a b : Json} (h : a.ReadsLike b) : a.same b = true := by
  obtain rfl | ⟨fields, others, rfl, rfl⟩ := h.eq_or_exists_obj
  · exact same_refl a
  · refine same_obj_iff.2 fun key => ?_
    have hrel := h.rel_get? key
    generalize hfields : Fields.get? key fields = found at hrel ⊢
    generalize Fields.get? key others = other at hrel ⊢
    cases hrel with
    | none => rfl
    | @some inner _ hinner =>
        have hsmaller : sizeOf inner < sizeOf (Json.obj fields) := sizeOf_lt_of_get? hfields
        exact congrArg some (same_iff.1 hinner.same)
termination_by sizeOf a

/-- Numbers and lists of texts have no fields whose order could differ. -/
theorem eq_of_same_ofNat {document : Json} {n : Nat} (h : document.same (.ofNat n) = true) :
    document = .ofNat n := by
  rw [same_iff] at h
  cases document with
  | num number =>
      cases number with
      | int value => simpa [ofNat, canonical, Number.canonical] using h
      | double value => simp [ofNat, canonical, Number.canonical] at h
  | _ => simp [ofNat, canonical] at h

theorem eq_of_same_strs {document : Json} {texts : List String}
    (h : document.same (.arr (texts.map .str)) = true) : document = .arr (texts.map .str) := by
  rw [same_iff] at h
  cases document with
  | arr items =>
      simp only [canonical, Json.arr.injEq] at h
      induction items generalizing texts with
      | nil => cases texts <;> simp_all [canonicalItems]
      | cons item rest ih =>
          cases texts with
          | nil => simp [canonicalItems] at h
          | cons text more =>
              simp only [List.map_cons, canonicalItems, List.cons.injEq] at h
              have hitem : item = .str text := same_str_iff.1 (same_iff.2 h.1)
              have hrest := Json.arr.inj (ih h.2)
              rw [hitem, hrest, List.map_cons]
  | _ => simp [canonical] at h

end Json
end WaterRegistry
