import Mathlib.Algebra.Group.Nat.Defs
import WaterRegistry.Proofs.Store.Insertion

/-!
# The numbering of entities

Ids are given out from one counter, `1-1`, `1-2` and so on, and each is written into the document it
belongs to.  A store that has accepted `count` documents is `Numbered count` as long as the counter
has not come round; from this follows that no two entities share an id.
-/

namespace WaterRegistry
namespace Store

/-- The id with a given number. -/
def osidOf (n : Nat) : String :=
  "1-" ++ toString n

theorem osidOf_inj {m n : Nat} : osidOf m = osidOf n ↔ m = n := by
  rw [osidOf, osidOf, String.append_right_inj, toString_nat_inj]

theorem nextOsid_eq (store : Store) : store.nextOsid = osidOf store.nextId.toNat :=
  rfl

/-- A store that has accepted `count` documents.  Ids are numbers up to `count`, they differ within
a type, and each is also the id field of its document. -/
structure Numbered (store : Store) (count : Nat) : Prop where
  nextId_toNat : store.nextId.toNat = count + 1
  osid_le : ∀ entityType, ∀ entity ∈ store.entitiesOf entityType,
    ∃ n, n ≤ count ∧ entity.osid = osidOf n
  osid_ne : ∀ entityType,
    (store.entitiesOf entityType).Pairwise fun earlier later => earlier.osid ≠ later.osid
  carried : ∀ entityType, ∀ entity ∈ store.entitiesOf entityType,
    ∃ fields, entity.document = .obj fields ∧
      Fields.get? osidField fields = some (.str entity.osid)

theorem numbered_empty : empty.Numbered 0 where
  nextId_toNat := rfl
  osid_le := by simp
  osid_ne := by simp
  carried := by simp

namespace Numbered

variable {store after : Store} {count : Nat}

theorem osid_ne_nextOsid (h : store.Numbered count) {entityType : String} {entity : StoredEntity}
    (hmem : entity ∈ store.entitiesOf entityType) : entity.osid ≠ store.nextOsid := by
  obtain ⟨n, hn, hosid⟩ := h.osid_le entityType entity hmem
  rw [hosid, nextOsid_eq, h.nextId_toNat]
  intro heq
  have := osidOf_inj.1 heq
  omega

/-- Accepting a document counts one further, unless that would bring the counter round. -/
theorem accepts (h : store.Numbered count) {entityType : String} {fields : Fields}
    {paths : List String} (hacc : store.Accepts entityType fields paths after)
    (hfew : count + 1 < 2 ^ 32 - 1) : after.Numbered (count + 1) where
  nextId_toNat := by
    have hone : (1 : UInt32).toNat = 1 := rfl
    rw [hacc.nextId_eq, UInt32.toNat_add, h.nextId_toNat, hone]
    omega
  osid_le := by
    intro other entity hmem
    rw [hacc.entitiesOf_eq] at hmem
    have hold : entity ∈ store.entitiesOf other → ∃ n, n ≤ count + 1 ∧ entity.osid = osidOf n := by
      intro hstored
      obtain ⟨n, hn, hosid⟩ := h.osid_le other entity hstored
      exact ⟨n, by omega, hosid⟩
    split at hmem
    · rcases List.mem_append.1 hmem with hstored | hnew
      · exact hold hstored
      · refine ⟨count + 1, Nat.le_refl _, ?_⟩
        rw [List.mem_singleton.1 hnew, accepted, nextOsid_eq, h.nextId_toNat]
    · exact hold hmem
  osid_ne := by
    intro other
    rw [hacc.entitiesOf_eq]
    split
    · rw [List.pairwise_append]
      refine ⟨h.osid_ne other, List.pairwise_singleton _ _, ?_⟩
      intro earlier hearlier later hlater
      rw [List.mem_singleton.1 hlater]
      exact h.osid_ne_nextOsid hearlier
    · exact h.osid_ne other
  carried := by
    intro other entity hmem
    rw [hacc.entitiesOf_eq] at hmem
    split at hmem
    · rcases List.mem_append.1 hmem with hstored | hnew
      · exact h.carried other entity hstored
      · rw [List.mem_singleton.1 hnew]
        exact ⟨_, rfl, Fields.get?_set_self _ _ _⟩
    · exact h.carried other entity hmem

end Numbered
end Store
end WaterRegistry
