import WaterRegistry.Proofs.Document.Outcome
import WaterRegistry.Proofs.Document.Sameness

/-!
# The order of writes

What is met in a document after a write follows from what has been met before, so documents that
read alike take the same writes and read alike after them.  Two writes disturb each other only if
one of them writes on the way of the other, or in the same place.  Otherwise the order in which they
are made makes no difference to what is accepted, and none to what is met afterwards.
-/

namespace WaterRegistry
namespace Json

theorem nodeAt?_append {document inner : Json} {keys : List String}
    (h : document.getKeys? keys = some inner) (more : List String) :
    document.nodeAt? (keys ++ more) = inner.nodeAt? more := by
  rw [nodeAt?, getKeys?_append, h, Option.bind_some, nodeAt?]

theorem node_eq_object_iff {document : Json} :
    document.node = .object ↔ document.isObject = true := by
  cases document <;> simp [node, isObject]

theorem isOpenAlong_iff_nodeAt? {document : Json} {keys : List String} :
    document.IsOpenAlong keys ↔ ∀ above node, above <+: keys → above ≠ keys →
      document.nodeAt? above = some node → node = .object := by
  simp only [IsOpenAlong, nodeAt?, Option.map_eq_some_iff]
  constructor
  · rintro h above _ habove hne ⟨inner, hread, rfl⟩
    exact node_eq_object_iff.2 (h above inner habove hne hread)
  · intro h above inner habove hne hread
    exact node_eq_object_iff.1 (h above _ habove hne ⟨inner, hread, rfl⟩)

/-- What is met after an accepted write: inside the value what it holds, on the way to it objects,
and elsewhere what has been there. -/
theorem nodeAt?_writeKeys {value document : Json} {keys : List String}
    (h : (writeKeys value keys document).2 = true) (others : List String) :
    (writeKeys value keys document).1.nodeAt? others =
      if keys <+: others then value.nodeAt? (others.drop keys.length)
      else if others <+: keys then some .object
      else document.nodeAt? others := by
  split
  · rename_i hinside
    obtain ⟨inside, rfl⟩ := hinside
    rw [List.drop_left, nodeAt?_append (getKeys?_writeKeys h)]
  · rename_i hinside
    split
    · rename_i hway
      obtain ⟨below, rfl⟩ := hway
      cases below with
      | nil => simp at hinside
      | cons key below =>
          obtain ⟨fields, inner, _, hread⟩ :=
            exists_set_of_isOpenAlong (writeKeys_accepted_iff.1 h).2 value
          rw [nodeAt?, hread]
          rfl
    · rename_i hway
      rw [nodeAt?, getKeys?_writeKeys_of_apart hinside hway, nodeAt?]

/-- Documents that read alike take the same writes, and read alike after them. -/
theorem ReadsLike.writeKeys {a b : Json} (h : a.ReadsLike b) (value : Json) (keys : List String) :
    (writeKeys value keys a).2 = (writeKeys value keys b).2 ∧
      (writeKeys value keys a).1.ReadsLike (writeKeys value keys b).1 := by
  have haccepted : (Json.writeKeys value keys a).2 = (Json.writeKeys value keys b).2 := by
    rw [Bool.eq_iff_iff, writeKeys_accepted_iff, writeKeys_accepted_iff, isOpenAlong_iff_nodeAt?,
      isOpenAlong_iff_nodeAt?]
    simp only [h _]
  refine ⟨haccepted, ?_⟩
  cases hb : (Json.writeKeys value keys b).2 with
  | false =>
      rw [writeKeys_of_refused hb, writeKeys_of_refused (haccepted.trans hb)]
      exact h
  | true =>
      intro others
      rw [nodeAt?_writeKeys hb, nodeAt?_writeKeys (haccepted.trans hb), h others]

/-- Whether a write is accepted does not depend on an earlier one, unless that has written above. -/
theorem accepted_writeKeys {keys others : List String} (h : ¬ others <+: keys)
    (document value other : Json) :
    (writeKeys value keys (writeKeys other others document).1).2 =
      (writeKeys value keys document).2 := by
  cases hother : (writeKeys other others document).2 with
  | false => rw [writeKeys_of_refused hother]
  | true =>
      have hopen := isOpenAlong_iff_nodeAt?.1 (writeKeys_accepted_iff.1 hother).2
      rw [Bool.eq_iff_iff, writeKeys_accepted_iff, writeKeys_accepted_iff, isOpenAlong_iff_nodeAt?,
        isOpenAlong_iff_nodeAt?]
      refine and_congr_right fun _ => forall₂_congr fun above node => ?_
      refine imp_congr_right fun habove => imp_congr_right fun hne => ?_
      have hinside : ¬ others <+: above := fun hpre => h (hpre.trans habove)
      rw [nodeAt?_writeKeys hother, if_neg hinside]
      split
      · rename_i hway
        -- On the way of the other write there has been an object, or nothing.
        have hproper : above ≠ others := by
          rintro rfl
          exact h habove
        exact iff_of_true (fun hnode => (Option.some.inj hnode).symm)
          (hopen above node hway hproper)
      · rfl

/-- Writes at keys that part can be made in either order. -/
theorem writeKeys_comm {keys others : List String} (h : ¬ keys <+: others)
    (h' : ¬ others <+: keys) (document value other : Json) :
    (writeKeys other others (writeKeys value keys document).1).1.ReadsLike
      (writeKeys value keys (writeKeys other others document).1).1 := by
  have hfirst := accepted_writeKeys h' document value other
  have hsecond := accepted_writeKeys h document other value
  cases hkeys : (writeKeys value keys document).2 with
  -- A write that is refused is refused in either order, and then only the other one remains.
  | false =>
      rw [writeKeys_of_refused hkeys, writeKeys_of_refused (hfirst.trans hkeys)]
  | true =>
      cases hothers : (writeKeys other others document).2 with
      | false =>
          rw [writeKeys_of_refused hothers, writeKeys_of_refused (hsecond.trans hothers)]
      | true =>
          intro place
          rw [nodeAt?_writeKeys (hfirst.trans hkeys), nodeAt?_writeKeys (hsecond.trans hothers),
            nodeAt?_writeKeys hkeys, nodeAt?_writeKeys hothers]
          -- A place lies in one of the values at most, and is then on no way to the other one.
          by_cases hin : keys <+: place
          · have hnot : ¬ others <+: place := fun hpre =>
              (List.prefix_or_prefix_of_prefix hin hpre).elim h h'
            have hnot' : ¬ place <+: others := fun hpre => h (hin.trans hpre)
            simp [hin, hnot, hnot']
          · by_cases hin' : others <+: place
            · have hnot : ¬ place <+: keys := fun hpre => h' (hin'.trans hpre)
              simp [hin, hin', hnot]
            · by_cases hway : place <+: keys <;> simp [hin, hin', hway]

end Json
end WaterRegistry
