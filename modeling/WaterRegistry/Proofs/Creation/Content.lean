import WaterRegistry.Proofs.Creation.Run
import WaterRegistry.Proofs.Document.Frame
import WaterRegistry.Proofs.Store.History
import WaterRegistry.Proofs.Text.ByteOrder

/-!
# What a creation stores

A creation stores the document of its request, with the generated texts written into it in ascending
order of their paths, and then with its id.  Nothing else gets into the document: what the client has
submitted stays as it is, except for the fields that the paths start with and for the id.  What else
the request holds behind its first entity has no influence.
-/

namespace WaterRegistry
namespace Draft

/-- Filling a document is writing the generated texts into it in turn. -/
theorem written_fill (document : Json) (generated : GeneratedIdentifier) :
    Written document generated.entries (fill document generated) := by
  unfold fill
  generalize generated.entries = entries
  induction entries generalizing document with
  | nil => exact .nil document
  | cons entry rest ih =>
      obtain ⟨path, text⟩ := entry
      rw [List.foldl_cons]
      cases hwritten : (document.writePath path (.str text)).2 with
      | true => exact .written (Prod.ext rfl hwritten) (ih _)
      | false =>
          have hsame : (document.writePath path (.str text)).1 = document :=
            Json.writeKeys_of_refused hwritten
          rw [hsame]
          exact .refused hwritten (ih document)

end Draft

/-- The fields that a creation may change: the id, and those that the generated paths start with. -/
def GeneratedIdentifier.Touches (generated : GeneratedIdentifier) (key : String) : Prop :=
  key = osidField ∨ ∃ entry ∈ generated.entries, (Json.pathKeys entry.1).head? = some key

/-- What a creation makes of submitted fields: the generated texts are written in turn, and the id is
set last. -/
structure StoredFrom (submitted : Fields) (generated : GeneratedIdentifier) (osid : String)
    (stored : Fields) : Prop where
  written : ∃ filled, Written (.obj submitted) generated.entries (.obj filled) ∧
    stored = Fields.set osidField (.str osid) filled
  kept : submitted.KeptOutside generated.Touches stored

theorem storedFrom_fill (submitted : Fields) (generated : GeneratedIdentifier) (osid : String) :
    ∃ filled, Draft.fill (.obj submitted) generated = .obj filled ∧
      StoredFrom submitted generated osid (Fields.set osidField (.str osid) filled) := by
  have htouched : ∀ entry ∈ generated.entries, ∀ key,
      (Json.pathKeys entry.1).head? = some key → generated.Touches key :=
    fun entry hentry key hkey => .inr ⟨entry, hentry, hkey⟩
  have hwritten := Draft.written_fill (.obj submitted) generated
  obtain ⟨filled, hfilled, hkept⟩ := hwritten.keptOutside rfl htouched
  rw [hfilled] at hwritten
  exact ⟨filled, hfilled, ⟨filled, hwritten, rfl⟩, hkept.trans (.set (.inl rfl) _ _)⟩

namespace Store

/-- Whatever the store has served before, as long as that has given out fewer than `2 ^ 32 - 2` ids,
and whatever a generator makes of the entity that is bound: after a creation that gives an id, the
entity that the registry gives for this id is the first document of the request, with the generated
texts written into it in ascending order of the bytes of their paths, and with the id.  Fields that
start none of the paths keep their values, the id aside, and all submitted fields stay in their
order.  Further entities of the request make no difference. -/
theorem created_entity_is_request_with_identifiers {requests : List StoreRequest}
    (hfew : (givenIds (serveAll requests empty).1).length < 2 ^ 32 - 2) {config : Config}
    {generate : Option Binding → List IdentifierField → Generation} {root : Json} {osid : String}
    {after : Store}
    (hcreate : (serveAll requests empty).2.create config (generate (Binding.ofRoot? root)) root =
      (.ok osid, after)) :
    ∃ entityType submitted others schema generated stored,
      root = .obj ((entityType, .obj submitted) :: others) ∧
      config.schema? entityType = some schema ∧
      (if schema.identifierFields.isEmpty then generated = .empty
        else generate (some ⟨.obj submitted, entityType⟩) schema.identifierFields =
          .ok generated) ∧
      (generated.entries.Pairwise fun earlier later => utf8Bytes earlier.1 < utf8Bytes later.1) ∧
      StoredFrom submitted generated osid stored ∧
      (∀ registry : Registry, registry.client = ⟨.live, after⟩ →
        registry.entity entityType osid = some (.ok (.obj stored))) ∧
      ∀ further,
        (serveAll requests empty).2.create config
            (generate (Binding.ofRoot? (.obj ((entityType, .obj submitted) :: further))))
            (.obj ((entityType, .obj submitted) :: further)) = (.ok osid, after) := by
  obtain ⟨history, hkeeps, hids⟩ := keeps_empty.serveAll requests
    (by rw [List.length_nil]; omega)
  rw [List.nil_append] at hkeeps
  have hlength : history.length = (givenIds (serveAll requests empty).1).length := by
    rw [hids, History.osids, List.length_map]
  obtain ⟨⟨entityType, document, requested⟩, generated, hdraft, hgenerated, hinsert⟩ :=
    create_eq_ok hcreate
  obtain ⟨submitted, others, schema, rfl, hschema, rfl, rfl⟩ := Draft.ofRoot_eq_ok hdraft
  obtain ⟨rfl, fields, hfields, hacc⟩ := insert_eq_ok hinsert
  obtain ⟨filled, hfilled, hstored⟩ :=
    storedFrom_fill submitted generated (serveAll requests empty).2.nextOsid
  obtain rfl : fields = filled := Json.obj.inj (hfields.symm.trans hfilled)
  have hget : after.get? entityType (serveAll requests empty).2.nextOsid =
      some ((serveAll requests empty).2.accepted fields).document := by
    have hfound := (hkeeps.accepts hacc (by omega)).get?_eq
      (List.mem_append_right _ List.mem_cons_self) entityType
    rwa [if_pos rfl] at hfound
  refine ⟨entityType, submitted, others, schema, generated, _, rfl, hschema, ?_,
    generated.ascending_utf8Bytes, hstored, ?_, fun further => hcreate⟩
  · unfold Draft.generation at hgenerated
    split at hgenerated
    · rename_i hempty
      rw [if_pos hempty]
      exact (Except.ok.inj hgenerated).symm
    · rename_i hsome
      rw [if_neg hsome]
      exact hgenerated
  · intro registry hclient
    rw [Registry.entity, StoreClient.get, hclient]
    simp only [StoreClient.reply, hget]
    rfl

/-- A configuration of tanks. -/
def tankConfig : Config :=
  { Config.basic with schemas := [⟨"Tank", [⟨"/code"⟩]⟩] }

/-- A tank that is submitted with a code and an id of its own. -/
def tankFields : Fields :=
  [("osid", .str "7"), ("name", .str "North"), ("code", .obj [("part", .ofNat 1)])]

/-- Generated texts whose paths overlap: one lies below another one, one below a text, and one leads
to the id. -/
def tankTexts : GeneratedIdentifier :=
  .ofEntries [("ref/no", "D"), ("/code", "A"), ("code/part", "B"), ("name/of", "C"), ("osid", "9")]

/-- The code is replaced, so nothing can be written below it any more, nor below the name.  The id is
that of the store, and the object for the reference is made on the way. -/
theorem created_entity_is_request_with_identifiers_of_overlapping_paths :
    let requests := [StoreRequest.insert ⟨"Note", .obj [], []⟩]
    let root := Json.obj [("Tank", .obj tankFields), ("Note", .null)]
    let created := (serveAll requests empty).2.create tankConfig (fun _ => .ok tankTexts) root
    (givenIds (serveAll requests empty).1).length < 2 ^ 32 - 2 ∧
      created.1 = .ok "1-2" ∧
      created.2.get? "Tank" "1-2" = some (.obj [("osid", .str "1-2"), ("name", .str "North"),
        ("code", .str "A"), ("ref", .obj [("no", .str "D")])]) ∧
      ∃ stored, StoredFrom tankFields tankTexts "1-2" stored ∧
        ∀ registry : Registry, registry.client = ⟨.live, created.2⟩ →
          registry.entity "Tank" "1-2" = some (.ok (.obj stored)) := by
  intro requests root created
  have hfew : (givenIds (serveAll requests empty).1).length < 2 ^ 32 - 2 := by decide
  have hosid : created.1 = .ok "1-2" := by
    dsimp only [created, requests, root]
    rfl
  have hfound : created.2.get? "Tank" "1-2" = some (.obj [("osid", .str "1-2"),
      ("name", .str "North"), ("code", .str "A"), ("ref", .obj [("no", .str "D")])]) := by
    dsimp only [created, requests, root]
    rfl
  have hcreate : created = (.ok "1-2", created.2) := Prod.ext hosid rfl
  obtain ⟨entityType, submitted, others, schema, generated, stored, hroot, hschema, hgenerated, _,
    hstored, hentity, _⟩ :=
    @created_entity_is_request_with_identifiers requests hfew tankConfig
      (fun _ _ => .ok tankTexts) root "1-2" created.2 hcreate
  simp only [root, Json.obj.injEq, List.cons.injEq, Prod.mk.injEq] at hroot
  obtain ⟨⟨rfl, rfl⟩, _⟩ := hroot
  cases hschema
  cases hgenerated
  exact ⟨hfew, hosid, hfound, stored, hstored, hentity⟩

end Store
end WaterRegistry
