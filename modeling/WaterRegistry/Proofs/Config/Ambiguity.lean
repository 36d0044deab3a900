import Mathlib.Data.List.Nodup
import WaterRegistry.Config

/-!
# Ambiguous configurations

A schema is looked up by its name, and the first one with the name is found.  Loading refuses a text
that names a type twice, on account of the first schema whose name has occurred before.  In what is
accepted a name belongs to one schema at most, so it does not matter in which order the schemas stand.
-/

namespace WaterRegistry
namespace Config

/-- No name is found to be repeated if the names are different from each other and from those seen. -/
theorem firstRepeated_eq_none_iff {seen names : List String} :
    firstRepeated seen names = none ↔ names.Nodup ∧ ∀ name ∈ names, name ∉ seen := by
  -- The names seen grow along the list, so the statement is about every list of them.
  induction names generalizing seen with
  | nil => simp [firstRepeated]
  | cons head rest ih =>
      rw [firstRepeated, List.nodup_cons, List.forall_mem_cons]
      split
      · rename_i hseen
        simp [hseen]
      · rename_i hseen
        rw [ih]
        constructor
        · rintro ⟨hnodup, hrest⟩
          refine ⟨⟨fun hmem => hrest head hmem List.mem_cons_self, hnodup⟩, hseen, ?_⟩
          exact fun name hname hold => hrest name hname (List.mem_cons_of_mem _ hold)
        · rintro ⟨⟨hhead, hnodup⟩, _, hrest⟩
          refine ⟨hnodup, fun name hname hold => ?_⟩
          rcases List.mem_cons.1 hold with rfl | hold
          · exact hhead hname
          · exact hrest name hname hold

/-- The name that is found is the first one that has occurred before. -/
theorem firstRepeated_eq_some_iff {seen names : List String} {name : String} :
    firstRepeated seen names = some name ↔
      ∃ before after, names = before ++ name :: after ∧ firstRepeated seen before = none ∧
        (name ∈ seen ∨ name ∈ before) := by
  induction names generalizing seen with
  | nil => simp [firstRepeated]
  | cons head rest ih =>
      rw [firstRepeated]
      split
      · rename_i hseen
        constructor
        · intro h
          obtain rfl := Option.some.inj h
          exact ⟨[], rest, rfl, rfl, .inl hseen⟩
        · rintro ⟨before, after, hnames, hbefore, _⟩
          cases before with
          | nil => rw [(List.cons.inj hnames).1]
          | cons first before =>
              rw [firstRepeated, if_pos ((List.cons.inj hnames).1 ▸ hseen)] at hbefore
              cases hbefore
      · rename_i hseen
        rw [ih]
        constructor
        · rintro ⟨before, after, rfl, hbefore, hname⟩
          refine ⟨head :: before, after, rfl, ?_, ?_⟩
          · rw [firstRepeated, if_neg hseen, hbefore]
          · simpa [or_assoc, or_left_comm] using hname
        · rintro ⟨before, after, hnames, hbefore, hname⟩
          cases before with
          | nil =>
              obtain ⟨rfl, _⟩ := List.cons.inj hnames
              simp [hseen] at hname
          | cons first before =>
              obtain ⟨rfl, rfl⟩ := List.cons.inj hnames
              rw [firstRepeated, if_neg hseen] at hbefore
              exact ⟨before, after, rfl, hbefore, by simpa [or_assoc, or_left_comm] using hname⟩

/-- The names of the types, in the order of their schemas. -/
def names (config : Config) : List String :=
  config.schemas.map (·.name)

theorem validate_eq_ok_iff {config accepted : Config} :
    config.validate = .ok accepted ↔ accepted = config ∧ config.names.Nodup := by
  have hnone : firstRepeated [] config.names = none ↔ config.names.Nodup := by
    simp [firstRepeated_eq_none_iff]
  rw [validate, ← hnone, names]
  cases firstRepeated [] (config.schemas.map (·.name)) <;> simp [eq_comm]

/-- A configuration is refused on account of the first schema whose name has occurred before. -/
theorem validate_eq_error_iff {config : Config} {error : ConfigError} :
    config.validate = .error error ↔
      ∃ before schema after, config.schemas = before ++ schema :: after ∧
        (before.map (·.name)).Nodup ∧ schema.name ∈ before.map (·.name) ∧
        error = .duplicateSchema schema.name := by
  have hsome : config.validate = .error error ↔
      ∃ name, firstRepeated [] config.names = some name ∧ error = .duplicateSchema name := by
    rw [validate, names]
    cases firstRepeated [] (config.schemas.map (·.name)) <;> simp [eq_comm]
  rw [hsome]
  constructor
  · rintro ⟨name, hname, rfl⟩
    obtain ⟨before, after, hnames, hbefore, hmem⟩ := firstRepeated_eq_some_iff.1 hname
    obtain ⟨front, back, hschemas, rfl, hback⟩ := List.map_eq_append_iff.1 hnames
    obtain ⟨schema, rest, rfl, rfl, rfl⟩ := List.map_eq_cons_iff.1 hback
    exact ⟨front, schema, rest, hschemas, (firstRepeated_eq_none_iff.1 hbefore).1,
      hmem.resolve_left List.not_mem_nil, rfl⟩
  · rintro ⟨before, schema, after, hschemas, hbefore, hmem, rfl⟩
    refine ⟨schema.name, firstRepeated_eq_some_iff.2 ?_, rfl⟩
    refine ⟨before.map (·.name), after.map (·.name), ?_, ?_, .inr hmem⟩
    · rw [names, hschemas, List.map_append, List.map_cons]
    · exact firstRepeated_eq_none_iff.2 ⟨hbefore, fun _ _ => List.not_mem_nil⟩

/-- If no name occurs twice, looking a name up finds its schema, wherever it stands. -/
theorem schema?_eq_some_iff {config : Config} (h : config.names.Nodup) {name : String}
    {schema : Schema} :
    config.schema? name = some schema ↔ schema ∈ config.schemas ∧ schema.name = name := by
  constructor
  · intro hfound
    exact ⟨List.mem_of_find?_eq_some hfound, by simpa using List.find?_some hfound⟩
  · rintro ⟨hmem, rfl⟩
    cases hfound : config.schema? schema.name with
    | none => simpa using List.find?_eq_none.1 hfound schema hmem
    | some other =>
        -- Two schemas of the list with one name are the same schema.
        have hname : other.name = schema.name := by simpa using List.find?_some hfound
        rw [List.inj_on_of_nodup_map h (List.mem_of_find?_eq_some hfound) hmem hname]

theorem ofText_of_reads {text : String} {config : Config}
    (h : shape.read.readText text = .ok config) : ofText text = config.validate := by
  rw [ofText, h]

/-- A configuration is loaded exactly if no type is named twice, and refused on account of the first
schema whose name has occurred before.  In a loaded configuration a name stands for the one schema
that has it; another order of the schemas is loaded as well, and gives the same schemas. -/
theorem loads_iff_names_distinct {text : String} {config : Config}
    (hreads : shape.read.readText text = .ok config) :
    (∀ loaded, ofText text = .ok loaded ↔
      loaded = config ∧ (config.schemas.map (·.name)).Nodup) ∧
    (∀ error, ofText text = .error error ↔
      ∃ before schema after, config.schemas = before ++ schema :: after ∧
        (before.map (·.name)).Nodup ∧ schema.name ∈ before.map (·.name) ∧
        error = .duplicateSchema schema.name) ∧
    (∀ loaded, ofText text = .ok loaded → ∀ name schema,
      loaded.schema? name = some schema ↔ schema ∈ loaded.schemas ∧ schema.name = name) ∧
    ∀ reordered : Config, reordered.schemas.Perm config.schemas →
      (reordered.validate = .ok reordered ↔ ofText text = .ok config) ∧
      (∀ other, shape.read.readText other = .ok reordered →
        (ofText other = .ok reordered ↔ ofText text = .ok config)) ∧
      (ofText text = .ok config → ∀ name, reordered.schema? name = config.schema? name) := by
  rw [ofText_of_reads hreads]
  refine ⟨fun loaded => validate_eq_ok_iff, fun error => validate_eq_error_iff, ?_, ?_⟩
  · intro loaded hloaded name schema
    obtain ⟨rfl, hnodup⟩ := validate_eq_ok_iff.1 hloaded
    exact schema?_eq_some_iff hnodup
  · intro reordered hperm
    have hnames : reordered.names.Nodup ↔ config.names.Nodup := (hperm.map _).nodup_iff
    have haccepted : reordered.validate = .ok reordered ↔ config.validate = .ok config := by
      rw [validate_eq_ok_iff, validate_eq_ok_iff, hnames]
      simp
    refine ⟨haccepted, fun other hother => by rw [ofText_of_reads hother, haccepted], ?_⟩
    intro hloaded name
    have hnodup := (validate_eq_ok_iff.1 hloaded).2
    ext schema
    rw [schema?_eq_some_iff hnodup, schema?_eq_some_iff (hnames.2 hnodup), hperm.mem_iff]

/-- Two types are loaded in either order, and of two names that are repeated the first repetition is
reported. -/
theorem loads_iff_names_distinct_of_wells_and_springs :
    let well : Schema := ⟨"Well", []⟩
    let spring : Schema := ⟨"Spring", []⟩
    let text := "\x7b\"schemas\":[\x7b\"name\":\"Well\"\x7d,[\"Spring\"]]\x7d"
    let repeated := "\x7b\"schemas\":[[\"Well\"],[\"Spring\"],[\"Spring\"],[\"Well\"]]\x7d"
    shape.read.readText text = .ok ⟨32, 2000, [well, spring]⟩ ∧
      ofText text = .ok ⟨32, 2000, [well, spring]⟩ ∧
      [spring, well].Perm [well, spring] ∧
      validate ⟨32, 2000, [spring, well]⟩ = .ok ⟨32, 2000, [spring, well]⟩ ∧
      schema? ⟨32, 2000, [spring, well]⟩ "Spring" = some spring ∧
      ofText repeated = .error (.duplicateSchema "Spring") := by
  have hreads : shape.read.readText "\x7b\"schemas\":[\x7b\"name\":\"Well\"\x7d,[\"Spring\"]]\x7d" =
      .ok ⟨32, 2000, [⟨"Well", []⟩, ⟨"Spring", []⟩]⟩ := by cbv
  have hrepeated : shape.read.readText
      "\x7b\"schemas\":[[\"Well\"],[\"Spring\"],[\"Spring\"],[\"Well\"]]\x7d" =
      .ok ⟨32, 2000, [⟨"Well", []⟩, ⟨"Spring", []⟩, ⟨"Spring", []⟩, ⟨"Well", []⟩]⟩ := by cbv
  intro well spring text repeated
  have hperm : [spring, well].Perm [well, spring] := .swap _ _ _
  obtain ⟨hloads, _, hlookup, hreordered⟩ := loads_iff_names_distinct hreads
  have hloaded : ofText text = .ok ⟨32, 2000, [well, spring]⟩ := (hloads _).2 ⟨rfl, by decide⟩
  obtain ⟨haccepted, _, hsame⟩ := hreordered ⟨32, 2000, [spring, well]⟩ hperm
  refine ⟨hreads, hloaded, hperm, haccepted.2 hloaded, ?_, ?_⟩
  · rw [hsame hloaded, hlookup _ hloaded]
    decide
  · rw [(loads_iff_names_distinct hrepeated).2.1]
    exact ⟨[well, spring], spring, [well], rfl, by decide, by decide, rfl⟩

end Config
end WaterRegistry
