import WaterRegistry.Json.Token

/-!
# The outline of a JSON text

An outline is a text as far as it can be followed: a tree of values whose containers may stop early
and whose leaves may turn out unusable.  Faults stand where a reader comes across them, so that
walking an outline from left to right, and stopping at the first problem, reports the problem that
comes first in the text, whether it lies in the text or in the value's shape.

Values nested too deeply are marked: they cannot be read, but they can be skipped.
-/

namespace WaterRegistry

/-- A JSON text as far as it can be followed. -/
inductive Outline where
  | null
  | bool (value : Bool)
  | number (value : Option Number)
  | text (reading : Except Fault String) (skipping : Option Fault)
  /-- A list, and the fault that it stops with instead of its bracket. -/
  | list (items : List Outline) (stop : Option Fault)
  /-- An object: keys, which may be no strings, with their values, and the fault that it stops with
  instead of its brace. -/
  | record (entries : List (Outline × Outline)) (stop : Option Fault)
  /-- A container nested too deeply to be read. -/
  | buried (container : Outline)
  /-- Something that is no value: the faults that reading and skipping it find. -/
  | broken (reading skipping : Fault)
  /-- The end of the text. -/
  | absent

namespace Outline

/-- How many containers may be nested in each other. -/
def depthLimit : Nat := 127

/-- Something stands where a value should that cannot start one. -/
def misplaced : Outline :=
  .broken .malformed .malformed

/-- Marks containers that have no room left. -/
def bury (room : Nat) (container : Outline) : Outline :=
  if room = 0 then .buried container else container

mutual

/-- The value that tokens start with, and what follows it; `room` is how many more containers may
be nested. -/
def value (room : Nat) : Nat → List Token → Outline × List Token
  | 0, _ | _, [] => (.absent, [])
  | fuel + 1, token :: rest =>
    match token with
    | .null => (.null, rest)
    | .bool b => (.bool b, rest)
    | .number n => (.number n, rest)
    | .text reading skipping => (.text reading skipping, rest)
    | .broken reading skipping => (.broken reading skipping, rest)
    | .openBracket =>
      match rest with
      | .closeBracket :: rest => (bury room (.list [] none), rest)
      | [] => (bury room (.list [] (some .truncated)), [])
      | _ =>
        let (items, stop, rest) := items (room - 1) fuel rest
        (bury room (.list items stop), rest)
    | .openBrace =>
      match rest with
      | .closeBrace :: rest => (bury room (.record [] none), rest)
      | [] => (bury room (.record [] (some .truncated)), [])
      | _ =>
        let (entries, stop, rest) := entries (room - 1) fuel rest
        (bury room (.record entries stop), rest)
    | .closeBracket | .closeBrace | .comma | .colon => (misplaced, [])

/-- The items that tokens start with, and the fault that their list stops with. -/
def items (room : Nat) : Nat → List Token → List Outline × Option Fault × List Token
  | 0, _ => ([], some .truncated, [])
  | fuel + 1, tokens =>
    let (item, rest) := value room fuel tokens
    match rest with
    | .closeBracket :: rest => ([item], none, rest)
    | .comma :: rest =>
      let (more, stop, rest) := items room fuel rest
      (item :: more, stop, rest)
    | [] => ([item], some .truncated, [])
    | _ => ([item], some .malformed, [])

/-- The entries that tokens start with, and the fault that their object stops with. -/
def entries (room : Nat) : Nat → List Token → List (Outline × Outline) × Option Fault × List Token
  | 0, _ => ([], some .truncated, [])
  | fuel + 1, tokens =>
    let (key, rest) := value room fuel tokens
    match rest with
    | .colon :: rest =>
      let (item, rest) := value room fuel rest
      match rest with
      | .closeBrace :: rest => ([(key, item)], none, rest)
      | .comma :: rest =>
        let (more, stop, rest) := entries room fuel rest
        ((key, item) :: more, stop, rest)
      | [] => ([(key, item)], some .truncated, [])
      | _ => ([(key, item)], some .malformed, [])
    | [] => ([(key, .absent)], none, [])
    | _ => ([(key, misplaced)], none, [])

end

/-- The outline of a text, and whether something follows its value. -/
def ofText (text : String) : Outline × Bool :=
  let tokens := Token.scan text
  let (outline, rest) := value depthLimit (2 * tokens.length + 2) tokens
  (outline, ¬ rest.isEmpty)

mutual

/-- The outline of a value that is already there. -/
def ofJson : Json → Outline
  | .null => .null
  | .bool value => .bool value
  | .num value => .number (some value)
  | .str value => .text (.ok value) none
  | .arr values => .list (ofItems values) none
  | .obj fields => .record (ofFields fields) none

/-- The outlines of list items. -/
def ofItems : List Json → List Outline
  | [] => []
  | item :: rest => ofJson item :: ofItems rest

/-- The outlines of fields. -/
def ofFields : List (String × Json) → List (Outline × Outline)
  | [] => []
  | (key, value) :: rest => (.text (.ok key) none, ofJson value) :: ofFields rest

end

/-- The key of an entry, which has to be a string. -/
def keyText : Outline → Except Fault String
  | .text reading _ => reading
  | .absent => .error .truncated
  | _ => .error .malformed

/-- The fault that skipping a key finds. -/
def skipKey : Outline → Option Fault
  | .text _ skipping => skipping
  | .absent => some .truncated
  | _ => some .malformed

mutual

/-- The first fault that skipping a value finds. -/
def skipFault : Outline → Option Fault
  | .null | .bool _ | .number _ => none
  | .text _ skipping => skipping
  | .list items stop => (skipItems items).or stop
  | .record entries stop => (skipEntries entries).or stop
  | .buried container => skipFault container
  | .broken _ skipping => some skipping
  | .absent => some .truncated

/-- The first fault that skipping items finds. -/
def skipItems : List Outline → Option Fault
  | [] => none
  | item :: rest => (skipFault item).or (skipItems rest)

/-- The first fault that skipping entries finds; keys have to be strings. -/
def skipEntries : List (Outline × Outline) → Option Fault
  | [] => none
  | (key, item) :: rest =>
    ((skipKey key).or (skipFault item)).or (skipEntries rest)

end

end Outline
end WaterRegistry
