import WaterRegistry.FileFault
import WaterRegistry.Text.Blank
import WaterRegistry.Text.Utf8

/-!
# Survey tables

A survey comes as comma separated values.  Fields may be put in quotes, with quotes inside doubled;
a quote inside an unquoted field is an ordinary character, and what follows a closing quote belongs
to the field.  A record ends at a line feed or a carriage return, blank lines are skipped, and the
first record is the header, which fixes how many fields every record has.  A byte order mark at the
start is skipped.  Fields are trimmed of white space, quoted or not.

The table is cut into raw records byte by byte; only then are fields decoded.
-/

namespace WaterRegistry
namespace Survey

/-- Where a record stands in its table: its number, with the header as 0, and the line and byte at
which the record before it had ended. -/
structure Position where
  record : Nat
  line : Nat
  byte : Nat
  deriving DecidableEq

/-- Why a table cannot be read. -/
inductive TableError where
  | unreadable (cause : FileFault)
  | unequalLengths (position : Position) (length expected : Nat)
  | notUtf8 (position : Position) (field offset : Nat)
  deriving DecidableEq

/-- The wording of a table error. -/
def TableError.message : TableError → String
  | .unreadable cause => cause.message
  | .unequalLengths position length expected =>
    "CSV error: record " ++ toString position.record ++ " (line: " ++ toString position.line ++
      ", byte: " ++ toString position.byte ++ "): found record with " ++ toString length ++
      " fields, but the previous record has " ++ toString expected ++ " fields"
  | .notUtf8 position field offset =>
    "CSV parse error: record " ++ toString position.record ++ " (line " ++
      toString position.line ++ ", field: " ++ toString field ++ ", byte: " ++
      toString position.byte ++ "): invalid utf-8: invalid UTF-8 in field " ++ toString field ++
      " near byte index " ++ toString offset

/-- A record of decoded and trimmed fields. -/
structure Record where
  position : Position
  fields : List String
  deriving DecidableEq

/-- A header and the records below it. -/
structure Table where
  header : List String
  records : List Record
  deriving DecidableEq

/-- A record as bytes, with the line and byte at which the record before it had ended. -/
structure RawRecord where
  line : Nat
  byte : Nat
  fields : List (List UInt8)
  deriving DecidableEq

/-- What the next byte of a table belongs to. -/
inductive Mode where
  | recordStart
  | fieldStart
  | plain
  | quoted
  | afterQuote
  deriving DecidableEq

/-- What is known between two bytes: how many bytes and line feeds lie behind, where the current
record started, and what is finished of it, last field and last byte first. -/
structure Scan where
  mode : Mode
  bytes : Nat
  lineFeeds : Nat
  startLine : Nat
  startByte : Nat
  fields : List (List UInt8)
  field : List UInt8

namespace Scan

/-- Before the first record, with `bytes` bytes skipped. -/
def start (bytes : Nat) : Scan where
  mode := .recordStart
  bytes := bytes
  lineFeeds := 0
  startLine := 1
  startByte := 0
  fields := []
  field := []

/-- The record as it is finished so far. -/
def record (scan : Scan) : RawRecord :=
  ⟨scan.startLine, scan.startByte, (scan.field.reverse :: scan.fields).reverse⟩

/-- Takes a byte into the current field. -/
def push (scan : Scan) (mode : Mode) (b : UInt8) : Scan :=
  { scan with mode, field := b :: scan.field }

/-- Ends the current field. -/
def endField (scan : Scan) : Scan :=
  { scan with mode := .fieldStart, fields := scan.field.reverse :: scan.fields, field := [] }

/-- Ends the current record; the next one starts right here. -/
def endRecord (scan : Scan) : Scan :=
  { scan with
    mode := .recordStart
    startLine := scan.lineFeeds + 1
    startByte := scan.bytes
    fields := []
    field := [] }

/-- Counts a byte. -/
def advance (scan : Scan) (b : UInt8) : Scan :=
  { scan with
    bytes := scan.bytes + 1
    lineFeeds := if b = 10 then scan.lineFeeds + 1 else scan.lineFeeds }

/-- Whether a byte ends a record. -/
def isTerminator (b : UInt8) : Bool :=
  b = 10 || b = 13

/-- A byte outside quotes: a comma, the end of the record, or part of the field. -/
def outsideQuotes (scan : Scan) (b : UInt8) : Option RawRecord × Scan :=
  if b = 44 then (none, scan.endField)
  else if isTerminator b then (some scan.record, scan.endRecord)
  else (none, scan.push .plain b)

/-- A byte that has been counted, and the record that it ends. -/
def step (scan : Scan) (b : UInt8) : Option RawRecord × Scan :=
  match scan.mode with
  | .recordStart =>
    if isTerminator b then (none, scan)
    else if b = 34 then (none, { scan with mode := .quoted })
    else scan.outsideQuotes b
  | .fieldStart =>
    if b = 34 then (none, { scan with mode := .quoted }) else scan.outsideQuotes b
  | .plain => scan.outsideQuotes b
  | .quoted =>
    if b = 34 then (none, { scan with mode := .afterQuote }) else (none, scan.push .quoted b)
  | .afterQuote => if b = 34 then (none, scan.push .quoted b) else scan.outsideQuotes b

/-- The raw records of the remaining bytes.  At the end of the table a record that has begun is
finished. -/
def records (scan : Scan) : List UInt8 → List RawRecord
  | [] => if scan.mode = .recordStart then [] else [scan.record]
  | b :: rest =>
    match (scan.advance b).step b with
    | (some record, scan) => record :: records scan rest
    | (none, scan) => records scan rest

end Scan

/-- The raw records of a table. -/
def rawRecords : List UInt8 → List RawRecord
  | 0xEF :: 0xBB :: 0xBF :: rest => (Scan.start 3).records rest
  | bytes => (Scan.start 0).records bytes

/-- Whether a byte is ASCII white space. -/
def isAsciiBlank (b : UInt8) : Bool :=
  b = 32 || b = 9 || b = 10 || b = 12 || b = 13

/-- Bytes without ASCII white space at their start and end. -/
def trimAscii (bytes : List UInt8) : List UInt8 :=
  ((bytes.dropWhile isAsciiBlank).reverse.dropWhile isAsciiBlank).reverse

/-- Decodes the fields of a record from the one with number `index` on, and trims them. -/
def decodeFields (position : Position) (index : Nat) :
    List (List UInt8) → Except TableError (List String)
  | [] => .ok []
  | field :: rest =>
    match String.fromUTF8? ⟨field.toArray⟩ with
    | none => .error (.notUtf8 position index ((Utf8.firstFault? field).getD 0))
    | some text => do
      let more ← decodeFields position (index + 1) rest
      pure (trim text :: more)

/-- Decodes the records from the one with number `index` on, which have to have `width` fields. -/
def decodeRecords (width index : Nat) : List RawRecord → Except TableError (List Record)
  | [] => .ok []
  | raw :: rest => do
    let position := ⟨index, raw.line, raw.byte⟩
    if raw.fields.length ≠ width then
      .error (.unequalLengths position raw.fields.length width)
    else
      let fields ← decodeFields position 0 (raw.fields.map trimAscii)
      let more ← decodeRecords width (index + 1) rest
      pure (⟨position, fields⟩ :: more)

/-- The table in some bytes; without any record there is an empty header. -/
def Table.ofBytes (bytes : List UInt8) : Except TableError Table :=
  match rawRecords bytes with
  | [] => .ok ⟨[], []⟩
  | header :: rest => do
    let names ← decodeFields ⟨0, header.line, header.byte⟩ 0 header.fields
    let records ← decodeRecords header.fields.length 1 rest
    pure ⟨names, records⟩

end Survey
end WaterRegistry
