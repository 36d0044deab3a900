import WaterRegistry.Registry.Error

/-!
# Outcomes of survey rows

A row ends in one of three ways: it is created, it is refused because its facility is registered
already, or it fails.  An import counts its outcomes.
-/

namespace WaterRegistry

/-- How a survey row ends. -/
inductive UploadStatus where
  | success
  | duplicate
  | failed
  deriving DecidableEq

namespace UploadStatus

/-- The word for an outcome. -/
def text : UploadStatus → String
  | .success => "SUCCESS"
  | .duplicate => "DUPLICATE"
  | .failed => "FAILED"

/-- The outcome that a word stands for. -/
def ofText? (word : String) : Option UploadStatus :=
  if word = "SUCCESS" then some .success
  else if word = "DUPLICATE" then some .duplicate
  else if word = "FAILED" then some .failed
  else none

/-- What is said about a word that stands for no outcome. -/
def unknownText (word : String) : String :=
  "unknown upload status '" ++ word ++ "'"

/-- The word for an outcome stands for it. -/
theorem ofText?_text (status : UploadStatus) : ofText? status.text = some status := by
  cases status <;> rfl

end UploadStatus

/-- The outcome of a creation that fails with an error: both the generator's duplicate check and the
store's uniqueness constraint report duplicates. -/
def RegistryError.status : RegistryError → UploadStatus
  | .generation (.duplicate _ _) | .uniqueConstraint _ _ => .duplicate
  | _ => .failed

/-- Numbers of rows by outcome. -/
structure Tally where
  success : Nat
  duplicate : Nat
  failed : Nat
  deriving DecidableEq

namespace Tally

/-- No rows. -/
def zero : Tally :=
  ⟨0, 0, 0⟩

/-- One row more. -/
def record (tally : Tally) : UploadStatus → Tally
  | .success => { tally with success := tally.success + 1 }
  | .duplicate => { tally with duplicate := tally.duplicate + 1 }
  | .failed => { tally with failed := tally.failed + 1 }

/-- The number of all rows. -/
def total (tally : Tally) : Nat :=
  tally.success + tally.duplicate + tally.failed

end Tally
end WaterRegistry
