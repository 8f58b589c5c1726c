import NativeStubs.Json.Fields

/-! # Older records

Older catalogs call the description of a native `comment` and its result `return_type`. A field
with an old name is renamed unless the record also has the new one.
-/

namespace NativeStubs

namespace Fields

variable {α : Type}

/-- Renames a field, unless the new name is taken. -/
def rename (fields : Fields α) (old new : String) : Fields α :=
  if (fields.get? new).isSome then fields
  else match fields.swapTake? old with
    | none => fields
    | some (value, others) => others.insert new value

/-- The record with the field names of today. -/
def modernize (fields : Fields α) : Fields α :=
  (fields.rename "comment" "description").rename "return_type" "results"

end Fields

end NativeStubs
