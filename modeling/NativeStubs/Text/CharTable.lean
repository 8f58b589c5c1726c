/-! # Ranges of characters

A table lists closed ranges of code points in increasing order.
-/

namespace NativeStubs

namespace Text

/-- Closed ranges of code points, in increasing order. -/
abbrev CharTable := List (Nat × Nat)

def CharTable.has (table : CharTable) (n : Nat) : Bool :=
  table.any fun (first, last) => first ≤ n && n ≤ last

end Text

end NativeStubs
