/-! # Powers of two and of ten -/

namespace NativeStubs

/-- Two times itself, `n` times. -/
def twoTo (n : Nat) : Nat := Nat.pow 2 n

/-- Ten times itself, `n` times. -/
def tenTo (n : Nat) : Nat := Nat.pow 10 n

end NativeStubs
