/-
Powers of two and of ten, and the limits of words.
-/

namespace JobWorker.Decimal

/-- Two to the power of a number. -/
def twoTo (n : Nat) : Nat := Nat.pow 2 n

/-- Ten to the power of a number. -/
def tenTo (n : Nat) : Nat := Nat.pow 10 n

/-- The least signed number of 32 bits. -/
def leastInt32 : Int := -2147483648

/-- The greatest signed number of 32 bits. -/
def greatestInt32 : Int := 2147483647

/-- The least signed number of 64 bits. -/
def leastInt64 : Int := -9223372036854775808

/-- The greatest signed number of 64 bits. -/
def greatestInt64 : Int := 9223372036854775807

/-- The greatest unsigned number of 32 bits. -/
def greatestUInt32 : Int := 4294967295

/-- The greatest unsigned number of 64 bits. -/
def greatestUInt64 : Int := 18446744073709551615

end JobWorker.Decimal
