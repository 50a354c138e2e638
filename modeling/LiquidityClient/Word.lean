/-!
# Words

The bounds of numbers of a fixed width; those of unsigned ones of up to 64 bits are `UInt16.size`,
`UInt32.size` and `UInt64.size`.
-/

namespace LiquidityClient.Word

/-- Half of the number of 32-bit words. -/
abbrev half32 : Nat := 0x80000000

/-- Half of the number of 64-bit words. -/
abbrev half64 : Nat := 0x8000000000000000

/-- The number of 128-bit words. -/
abbrev size128 : Nat := 0x100000000000000000000000000000000

/-- Is the integer a signed 64-bit number? -/
abbrev IsInt64 (n : Int) : Prop :=
  -0x8000000000000000 ≤ n ∧ n < 0x8000000000000000

end LiquidityClient.Word
