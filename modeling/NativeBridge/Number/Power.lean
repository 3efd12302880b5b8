/-!
The powers that binary and decimal notation are counted in.
-/

namespace NativeBridge

/-- A power of two. -/
def twoPow (k : Nat) : Nat := Nat.pow 2 k

/-- A power of ten. -/
def tenPow (k : Nat) : Nat := Nat.pow 10 k

theorem twoPow_succ (k : Nat) : twoPow (k + 1) = twoPow k * 2 := rfl

theorem twoPow_add (j k : Nat) : twoPow (j + k) = twoPow j * twoPow k := Nat.pow_add 2 j k

theorem twoPow_pos (k : Nat) : 0 < twoPow k := Nat.pow_pos (by decide)

end NativeBridge
