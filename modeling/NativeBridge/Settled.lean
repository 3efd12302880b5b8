import NativeBridge.Error

/-!
A settled result holds a value or an error. Either may be asked for, and asking for the one that is not there is
an error of its own.
-/

namespace NativeBridge

inductive Settled (ε α : Type) where
  | value (a : α)
  | error (e : ε)
  deriving DecidableEq, Repr

namespace Settled

variable {ε α : Type}

def hasValue : Settled ε α → Bool
  | value _ => true
  | error _ => false

/-- The value, where there is one. -/
def getValue : Settled ε α → Except Error α
  | value a => .ok a
  | error _ => .error (.foreign (.ofString "Attempted to access value, but it contains an error."))

/-- The error, where there is one. -/
def getError : Settled ε α → Except Error ε
  | value _ => .error (.foreign (.ofString "Attempted to access error, but it contains a value."))
  | error e => .ok e

/-- The value, or another one where there is none. -/
def valueOr (fallback : α) : Settled ε α → α
  | value a => a
  | error _ => fallback

theorem getValue_eq_ok_iff {r : Settled ε α} {a : α} : r.getValue = .ok a ↔ r = value a := by
  cases r <;> simp [getValue]

theorem getError_eq_ok_iff {r : Settled ε α} {e : ε} : r.getError = .ok e ↔ r = error e := by
  cases r <;> simp [getError]

end Settled

end NativeBridge
