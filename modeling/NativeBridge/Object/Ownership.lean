import NativeBridge.Native.Lifetime

/-!
How wrappers come to hold native objects and how they let go. From a borrowed pointer a wrapper takes a reference or a
copy of its own, a transferred one it adopts.
-/

namespace NativeBridge.Wrapper

variable {S : Sides} (h : Host S) (l : Lifecycle)

/-- A borrowed object: takes a reference. -/
def objectNone (p : Address) : Eff S Wrapper := do
  if p ≠ 0 then
    let _ ← l.objectRef h p
  return object p

/-- A transferred object: adopts the reference, and sinks it if it is floating. -/
def objectFull (p : Address) : Eff S Wrapper := do
  if p ≠ 0 then
    if ← l.objectIsFloating h p then
      let _ ← l.objectRefSink h p
  return object p

/-- A borrowed struct: copies it if its type is known. -/
def boxedNone (p : Address) (type : TypeId) : Eff S Wrapper := do
  if p ≠ 0 ∧ type ≠ 0 then
    let copy ← l.boxedCopy h type p
    return boxed copy type .boxedFree
  return boxed p type .none

/-- A transferred struct; one of unknown type is never freed. -/
def boxedFull (p : Address) (type : TypeId) : Wrapper := boxed p type (if type ≠ 0 then .boxedFree else .none)

/-- Zeroed memory of the wrapper's own. -/
def boxedAlloc (size : Nat) (type : TypeId) : Eff S Wrapper := return boxed (← l.alloc0 h size) type .memFree

/-- A borrowed variant: sinks or takes a reference. -/
def variantNone (p : Address) : Eff S Wrapper := do
  if p ≠ 0 then
    let _ ← l.variantRefSink h p
  return variant p

/-- A transferred variant: adopts the reference. -/
def variantFull (p : Address) : Wrapper := variant p

/-- Lets go of what the wrapper holds. -/
def drop : Wrapper → Eff S Unit
  | object p => if p = 0 then pure () else l.objectUnref h p
  | variant p => if p = 0 then pure () else l.variantUnref h p
  | boxed p type release =>
    if p = 0 then pure ()
    else
      match release with
      | .boxedFree => l.boxedFree h type p
      | .memFree => l.free h p
      | .none => pure ()

/-- Moves what a wrapper holds into another one, which lets go of what it held. Gives both as they are then. -/
def moveInto (target source : Wrapper) : Eff S (Wrapper × Wrapper) := do
  target.drop h l
  return (source, source.emptied)

end NativeBridge.Wrapper
