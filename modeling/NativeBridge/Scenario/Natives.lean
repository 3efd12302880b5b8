import NativeBridge.Scenario.Stage

/-!
Steps on the objects and structs of the sample libraries, which scenarios know by names of their own, and the counters
that show what became of native memory.
-/

namespace NativeBridge.Scenario

inductive NativeStep where
  | object (as : String) (value : Int) (floating : Bool)
  | point (as : String) (x y : Int)
  | unref (ptr : Option String)
  | refCount (ptr : Option String)
  | floating (ptr : Option String)
  /-- forgets the name -/
  | forget (ptr : String)
  | counters

namespace NativeStep

variable {k : Setting}

/-- Gives a native object a name. -/
def nameNative (name : String) (p : Address) : Play k Unit :=
  Stage.update fun s => { s with natives := Stage.put name p s.natives }

/-- What native memory functions were asked to do so far. -/
def counts : Play k Report := do
  let n ← Sample.state
  return .record
    [("live", .number n.live), ("free", .number n.free), ("strfreev", .number n.strfreev),
     ("slistFree", .number n.slistFree), ("listFree", .number n.listFree),
     ("boxedCopy", .number n.boxedCopy), ("boxedFree", .number n.boxedFree),
     ("closures", .ofCount (← MonadState.get).liveClosures)]

def run : NativeStep → Play k Report
  | .object name value unsunk => do
    nameNative name (← Sample.Object.create value unsunk)
    return .nothing
  | .point name x y => do
    nameNative name (← Sample.allocInts [x, y])
    return .nothing
  | .unref ptr => do
    Sample.Object.unref (← Stage.native ptr)
    return .nothing
  | .refCount ptr => return .number (← Sample.Object.refCount (← Stage.native ptr))
  | .floating ptr => return .number (if ← Sample.Object.isFloating (← Stage.native ptr) then 1 else 0)
  | .forget name => do
    Stage.update fun s => { s with natives := s.natives.filter (·.1 != name) }
    return .nothing
  | .counters => counts

end NativeStep

end NativeBridge.Scenario
