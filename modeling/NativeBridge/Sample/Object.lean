import NativeBridge.Sample.State

/-!
The counted objects of the sample libraries. An object has a reference count, a mark that it is floating, and a
value; it goes with its last reference. Boxed structs are points and rectangles.
-/

namespace NativeBridge.Sample

section

variable {Script Job Reply : Type}

namespace Object

/-- Where the floating mark lies in an object. -/
def floatingOffset : Nat := 4

/-- Where the value lies in an object. -/
def valueOffset : Nat := 8

/-- A new object with one reference. -/
def create (value : Int) (floating : Bool) : Run Script Job Reply Address := do
  count fun s => { s with live := s.live + 1 }
  allocInts [1, if floating then 1 else 0, value]

def refCount (p : Address) : Run Script Job Reply Int := loadInt .w32 p

def value (p : Address) : Run Script Job Reply Int := loadInt .w32 (p + valueOffset)

def setValue (p : Address) (n : Int) : Run Script Job Reply Unit := storeInt .w32 (p + valueOffset) n

def isFloating (p : Address) : Run Script Job Reply Bool := return (← loadInt .w8 (p + floatingOffset)) != 0

def ref (p : Address) : Run Script Job Reply Unit := do storeInt .w32 p ((← refCount p) + 1)

/-- Drops a reference. -/
def unref (p : Address) : Run Script Job Reply Unit := do
  let n ← refCount p
  if n = 1 then
    Memory.release p
    count fun s => { s with live := s.live - 1 }
  else storeInt .w32 p (n - 1)

/-- Takes the floating reference, or a new one if there is none. -/
def refSink (p : Address) : Run Script Job Reply Unit := do
  if ← isFloating p then storeInt .w8 (p + floatingOffset) 0 else ref p

end Object

namespace Boxed

def point : TypeId := 0x1001

def rectangle : TypeId := 0x1002

/-- The size of a boxed struct; zero for an unknown type. -/
def size (type : TypeId) : Nat := if type = point then 8 else if type = rectangle then 16 else 0

/-- A copy of a struct of known type. -/
def copy (type : TypeId) (p : Address) : Run Script Job Reply Address := do
  if size type = 0 || p = 0 then return 0
  let bytes ← Memory.load p (size type)
  count fun s => { s with boxedCopy := s.boxedCopy + 1 }
  Memory.alloc bytes

end Boxed

end

end NativeBridge.Sample
