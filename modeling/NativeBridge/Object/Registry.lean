import NativeBridge.Object.Wrapper
import NativeBridge.Value.Basic

/-!
The registry of objects that scripts know by identity. Identities count up from one and none is given twice, so one
that was removed never stands for a later object.
-/

namespace NativeBridge

structure Registry where
  entries : List (ObjectId × Wrapper) := []
  nextId : ObjectId := 1

namespace Registry

variable (r : Registry)

def add (w : Wrapper) : ObjectId × Registry :=
  (r.nextId, { entries := r.entries ++ [(r.nextId, w)], nextId := r.nextId + 1 })

def find? (id : ObjectId) : Option Wrapper := r.entries.lookup id

/-- The native pointer of a registered identity. -/
def resolve (id : ObjectId) : Option Address := (r.find? id).map Wrapper.pointer

/-- Removes an entry and hands its wrapper over. -/
def take (id : ObjectId) : Option Wrapper × Registry :=
  (r.find? id, { r with entries := r.entries.filter (·.1 != id) })

/-- Removes all entries and hands their wrappers over. -/
def clear : List Wrapper × Registry := (r.entries.map Prod.snd, { r with entries := [] })

def size : Nat := r.entries.length

end Registry

end NativeBridge
