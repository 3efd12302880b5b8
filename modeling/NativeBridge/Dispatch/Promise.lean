/-!
Promises: results that one side owes the other. A promise is settled at most once, by a result or by being
dropped without one.
-/

namespace NativeBridge

inductive Promise (α : Type) where
  | pending
  | kept (result : α)
  | broken
  deriving Repr

abbrev PromiseId := Nat

/-- The promises that have been made and not been collected. -/
structure Promises (α : Type) where
  table : List (PromiseId × Promise α) := []
  made : Nat := 0

namespace Promises

variable {α : Type} (p : Promises α)

def make : PromiseId × Promises α :=
  (p.made, { p with table := p.table ++ [(p.made, .pending)], made := p.made + 1 })

def get? (id : PromiseId) : Option (Promise α) := p.table.lookup id

/-- Settles a pending promise; any other is left as it is. -/
def settle (id : PromiseId) (outcome : Promise α) : Promises α :=
  { p with table := p.table.map fun e =>
      match e with
      | (k, .pending) => if k = id then (k, outcome) else e
      | _ => e }

def keep (id : PromiseId) (result : α) : Promises α := p.settle id (.kept result)

def break_ (id : PromiseId) : Promises α := p.settle id .broken

/-- Forgets a promise whose result has been collected. -/
def forget (id : PromiseId) : Promises α := { p with table := p.table.filter (·.1 != id) }

end Promises

end NativeBridge
