import NativeBridge.Error
import NativeBridge.Number.Layout

/-!
Script values. Functions, objects and reference cells are known by their keys; a function or an object may be an
empty pointer. A handle of a live object carries the key of its finalizer besides the object's identity.
-/

namespace NativeBridge

abbrev ObjectId := Nat
abbrev FunctionId := Nat
abbrev CellId := Nat
abbrev HandleKey := Nat

/-- An identity that a script holds; without a key nothing happens when the script lets go of it. -/
structure Handle where
  id : ObjectId
  key : Option HandleKey
  deriving DecidableEq, Repr, Inhabited

inductive Value where
  | undefined
  | null
  | number (x : Double)
  | string (s : Bytes)
  | boolean (b : Bool)
  | object (h : Option Handle)
  | array (items : List Value)
  | callback (f : Option FunctionId)
  | ref (cell : CellId)
  deriving Inhabited

namespace Value

def kind : Value → ValueKind
  | undefined => .undefined
  | null => .null
  | number _ => .number
  | string _ => .string
  | boolean _ => .boolean
  | object _ => .object
  | array _ => .array
  | callback _ => .callback
  | ref _ => .ref

/-- Null or undefined. -/
def isNullish : Value → Bool
  | undefined | null => true
  | _ => false

def ofInt (n : Int) : Value := number (.ofInt n)

def asNumber : Value → Except Error Double
  | number x => .ok x
  | v => .error (.wrongKind .number v.kind)

def asString : Value → Except Error Bytes
  | string s => .ok s
  | v => .error (.wrongKind .string v.kind)

def asBoolean : Value → Except Error Bool
  | boolean b => .ok b
  | v => .error (.wrongKind .boolean v.kind)

def asObject : Value → Except Error (Option Handle)
  | object h => .ok h
  | v => .error (.wrongKind .object v.kind)

def asArray : Value → Except Error (List Value)
  | array items => .ok items
  | v => .error (.wrongKind .array v.kind)

def asCallback : Value → Except Error (Option FunctionId)
  | callback f => .ok f
  | v => .error (.wrongKind .callback v.kind)

def asRef : Value → Except Error CellId
  | ref cell => .ok cell
  | v => .error (.wrongKind .ref v.kind)

mutual

/-- The keys of the handles in a value. -/
def handleKeys : Value → List HandleKey
  | object (some h) => h.key.toList
  | array items => itemKeys items
  | _ => []

def itemKeys : List Value → List HandleKey
  | [] => []
  | v :: rest => handleKeys v ++ itemKeys rest

end

/-- The identity behind a handle; an empty one has none. -/
def identity (h : Option Handle) : ObjectId := (h.map Handle.id).getD 0

mutual

/-- Equality as a script sees it: numbers and objects by what they stand for, functions and cells by identity. -/
def same : Value → Value → Bool
  | undefined, undefined => true
  | null, null => true
  | number x, number y => x.eqv y
  | string s, string t => s == t
  | boolean a, boolean b => a == b
  | object h, object k => identity h == identity k
  | array a, array b => sameItems a b
  | callback f, callback g => f == g
  | ref c, ref d => c == d
  | _, _ => false

def sameItems : List Value → List Value → Bool
  | [], [] => true
  | a :: r, b :: s => same a b && sameItems r s
  | _, _ => false

end

end Value

end NativeBridge
