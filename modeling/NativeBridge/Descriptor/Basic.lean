import NativeBridge.Json.Basic
import NativeBridge.Error
import NativeBridge.Number.Integer

/-!
Descriptors of the types of native call signatures. A parsed descriptor has integers of 8, 16, 32 or 64 bits and
floats of 32 or 64; one built by hand may have any size, which then fails where a layout is needed.
-/

namespace NativeBridge

inductive ListKind where
  | array | slist | list
  deriving DecidableEq, Repr

namespace ListKind

def name : ListKind → String
  | array => "array"
  | slist => "slist"
  | list => "list"

def all : List ListKind := [array, slist, list]

end ListKind

/-- The calling conventions of callbacks. All but `closure` hand native code a function and a data pointer. -/
inductive CallbackKind where
  | closure | asyncReady | destroy | drawFunc | tickFunc | sourceFunc | compareFunc
  deriving DecidableEq, Repr

namespace CallbackKind

def name : CallbackKind → String
  | closure => "closure"
  | asyncReady => "asyncReady"
  | destroy => "destroy"
  | drawFunc => "drawFunc"
  | tickFunc => "tickFunc"
  | sourceFunc => "sourceFunc"
  | compareFunc => "compareFunc"

def all : List CallbackKind := [closure, asyncReady, destroy, drawFunc, tickFunc, sourceFunc, compareFunc]

/-- Positional slots of a native call that a callback of the kind occupies. -/
def slotCount : CallbackKind → Nat
  | closure => 1
  | asyncReady | destroy => 2
  | drawFunc | tickFunc | sourceFunc | compareFunc => 3

end CallbackKind

/-- How long native code may keep a bare function pointer. -/
inductive CallbackScope where
  | call | forever
  deriving DecidableEq, Repr

namespace CallbackScope

def name : CallbackScope → String
  | call => "call"
  | forever => "forever"

def all : List CallbackScope := [call, forever]

end CallbackScope

inductive Descriptor where
  | int (size : Nat) (signed : Bool)
  | float (size : Nat)
  | string (borrowed : Bool)
  | boolean
  | null
  | undefined
  | object (borrowed : Bool)
  | boxed (borrowed : Bool) (inner : String) (lib : Option String)
  | variant (borrowed : Bool)
  | array (item : Descriptor) (kind : ListKind) (borrowed : Bool)
  | callback (kind : CallbackKind) (scope : CallbackScope) (args : Option (List Descriptor))
      (result source outcome : Option Descriptor)
  | ref (inner : Descriptor)
  deriving Inhabited

namespace Descriptor

/-- Values are object identities. -/
def isObjectLike : Descriptor → Bool
  | object _ | boxed .. | variant _ => true
  | _ => false

/-- Values are held in a slot of their own, without a pointer. -/
def isScalar : Descriptor → Bool
  | int .. | float _ | boolean => true
  | _ => false

/-- A pointer result hands its ownership over. -/
def isTransferred : Descriptor → Bool
  | string b | object b | boxed b _ _ | variant b | array _ _ b => !b
  | _ => false

/-- A short readable form. -/
def describe : Descriptor → String
  | int size signed => (if signed then "int" else "uint") ++ toString size
  | float size => "float" ++ toString size
  | string _ => "string"
  | boolean => "boolean"
  | null => "null"
  | undefined => "undefined"
  | object _ => "object"
  | boxed _ inner _ => "boxed<" ++ inner ++ ">"
  | variant _ => "variant"
  | array item kind _ => kind.name ++ "<" ++ item.describe ++ ">"
  | callback kind _ _ _ _ _ => "callback<" ++ kind.name ++ ">"
  | ref inner => "ref<" ++ inner.describe ++ ">"

mutual

def toJson : Descriptor → Json
  | int size signed => .object [("type", .str "int"), ("size", .int size), ("signed", .bool signed)]
  | float size => .object [("type", .str "float"), ("size", .int size)]
  | string borrowed => .object [("type", .str "string"), ("borrowed", .bool borrowed)]
  | boolean => .object [("type", .str "boolean")]
  | null => .object [("type", .str "null")]
  | undefined => .object [("type", .str "undefined")]
  | object borrowed => .object [("type", .str "object"), ("borrowed", .bool borrowed)]
  | boxed borrowed inner lib =>
    .object ([("type", .str "boxed"), ("borrowed", .bool borrowed), ("innerType", .str inner)]
      ++ (lib.map fun l => ("lib", Json.str l)).toList)
  | variant borrowed => .object [("type", .str "variant"), ("borrowed", .bool borrowed)]
  | array item kind borrowed =>
    .object [("type", .str "array"), ("itemType", item.toJson), ("listType", .str kind.name),
      ("borrowed", .bool borrowed)]
  | callback kind scope args result source outcome =>
    .object ([("type", .str "callback"), ("trampoline", .str kind.name)]
      ++ (if scope = .call then [("scope", Json.str "call")] else [])
      ++ argsToJson args
      ++ optionToJson "returnType" result
      ++ optionToJson "sourceType" source
      ++ optionToJson "resultType" outcome)
  | ref inner => .object [("type", .str "ref"), ("innerType", inner.toJson)]

def argsToJson : Option (List Descriptor) → List (String × Json)
  | none => []
  | some args => [("argTypes", .arr (listToJson args))]

def listToJson : List Descriptor → List Json
  | [] => []
  | d :: rest => d.toJson :: listToJson rest

def optionToJson (key : String) : Option Descriptor → List (String × Json)
  | none => []
  | some d => [(key, d.toJson)]

end

/-- Descriptors are compared by their documents. -/
instance : BEq Descriptor := ⟨fun a b => a.toJson == b.toJson⟩

end Descriptor

/-- How a call interface passes a value. -/
inductive AbiType where
  | void
  | int (kind : IntKind)
  | float
  | double
  | pointer
  deriving DecidableEq, Repr

namespace AbiType

def name : AbiType → String
  | void => "void"
  | int k => (if k.signed then "sint" else "uint") ++ toString k.width.bits
  | float => "float"
  | double => "double"
  | pointer => "pointer"

/-- A byte that holds a truth value. -/
def truth : AbiType := .int ⟨.w8, false⟩

end AbiType

namespace Descriptor

/-- Undefined is void, and everything that is not a scalar is a pointer. -/
def abi : Descriptor → Except Error AbiType
  | int size signed =>
    match Width.ofBits? size with
    | some w => .ok (.int ⟨w, signed⟩)
    | none => .error (.descriptorIntSize size)
  | float size => .ok (if size = 32 then .float else .double)
  | boolean => .ok .truth
  | undefined => .ok .void
  | _ => .ok .pointer

end Descriptor

end NativeBridge
