import NativeBridge.Descriptor.Basic
import NativeBridge.Json.Parser
import NativeBridge.Json.Printer

/-!
Reading descriptors from documents. Fields that a type does not know are ignored; a null field counts as absent
where the field is optional.
-/

namespace NativeBridge.Descriptor

/-- An optional truth value, false when absent. -/
def readFlag (j : Json) (field : String) : Except Error Bool :=
  match j.field? field with
  | none | some .null => .ok false
  | some (.bool b) => .ok b
  | some other => .error (.notBoolean field other.render)

/-- A required integer, of which the low 32 bits count. -/
def readSize (j : Json) (type : String) : Except Error Nat :=
  match j.field? "size" with
  | some (.int n) => .ok (Width.w32.low n)
  | _ => .error (.sizeMissing type)

/-- An optional name of one of `choices`. -/
def readChoice {α : Type} (j : Json) (field : ChoiceField) (absent : α) (choices : List (String × α)) :
    Except Error α :=
  match j.field? field.key with
  | none | some .null => .ok absent
  | some (.str name) =>
    match choices.lookup name with
    | some choice => .ok choice
    | none => .error (.unknownChoice field name)
  | some _ => .error (.choiceNotString field)

def readListKind (j : Json) : Except Error ListKind :=
  readChoice j .listType .array (ListKind.all.map fun k => (k.name, k))

def readCallbackKind (j : Json) : Except Error CallbackKind :=
  readChoice j .trampoline .closure (CallbackKind.all.map fun k => (k.name, k))

def readScope (j : Json) : Except Error CallbackScope :=
  readChoice j .scope .forever (CallbackScope.all.map fun s => (s.name, s))

def readInt (j : Json) : Except Error Descriptor := do
  let size ← readSize j "int"
  if (Width.ofBits? size).isNone then throw (.descriptorIntSize size)
  let signed ← readFlag j "signed"
  return int size signed

def readFloat (j : Json) : Except Error Descriptor := do
  let size ← readSize j "float"
  if size ≠ 32 ∧ size ≠ 64 then throw (.descriptorFloatSize size)
  return float size

def readBoxed (j : Json) : Except Error Descriptor := do
  let borrowed ← readFlag j "borrowed"
  let inner ← match j.field? "innerType" with
    | some (.str s) => pure s
    | _ => throw .innerTypeMissing
  return boxed borrowed inner ((j.field? "lib").bind Json.string?)

mutual

/-- The descriptor that a document describes. -/
def parse (j : Json) : Except Error Descriptor :=
  if !j.isObject then .error (.notObject j.render)
  else
    match (j.field? "type").bind Json.string? with
    | none => .error .typeMissing
    | some name =>
      match name with
      | "int" => readInt j
      | "float" => readFloat j
      | "string" => string <$> readFlag j "borrowed"
      | "boolean" => .ok boolean
      | "null" => .ok null
      | "undefined" => .ok undefined
      | "object" | "gobject" => object <$> readFlag j "borrowed"
      | "boxed" => readBoxed j
      | "variant" | "gvariant" => variant <$> readFlag j "borrowed"
      | "array" => do
        let item ← parseNested j "array" "itemType"
        let kind ← readListKind j
        let borrowed ← readFlag j "borrowed"
        return array item kind borrowed
      | "callback" => do
        let kind ← readCallbackKind j
        let scope ← readScope j
        let args ← parseArgs j
        let result ← parseOptional j "returnType"
        let source ← parseOptional j "sourceType"
        let outcome ← parseOptional j "resultType"
        return callback kind scope args result source outcome
      | "ref" => ref <$> parseNested j "ref" "innerType"
      | _ => .error (.unknownType name)
  termination_by (sizeOf j, 1)

/-- A required descriptor in a field of a descriptor of type `type`. -/
def parseNested (j : Json) (type field : String) : Except Error Descriptor :=
  match h : j.field? field with
  | some (.obj fields) =>
    have : 1 + sizeOf fields < sizeOf j := by simpa using Json.sizeOf_field? h
    parse (.obj fields)
  | _ => .error (.nestedMissing type field)
  termination_by (sizeOf j, 0)

/-- An optional descriptor in a field. -/
def parseOptional (j : Json) (field : String) : Except Error (Option Descriptor) :=
  match h : j.field? field with
  | none | some .null => .ok none
  | some (.obj fields) =>
    have : 1 + sizeOf fields < sizeOf j := by simpa using Json.sizeOf_field? h
    some <$> parse (.obj fields)
  | some _ => .error (.nestedNotObject field)
  termination_by (sizeOf j, 0)

/-- The optional list of argument descriptors of a callback. -/
def parseArgs (j : Json) : Except Error (Option (List Descriptor)) :=
  match h : j.field? "argTypes" with
  | none | some .null => .ok none
  | some (.arr items) =>
    have : 1 + sizeOf items < sizeOf j := by simpa using Json.sizeOf_field? h
    some <$> parseList items
  | some _ => .error .argTypesNotArray
  termination_by (sizeOf j, 0)

def parseList (items : List Json) : Except Error (List Descriptor) :=
  match items with
  | [] => .ok []
  | j :: rest => do
    let d ← parse j
    let ds ← parseList rest
    return d :: ds
  termination_by (sizeOf items, 0)

end

/-- The descriptor that a text describes. -/
def parseText (text : Bytes) : Except Error Descriptor :=
  match Json.parse? text with
  | some j => parse j
  | none => .error (.notJson text)

end NativeBridge.Descriptor
