import NativeBridge.Scenario.NativeView

/-!
Scenarios of one moment: what a value is, whether two are equal, and how a scalar type is written and read. No step is
taken in them.
-/

namespace NativeBridge.Scenario.Values

/-- A setting without steps. -/
abbrev setting : Setting := ⟨Empty, Unit, Unit, Unit, fun _ => []⟩

def rules : Rules setting where
  step _ _ := Eff.stuck
  answer _ _ := Eff.stuck
  threads := false

/-- What comes of it, from the beginning; what does not end has no report. -/
def outcome (x : Play setting Report) : Report :=
  match @play setting _ () x with
  | some (.ok r) => r
  | some (.error e) => .failure e
  | none => .nothing

/-- What a value is. -/
def facts (spec : ValueSpec Empty) : Report := outcome do
  let v ← @evaluate setting spec
  let shown ← Stage.snapshot v
  return .record
    [("kind", .words v.kind.name), ("text", .text shown.text), ("nullish", .truth v.isNullish),
     ("value", .value shown), ("is", .list (ValueKind.all.map fun kind => .truth (v.kind == kind)))]

/-- What a value gives as a value of a kind. -/
def access (kind : ValueKind) (spec : ValueSpec Empty) : Report := outcome do
  let v ← @evaluate setting spec
  match kind with
  | .undefined | .null => return .truth (v.kind == kind)
  | .number => return .value (.number (← Eff.ofExcept v.asNumber))
  | .string => return .text (← Eff.ofExcept v.asString)
  | .boolean => return .truth (← Eff.ofExcept v.asBoolean)
  | .object => return .ofCount (Value.identity (← Eff.ofExcept v.asObject))
  | .array => return .ofCount (← Eff.ofExcept v.asArray).length
  | .callback => return .truth (← Eff.ofExcept v.asCallback).isSome
  | .ref => Stage.report ((← get).cell (← Eff.ofExcept v.asRef))

/-- Whether two values are equal. The second one may use variables of the first one. -/
def equal (a b : ValueSpec Empty) : Report := outcome do
  let v ← @evaluate setting a
  let w ← @evaluate setting b
  return .truth (v.same w)

/-- How a scalar type is written and read: as an argument, as an item of an array, from memory, and as a result. -/
def scalarFacts (files : Sample.Files) (type : Descriptor) (v : Value) (memory : Bytes) :
    List (String × Report) :=
  let h := hostAt files rules 1
  let argument (type : Descriptor) (v : Value) : Play setting Report := do
    NativeView.report (← toNative h { type, value := v }) type
  [("marshal", outcome (argument type v)),
   ("array", outcome (argument (.array type .array false) (.array [v]))),
   ("scalar", outcome do Stage.report (← Eff.ofExcept (readScalar memory type))),
   ("return", outcome do NativeView.report (← Eff.ofExcept (readReturn type memory)) type)]

end NativeBridge.Scenario.Values
