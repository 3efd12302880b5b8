import NativeBridge.Descriptor.Parser
import NativeBridge.Value.Basic

/-!
What a scenario is written in: descriptors that are read when a step needs them, values with variables in them, and
script functions that run steps of their own. The steps themselves differ from scenario to scenario.
-/

namespace NativeBridge.Scenario

/-- A descriptor as it is given: a text, or a document. -/
inductive TypeSpec where
  | text (t : Bytes)
  | document (j : Json)

namespace TypeSpec

def parse : TypeSpec → Except Error Descriptor
  | text t => Descriptor.parseText t
  | document j => Descriptor.parse j

/-- The descriptor of nothing, which a call returns unless it says otherwise. -/
def nothing : TypeSpec := document (.object [("type", .str "undefined")])

end TypeSpec

mutual

/-- How a value is made. A reference is a new cell each time. -/
inductive ValueSpec (Step : Type) where
  | undefined
  | null
  | boolean (b : Bool)
  | number (x : Double)
  | string (s : Bytes)
  | array (items : List (ValueSpec Step))
  | variable (name : String)
  | identity (id : ObjectId)
  | emptyObject
  | emptyFunction
  | ref (content : ValueSpec Step) (as : Option String)
  | function (f : FunctionSpec Step) (as : Option String)

/-- What a script function does when it is called: it notes its arguments, runs steps, keeps its first argument, then
throws or answers. -/
structure FunctionSpec (Step : Type) where
  name : Bytes
  /-- notes only the kinds of its arguments -/
  kindsOnly : Bool
  run : List Step
  keep : Option String
  throws : Option Bytes
  answer : AnswerSpec Step

/-- What a script function returns. -/
inductive AnswerSpec (Step : Type) where
  | nothing
  /-- one value after the other; the last one repeats -/
  | sequence (values : List (ValueSpec Step))
  | value (v : ValueSpec Step)
  /-- one of its arguments -/
  | argument (index : Nat)
  /-- whether the first argument is greater than this -/
  | greaterThan (bound : Double)
  /-- the sum of its arguments -/
  | sum

end

/-- An argument of a native call. -/
structure ArgSpec (Step : Type) where
  type : TypeSpec
  value : ValueSpec Step
  optional : Bool

/-- A native call. -/
structure CallSpec (Step : Type) where
  library : Bytes
  symbol : Bytes
  args : List (ArgSpec Step)

end NativeBridge.Scenario
