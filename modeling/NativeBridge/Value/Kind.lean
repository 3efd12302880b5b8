/-!
The kinds of script values.
-/

namespace NativeBridge

inductive ValueKind where
  | undefined | null | number | string | boolean | object | array | callback | ref
  deriving DecidableEq, Repr

namespace ValueKind

def name : ValueKind → String
  | undefined => "undefined"
  | null => "null"
  | number => "number"
  | string => "string"
  | boolean => "boolean"
  | object => "object"
  | array => "array"
  | callback => "callback"
  | ref => "ref"

def all : List ValueKind := [undefined, null, number, string, boolean, object, array, callback, ref]

end ValueKind

end NativeBridge
