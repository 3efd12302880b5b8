import NativeBridge.Text.Bytes

/-!
The two naming rules of libraries: a library name may list alternatives, and a type's registration function is
named after the type.
-/

namespace NativeBridge.Library

def comma : UInt8 := 44
def blank : UInt8 := 32

/-- A text without the blanks at its two ends. -/
def trim (b : Bytes) : Bytes :=
  ((b.dropWhile (· == blank)).reverse.dropWhile (· == blank)).reverse

/-- The parts of a text between commas, of which there is one more than there are commas. -/
def splitCommas : Bytes → List Bytes
  | [] => [[]]
  | c :: rest =>
    if c = comma then [] :: splitCommas rest
    else
      match splitCommas rest with
      | [] => [[c]]
      | part :: parts => (c :: part) :: parts

/-- The alternatives that a name lists: trimmed, without the empty ones. -/
def alternatives (name : Bytes) : List Bytes :=
  ((splitCommas name).map trim).filter (!·.isEmpty)

/-- A capital letter starts a new word, except at the front. -/
def snakeCase (front : Bool) : Bytes → Bytes
  | [] => []
  | c :: rest =>
    (if Bytes.isAsciiUpper c then (if front then [] else [95]) ++ [Bytes.asciiLower c] else [c])
      ++ snakeCase false rest

/-- The function that registers a type: its name in words, then `_get_type`. -/
def typeFunction (typeName : Bytes) : Bytes :=
  snakeCase true typeName ++ .ofString "_get_type"

end NativeBridge.Library
