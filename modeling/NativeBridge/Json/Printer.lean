import NativeBridge.Json.Basic
import NativeBridge.Number.Layout

/-!
The compact text of a document: no blanks, keys in order, characters outside ASCII as they are.
-/

namespace NativeBridge.Json

private def hexLetter (n : Nat) : Char := if n < 10 then Char.ofNat (48 + n) else Char.ofNat (87 + n)

/-- One character of a string literal. -/
def escape (c : Char) : List Char :=
  if c = '"' then ['\\', '"']
  else if c = '\\' then ['\\', '\\']
  else if c.toNat = 8 then ['\\', 'b']
  else if c.toNat = 9 then ['\\', 't']
  else if c.toNat = 10 then ['\\', 'n']
  else if c.toNat = 12 then ['\\', 'f']
  else if c.toNat = 13 then ['\\', 'r']
  else if c.toNat < 32 then ['\\', 'u', '0', '0', hexLetter (c.toNat / 16), hexLetter (c.toNat % 16)]
  else [c]

/-- A string literal. -/
def quoted (s : String) : String := "\"" ++ String.ofList (s.toList.flatMap escape) ++ "\""

/-- A number that is not finite has no literal and is written as null. -/
def floatText (x : Double) : String :=
  match x.reading with
  | .finite _ _ _ => NumberLayout.document.render x
  | _ => "null"

mutual

def render : Json → String
  | null => "null"
  | bool b => if b then "true" else "false"
  | int n => toString n
  | float x => floatText x
  | str s => quoted s
  | arr items => "[" ++ renderItems items ++ "]"
  | obj fields => "\x7b" ++ renderFields fields ++ "\x7d"

def renderItems : List Json → String
  | [] => ""
  | [j] => render j
  | j :: k :: rest => render j ++ "," ++ renderItems (k :: rest)

def renderFields : List (String × Json) → String
  | [] => ""
  | [(k, j)] => quoted k ++ ":" ++ render j
  | (k, j) :: f :: rest => quoted k ++ ":" ++ render j ++ "," ++ renderFields (f :: rest)

end

end NativeBridge.Json
