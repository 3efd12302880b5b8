import NativeBridge.Json.Basic
import NativeBridge.Number.Integer
import NativeBridge.Text.Bytes

/-!
Reading a document from bytes, strictly: valid UTF-8 with at most a byte order mark in front, one value, and
nothing after it but blanks. Every reader takes the rest of the text and returns what it left.
-/

namespace NativeBridge.Json

def isBlank (c : Char) : Bool := c = ' ' || c = '\t' || c = '\n' || c = '\r'

def skipBlanks (cs : List Char) : List Char := cs.dropWhile isBlank

def isDigit (c : Char) : Bool := '0' ≤ c && c ≤ '9'

def digitsValue (ds : List Char) : Nat := ds.foldl (fun n c => 10 * n + (c.toNat - 48)) 0

/-- Four hexadecimal digits. -/
def readHex4 : List Char → Option (Nat × List Char)
  | a :: b :: c :: d :: rest => do
    let a ← Bytes.hexValue? a
    let b ← Bytes.hexValue? b
    let c ← Bytes.hexValue? c
    let d ← Bytes.hexValue? d
    return (4096 * a + 256 * b + 16 * c + d, rest)
  | _ => none

/-- The characters after `\u`: one unit, or a pair of surrogates; a surrogate alone is an error. -/
def readUnicodeEscape (cs : List Char) : Option (Char × List Char) := do
  let (unit, rest) ← readHex4 cs
  if 0xD800 ≤ unit ∧ unit < 0xDC00 then
    match rest with
    | '\\' :: 'u' :: more =>
      let (low, rest) ← readHex4 more
      if 0xDC00 ≤ low ∧ low < 0xE000 then
        return (Char.ofNat (0x10000 + 0x400 * (unit - 0xD800) + (low - 0xDC00)), rest)
      else none
    | _ => none
  else if 0xDC00 ≤ unit ∧ unit < 0xE000 then none
  else return (Char.ofNat unit, rest)

/-- The character that an escape other than `\u` stands for. -/
def simpleEscape? (c : Char) : Option Char :=
  if c = '"' ∨ c = '\\' ∨ c = '/' then some c
  else if c = 'b' then some (Char.ofNat 8)
  else if c = 'f' then some (Char.ofNat 12)
  else if c = 'n' then some '\n'
  else if c = 'r' then some '\r'
  else if c = 't' then some '\t'
  else none

/-- The characters of a string after its opening quote, through the closing one. The fuel bounds the
number of characters. -/
def readString : Nat → List Char → Option ((List Char) × List Char)
  | 0, _ => none
  | fuel + 1, cs =>
    match cs with
    | [] => none
    | '"' :: rest => some ([], rest)
    | '\\' :: 'u' :: rest => do
      let (c, rest) ← readUnicodeEscape rest
      let (more, rest) ← readString fuel rest
      return (c :: more, rest)
    | '\\' :: e :: rest => do
      let c ← simpleEscape? e
      let (more, rest) ← readString fuel rest
      return (c :: more, rest)
    | c :: rest =>
      if c.toNat < 32 ∨ c = '\\' then none
      else do
        let (more, rest) ← readString fuel rest
        return (c :: more, rest)

/-- A number of decimal digits times a power of ten; too large a number is an error. -/
def decimalFloat? (negative : Bool) (digits : Nat) (exponent : Int) : Option Double :=
  let x :=
    if digits = 0 then Double.ofQuotient negative 0 1
    -- beyond these powers of ten every number is too large, or nearest to zero
    else if exponent > 400 then Double.ofQuotient negative (twoPow 1100) 1
    else if digits.log2 + 1 + 3 * exponent < -1200 then Double.ofQuotient negative 0 1
    else if 0 ≤ exponent then Double.ofQuotient negative (digits * tenPow exponent.toNat) 1
    else Double.ofQuotient negative digits (tenPow (-exponent).toNat)
  match x.reading with
  | .finite _ _ _ => some x
  | _ => none

/-- The integer part of a literal: a zero alone, or digits that start with another one. -/
def readIntegerPart (cs : List Char) : Option ((List Char) × List Char) :=
  match cs with
  | '0' :: rest => some (['0'], rest)
  | _ =>
    let ds := cs.takeWhile isDigit
    if ds.isEmpty then none else some (ds, cs.dropWhile isDigit)

/-- An optional fraction; the point needs a digit after it. -/
def readFraction (cs : List Char) : Option ((Option (List Char)) × List Char) :=
  match cs with
  | '.' :: rest =>
    let ds := rest.takeWhile isDigit
    if ds.isEmpty then none else some (some ds, rest.dropWhile isDigit)
  | _ => some (none, cs)

/-- An optional exponent. -/
def readExponent (cs : List Char) : Option ((Option Int) × List Char) :=
  match cs with
  | c :: rest =>
    if c = 'e' ∨ c = 'E' then
      let (negative, rest) :=
        match rest with
        | '-' :: more => (true, more)
        | '+' :: more => (false, more)
        | _ => (false, rest)
      let ds := rest.takeWhile isDigit
      if ds.isEmpty then none
      else
        let n : Int := digitsValue ds
        some (some (if negative then -n else n), rest.dropWhile isDigit)
    else some (none, cs)
  | [] => some (none, cs)

/-- A literal without fraction and exponent that fits 64 bits is an integer, any other one is not. -/
def readNumber (cs : List Char) : Option (Json × List Char) := do
  let (negative, cs) := match cs with
    | '-' :: rest => (true, rest)
    | _ => (false, cs)
  let (whole, cs) ← readIntegerPart cs
  let (fraction, cs) ← readFraction cs
  let (exponent, cs) ← readExponent cs
  let n : Int := if negative then -(digitsValue whole : Int) else digitsValue whole
  if fraction.isNone ∧ exponent.isNone ∧ IntKind.int64.least ≤ n ∧ n ≤ IntKind.uint64.greatest then
    return (int n, cs)
  else
    let places := fraction.getD []
    let x ← decimalFloat? negative (digitsValue (whole ++ places)) (exponent.getD 0 - places.length)
    return (float x, cs)

def literals : List (List Char × Json) :=
  [("null".toList, null), ("true".toList, bool true), ("false".toList, bool false)]

/-- One of the three words. -/
def readLiteral (cs : List Char) : Option (Json × List Char) :=
  literals.findSome? fun (word, value) =>
    if word.isPrefixOf cs then some (value, cs.drop word.length) else none

mutual

/-- A value. The fuel bounds the number of readers that are begun. -/
def readValue : Nat → List Char → Option (Json × List Char)
  | 0, _ => none
  | fuel + 1, cs =>
    match skipBlanks cs with
    | '[' :: rest =>
      match skipBlanks rest with
      | ']' :: rest => some (arr [], rest)
      | _ => do
        let (items, rest) ← readItems fuel rest
        return (arr items, rest)
    | '\x7b' :: rest =>
      match skipBlanks rest with
      | '\x7d' :: rest => some (obj [], rest)
      | _ => do
        let (fields, rest) ← readFields fuel rest
        return (object fields, rest)
    | '"' :: rest => do
      let (s, rest) ← readString (rest.length + 1) rest
      return (str (String.ofList s), rest)
    | c :: rest => if c = '-' ∨ isDigit c then readNumber (c :: rest) else readLiteral (c :: rest)
    | [] => none

/-- The items of an array through its closing bracket, of which there is at least one. -/
def readItems : Nat → List Char → Option ((List Json) × List Char)
  | 0, _ => none
  | fuel + 1, cs => do
    let (item, rest) ← readValue fuel cs
    match skipBlanks rest with
    | ',' :: rest =>
      let (items, rest) ← readItems fuel rest
      return (item :: items, rest)
    | ']' :: rest => return ([item], rest)
    | _ => none

/-- The fields of an object through its closing brace, of which there is at least one. -/
def readFields : Nat → List Char → Option ((List (String × Json)) × List Char)
  | 0, _ => none
  | fuel + 1, cs => do
    match skipBlanks cs with
    | '"' :: rest =>
      let (key, rest) ← readString (rest.length + 1) rest
      match skipBlanks rest with
      | ':' :: rest =>
        let (value, rest) ← readValue fuel rest
        match skipBlanks rest with
        | ',' :: rest =>
          let (fields, rest) ← readFields fuel rest
          return ((String.ofList key, value) :: fields, rest)
        | '\x7d' :: rest => return ([(String.ofList key, value)], rest)
        | _ => none
      | _ => none
    | _ => none

end

/-- The document that a text holds. -/
def parse? (text : Bytes) : Option Json := do
  let s ← Bytes.toString? text
  let cs := match s.toList with
    | '\uFEFF' :: rest => rest
    | cs => cs
  let (value, rest) ← readValue (2 * cs.length + 2) cs
  if (skipBlanks rest).isEmpty then some value else none

end NativeBridge.Json
