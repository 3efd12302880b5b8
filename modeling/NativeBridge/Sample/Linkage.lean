import NativeBridge.Sample.Extra

/-!
The sample libraries as the bridge finds them: by file name, each function at an address of its own.
-/

namespace NativeBridge.Sample

section

variable {Script Job Reply : Type}

/-- Everything that the libraries export, with the second library after the first one. -/
def exports : List (Export Script Job Reply) := coreExports ++ extraExports

/-- The file names of the two libraries. -/
structure Files where
  core : Bytes
  extra : Bytes

/-- Code lies between the entry points of the bridge and the first block of memory. -/
def codeBase : Address := 0x100000

def codeAddress (index : Nat) : Address := codeBase + 16 * index

/-- The names of the functions that only the first library defines. -/
def coreNames : List Bytes := (@coreExports Unit Unit Unit).map fun e => Bytes.ofString e.name

/-- The names of all functions, in the order of their addresses. -/
def names : List Bytes := (@exports Unit Unit Unit).map fun e => Bytes.ofString e.name

/-- What runs at an address. -/
def codeAt? (a : Address) : Option (Export Script Job Reply) :=
  if codeBase ≤ a then exports[(a - codeBase) / 16]? else none

/-- The components of a path that are looked up one after the other. -/
def components (path : Bytes) : List Bytes :=
  (splitSlashes path).filter fun c => !(c.isEmpty || c == Bytes.ofString "." || c == Bytes.ofString "..")
where
  /-- The parts of a text between slashes. -/
  splitSlashes : Bytes → List Bytes
    | [] => [[]]
    | c :: rest =>
      if c = 47 then [] :: splitSlashes rest
      else
        match splitSlashes rest with
        | [] => [[c]]
        | part :: parts => (c :: part) :: parts

/-- Why there is no library at a path: a component that is too long is noticed before one that is missing. -/
def absence (path : Bytes) : Bytes :=
  path ++ Bytes.ofString ": cannot open shared object file: "
    ++ Bytes.ofString
      (if ((components path).headD []).length > 255 then "File name too long" else "No such file or directory")

/-- The library that a path opens; the empty path opens the program itself. -/
def load (files : Files) (path : Bytes) : Except Bytes Bytes :=
  let path := Bytes.untilNul path
  if path.isEmpty || path == files.core || path == files.extra then .ok path else .error (absence path)

/-- A symbol of any library. -/
def anySymbol (name : Bytes) : Option Address := (names.findIdx? (· == name)).map codeAddress

/-- Why a library does not have a symbol. -/
def lack (library name : Bytes) : Bytes := library ++ Bytes.ofString ": undefined symbol: " ++ name

/-- A symbol of a library. The second library stands on the first one, whose symbols are found through it. -/
def symbol (files : Files) (library name : Bytes) : Except Bytes Address :=
  let found := if library == files.core && !coreNames.contains name then none else anySymbol name
  match found with
  | some a => .ok a
  | none => .error (lack library name)

def linkage (files : Files) : Linkage (sides Script Job Reply) where
  loader := load files
  symbol := symbol files
  anySymbol := anySymbol
  run a call r :=
    match codeAt? a with
    | some e => e.code call r
    | none => Eff.stuck

end

end NativeBridge.Sample
