import NativeBridge.Text.Bytes

/-!
Handles of open libraries, and the record of every opening. A library that was opened is owned by one handle until it is
closed, or released and never closed.
-/

namespace NativeBridge.Library

/-- One successful opening of a library. -/
structure Opening where
  number : Nat
  library : Bytes
  deriving DecidableEq, Repr

/-- The openings so far, and what became of those that no handle owns any more. -/
structure Record where
  opened : Nat := 0
  closed : List Nat := []
  released : List Nat := []
  deriving Repr

/-- A handle owns an opening or nothing. -/
abbrev Handle := Option Opening

/-- How a library is found: the library that a path opens, or the reason why none does. -/
abbrev Loader := Bytes → Except Bytes Bytes

/-- How a symbol of a library is found: its address, which is not null, or the reason why there is none. -/
abbrev Symbols := Bytes → Bytes → Except Bytes Nat

namespace Handle

/-- Closes what the handle owns. -/
def unload (h : Handle) (r : Record) : Record :=
  match h with
  | some o => { r with closed := r.closed ++ [o.number] }
  | none => r

/-- Opens a library in place of what the handle owned. -/
def load (loader : Loader) (path : Bytes) (h : Handle) (r : Record) : Except Bytes Unit × Handle × Record :=
  let r := unload h r
  match loader path with
  | .ok library => (.ok (), some ⟨r.opened, library⟩, { r with opened := r.opened + 1 })
  | .error reason => (.error reason, none, r)

/-- The address of a symbol, or the reason why there is none. -/
def find (symbols : Symbols) (name : Bytes) : Handle → Except Bytes Nat
  | none => .error (.ofString "library is not loaded")
  | some o => symbols o.library (Bytes.untilNul name)

/-- Gives the opening up without closing it. -/
def release (h : Handle) (r : Record) : Record :=
  match h with
  | some o => { r with released := r.released ++ [o.number] }
  | none => r

/-- What a new handle owns that takes over from this one, and what this one is left with. -/
def move (h : Handle) : Handle × Handle := (h, none)

/-- Takes over from another handle in place of what the handle owned. Gives what both own then. -/
def assign (source h : Handle) (r : Record) : Handle × Handle × Record :=
  let r := unload h r
  (source, none, r)

end Handle

/-- Gives openings up, in order. -/
def releaseAll (os : List Opening) (r : Record) : Record := os.foldl (fun r o => Handle.release (some o) r) r

end NativeBridge.Library
