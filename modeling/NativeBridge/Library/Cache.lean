import NativeBridge.Library.Handle
import NativeBridge.Library.Names
import NativeBridge.Error

/-!
Libraries opened on behalf of calls, by the name they were asked for. Of the alternatives that a name lists, the first
that opens counts; a name that opened once is not opened again.
-/

namespace NativeBridge.Library

structure Cache where
  entries : List (Bytes × Opening) := []

/-- Reasons with `; ` between them, but not before the first one that has any text. -/
def joinReasons (reasons : List Bytes) : Bytes :=
  reasons.foldl (fun text reason => if text.isEmpty then reason else text ++ .ofString "; " ++ reason) []

/-- Opens the first alternative that opens, or gives the reasons of all, in order. -/
def openFirst (loader : Loader) (r : Record) : List Bytes → Except (List Bytes) Opening × Record
  | [] => (.error [], r)
  | path :: rest =>
    match Handle.load loader path none r with
    | (.ok _, some o, r) => (.ok o, r)
    | (.ok _, none, r) => (.error [], r)
    | (.error reason, _, r) =>
      match openFirst loader r rest with
      | (.ok o, r) => (.ok o, r)
      | (.error reasons, r) => (.error (reason :: reasons), r)

namespace Cache

/-- The opening for a name. -/
def get (loader : Loader) (name : Bytes) (c : Cache) (r : Record) : Except Error Opening × Cache × Record :=
  match c.entries.lookup name with
  | some o => (.ok o, c, r)
  | none =>
    match alternatives name with
    | [] => (.error (.noLibraries name), c, r)
    | first :: rest =>
      match openFirst loader r (first :: rest) with
      | (.ok o, r) => (.ok o, { c with entries := c.entries ++ [(name, o)] }, r)
      | (.error reasons, r) => (.error (.libraryLoad name (joinReasons reasons)), c, r)

/-- The address of a symbol of the library of a name. -/
def symbol (loader : Loader) (symbols : Symbols) (library name : Bytes) (c : Cache) (r : Record) :
    Except Error Nat × Cache × Record :=
  let (opened, c, r) := get loader library c r
  (opened.bind fun o => (Handle.find symbols name (some o)).mapError (.symbolMissing name library ·), c, r)

def size (c : Cache) : Nat := c.entries.length

/-- Lets go of all libraries. None of them is closed. -/
def destroy (c : Cache) (r : Record) : Record := releaseAll (c.entries.map Prod.snd) r

end Cache

end NativeBridge.Library
