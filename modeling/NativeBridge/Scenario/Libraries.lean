import NativeBridge.Library.Cache
import NativeBridge.Sample.Linkage
import NativeBridge.Scenario.Report

/-!
Scenarios of one library cache and one library handle.
-/

namespace NativeBridge.Scenario.Libraries

inductive Step where
  /-- asks the cache for a library -/
  | get (name : Bytes)
  /-- whether two names share an opening -/
  | same (name other : Bytes)
  | symbol (library name : Bytes)
  | size
  | load (name : Bytes)
  | find (name : Bytes)
  | unload
  /-- moves the handle out and back -/
  | move
  | release

structure State where
  cache : Library.Cache := {}
  handle : Library.Handle := none
  record : Library.Record := {}

/-- Asks the cache for a library. -/
def open_ (files : Sample.Files) (name : Bytes) (s : State) : Except Error Library.Opening × State :=
  let (r, cache, record) := s.cache.get (Sample.load files) name s.record
  (r, { s with cache, record })

def ofExcept : Except Error Report → Report
  | .ok r => r
  | .error e => .failure e

/-- Why something failed; nothing if it did not. -/
def reason? {α : Type} : Except Bytes α → Option Bytes
  | .ok _ => none
  | .error reason => some reason

/-- Performs a step. -/
def step (files : Sample.Files) (s : State) : Step → Report × State
  | .get name =>
    let (r, s) := open_ files name s
    (ofExcept (r.map fun _ => .truth true), s)
  | .same name other =>
    let (a, s) := open_ files name s
    let (b, s) := open_ files other s
    (ofExcept (do return .truth ((← a).number == (← b).number)), s)
  | .symbol library name =>
    let (r, cache, record) := s.cache.symbol (Sample.load files) (Sample.symbol files) library name s.record
    (ofExcept (r.map fun _ => .truth true), { s with cache, record })
  | .size => (.ofCount s.cache.size, s)
  | .load name =>
    let (r, handle, record) := Library.Handle.load (Sample.load files) name s.handle s.record
    let reason := reason? r
    (.record [("ok", .truth reason.isNone), ("loaded", .truth handle.isSome), ("error", .text? reason)],
     { s with handle, record })
  | .find name =>
    let reason := reason? (Library.Handle.find (Sample.symbol files) name s.handle)
    (.record [("ok", .truth reason.isNone), ("error", .text? reason)], s)
  | .unload =>
    (.truth false, { s with handle := none, record := Library.Handle.unload s.handle s.record })
  | .move =>
    let (moved, handle) := Library.Handle.move s.handle
    let (back, moved, record) := Library.Handle.assign moved handle s.record
    (.list [.truth handle.isSome, .truth back.isSome, .truth moved.isSome],
     { s with handle := back, record := Library.Handle.unload moved record })
  | .release =>
    (.list [.truth s.handle.isSome, .truth false],
     { s with handle := none, record := Library.Handle.release s.handle s.record })

/-- Performs steps in order. -/
def run (files : Sample.Files) (s : State) : List Step → List StepReport
  | [] => []
  | first :: rest =>
    let (result, s) := step files s first
    { result } :: run files s rest

end NativeBridge.Scenario.Libraries
