import NativeBridge.Json.Basic
import NativeBridge.Value.Snapshot

/-!
What a scenario reports: a tree of plain facts, values as they stood, and errors.
-/

namespace NativeBridge.Scenario

inductive Report where
  | nothing
  | truth (b : Bool)
  | number (n : Int)
  | text (t : Bytes)
  | value (v : Snapshot)
  | list (items : List Report)
  | record (fields : List (String × Report))
  | document (j : Json)
  | failure (e : Error)
  deriving Inhabited

namespace Report

def words (s : String) : Report := text (.ofString s)

/-- A text, or nothing. -/
def text? (t : Option Bytes) : Report := (t.map text).getD nothing

def ofCount (n : Nat) : Report := number n

/-- Bytes in hexadecimal. -/
def hex (b : Bytes) : Report := words b.toHex

end Report

/-- The outcome of one step of a scenario. -/
structure StepReport where
  result : Report
  /-- what was noted while the step ran, in order -/
  trace : List Report := []
  /-- more that is told of the step -/
  extra : List (String × Report) := []

end NativeBridge.Scenario
