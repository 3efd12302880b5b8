import NativeBridge.Value.Basic

/-!
A value as it stands at one moment: what its cells hold is written out, so a later change does not show.
-/

namespace NativeBridge

inductive Snapshot where
  | undefined
  | null
  | number (x : Double)
  | string (s : Bytes)
  | boolean (b : Bool)
  | object (id : Option ObjectId)
  | array (items : List Snapshot)
  | callback
  | ref (inner : Snapshot)
  deriving Inhabited

namespace Snapshot

/-- Text in parts, with a separator between them. -/
def joined (separator : Bytes) : List Bytes → Bytes
  | [] => []
  | [b] => b
  | b :: c :: rest => b ++ separator ++ joined separator (c :: rest)

mutual

/-- The text of a value. -/
def text : Snapshot → Bytes
  | undefined => .ofString "undefined"
  | null => .ofString "null"
  | number x => .ofString (NumberLayout.plain.render x)
  | string s => 34 :: s ++ [34]
  | boolean b => .ofString (if b then "true" else "false")
  | object id => .ofString ("Object#" ++ toString (id.getD 0))
  | array items => 91 :: joined (.ofString ", ") (texts items) ++ [93]
  | callback => .ofString "[callback]"
  | ref inner => .ofString "Ref(" ++ inner.text ++ [41]

def texts : List Snapshot → List Bytes
  | [] => []
  | s :: rest => s.text :: texts rest

end

end Snapshot

namespace Value

mutual

/-- The value with its cells written out to a depth of `fuel` cells; below that they read undefined. -/
def snapshot (cell : CellId → Value) (fuel : Nat) (v : Value) : Snapshot :=
  match fuel, v with
  | _, undefined => .undefined
  | _, null => .null
  | _, number x => .number x
  | _, string s => .string s
  | _, boolean b => .boolean b
  | _, object h => .object (h.map Handle.id)
  | fuel, array items => .array (snapshots cell fuel items)
  | _, callback _ => .callback
  | 0, ref _ => .ref .undefined
  | fuel + 1, ref c => .ref (snapshot cell fuel (cell c))
  termination_by (fuel, sizeOf v)

def snapshots (cell : CellId → Value) (fuel : Nat) (items : List Value) : List Snapshot :=
  match items with
  | [] => []
  | v :: rest => snapshot cell fuel v :: snapshots cell fuel rest
  termination_by (fuel, sizeOf items)

end

end Value

end NativeBridge
