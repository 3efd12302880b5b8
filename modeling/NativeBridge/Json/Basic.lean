import NativeBridge.Number.Binary

/-!
JSON documents. An integer literal of at most 64 bits is kept apart from a floating-point one. The fields of
an object are sorted by key and each key stands once: `Json.object` brings any list into that form.
-/

namespace NativeBridge

inductive Json where
  | null
  | bool (b : Bool)
  | int (n : Int)
  | float (x : Double)
  | str (s : String)
  | arr (items : List Json)
  | obj (fields : List (String × Json))
  deriving Inhabited

namespace Json

mutual

/-- Equality of documents; numbers are compared as numbers. -/
def same : Json → Json → Bool
  | null, null => true
  | bool a, bool b => a == b
  | int a, int b => a == b
  | float a, float b => a.eqv b
  | int a, float b => (Double.ofInt a).eqv b
  | float a, int b => a.eqv (Double.ofInt b)
  | str a, str b => a == b
  | arr a, arr b => sameItems a b
  | obj a, obj b => sameFields a b
  | _, _ => false

def sameItems : List Json → List Json → Bool
  | [], [] => true
  | a :: r, b :: s => same a b && sameItems r s
  | _, _ => false

def sameFields : List (String × Json) → List (String × Json) → Bool
  | [], [] => true
  | (k, a) :: r, (l, b) :: s => k == l && same a b && sameFields r s
  | _, _ => false

end

instance : BEq Json := ⟨same⟩

/-- Sets a field in sorted fields, in place of an earlier one of that key. -/
def setField (key : String) (value : Json) : List (String × Json) → List (String × Json)
  | [] => [(key, value)]
  | (k, v) :: rest =>
    if key < k then (key, value) :: (k, v) :: rest
    else if key = k then (key, value) :: rest
    else (k, v) :: setField key value rest

/-- The object with these fields, of which the last one of each key counts. -/
def object (fields : List (String × Json)) : Json :=
  obj (fields.foldl (fun acc f => setField f.1 f.2 acc) [])

/-- The value of a key. -/
def fieldOf (key : String) : List (String × Json) → Option Json
  | [] => none
  | (k, v) :: rest => if k = key then some v else fieldOf key rest

/-- A field of an object; nothing for any other document. -/
def field? (j : Json) (key : String) : Option Json :=
  match j with
  | obj fields => fieldOf key fields
  | _ => none

theorem sizeOf_fieldOf {key : String} {fields : List (String × Json)} {v : Json}
    (h : fieldOf key fields = some v) : sizeOf v < sizeOf fields := by
  induction fields with
  | nil => simp [fieldOf] at h
  | cons f rest ih =>
    obtain ⟨k, w⟩ := f
    by_cases hk : k = key
    · simp [fieldOf, hk] at h; subst h; simp; omega
    · simp [fieldOf, hk] at h; have := ih h; simp; omega

theorem sizeOf_field? {j v : Json} {key : String} (h : j.field? key = some v) : sizeOf v < sizeOf j := by
  cases j with
  | obj fields => have := sizeOf_fieldOf h; simp; omega
  | _ => simp [field?] at h

def isObject : Json → Bool
  | obj _ => true
  | _ => false

def string? : Json → Option String
  | str s => some s
  | _ => none

def items? : Json → Option (List Json)
  | arr items => some items
  | _ => none

end Json

end NativeBridge
