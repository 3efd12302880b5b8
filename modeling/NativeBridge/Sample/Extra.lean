import NativeBridge.Sample.Core

/-!
The functions of the second sample library: echoes, strings, lists and objects of every ownership, out-parameters
of every scalar type, and callers of every kind of callback.
-/

namespace NativeBridge.Sample

section

variable {Script Job Reply : Type}

/-- The sum of numbers, from left to right. -/
def sumDoubles (xs : List Double) : Double := .ofFloat ((xs.map Double.toFloat).foldl (· + ·) 0)

/-- Numbers weighted by their position, from one on. -/
def weightedSum : Nat → List Nat → Nat
  | _, [] => 0
  | i, w :: rest => i * w + weightedSum (i + 1) rest

/-- A static text by its number; there is none for zero. -/
def staticText : Int → Option Bytes
  | 0 => none
  | 1 => some []
  | 2 => some (.ofString "héllo 😀")
  | _ => some (Bytes.ofString "bad " ++ [255, 192] ++ Bytes.ofString " bytes")

/-- Strings of one letter, in the order of the alphabet. -/
def letters (n : Nat) : List Bytes := (List.range n).map fun i => [UInt8.ofNat (97 + i)]

/-- Texts that repeat after four. -/
def cycle (n : Nat) : List Bytes :=
  (List.range n).map fun i => .ofString (["one", "two", "three", ""].getD (i % 4) "")

/-- The first multiples of a number, from itself on. -/
def multiples (step n : Nat) : List Int := (List.range n).map fun i => Int.ofNat (step * (i + 1))

/-- A new array of strings that ends in NULL. -/
def allocStrings (strings : List Bytes) : Run Script Job Reply Address := do
  allocWords ((← Eff.collect Memory.allocString strings) ++ [0])

/-- New objects with these values. -/
def createObjects (values : List Int) : Run Script Job Reply (List Address) :=
  Eff.collect (fun v => Object.create v false) values

/-- Changes a number in memory, unless the pointer is null. -/
def change (width : Width) (f : Int → Int) (p : Address) : Run Script Job Reply Unit := do
  if p ≠ 0 then storeInt width p (f (← loadInt width p))

/-- Stores a number, unless the pointer is null. -/
def put (width : Width) (n : Int) (p : Address) : Run Script Job Reply Unit := do
  if p ≠ 0 then storeInt width p n

/-- Calls a function some times and adds up its results. -/
def summed (call : CallCode (sides Script Job Reply)) (f : Address) (words : List Nat) : Nat → Run Script Job Reply Nat
  | 0 => pure 0
  | n + 1 => do
    let r ← callWith call f words
    return r + (← summed call f words n)

/-- The echoes, and the functions with many arguments. -/
def plainExports : List (Export Script Job Reply) :=
  [echo "ox_echo_i8", echo "ox_echo_u8", echo "ox_echo_i16", echo "ox_echo_u16", echo "ox_echo_i32",
   echo "ox_echo_u32", echo "ox_echo_i64", echo "ox_echo_u64", echo "ox_echo_ptr",
   ⟨"ox_echo_f32", fun _ r => returnSingle (single r 0)⟩,
   ⟨"ox_echo_f64", fun _ r => returnDouble (double r 0)⟩,
   ⟨"ox_mixed", fun _ r =>
     returnDouble (sumDoubles
       [.ofInt (int ⟨.w8, true⟩ r 0), .ofInt (int ⟨.w16, false⟩ r 1), .ofInt (int32 r 2),
        .ofInt (int .int64 r 3), (single r 0).widen, double r 1,
        .ofInt (int ⟨.w8, false⟩ r 4), .ofInt (if word r 5 % 256 = 0 then 0 else 1)])⟩,
   ⟨"ox_many", fun _ r => returnWord (Width.w64.low (weightedSum 1 (r.ints.take 10)))⟩,
   ⟨"ox_byte_at", fun _ r => do
     if word r 0 = 0 then return ← returnWord 255
     returnWord (Bytes.toNatLE (← Memory.load (word r 0 + (int32 r 1).toNat) 1))⟩]

/-- The functions on strings, lists, arrays of objects and structs. -/
def pointerExports : List (Export Script Job Reply) :=
  [⟨"ox_str", fun _ r => do
     match staticText (int32 r 0) with
     | none => returnWord 0
     | some s => returnWord (← Memory.allocString s)⟩,
   ⟨"ox_strdup", fun _ r => do
     if word r 0 = 0 then return ← returnWord 0
     returnWord (← Memory.allocString (← Memory.loadString (word r 0)))⟩,
   ⟨"ox_strv", fun _ r => do returnWord (← allocStrings (letters (int32 r 0).toNat))⟩,
   ⟨"ox_strv_join", fun _ r => do
     let strings ← Eff.collect Memory.loadString (← stringPointers (word r 0))
     returnWord (← Memory.allocString (strings.flatMap (· ++ Bytes.ofString "|")))⟩,
   ⟨"ox_list_strings", fun _ r => do
     returnWord (← buildList (← Eff.collect Memory.allocString (cycle (int32 r 0).toNat)))⟩,
   ⟨"ox_list_objects", fun _ r => do
     returnWord (← buildList (← createObjects (multiples 10 (int32 r 0).toNat)))⟩,
   ⟨"ox_object_array", fun _ r => do
     returnWord (← allocWords ((← createObjects (multiples 1 (int32 r 0).toNat)) ++ [0]))⟩,
   ⟨"ox_list_free", fun _ r => do
     count fun s => { s with listFree := s.listFree + 1 }
     freeNodes (word r 0)
     returnVoid⟩,
   ⟨"ox_point_static", fun _ _ => do returnWord (← allocInts [30, 12])⟩,
   ⟨"ox_fill_record", fun _ r => do
     Memory.store (word r 0) (Bytes.ofNatLE 8 (← Memory.allocString (.ofString "label")))
     Memory.store (word r 0 + 8) (Bytes.ofNatLE 8 (word r 1))
     storeInt .w32 (word r 0 + 16) (-9)
     returnVoid⟩]

/-- The functions with out-parameters. -/
def outExports : List (Export Script Job Reply) :=
  [⟨"ox_out_all", fun _ r => do
     change .w8 (· + 1) (word r 0)
     change .w16 (· + 1) (word r 1)
     if word r 2 ≠ 0 then
       let x := Float32.ofBits (UInt32.ofNat (Bytes.toNatLE (← Memory.load (word r 2) 4)))
       Memory.store (word r 2) (Bytes.ofNatLE 4 (x / 2).toBits.toNat)
     change .w64 (- ·) (word r 3)
     change .w8 (fun b => if b = 0 then 1 else 0) (word r 4)
     returnVoid⟩,
   ⟨"ox_out_more", fun _ r => do
     put .w16 65535 (word r 0)
     put .w32 4294967295 (word r 1)
     put .w64 18446744073709551615 (word r 2)
     put .w8 (-128) (word r 3)
     returnVoid⟩,
   ⟨"ox_out_null", fun _ r => do
     put .w64 0 (word r 0)
     returnVoid⟩,
   ⟨"ox_out_point", fun _ r => do
     Memory.store (word r 0) (Bytes.ofNatLE 8 (← allocInts [5, 6]))
     returnVoid⟩]

/-- A caller of a function with integer arguments that gives its result back. -/
def callThrough (name : String) : Export Script Job Reply :=
  ⟨name, fun call r => call (word r 0) { r with ints := r.ints.drop 1 }⟩

/-- The callers of callbacks that have a signature of their own. -/
def thunkExports : List (Export Script Job Reply) :=
  ["ox_cb_i8", "ox_cb_u8", "ox_cb_i16", "ox_cb_u16", "ox_cb_i32", "ox_cb_u32", "ox_cb_i64", "ox_cb_u64",
   "ox_cb_f32", "ox_cb_f64"].map callThrough
  ++ [⟨"ox_cb_str", fun call r => do
     let _ ← callWith call (word r 0) [word r 1]
     returnWord 1⟩,
   ⟨"ox_cb_strv", fun call r => do
     let strings ← allocStrings (letters (int32 r 1).toNat)
     let _ ← callWith call (word r 0) [strings]
     returnWord 1⟩,
   ⟨"ox_cb_obj", fun call r => do
     let p ← callWith call (word r 0) [word r 1]
     if p = 0 then return ← returnInt32 (-1)
     returnInt32 (← Object.value p)⟩,
   ⟨"ox_cb_mixed", fun call r => do
     let ints : List Int := [-1, 255, -2, 65535, -3, 4294967295, -4, 1099511627776, 2, 0]
     let half : Single := ⟨0x3f000000⟩
     let quarter : Double := ⟨0xbfd0000000000000⟩
     call (word r 0)
       { ints := ints.map Width.w64.low, floats := [half.bits.toNat, quarter.bits.toNat] }⟩]

/-- The callers of callbacks that come with data. -/
def closureExports : List (Export Script Job Reply) :=
  [⟨"ox_tick", fun call r => do
     let total ← summed call (word r 0) [word r 3, word r 4, word r 1] (int32 r 5).toNat
     let _ ← callWith call (word r 2) [word r 1]
     returnWord total⟩,
   ⟨"ox_compare", fun call r => do
     let result ← callWith call (word r 0) [word r 3, word r 4, word r 1]
     let _ ← callWith call (word r 2) [word r 1]
     returnWord result⟩,
   ⟨"ox_draw", fun call r => do
     let _ ← callWith call (word r 0) [word r 3, word r 4, word r 5, word r 6, word r 1]
     let _ ← callWith call (word r 2) [word r 1]
     returnVoid⟩,
   ⟨"ox_source", fun call r => do
     if word r 0 = 0 then return ← returnInt32 (-1)
     let result ← callWith call (word r 0) [word r 1]
     let _ ← callWith call (word r 2) [word r 1]
     returnWord result⟩,
   ⟨"ox_async", fun call r => do
     let _ ← callWith call (word r 0) [word r 2, word r 3, word r 1]
     returnVoid⟩,
   ⟨"ox_destroy", fun call r => do
     if word r 1 = 0 then return ← returnWord 0
     let _ ← callWith call (word r 1) [word r 0]
     returnWord 1⟩]

/-- Everything that the second library exports. -/
def extraExports : List (Export Script Job Reply) :=
  plainExports ++ pointerExports ++ outExports ++ thunkExports ++ closureExports

end

end NativeBridge.Sample
