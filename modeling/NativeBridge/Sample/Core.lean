import NativeBridge.Sample.Object

/-!
The functions of the first sample library: lifetimes of objects and structs, counters, and one function for each way
in which the bridge passes or returns something.
-/

namespace NativeBridge.Sample

section

variable {Script Job Reply : Type}

/-- Calls a function that gets one pointer. -/
def callWith (call : CallCode (sides Script Job Reply)) (f : Address) (words : List Nat) :
    Run Script Job Reply Nat := do
  let r ← call f { ints := words }
  return r.int

/-- The C integer in a result word. -/
def asInt32 (w : Nat) : Int := IntKind.int32.ofWord w

/-- Frees memory, and counts it unless it is NULL. -/
def freeMemory (p : Address) : Run Script Job Reply Unit := do
  if p ≠ 0 then
    count fun s => { s with free := s.free + 1 }
    Memory.release p

/-- Frees an array of strings and the strings. -/
def freeStrings (p : Address) : Run Script Job Reply Unit := do
  if p ≠ 0 then
    count fun s => { s with strfreev := s.strfreev + 1 }
    Eff.each Memory.release (← stringPointers p)
    Memory.release p

/-- Drops the object that was handed over. -/
def dropAdopted : Run Script Job Reply Unit := do
  let p := (← state).adopted
  if p ≠ 0 then Object.unref p
  count fun s => { s with adopted := 0 }

/-- The sum of the values of objects. -/
def sumValues : List Address → Run Script Job Reply Int
  | [] => pure 0
  | p :: rest => do return (← Object.value p) + (← sumValues rest)

/-- The numbers of some width from an address on. -/
def loadInts (width : Width) (p : Address) : Nat → Run Script Job Reply (List Int)
  | 0 => pure []
  | n + 1 => do
    let first ← loadInt width p
    return first :: (← loadInts width (p + width.bytes) n)

/-- The words from an address on. -/
def loadWords (p : Address) : Nat → Run Script Job Reply (List Nat)
  | 0 => pure []
  | n + 1 => do
    let first ← Memory.loadWord p
    return first :: (← loadWords (p + 8) n)

/-- Runs a source function until it asks to be removed, at most `left` times, and counts the runs. -/
def runSource (call : CallCode (sides Script Job Reply)) (f data : Address) : Nat → Run Script Job Reply Int
  | 0 => pure 0
  | left + 1 => do
    if asInt32 (← callWith call f [data]) = 0 then return 1
    return 1 + (← runSource call f data left)

/-- Calls a function with the addresses of two integers. -/
def compareInts (call : CallCode (sides Script Job Reply)) (f data : Address) (a b : Int) :
    Run Script Job Reply Int := do
  let p ← allocInts [a]
  let q ← allocInts [b]
  let r ← callWith call f [p, q, data]
  Memory.release p
  Memory.release q
  return asInt32 r

/-- The functions of native lifetimes. -/
def lifetimeExports : List (Export Script Job Reply) :=
  [⟨"ft_object_new", fun _ r => do returnWord (← Object.create (int32 r 0) false)⟩,
   ⟨"ft_object_new_floating", fun _ r => do returnWord (← Object.create (int32 r 0) true)⟩,
   ⟨"ft_object_ref", fun _ r => do
     Object.ref (word r 0)
     returnWord (word r 0)⟩,
   ⟨"ft_object_unref", fun _ r => do
     Object.unref (word r 0)
     returnVoid⟩,
   ⟨"ft_object_ref_sink", fun _ r => do
     Object.refSink (word r 0)
     returnWord (word r 0)⟩,
   ⟨"ft_object_is_floating", fun _ r => do returnWord (if ← Object.isFloating (word r 0) then 1 else 0)⟩,
   ⟨"ft_object_ref_count", fun _ r => do returnInt32 (← Object.refCount (word r 0))⟩,
   ⟨"ft_object_get_value", fun _ r => do returnInt32 (← Object.value (word r 0))⟩,
   ⟨"ft_object_set_value", fun _ r => do
     Object.setValue (word r 0) (int32 r 1)
     returnVoid⟩,
   ⟨"ft_live_objects", fun _ _ => do returnInt32 (← state).live⟩,
   ⟨"ft_object_adopt", fun _ r => do
     dropAdopted
     count fun s => { s with adopted := word r 0 }
     returnVoid⟩,
   ⟨"ft_object_drop_adopted", fun _ _ => do
     dropAdopted
     returnVoid⟩,
   ⟨"ft_type_from_name", fun _ r => do
     let name ← Memory.loadString (word r 0)
     returnWord (if name = Bytes.ofString "FtPoint" then Boxed.point else 0)⟩,
   ⟨"ft_rect_get_type", fun _ _ => returnWord Boxed.rectangle⟩,
   ⟨"ft_boxed_copy", fun _ r => do returnWord (← Boxed.copy (word r 0) (word r 1))⟩,
   ⟨"ft_boxed_free", fun _ r => do
     count fun s => { s with boxedFree := s.boxedFree + 1 }
     Memory.release (word r 1)
     returnVoid⟩,
   ⟨"ft_alloc0", fun _ r => do returnWord (← Memory.alloc (List.replicate (max (word r 0) 1) 0))⟩,
   ⟨"ft_free", fun _ r => do
     freeMemory (word r 0)
     returnVoid⟩,
   ⟨"ft_strfreev", fun _ r => do
     freeStrings (word r 0)
     returnVoid⟩,
   ⟨"ft_slist_free", fun _ r => do
     count fun s => { s with slistFree := s.slistFree + 1 }
     freeNodes (word r 0)
     returnVoid⟩,
   ⟨"ft_list_free", fun _ r => do
     freeNodes (word r 0)
     returnVoid⟩,
   ⟨"ft_free_count", fun _ _ => do returnInt32 (← state).free⟩,
   ⟨"ft_strfreev_count", fun _ _ => do returnInt32 (← state).strfreev⟩,
   ⟨"ft_slist_free_count", fun _ _ => do returnInt32 (← state).slistFree⟩,
   ⟨"ft_boxed_copy_count", fun _ _ => do returnInt32 (← state).boxedCopy⟩,
   ⟨"ft_boxed_free_count", fun _ _ => do returnInt32 (← state).boxedFree⟩]

/-- A function that gives its argument back. -/
def echo (name : String) : Export Script Job Reply := ⟨name, fun _ r => returnWord (word r 0)⟩

/-- The functions on numbers and strings. -/
def scalarExports : List (Export Script Job Reply) :=
  [⟨"ft_add_i32", fun _ r => returnInt32 (int32 r 0 + int32 r 1)⟩,
   echo "ft_echo_u8", echo "ft_echo_i8", echo "ft_echo_i32", echo "ft_echo_u32", echo "ft_echo_i64",
   ⟨"ft_mul_f64", fun _ r => returnDouble (.ofFloat ((double r 0).toFloat * (double r 1).toFloat))⟩,
   ⟨"ft_half_f32", fun _ r => returnSingle ⟨(Float32.ofBits (single r 0).bits / 2).toBits⟩⟩,
   ⟨"ft_not", fun _ r => returnWord (if word r 0 % 256 = 0 then 1 else 0)⟩,
   ⟨"ft_greeting", fun _ _ => do returnWord (← Memory.allocString (.ofString "hello"))⟩,
   ⟨"ft_upper", fun _ r => do
     returnWord (← Memory.allocString ((← Memory.loadString (word r 0)).map Bytes.asciiUpper))⟩,
   ⟨"ft_strlen", fun _ r => do
     if word r 0 = 0 then returnWord 0 else returnWord (← Memory.loadString (word r 0)).length⟩]

/-- The functions on arrays, lists, out-parameters and structs. -/
def compoundExports : List (Export Script Job Reply) :=
  [⟨"ft_sum_i32", fun _ r => do
     let items ← loadInts .w32 (word r 0) (int32 r 1).toNat
     returnWord (Width.w64.low (items.foldl (· + ·) 0))⟩,
   ⟨"ft_sum_f64", fun _ r => do
     let items ← loadWords (word r 0) (int32 r 1).toNat
     returnDouble (.ofFloat ((items.map fun w => Double.toFloat ⟨UInt64.ofNat w⟩).foldl (· + ·) 0))⟩,
   ⟨"ft_strv_length", fun _ r => do returnInt32 (← stringPointers (word r 0)).length⟩,
   ⟨"ft_object_values_sum", fun _ r => do
     returnInt32 (← sumValues (← loadWords (word r 0) (int32 r 1).toNat))⟩,
   ⟨"ft_strv_new", fun _ _ => do
     let strings ← Eff.collect Memory.allocString (["alpha", "beta", "gamma"].map Bytes.ofString)
     returnWord (← allocWords (strings ++ [0]))⟩,
   ⟨"ft_slist_range", fun _ r => do returnWord (← buildList ((List.range (int32 r 0).toNat).map (· + 1)))⟩,
   ⟨"ft_out_pair", fun _ r => do
     storeInt .w32 (word r 0) (2 * (← loadInt .w32 (word r 0)))
     Memory.store (word r 1) (Bytes.ofNatLE 8 (Double.ofFloat 2.5).bits.toNat)
     returnVoid⟩,
   ⟨"ft_out_string", fun _ r => do
     Memory.store (word r 0) (Bytes.ofNatLE 8 (← Memory.allocString (.ofString "written")))
     returnVoid⟩,
   ⟨"ft_out_static_string", fun _ r => do
     Memory.store (word r 0) (Bytes.ofNatLE 8 (← Memory.allocString (.ofString "static")))
     returnVoid⟩,
   ⟨"ft_fill_if_empty", fun _ r => do
     let p ← Memory.loadWord (word r 0)
     if p = 0 || (← Memory.loadString p).isEmpty then
       Memory.store (word r 0) (Bytes.ofNatLE 8 (← Memory.allocString (.ofString "filled")))
     returnVoid⟩,
   ⟨"ft_out_object", fun _ r => do
     Memory.store (word r 0) (Bytes.ofNatLE 8 (← Object.create 9 false))
     returnVoid⟩,
   ⟨"ft_point_new", fun _ r => do returnWord (← allocInts [int32 r 0, int32 r 1])⟩,
   ⟨"ft_point_fill", fun _ r => do
     storeInt .w32 (word r 0) (int32 r 1)
     storeInt .w32 (word r 0 + 4) (int32 r 2)
     returnVoid⟩,
   ⟨"ft_point_sum", fun _ r => do
     returnInt32 ((← loadInt .w32 (word r 0)) + (← loadInt .w32 (word r 0 + 4)))⟩]

/-- The functions that call callbacks. -/
def callbackExports : List (Export Script Job Reply) :=
  [⟨"ft_apply_binary", fun call r => do returnWord (← callWith call (word r 0) [word r 1, word r 2])⟩,
   ⟨"ft_test_predicate", fun call r => do returnWord (← callWith call (word r 0) [word r 1])⟩,
   ⟨"ft_call_optional", fun call r => do
     if word r 0 = 0 then return ← returnWord 0
     let _ ← callWith call (word r 0) []
     returnWord 1⟩,
   ⟨"ft_run_source", fun call r => do
     let runs ← runSource call (word r 0) (word r 1) 5
     let _ ← callWith call (word r 2) [word r 1]
     returnInt32 runs⟩,
   ⟨"ft_compare_ints", fun call r => do
     let result ← compareInts call (word r 0) (word r 1) (int32 r 3) (int32 r 4)
     let _ ← callWith call (word r 2) [word r 1]
     returnInt32 result⟩,
   ⟨"ft_draw", fun call r => do
     let _ ← callWith call (word r 0) [0, 0, word r 3, word r 4, word r 1]
     let _ ← callWith call (word r 2) [word r 1]
     returnVoid⟩,
   ⟨"ft_hold_data", fun _ r => do
     count fun s => { s with heldData := word r 0, heldNotify := word r 1 }
     returnVoid⟩,
   ⟨"ft_release_data", fun call _ => do
     let s ← state
     if s.heldNotify ≠ 0 then
       let _ ← callWith call s.heldNotify [s.heldData]
     count fun s => { s with heldData := 0, heldNotify := 0 }
     returnVoid⟩,
   ⟨"ft_async_begin", fun _ r => do
     count fun s => { s with readyCode := word r 0, readyData := word r 1 }
     returnVoid⟩,
   ⟨"ft_async_finish", fun call r => do
     let s ← state
     if s.readyCode ≠ 0 then
       let _ ← callWith call s.readyCode [word r 0, 0, s.readyData]
     count fun s => { s with readyCode := 0, readyData := 0 }
     returnVoid⟩]

/-- Everything that the first library exports. -/
def coreExports : List (Export Script Job Reply) :=
  lifetimeExports ++ scalarExports ++ compoundExports ++ callbackExports

end

end NativeBridge.Sample
