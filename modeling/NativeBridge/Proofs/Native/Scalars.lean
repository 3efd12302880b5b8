import NativeBridge.Native.Marshal
import NativeBridge.Proofs.Effect
import NativeBridge.Proofs.Native.Blocks
import NativeBridge.Proofs.Number.Exact

/-!
Numbers and truth values on their way to native code and back. There are four ways to write them (an argument, an item
of an array, the slot of a reference, a field) and four to read them (a result, an argument of a callback, the slot of a
reference, a field): all write the same bytes, and all read the same value.
-/

namespace NativeBridge

open Eff

variable {S : Sides}

namespace Scalar

/-- The native form of a value of a scalar type. -/
inductive Encodes : Descriptor → Value → Scalar → Prop
  | int (w : Width) (signed : Bool) (x : Double) :
    Encodes (.int w.bits signed) (.number x) (.int ⟨w, signed⟩ (x.toInt ⟨w, signed⟩))
  | single (x : Double) : Encodes (.float 32) (.number x) (.single x.narrow)
  | double (x : Double) : Encodes (.float 64) (.number x) (.double x)
  | boolean (b : Bool) : Encodes .boolean (.boolean b) (.int ⟨.w8, false⟩ (if b then 1 else 0))

/-- What survives the way there and back: an integer that the type has, any number of the full format, any truth
value. -/
inductive Fits : Descriptor → Value → Prop
  | int {w : Width} {signed : Bool} {x : Double} {n : ℤ} (integer : x.value? = some (n : ℚ))
      (least : (⟨w, signed⟩ : IntKind).least ≤ n) (greatest : n ≤ (⟨w, signed⟩ : IntKind).greatest) :
      Fits (.int w.bits signed) (.number x)
  | double (x : Double) : Fits (.float 64) (.number x)
  | boolean (b : Bool) : Fits .boolean (.boolean b)

/-- The value comes back: an integer as that integer, a number of the full format with the same bits. -/
inductive GivesBack : Descriptor → Value → Value → Prop
  | int {size : Nat} {signed : Bool} {x y : Double} {n : ℤ} (before : x.value? = some (n : ℚ))
      (after : y.value? = some (n : ℚ)) : GivesBack (.int size signed) (.number x) (.number y)
  | double (x : Double) : GivesBack (.float 64) (.number x) (.number x)
  | boolean (b : Bool) : GivesBack .boolean (.boolean b) (.boolean b)

end Scalar

/-! ### Registers -/

lemma Bytes.toNatLE_take_eq_mod (width : Nat) (b : Bytes) :
    Bytes.toNatLE (b.take width) = Bytes.toNatLE b % twoPow (8 * width) := by
  induction width generalizing b with
  | zero => simp [toNatLE, twoPow, Nat.mod_one]
  | succ width ih =>
    cases b with
    | nil => simp [toNatLE]
    | cons c rest =>
      have hsplit : twoPow (8 * (width + 1)) = 256 * twoPow (8 * width) := by
        rw [Nat.mul_succ, twoPow_add, Nat.mul_comm]
        rfl
      have hdiv : (c.toNat + 256 * toNatLE rest) / 256 = toNatLE rest := by
        have hc : c.toNat < 256 := c.toNat_lt
        omega
      rw [List.take_succ_cons, toNatLE, toNatLE, ih, hsplit, Nat.mod_mul, hdiv, Nat.add_mul_mod_self_left,
        Nat.mod_eq_of_lt c.toNat_lt]

/-- Of a widened integer only the bytes of its own type count. -/
lemma IntKind.ofWord_take (k : IntKind) (buffer : Bytes) :
    k.ofWord (Bytes.toNatLE (buffer.take 8)) = k.ofWord (Bytes.toNatLE (buffer.take k.width.bytes)) := by
  have hbits : twoPow (8 * k.width.bytes) = k.width.modulus := by cases k.width <;> rfl
  have hdvd : k.width.modulus ∣ twoPow (8 * 8) := by cases k.width <;> decide
  obtain ⟨hleast, hgreatest, hcong⟩ := k.wrap_range (Bytes.toNatLE (buffer.take k.width.bytes))
  refine ofWord_of_modEq hleast hgreatest (Int.ModEq.trans ?_ hcong.symm)
  rw [Bytes.toNatLE_take_eq_mod, Bytes.toNatLE_take_eq_mod, hbits]
  exact Int.natCast_modEq_iff.2 (((Nat.mod_modEq _ _).of_dvd hdvd).trans (Nat.mod_modEq _ _).symm)

/-- A result is narrowed to what a read of its own bytes gives. -/
lemma Scalar.returned?_eq_read? (type : Descriptor) (buffer : Bytes) : returned? type buffer = read? type buffer := by
  cases type with
  | int size signed => simp only [returned?, read?, IntKind.ofWord_take]
  | boolean =>
    have hbyte : (Bytes.toNatLE (buffer.take 1) : ℤ) = IntKind.ofWord ⟨.w8, false⟩ (Bytes.toNatLE (buffer.take 1)) := by
      refine (IntKind.ofWord_of_modEq (Int.natCast_nonneg _) ?_ (Int.ModEq.refl _)).symm
      rw [Bytes.toNatLE_take_eq_mod]
      have hlt := Nat.mod_lt (Bytes.toNatLE buffer) (show 0 < twoPow (8 * 1) by decide)
      have h256 : (⟨.w8, false⟩ : IntKind).greatest = (twoPow (8 * 1) : ℤ) - 1 := rfl
      omega
    simp only [returned?, read?, IntKind.ofWord_take, hbyte]
    rfl
  | _ => rfl

lemma readReturn_of_read? {type : Descriptor} {buffer : Bytes} {s : Scalar} (hs : Scalar.read? type buffer = some s) :
    readReturn type buffer = .ok (.scalar s) := by
  cases type with
  | int | float | boolean => simp only [readReturn, Scalar.returned?_eq_read?, hs]
  | _ => cases hs

/-! ### Ways there and back -/

/-- Every way to native code writes these bytes. -/
structure WritesAs (h : Host S) (type : Descriptor) (v : Value) (bytes : Bytes) : Prop where
  argument : ∀ optional (w : World S), ∃ s,
    toNative h ⟨type, v, optional⟩ w = some (.ok (.scalar s), w) ∧ s.bytes = bytes
  item : ∀ before after (w : World S), (∀ i ∈ before ++ after, ∃ s, Scalar.Encodes type i s) → ∃ p w',
    arrayToNative type .array (.array (before ++ v :: after)) w = some (.ok (.owned p (.blocks [p])), w') ∧
      w'.heap.Holds p (before.length * bytes.length) bytes
  slot : ∀ cell (w : World S), w.cell cell = v → ∃ p w',
    refToNative type (.ref cell) w = some (.ok (.owned p (.slot p [] none)), w') ∧ w'.heap.Holds p 0 bytes
  field : ∀ base offset (w : World S), base ≠ 0 → w.heap.HasRoom (base + offset) bytes.length → ∃ w',
    writeField base offset type v w = some (.ok (), w') ∧ w'.heap.Holds (base + offset) 0 bytes

/-- Every way from native code reads these bytes as this value. -/
structure ReadsAs (h : Host S) (type : Descriptor) (bytes : Bytes) (v : Value) : Prop where
  scalar : readScalar bytes type = .ok v
  result : ∀ w : World S, (do fromNative h (← Eff.ofExcept (readReturn type bytes)) type) w = some (.ok v, w)
  argument : ∀ w, argumentFromMemory h bytes type w = some (.ok v, w)
  slot : ∀ p storage w, w.heap.load p 8 = bytes → readRef h p storage type w = some (.ok v, w)
  field : ∀ base offset w, base ≠ 0 → w.heap.load (base + offset) 8 = bytes →
    readField h base offset type w = some (.ok v, w)

namespace Scalar

/-! ### Reading -/

lemma readsAs (h : Host S) {type : Descriptor} {bytes : Bytes} {s : Scalar} (hs : read? type bytes = some s) :
    ReadsAs h type bytes (s.toValue type) := by
  have hscalar : readScalar bytes type = .ok (s.toValue type) := by rw [readScalar, hs]
  have read (w : World S) : Eff.ofExcept (readScalar bytes type) w = some (.ok (s.toValue type), w) := by
    rw [hscalar, ofExcept_apply]
  have loaded (a : Address) (w : World S) (hload : w.heap.load a 8 = bytes) :
      (Memory.load a 8 >>= fun memory => Eff.ofExcept (readScalar memory type)) w = some (.ok (s.toValue type), w) := by
    have hmemory : (Memory.load a 8 : Eff S Bytes) w = some (.ok bytes, w) := by
      rw [Memory.load, bind_ok (get_apply w), pure_apply, hload]
    rw [bind_ok hmemory, read]
  cases type with
  | int | float | boolean =>
    refine ⟨hscalar, fun w => ?_, read, fun p storage w hload => ?_, fun base offset w hbase hload => ?_⟩
    · rw [readReturn_of_read? hs, bind_ok (ofExcept_apply _ w)]
      rfl
    · exact loaded p w hload
    · rw [readField, if_neg hbase]
      exact loaded (base + offset) w hload
  | _ => cases hs

lemma Encodes.exists_read {type : Descriptor} {v : Value} {s : Scalar} (he : Encodes type v s) (bytes : Bytes) :
    ∃ t, read? type bytes = some t := by
  cases he with
  | int | single | double | boolean => exact ⟨_, rfl⟩

/-! ### Writing -/

lemma Encodes.of_int {width : Width} {signed : Bool} {v : Value} {s : Scalar}
    (hs : Encodes (.int width.bits signed) v s) :
    ∃ x, v = .number x ∧ s = .int ⟨width, signed⟩ (x.toInt ⟨width, signed⟩) := by
  generalize hsize : width.bits = size at hs
  cases hs with
  | int width' signed x =>
    obtain rfl : width = width' := by cases width <;> cases width' <;> simp_all [Width.bits]
    exact ⟨x, rfl, rfl⟩

lemma Encodes.length_eq {type : Descriptor} {v u : Value} {s t : Scalar} (hs : Encodes type v s)
    (ht : Encodes type u t) : s.bytes.length = t.bytes.length := by
  cases hs with
  | int width =>
    obtain ⟨x, rfl, rfl⟩ := ht.of_int
    simp [bytes]
  | single => cases ht; simp [bytes]
  | double => cases ht; simp [bytes]
  | boolean => cases ht; simp [bytes]

lemma Encodes.length_le {type : Descriptor} {v : Value} {s : Scalar} (hs : Encodes type v s) : s.bytes.length ≤ 8 := by
  cases hs with
  | int width => cases width <;> simp [bytes, Width.bytes, Width.bits]
  | single | double | boolean => simp [bytes, Width.bytes, Width.bits]

section Writing

variable {h : Host S} {type : Descriptor} {v : Value} {s : Scalar}

lemma Encodes.fieldBytes_eq (he : Encodes type v s) : fieldBytes type v = .ok s.bytes := by
  cases he with
  | int width => cases width <;> rfl
  | single | double | boolean => rfl

lemma Encodes.toNative_apply (he : Encodes type v s) (optional : Bool) (w : World S) :
    toNative h ⟨type, v, optional⟩ w = some (.ok (.scalar s), w) := by
  cases he with
  | int width => cases width <;> rfl
  | single | double | boolean => rfl

lemma Encodes.scalarSlot_apply (he : Encodes type v s) (w : World S) :
    scalarSlot type v w = makeSlot s.bytes [] none w := by
  cases he with
  | int width => cases width <;> rfl
  | single | double | boolean => rfl

lemma mapM_ok {α β : Type} {f : α → Except Error β} {as : List α} {bs : List β}
    (h : List.Forall₂ (fun a b => f a = .ok b) as bs) : as.mapM f = .ok bs := by
  induction h with
  | nil => rfl
  | cons hab _ ih => rw [List.mapM_cons, hab, ih]; rfl

lemma Encodes.scalarItems_eq {items : List Value} {scalars : List Scalar} (he : Encodes type v s)
    (hitems : List.Forall₂ (Encodes type) items scalars) : scalarItems type items = .ok scalars := by
  cases he with
  | int width signed x =>
    have hsize : ¬(Width.ofBits? width.bits).isNone = true := by cases width <;> decide
    rw [scalarItems, if_neg hsize]
    refine mapM_ok (hitems.imp ?_)
    intro v s hs
    obtain ⟨x, rfl, rfl⟩ := hs.of_int
    cases width <;> rfl
  | single => exact mapM_ok (hitems.imp fun v s hs => by cases hs; rfl)
  | double => exact mapM_ok (hitems.imp fun v s hs => by cases hs; rfl)
  | boolean => exact mapM_ok (hitems.imp fun v s hs => by cases hs; rfl)

lemma Encodes.arrayToNative_apply {items : List Value} {scalars : List Scalar} (he : Encodes type v s)
    (hitems : scalarItems type items = .ok scalars) (w : World S) :
    arrayToNative type .array (.array items) w = packItems (scalars.map bytes) w := by
  have hpack : (Eff.ofExcept (scalarItems type items) >>= fun scalars => packItems (scalars.map bytes)) w =
      packItems (scalars.map bytes) w := by
    rw [hitems, bind_ok (ofExcept_apply _ w)]
  cases he with
  | int | single | double | boolean => exact hpack

lemma exists_encodes {items : List Value} (h : ∀ i ∈ items, ∃ s, Encodes type i s) :
    ∃ scalars, List.Forall₂ (Encodes type) items scalars ∧ ∀ s ∈ scalars, ∃ i, Encodes type i s := by
  induction items with
  | nil => exact ⟨[], .nil, by simp⟩
  | cons i rest ih =>
    obtain ⟨⟨s, hs⟩, hrest⟩ := List.forall_mem_cons.1 h
    obtain ⟨scalars, hscalars, hmem⟩ := ih hrest
    exact ⟨s :: scalars, .cons hs hscalars, List.forall_mem_cons.2 ⟨⟨i, hs⟩, hmem⟩⟩

lemma makeSlot_apply {content : Bytes} (hle : content.length ≤ slotSize) (w : World S) :
    ∃ p w', makeSlot content [] none w = some (.ok (.owned p (.slot p [] none)), w') ∧ w'.heap.Holds p 0 content := by
  have hresize : Bytes.resize slotSize content = [] ++ content ++ List.replicate (slotSize - content.length) 0 := by
    rw [Bytes.resize, List.take_of_length_le hle, List.nil_append]
  have hholds := w.heap.alloc_holds [] content (List.replicate (slotSize - content.length) 0)
  rw [← hresize] at hholds
  exact ⟨_, { w with heap := (w.heap.alloc (Bytes.resize slotSize content)).2 }, rfl, hholds⟩

lemma packItems_apply (before after : List Bytes) {item : Bytes} (hsize : ∀ b ∈ before, b.length = item.length)
    (w : World S) :
    ∃ p w', packItems (before ++ item :: after) w = some (.ok (.owned p (.blocks [p])), w') ∧
      w'.heap.Holds p (before.length * item.length) item := by
  have hflatten : (before ++ item :: after).flatten = before.flatten ++ item ++ after.flatten := by simp
  have hlength : before.flatten.length = before.length * item.length := by
    have hlengths : before.map List.length = List.replicate before.length item.length :=
      List.eq_replicate_iff.2 ⟨List.length_map .., by simpa using hsize⟩
    rw [List.length_flatten, hlengths, List.sum_replicate_nat]
  have hholds := w.heap.alloc_holds before.flatten item after.flatten
  rw [← hflatten, hlength] at hholds
  have hne : ¬(before ++ item :: after).isEmpty = true := by simp
  rw [packItems, if_neg hne]
  exact ⟨_, { w with heap := (w.heap.alloc (before ++ item :: after).flatten).2 }, rfl, hholds⟩

/-- **All ways to native code write the same bytes.** -/
theorem writesAs (h : Host S) (he : Encodes type v s) : WritesAs h type v s.bytes where
  argument optional w := ⟨s, he.toNative_apply optional w, rfl⟩
  item before after w hitems := by
    obtain ⟨scalarsBefore, hbefore, hmem⟩ := exists_encodes fun i hi => hitems i (List.mem_append_left _ hi)
    obtain ⟨scalarsAfter, hafter, -⟩ := exists_encodes fun i hi => hitems i (List.mem_append_right _ hi)
    have hsize : ∀ b ∈ scalarsBefore.map bytes, b.length = s.bytes.length := by
      intro b hb
      obtain ⟨t, ht, rfl⟩ := List.mem_map.1 hb
      obtain ⟨i, hi⟩ := hmem t ht
      exact hi.length_eq he
    obtain ⟨p, w', hpack, hholds⟩ := packItems_apply (scalarsBefore.map bytes) (scalarsAfter.map bytes) hsize w
    rw [List.length_map, ← hbefore.length_eq] at hholds
    refine ⟨p, w', ?_, hholds⟩
    rw [he.arrayToNative_apply (he.scalarItems_eq (List.rel_append hbefore (.cons he hafter)))]
    rw [← List.map_cons, ← List.map_append] at hpack
    exact hpack
  slot cell w hcell := by
    obtain ⟨p, w', hslot, hholds⟩ := makeSlot_apply (he.length_le.trans (by decide)) w
    refine ⟨p, w', ?_, hholds⟩
    have href : ¬(Value.ref cell).isNullish = true := Bool.false_ne_true
    rw [refToNative, if_neg href, bind_ok (get_apply w), Value.asRef, bind_ok (ofExcept_apply (.ok cell) w), hcell]
    rw [← hslot, ← he.scalarSlot_apply w]
    cases he <;> rfl
  field base offset w hbase hroom := by
    refine ⟨{ w with heap := w.heap.store (base + offset) s.bytes }, ?_, Heap.store_holds hroom⟩
    rw [writeField, if_neg hbase, he.fieldBytes_eq, bind_ok (ofExcept_apply _ w)]
    rfl

end Writing

/-! ### There and back -/

lemma ofWord_toWord {k : IntKind} {n : ℤ} (hleast : k.least ≤ n) (hgreatest : n ≤ k.greatest) :
    k.ofWord (k.toWord n) = n := by
  have hpos : (0 : ℤ) < k.width.modulus := Int.natCast_pos.2 k.width.modulus_pos
  have hword : (k.toWord n : ℤ) = n % k.width.modulus := Int.toNat_of_nonneg (Int.emod_nonneg _ hpos.ne')
  refine IntKind.ofWord_of_modEq hleast hgreatest ?_
  rw [hword]
  exact Int.mod_modEq n _

lemma toWord_lt (k : IntKind) (n : ℤ) : k.toWord n < twoPow (8 * k.width.bytes) := by
  have hpos : (0 : ℤ) < k.width.modulus := Int.natCast_pos.2 k.width.modulus_pos
  have hlt := Int.emod_lt_of_pos n hpos
  have hnonneg := Int.emod_nonneg n hpos.ne'
  have hbits : 8 * k.width.bytes = k.width.bits := by cases k.width <;> decide
  rw [hbits]
  change (n % k.width.modulus).toNat < k.width.modulus
  omega

/-- Bytes that stand first are read as the number that they were written for. -/
lemma toNatLE_take (width n : Nat) (rest : Bytes) (hn : n < twoPow (8 * width)) :
    Bytes.toNatLE ((Bytes.ofNatLE width n ++ rest).take width) = n := by
  have htake : (Bytes.ofNatLE width n ++ rest).take width = Bytes.ofNatLE width n :=
    List.take_left' (Bytes.length_ofNatLE width n)
  rw [htake, Bytes.toNatLE_ofNatLE, Nat.mod_eq_of_lt hn]

lemma read_back {type : Descriptor} {v : Value} {s : Scalar} (he : Encodes type v s) (hf : Fits type v) (rest : Bytes) :
    ∃ t, read? type (s.bytes ++ rest) = some t ∧ GivesBack type v (t.toValue type) := by
  cases hf with
  | @int w signed x n integer least greatest =>
    obtain ⟨_, heq, rfl⟩ := he.of_int
    cases heq
    rw [Double.toInt_of_value? integer least greatest]
    have hkind : readKind w.bits signed = ⟨w, signed⟩ := by cases w <;> rfl
    refine ⟨_, rfl, ?_⟩
    dsimp only [bytes]
    rw [hkind, toNatLE_take _ _ rest (toWord_lt _ n), ofWord_toWord least greatest]
    exact .int integer (Double.value?_ofInt integer)
  | double x =>
    cases he
    refine ⟨_, rfl, ?_⟩
    dsimp only [bytes]
    rw [toNatLE_take _ _ rest x.bits.toNat_lt, UInt64.ofNat_toNat]
    exact .double x
  | boolean b =>
    cases he
    refine ⟨_, rfl, ?_⟩
    have hbyte : Bytes.toNatLE (((truth b).bytes ++ rest).take 1) = if b then 1 else 0 := by
      cases b <;> exact toNatLE_take 1 _ rest (by decide)
    change GivesBack _ _ (toValue .boolean (.int ⟨.w8, false⟩ (Bytes.toNatLE (((truth b).bytes ++ rest).take 1) : ℕ)))
    rw [hbyte]
    have hzero : (!(Double.ofInt ((if b then 1 else 0 : ℕ) : ℤ)).eqv (.ofInt 0)) = b := by
      cases b <;> decide +kernel
    rw [toValue, number, hzero]
    exact .boolean b

end Scalar

/-- **Scalars there and back.** A number or a truth value is written to the same bytes as an argument, as an item at any
position of an array, in the slot of a reference and in a field at any offset. Any bytes are read as the same value as a
result, as an argument of a callback, from the slot of a reference and from a field. What fits the type is read back
from the bytes that were written for it, whatever follows them. -/
theorem scalar_conversions_agree (h : Host S) {type : Descriptor} {v : Value} {s : Scalar}
    (he : Scalar.Encodes type v s) :
    WritesAs h type v s.bytes ∧ (∀ bytes, ∃ u, ReadsAs h type bytes u) ∧
      (Scalar.Fits type v → ∀ rest, ∃ u, ReadsAs h type (s.bytes ++ rest) u ∧ Scalar.GivesBack type v u) := by
  refine ⟨Scalar.writesAs h he, fun bytes => ?_, fun hf rest => ?_⟩
  · obtain ⟨t, ht⟩ := he.exists_read bytes
    exact ⟨_, Scalar.readsAs h ht⟩
  · obtain ⟨t, ht, hback⟩ := Scalar.read_back he hf rest
    exact ⟨_, Scalar.readsAs h ht, hback⟩

/-- Native libraries in which nothing is defined, and a script without functions. -/
def emptyHost : Host ⟨Unit, Unit, Unit, Unit⟩ where
  loader := fun _ => .error []
  symbol := fun _ _ => .error []
  anySymbol := fun _ => none
  run := fun _ _ _ => Eff.stuck
  limit := 0
  script := fun _ _ => Eff.stuck
  answer := fun _ => Eff.stuck
  scriptTurn := Eff.stuck
  loopTurn := Eff.stuck

/-- The number `-5` in a signed byte. -/
theorem minus_five_there_and_back :
    WritesAs emptyHost (.int 8 true) (.number (.ofInt (-5))) [0xFB] ∧
      ∃ u, ReadsAs emptyHost (.int 8 true) ([0xFB] ++ [1, 2, 3, 4, 5, 6, 7]) u ∧
        Scalar.GivesBack (.int 8 true) (.number (.ofInt (-5))) u := by
  have hvalue : (Double.ofInt (-5)).value? = some ((-5 : ℤ) : ℚ) := by
    have hreading : (Double.ofInt (-5)).reading = .finite true (5 * twoPow 50) (-50) := by decide +kernel
    norm_num [Double.value?, hreading, Reading.value?, cast_twoPow]
  have hbytes : (Scalar.int ⟨.w8, true⟩ ((Double.ofInt (-5)).toInt ⟨.w8, true⟩)).bytes = [0xFB] := by decide +kernel
  have he : Scalar.Encodes (.int 8 true) (.number (.ofInt (-5))) _ := .int .w8 true _
  have hf : Scalar.Fits (.int 8 true) (.number (.ofInt (-5))) := .int (w := .w8) hvalue (by decide) (by decide)
  obtain ⟨hwrites, -, hback⟩ := scalar_conversions_agree emptyHost he
  rw [← hbytes]
  exact ⟨hwrites, hback hf _⟩

end NativeBridge
