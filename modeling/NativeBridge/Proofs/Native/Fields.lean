import NativeBridge.Proofs.Native.Scalars

/-!
Fields of structs in native memory. A write replaces the bytes of its field and touches nothing else. So writes to
fields that share no byte may change places, and a field keeps its value until a later write overlaps it.
-/

namespace NativeBridge

open Eff

variable {S : Sides}

namespace Heap

/-! ### Single bytes -/

/-- The byte at an address, if there is one. -/
def byteAt (h : Heap) (a : Address) : Option UInt8 := (h.blockAt a).bind fun b => b.bytes[a - b.base]?

/-- A block of this size starts at an address, and it is found from everywhere in it. -/
def Spans (h : Heap) (base : Address) (size : Nat) : Prop :=
  ∃ bytes : Bytes, bytes.length = size ∧ ∀ i < size, h.blockAt (base + i) = some ⟨base, bytes⟩

lemma length_overwrite (old : Bytes) (offset : Nat) (new : Bytes) :
    (overwrite old offset new).length = old.length := by
  induction offset generalizing old with
  | zero => simp only [overwrite, List.length_append, List.length_take, List.length_drop]; omega
  | succ offset ih =>
    cases old with
    | nil => rfl
    | cons c rest => simp only [overwrite, List.length_cons, ih]

lemma getElem?_overwrite (old : Bytes) (offset : Nat) (new : Bytes) (i : Nat) :
    (overwrite old offset new)[i]? =
      if offset ≤ i ∧ i < offset + new.length ∧ i < old.length then new[i - offset]? else old[i]? := by
  induction offset generalizing old i with
  | zero =>
    rw [overwrite, List.getElem?_append, List.length_take, List.getElem?_take, List.getElem?_drop]
    by_cases hi : i < old.length
    · by_cases hnew : i < new.length
      · simp [hi, hnew]
      · have hindex : new.length + (i - min old.length new.length) = i := by omega
        simp [hi, hnew, hindex]
    · have hpast : ¬i < min old.length new.length := by omega
      have hindex : old.length ≤ new.length + (i - min old.length new.length) := by omega
      simp [hi, hpast, List.getElem?_eq_none hindex]
  | succ offset ih =>
    cases old with
    | nil => simp [overwrite]
    | cons c rest =>
      cases i with
      | zero => simp [overwrite]
      | succ i =>
        rw [overwrite, List.getElem?_cons_succ, List.getElem?_cons_succ, ih, Nat.succ_sub_succ]
        have hsame : (offset + 1 ≤ i + 1 ∧ i + 1 < offset + 1 + new.length ∧ i + 1 < (c :: rest).length) ↔
            offset ≤ i ∧ i < offset + new.length ∧ i < rest.length := by
          rw [List.length_cons]
          omega
        simp only [hsame]

/-- Replacements in places apart may be made in either order. -/
lemma overwrite_comm (old new other : Bytes) {offset offset' : Nat}
    (happart : offset + new.length ≤ offset' ∨ offset' + other.length ≤ offset) :
    overwrite (overwrite old offset new) offset' other = overwrite (overwrite old offset' other) offset new := by
  refine List.ext_getElem? fun i => ?_
  rw [getElem?_overwrite, getElem?_overwrite, getElem?_overwrite, getElem?_overwrite, length_overwrite,
    length_overwrite]
  by_cases hi : offset ≤ i ∧ i < offset + new.length ∧ i < old.length
  · have hother : ¬(offset' ≤ i ∧ i < offset' + other.length ∧ i < old.length) := by omega
    rw [if_neg hother, if_pos hi, if_pos hi]
  · rw [if_neg hi, if_neg hi]

/-! ### Stores -/

lemma length_written (base : Nat) (bytes : Bytes) (a : Nat) (new : Bytes) :
    (written base bytes a new).length = bytes.length := by
  unfold written
  split
  · exact length_overwrite _ _ _
  · rfl

/-- The bytes of the block by their addresses. -/
lemma getElem?_written {base c : Nat} (hc : base ≤ c) (bytes : Bytes) (a : Nat) (new : Bytes) :
    (written base bytes a new)[c - base]? =
      if (base ≤ a ∧ a < base + stride) ∧ a ≤ c ∧ c < a + new.length ∧ c - base < bytes.length then new[c - a]?
      else bytes[c - base]? := by
  by_cases hin : base ≤ a ∧ a < base + stride
  · have hindex : c - base - (a - base) = c - a := by omega
    have hrange : (a - base ≤ c - base ∧ c - base < a - base + new.length ∧ c - base < bytes.length) ↔
        a ≤ c ∧ c < a + new.length ∧ c - base < bytes.length := by omega
    rw [written, if_pos hin, getElem?_overwrite]
    simp only [hrange, hindex, hin, true_and, and_self]
  · simp only [written, hin, false_and, if_false]

lemma written_comm (base : Nat) (bytes : Bytes) {a a' : Nat} {new other : Bytes}
    (happart : a + new.length ≤ a' ∨ a' + other.length ≤ a) :
    written base (written base bytes a new) a' other = written base (written base bytes a' other) a new := by
  by_cases hin : base ≤ a ∧ a < base + stride
  · by_cases hin' : base ≤ a' ∧ a' < base + stride
    · have happart' : a - base + new.length ≤ a' - base ∨ a' - base + other.length ≤ a - base := by omega
      simp only [written, if_pos hin, if_pos hin', overwrite_comm _ _ _ happart']
    · simp only [written, if_neg hin']
  · simp only [written, if_neg hin]

/-- Stores to ranges apart may be made in either order. -/
lemma store_comm (h : Heap) {a a' : Nat} {new other : Bytes} (happart : a + new.length ≤ a' ∨ a' + other.length ≤ a) :
    (h.store a new).store a' other = (h.store a' other).store a new := by
  simp only [store_eq, List.map_map, Function.comp_def, written_comm _ _ happart]

variable {h : Heap} {base size offset : Nat} {new : Bytes}

lemma Spans.store (hb : h.Spans base size) (a : Nat) (new : Bytes) : (h.store a new).Spans base size := by
  obtain ⟨bytes, hsize, hfound⟩ := hb
  refine ⟨written base bytes a new, (length_written ..).trans hsize, fun i hi => ?_⟩
  rw [blockAt_store_eq, hfound i hi, Option.map_some]

lemma Spans.hasRoom (hb : h.Spans base size) (hroom : offset + new.length ≤ size) (hpos : new ≠ []) :
    h.HasRoom (base + offset) new.length := by
  obtain ⟨bytes, hsize, hfound⟩ := hb
  have hlength := List.length_pos_iff.2 hpos
  refine ⟨_, hfound offset (by omega), ?_⟩
  rwa [Nat.add_sub_cancel_left, hsize]

lemma base_le {b : Block} {a : Address} (hb : h.blockAt a = some b) : b.base ≤ a := by
  have hin := List.find?_some hb
  rw [Bool.and_eq_true, decide_eq_true_eq] at hin
  exact hin.1

/-- A store inside a block replaces the bytes of its range, and no others anywhere. -/
lemma Spans.byteAt_store (hb : h.Spans base size) (hroom : offset + new.length ≤ size) (c : Nat) :
    (h.store (base + offset) new).byteAt c =
      if base + offset ≤ c ∧ c < base + offset + new.length then new[c - (base + offset)]? else h.byteAt c := by
  rw [byteAt, byteAt, blockAt_store_eq, Option.bind_map]
  by_cases hc : base + offset ≤ c ∧ c < base + offset + new.length
  · obtain ⟨bytes, hsize, hfound⟩ := hb
    have hat : h.blockAt c = some ⟨base, bytes⟩ := by
      rw [← hfound (c - base) (by omega), Nat.add_sub_of_le (by omega)]
    have hstart : h.blockAt (base + offset) = some ⟨base, bytes⟩ := hfound offset (by omega)
    have hbase : base ≤ base + offset ∧ base + offset < base + stride := by
      simpa using List.find?_some hstart
    have hle : base ≤ c := by omega
    have hlt : c - base < bytes.length := by omega
    rw [if_pos hc, hat, Option.bind_some, Function.comp_apply, getElem?_written hle, if_pos ⟨hbase, hc.1, hc.2, hlt⟩]
  · rw [if_neg hc]
    rcases hat : h.blockAt c with _ | b
    · rfl
    · rw [Option.bind_some, Option.bind_some, Function.comp_apply, getElem?_written (base_le hat), if_neg]
      exact fun hin => hc ⟨hin.2.1, hin.2.2.1⟩

/-- What lies outside of the range of a store stays. -/
lemma Holds.store {a a' : Nat} {other : Bytes} (hh : h.Holds a 0 new)
    (happart : a + new.length ≤ a' ∨ a' + other.length ≤ a) : (h.store a' other).Holds a 0 new := by
  obtain ⟨b, hb, hbytes⟩ := hh
  refine ⟨_, by rw [blockAt_store_eq, hb, Option.map_some], Eq.trans (List.ext_getElem? fun i => ?_) hbytes⟩
  rw [List.getElem?_take, List.getElem?_take]
  split
  next hi =>
    obtain ⟨k, rfl⟩ := Nat.exists_eq_add_of_le (base_le hb)
    have hindex : b.base + k - b.base + 0 + i = b.base + k + i - b.base := by
      rw [Nat.add_assoc b.base k i, Nat.add_sub_cancel_left, Nat.add_sub_cancel_left, Nat.add_zero]
    have hle := Nat.le_trans (Nat.le_add_right b.base k) (Nat.le_add_right (b.base + k) i)
    rw [List.getElem?_drop, List.getElem?_drop, hindex, getElem?_written hle, if_neg]
    rintro ⟨-, hfrom, hto, -⟩
    omega
  next => rfl

lemma take_load (h : Heap) (a : Address) {n width : Nat} (hle : n ≤ width) : (h.load a width).take n = h.load a n := by
  have hresize (bytes : Bytes) : (Bytes.resize width bytes).take n = Bytes.resize n bytes := by
    rw [Bytes.resize, Bytes.resize, List.take_append, List.take_take, List.length_take, List.take_replicate,
      min_eq_left hle]
    congr 2
    omega
  rw [load, load]
  split
  · exact hresize _
  · rw [List.take_replicate, min_eq_left hle]

end Heap

/-! ### Single writes -/

lemma Width.eq_bits {size : Nat} {w : Width} (hw : Width.ofBits? size = some w) : size = w.bits := by
  unfold Width.ofBits? at hw
  split at hw <;> cases hw <;> rfl

namespace Descriptor

/-- How many bytes a value of a scalar type has in memory. -/
def width : Descriptor → Nat
  | int size _ => size / 8
  | float size => if size = 32 then 4 else 8
  | boolean => 1
  | _ => 0

end Descriptor

/-- The value that a field of a type has after a value was written to it. -/
inductive ConvertsTo : Descriptor → Value → Value → Prop
  | int (w : Width) (signed : Bool) (x : Double) :
    ConvertsTo (.int w.bits signed) (.number x) (.number (.ofInt (x.toInt ⟨w, signed⟩)))
  | single (x : Double) : ConvertsTo (.float 32) (.number x) (.number x.narrow.widen)
  | double {size : Nat} (other : size ≠ 32) (x : Double) : ConvertsTo (.float size) (.number x) (.number x)
  | boolean (b : Bool) : ConvertsTo .boolean (.boolean b) (.boolean b)

/-- A write to a field of a struct. -/
structure FieldWrite where
  offset : Nat
  type : Descriptor
  value : Value

namespace FieldWrite

/-- The bytes that a type gets have its width and are read as the converted value, whatever follows them. -/
structure Stored (type : Descriptor) (v : Value) (bytes : Bytes) : Prop where
  width : bytes.length = type.width
  pos : 0 < type.width
  le : type.width ≤ 8
  reads : ∃ s : Scalar, ConvertsTo type v (s.toValue type) ∧ ∀ rest, Scalar.read? type (bytes ++ rest) = some s

lemma stored_int (w : Width) (signed : Bool) (x : Double) :
    Stored (.int w.bits signed) (.number x) (Scalar.int ⟨w, signed⟩ (x.toInt ⟨w, signed⟩)).bytes where
  width := by rw [Scalar.bytes, Bytes.length_ofNatLE]; rfl
  pos := by cases w <;> simp [Descriptor.width, Width.bits]
  le := by cases w <;> simp [Descriptor.width, Width.bits]
  reads := by
    refine ⟨.int ⟨w, signed⟩ (x.toInt ⟨w, signed⟩), .int w signed x, fun rest => ?_⟩
    have hkind : Scalar.readKind w.bits signed = ⟨w, signed⟩ := by cases w <;> rfl
    obtain ⟨hleast, hgreatest, -⟩ := IntKind.wrap_range ⟨w, signed⟩ x.truncate
    have hback := Scalar.ofWord_toWord hleast hgreatest
    dsimp only [Scalar.read?, Scalar.bytes]
    rw [hkind, Scalar.toNatLE_take _ _ rest (Scalar.toWord_lt _ _), Double.toInt, hback]

lemma stored_single (x : Double) : Stored (.float 32) (.number x) (Scalar.single x.narrow).bytes where
  width := rfl
  pos := by decide
  le := by decide
  reads := by
    refine ⟨.single x.narrow, .single x, fun rest => ?_⟩
    dsimp only [Scalar.read?, Scalar.bytes]
    rw [if_pos rfl, Scalar.toNatLE_take _ _ rest x.narrow.bits.toNat_lt, UInt32.ofNat_toNat]

lemma stored_double {size : Nat} (hsize : size ≠ 32) (x : Double) :
    Stored (.float size) (.number x) (Scalar.double x).bytes where
  width := by rw [Descriptor.width, if_neg hsize]; rfl
  pos := by rw [Descriptor.width, if_neg hsize]; decide
  le := by rw [Descriptor.width, if_neg hsize]
  reads := by
    refine ⟨.double x, .double hsize x, fun rest => ?_⟩
    dsimp only [Scalar.read?, Scalar.bytes]
    rw [if_neg hsize, Scalar.toNatLE_take _ _ rest x.bits.toNat_lt, UInt64.ofNat_toNat]

lemma stored_boolean (b : Bool) : Stored .boolean (.boolean b) (Scalar.truth b).bytes where
  width := by cases b <;> rfl
  pos := by decide
  le := by decide
  reads := by
    have hbyte (rest : Bytes) : Bytes.toNatLE (((Scalar.truth b).bytes ++ rest).take 1) = if b then 1 else 0 := by
      cases b <;> exact Scalar.toNatLE_take 1 _ rest (by decide)
    have hvalue : (!(Double.ofInt (if b then 1 else 0 : ℕ)).eqv (.ofInt 0)) = b := by
      cases b <;> decide +kernel
    refine ⟨.int ⟨.w8, false⟩ (if b then 1 else 0 : ℕ), ?_, fun rest => ?_⟩
    · rw [Scalar.toValue, Scalar.number, hvalue]
      exact .boolean b
    · rw [Scalar.read?, hbyte]

/-- A value that a field type takes is stored, any other raises. -/
lemma fieldBytes_cases (type : Descriptor) (v : Value) :
    (∃ bytes, fieldBytes type v = .ok bytes ∧ Stored type v bytes) ∨
      (∃ e, fieldBytes type v = .error e) ∧ ∀ u, ¬ConvertsTo type v u := by
  cases type with
  | int size signed =>
    cases v with
    | number x =>
      rcases hw : Width.ofBits? size with _ | w
      · refine .inr ⟨⟨.nativeIntSize size, ?_⟩, ?_⟩
        · simp only [fieldBytes, Value.asNumber, Scalar.ofInteger, hw]
          rfl
        · rintro _ ⟨w, -, -⟩
          cases w <;> cases hw
      · obtain rfl := Width.eq_bits hw
        refine .inl ⟨_, ?_, stored_int w signed x⟩
        simp only [fieldBytes, Value.asNumber, Scalar.ofInteger, hw]
        rfl
    | _ => exact .inr ⟨⟨_, rfl⟩, by rintro _ ⟨⟩⟩
  | float size =>
    cases v with
    | number x =>
      by_cases hsize : size = 32
      · subst hsize
        exact .inl ⟨_, rfl, stored_single x⟩
      · refine .inl ⟨_, ?_, stored_double hsize x⟩
        simp only [fieldBytes, Value.asNumber, Scalar.ofFloat, if_neg hsize]
        rfl
    | _ => exact .inr ⟨⟨_, rfl⟩, by rintro _ ⟨⟩⟩
  | boolean =>
    cases v with
    | boolean b => exact .inl ⟨_, rfl, stored_boolean b⟩
    | _ => exact .inr ⟨⟨_, rfl⟩, by rintro _ ⟨⟩⟩
  | _ => exact .inr ⟨⟨_, rfl⟩, by rintro _ ⟨⟩⟩

/-- Writes a field of the struct at `base`. -/
def perform (base : Address) (f : FieldWrite) : Eff S Unit := writeField base f.offset f.type f.value

/-- The fields have no byte in common. -/
def Apart (f g : FieldWrite) : Prop :=
  f.offset + f.type.width ≤ g.offset ∨ g.offset + g.type.width ≤ f.offset

/-- The bytes of the field are replaced, and nothing else in the world is different. -/
structure Changes (base : Nat) (f : FieldWrite) (w w' : World S) : Prop where
  world : w' = { w with heap := { w.heap with blocks := w'.heap.blocks } }
  inside : ∃ bytes, fieldBytes f.type f.value = .ok bytes ∧ bytes.length = f.type.width ∧
    ∀ i < f.type.width, w'.heap.byteAt (base + f.offset + i) = bytes[i]?
  outside : ∀ a, a < base + f.offset ∨ base + f.offset + f.type.width ≤ a → w'.heap.byteAt a = w.heap.byteAt a

section Runs

variable {base size : Nat} {f g : FieldWrite} {fs : List FieldWrite} {w w' : World S}

lemma perform_eq_ok : f.perform base w = some (.ok (), w') ↔
    base ≠ 0 ∧ ∃ bytes, fieldBytes f.type f.value = .ok bytes ∧
      w' = { w with heap := w.heap.store (base + f.offset) bytes } := by
  unfold perform writeField
  by_cases hbase : base = 0
  · simp [hbase]
  · rw [if_neg hbase, ofExcept_bind_eq_some]
    simp [hbase, Memory.store, eq_comm]

/-- A write ends. It raises exactly without a struct or a value of the type, and then nothing has changed. -/
lemma perform_cases (base : Nat) (f : FieldWrite) (w : World S) :
    ((∃ w', f.perform base w = some (.ok (), w')) ∧ base ≠ 0 ∧ ∃ u, ConvertsTo f.type f.value u) ∨
      (∃ e, f.perform base w = some (.error e, w)) ∧ (base = 0 ∨ ∀ u, ¬ConvertsTo f.type f.value u) := by
  by_cases hbase : base = 0
  · refine .inr ⟨⟨.nullWrite, ?_⟩, .inl hbase⟩
    rw [perform, writeField, if_pos hbase, throw_apply]
  · rcases fieldBytes_cases f.type f.value with ⟨bytes, hbytes, hstored⟩ | ⟨⟨e, he⟩, hnone⟩
    · obtain ⟨s, hs, -⟩ := hstored.reads
      exact .inl ⟨⟨_, perform_eq_ok.2 ⟨hbase, bytes, hbytes, rfl⟩⟩, hbase, _, hs⟩
    · refine .inr ⟨⟨e, ?_⟩, .inr hnone⟩
      rw [perform, writeField, if_neg hbase, he, bind_error (ofExcept_apply _ w)]

lemma perform_error_iff :
    (∃ e, f.perform base w = some (.error e, w')) ↔ w' = w ∧ (base = 0 ∨ ∀ u, ¬ConvertsTo f.type f.value u) := by
  rcases perform_cases base f w with ⟨⟨w₁, hok⟩, hbase, u, hu⟩ | ⟨⟨e, herror⟩, hcause⟩
  · constructor
    · rintro ⟨e, he⟩
      rw [hok] at he
      cases he
    · rintro ⟨-, hzero | hnone⟩
      · exact absurd hzero hbase
      · exact absurd hu (hnone u)
  · constructor
    · rintro ⟨e', he⟩
      rw [herror] at he
      cases he
      exact ⟨rfl, hcause⟩
    · rintro ⟨rfl, -⟩
      exact ⟨e, herror⟩

lemma Stored.of_fieldBytes {type : Descriptor} {v : Value} {bytes : Bytes} (h : fieldBytes type v = .ok bytes) :
    Stored type v bytes := by
  rcases fieldBytes_cases type v with ⟨bytes', h', hstored⟩ | ⟨⟨e, he⟩, -⟩
  · rw [h] at h'
    cases h'
    exact hstored
  · rw [h] at he
    cases he

lemma perform_changes (hblock : w.heap.Spans base size) (hinside : f.offset + f.type.width ≤ size)
    (hrun : f.perform base w = some (.ok (), w')) : f.Changes base w w' := by
  obtain ⟨-, bytes, hbytes, rfl⟩ := perform_eq_ok.1 hrun
  have hwidth := (Stored.of_fieldBytes hbytes).width
  have hbyteAt := hblock.byteAt_store (hwidth ▸ hinside)
  refine ⟨rfl, ⟨bytes, hbytes, hwidth, fun i hi => ?_⟩, fun a ha => ?_⟩
  · rw [hbyteAt, if_pos ⟨by omega, by omega⟩, Nat.add_sub_cancel_left]
  · rw [hbyteAt, if_neg (by omega)]

lemma perform_spans (hblock : w.heap.Spans base size) (hrun : f.perform base w = some (.ok (), w')) :
    w'.heap.Spans base size := by
  obtain ⟨-, bytes, -, rfl⟩ := perform_eq_ok.1 hrun
  exact hblock.store _ bytes

lemma Apart.ranges (happart : f.Apart g) (base : Nat) {bytes other : Bytes} (hwidth : bytes.length = f.type.width)
    (hwidth' : other.length = g.type.width) :
    base + f.offset + bytes.length ≤ base + g.offset ∨ base + g.offset + other.length ≤ base + f.offset := by
  rw [hwidth, hwidth']
  rcases happart with h | h
  · exact .inl (by omega)
  · exact .inr (by omega)

/-- Writes to fields apart lead to the same world in either order. -/
lemma perform_comm {w₁ w₂ : World S} (happart : f.Apart g) (hf : f.perform base w = some (.ok (), w₁))
    (hg : g.perform base w₁ = some (.ok (), w₂)) :
    ∃ w₁', g.perform base w = some (.ok (), w₁') ∧ f.perform base w₁' = some (.ok (), w₂) := by
  obtain ⟨hbase, bytes, hbytes, rfl⟩ := perform_eq_ok.1 hf
  obtain ⟨-, other, hother, rfl⟩ := perform_eq_ok.1 hg
  have hwidth := (Stored.of_fieldBytes hbytes).width
  have hwidth' := (Stored.of_fieldBytes hother).width
  refine ⟨_, perform_eq_ok.2 ⟨hbase, other, hother, rfl⟩, perform_eq_ok.2 ⟨hbase, bytes, hbytes, ?_⟩⟩
  have hranges := happart.ranges base hwidth hwidth'
  simp only [Heap.store_comm _ hranges]

/-! ### Sequences of writes -/

lemma each_append {fs gs : List FieldWrite} :
    each (perform base) (fs ++ gs) w = some (.ok (), w') ↔
      ∃ w₁, each (perform base) fs w = some (.ok (), w₁) ∧ each (perform base) gs w₁ = some (.ok (), w') := by
  induction fs generalizing w with
  | nil => simp [each]
  | cons f fs ih =>
    rw [List.cons_append, each, each, bind_eq_ok]
    simp only [ih, bind_eq_ok]
    constructor
    · rintro ⟨⟨⟩, w₁, hf, w₂, hfs, hgs⟩
      exact ⟨w₂, ⟨⟨⟩, w₁, hf, hfs⟩, hgs⟩
    · rintro ⟨w₂, ⟨⟨⟩, w₁, hf, hfs⟩, hgs⟩
      exact ⟨⟨⟩, w₁, hf, w₂, hfs, hgs⟩

lemma each_spans (hblock : w.heap.Spans base size) (hrun : each (perform base) fs w = some (.ok (), w')) :
    w'.heap.Spans base size := by
  induction fs generalizing w with
  | nil =>
    cases hrun
    exact hblock
  | cons f fs ih =>
    obtain ⟨⟨⟩, w₁, hf, hfs⟩ := bind_eq_ok.1 hrun
    exact ih (perform_spans hblock hf) hfs

/-- Bytes stay through writes to fields apart from theirs. -/
lemma each_holds {bytes : Bytes} (hheld : w.heap.Holds (base + f.offset) 0 bytes) (hwidth : bytes.length = f.type.width)
    (happart : ∀ g ∈ fs, f.Apart g) (hrun : each (perform base) fs w = some (.ok (), w')) :
    w'.heap.Holds (base + f.offset) 0 bytes := by
  induction fs generalizing w with
  | nil =>
    cases hrun
    exact hheld
  | cons g fs ih =>
    obtain ⟨⟨⟩, w₁, hg, hfs⟩ := bind_eq_ok.1 hrun
    obtain ⟨hgap, hrest⟩ := List.forall_mem_cons.1 happart
    obtain ⟨-, other, hother, rfl⟩ := perform_eq_ok.1 hg
    have hranges := hgap.ranges base hwidth (Stored.of_fieldBytes hother).width
    exact ih (hheld.store hranges) hrest hfs

/-- A field is read as it was written as long as its bytes stay. -/
lemma readField_of_holds (h : Host S) (hbase : base ≠ 0) {bytes : Bytes}
    (hbytes : fieldBytes f.type f.value = .ok bytes) (hheld : w.heap.Holds (base + f.offset) 0 bytes) :
    ∃ u, ConvertsTo f.type f.value u ∧ readField h base f.offset f.type w = some (.ok u, w) := by
  obtain ⟨hwidth, -, hle, s, hconverts, hread⟩ := Stored.of_fieldBytes hbytes
  have hload : (w.heap.load (base + f.offset) 8).take bytes.length = bytes :=
    (Heap.take_load _ _ (hwidth ▸ hle)).trans hheld.load
  have hsplit : w.heap.load (base + f.offset) 8 = bytes ++ (w.heap.load (base + f.offset) 8).drop bytes.length := by
    nth_rewrite 1 [← List.take_append_drop bytes.length (w.heap.load (base + f.offset) 8), hload]
    rfl
  exact ⟨_, hconverts, (Scalar.readsAs h (hread _)).field base f.offset w hbase hsplit⟩

/-- The run of a sequence stops before a write and after it. -/
lemma each_middle {before after : List FieldWrite}
    (hrun : each (perform base) (before ++ f :: after) w = some (.ok (), w')) :
    ∃ w₁ w₂, each (perform base) before w = some (.ok (), w₁) ∧ f.perform base w₁ = some (.ok (), w₂) ∧
      each (perform base) after w₂ = some (.ok (), w') := by
  obtain ⟨w₁, hbefore, hrest⟩ := each_append.1 hrun
  obtain ⟨⟨⟩, w₂, hf, hafter⟩ := bind_eq_ok.1 hrest
  exact ⟨w₁, w₂, hbefore, hf, hafter⟩

lemma each_swap {before after : List FieldWrite} (happart : f.Apart g)
    (hrun : each (perform base) (before ++ f :: g :: after) w = some (.ok (), w')) :
    each (perform base) (before ++ g :: f :: after) w = some (.ok (), w') := by
  obtain ⟨w₁, w₂, hbefore, hf, hrest⟩ := each_middle hrun
  obtain ⟨⟨⟩, w₃, hg, hafter⟩ := bind_eq_ok.1 hrest
  obtain ⟨w₂', hg', hf'⟩ := perform_comm happart hf hg
  have hswapped : each (perform base) (g :: f :: after) w₁ = some (.ok (), w') := by
    rw [each, bind_ok hg', each, bind_ok hf', hafter]
  exact each_append.2 ⟨w₁, hbefore, hswapped⟩

/-- A field that no later write overlaps is read as it was written. -/
lemma each_readField (h : Host S) {before after : List FieldWrite} (hblock : w.heap.Spans base size)
    (hinside : f.offset + f.type.width ≤ size) (happart : ∀ g ∈ after, f.Apart g)
    (hrun : each (perform base) (before ++ f :: after) w = some (.ok (), w')) :
    ∃ u, ConvertsTo f.type f.value u ∧ readField h base f.offset f.type w' = some (.ok u, w') := by
  obtain ⟨w₁, w₂, hbefore, hf, hafter⟩ := each_middle hrun
  obtain ⟨hbase, bytes, hbytes, rfl⟩ := perform_eq_ok.1 hf
  obtain ⟨hwidth, hpos, -, -⟩ := Stored.of_fieldBytes hbytes
  have hne : bytes ≠ [] := List.ne_nil_of_length_pos (hwidth ▸ hpos)
  have hheld := Heap.store_holds ((each_spans hblock hbefore).hasRoom (hwidth ▸ hinside) hne)
  exact readField_of_holds h hbase hbytes (each_holds hheld hwidth happart hafter)

end Runs

end FieldWrite

open FieldWrite

/-- **Fields are written one by one.** In a sequence of writes to the fields of a struct, each write replaces the bytes
of its field and changes nothing else. Neighbours in the sequence that have no byte in common may change places. A field
that no later write overlaps is read as the value that was written, converted to its type. A write that raises, for want
of a struct or of a value of the type, changes nothing at all. -/
theorem field_writes (h : Host S) {base size : Nat} {fs : List FieldWrite} {w w' : World S}
    (hblock : w.heap.Spans base size) (hinside : ∀ f ∈ fs, f.offset + f.type.width ≤ size)
    (hrun : each (perform base) fs w = some (.ok (), w')) :
    (∀ before f after, fs = before ++ f :: after → ∃ w₁ w₂, each (perform base) before w = some (.ok (), w₁) ∧
      f.perform base w₁ = some (.ok (), w₂) ∧ each (perform base) after w₂ = some (.ok (), w') ∧
      f.Changes base w₁ w₂) ∧
    (∀ before f g after, fs = before ++ f :: g :: after → f.Apart g →
      each (perform base) (before ++ g :: f :: after) w = some (.ok (), w')) ∧
    (∀ before f after, fs = before ++ f :: after → (∀ g ∈ after, f.Apart g) →
      ∃ u, ConvertsTo f.type f.value u ∧ readField h base f.offset f.type w' = some (.ok u, w')) ∧
    ∀ (f : FieldWrite) (address : Address) (u u' : World S),
      (∃ e, f.perform address u = some (.error e, u')) ↔
        u' = u ∧ (address = 0 ∨ ∀ v, ¬ConvertsTo f.type f.value v) := by
  refine ⟨fun before f after hfs => ?_, fun before f g after hfs happart => ?_, fun before f after hfs happart => ?_,
    fun f address u u' => perform_error_iff⟩
  · obtain ⟨w₁, w₂, hbefore, hf, hafter⟩ := each_middle (hfs ▸ hrun)
    have hroom : f.offset + f.type.width ≤ size := hinside f (by simp [hfs])
    exact ⟨w₁, w₂, hbefore, hf, hafter, perform_changes (each_spans hblock hbefore) hroom hf⟩
  · exact each_swap happart (hfs ▸ hrun)
  · exact each_readField h hblock (hinside f (by simp [hfs])) happart (hfs ▸ hrun)

/-- A world with a struct of sixteen zeros. -/
def blankStruct : World ⟨Unit, Unit, Unit, Unit⟩ where
  native := ()
  side := ()
  heap := (Heap.empty.alloc (List.replicate 16 0)).2

/-- The number `-2` behind one byte, a truth value next to it, and `300` in the byte before it. -/
def threeWrites : List FieldWrite :=
  [⟨1, .int 32 true, .number (.ofInt (-2))⟩, ⟨5, .boolean, .boolean true⟩, ⟨0, .int 8 false, .number (.ofInt 300)⟩]

/-- The number is read back, and so it is if the truth value comes first. -/
theorem three_fields_written :
    blankStruct.heap.Spans Heap.stride 16 ∧ (∀ f ∈ threeWrites, f.offset + f.type.width ≤ 16) ∧
      ∃ w', each (perform Heap.stride) threeWrites blankStruct = some (.ok (), w') ∧
        readField emptyHost Heap.stride 1 (.int 32 true) w' = some (.ok (.number (.ofInt (-2))), w') ∧
        each (perform Heap.stride)
          [⟨5, .boolean, .boolean true⟩, ⟨1, .int 32 true, .number (.ofInt (-2))⟩,
            ⟨0, .int 8 false, .number (.ofInt 300)⟩] blankStruct = some (.ok (), w') := by
  have hblock : blankStruct.heap.Spans Heap.stride 16 :=
    ⟨_, List.length_replicate, fun i hi => Heap.blockAt_alloc (hi.trans (by decide))⟩
  have hinside : ∀ f ∈ threeWrites, f.offset + f.type.width ≤ 16 := by decide
  have hrun : ∃ w', each (perform Heap.stride) threeWrites blankStruct = some (.ok (), w') := ⟨_, rfl⟩
  obtain ⟨w', hrun⟩ := hrun
  obtain ⟨-, hswap, hread, -⟩ := field_writes emptyHost hblock hinside hrun
  obtain ⟨u, hu, hback⟩ := hread [] _ _ rfl (by unfold FieldWrite.Apart; decide)
  have hvalue : u = .number (.ofInt (-2)) := by
    generalize hsize : 32 = size at hu
    cases hu with
    | int w signed x =>
      obtain rfl : w = .w32 := by cases w <;> simp_all [Width.bits]
      have hnumber : (Double.ofInt (-2)).toInt ⟨.w32, true⟩ = -2 := by decide +kernel
      rw [hnumber]
  rw [hvalue] at hback
  exact ⟨hblock, hinside, w', hrun, hback, hswap [] _ _ _ rfl (by unfold FieldWrite.Apart; decide)⟩

end NativeBridge
