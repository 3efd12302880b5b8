import NativeBridge.Proofs.Calls.Slots

/-!
What is relied on in the way arguments and results pass between native code and code made for callbacks. From it follows
that native code which hands on to a callback what a call has passed, and returns what it gets for it, changes neither.
-/

namespace NativeBridge

open Eff NativeValue

variable {S : Sides}

/-- The bytes of a slot in memory. -/
def NativeValue.Slot.bytes : Slot → Bytes
  | void => []
  | scalar s => s.bytes
  | pointer p => Bytes.ofNatLE 8 p

/-- The words of a call do not depend on slots that are declared as nothing. A callback of the types that a call
declares finds the slots of the call in its arguments, and what a callback returns is what a call of that return type
receives. -/
structure Convention.Lawful (c : Convention) : Prop where
  void : ∀ types slot slots, c.pass (.void :: types) (slot :: slots) = c.pass types slots
  dealt : ∀ {args : List (Descriptor × Slot)} {types : List AbiType},
    List.Forall₂ (fun a type => a.1.abi = .ok type ∧ a.2.Fits type) args types →
      List.Forall₂ (fun a m => m.1 = a.1 ∧ a.2.bytes <+: m.2) args
        (c.deal (args.map Prod.fst) (c.pass types (args.map Prod.snd)))
  kept : ∀ {type : Descriptor} {abi : AbiType} {v : NativeValue} {buffer : Bytes}, Answer type v →
    type.abi = .ok abi → Thunk.resultBytes v = some buffer → v.returnBytes <+: c.receive abi (c.give type buffer)

/-! ### Words of 64 bits -/

namespace Bytes

lemma ofNatLE_prefix {width size m n : Nat} (hsize : size ≤ width)
    (hmod : m % twoPow (8 * size) = n % twoPow (8 * size)) :
    ofNatLE size n <+: ofNatLE width m := by
  induction size generalizing width m n with
  | zero => exact List.nil_prefix
  | succ size ih =>
    obtain ⟨width, rfl⟩ := Nat.exists_eq_add_one.2 (Nat.lt_of_lt_of_le size.succ_pos hsize)
    have hsplit : twoPow (8 * (size + 1)) = 256 * twoPow (8 * size) := by
      rw [Nat.mul_succ, twoPow_add, Nat.mul_comm]
      rfl
    rw [hsplit, Nat.mod_mul, Nat.mod_mul] at hmod
    have hlow : m % 256 = n % 256 := by omega
    have hhigh : m / 256 % twoPow (8 * size) = n / 256 % twoPow (8 * size) := by omega
    have hbyte : UInt8.ofNat m = UInt8.ofNat n := UInt8.toNat_inj.1 (by simpa using hlow)
    rw [ofNatLE, ofNatLE, hbyte]
    exact (List.prefix_cons_inj _).2 (ih (Nat.le_of_succ_le_succ hsize) hhigh)

lemma toNatLE_zeros (count : Nat) : toNatLE (List.replicate count 0) = 0 := by
  induction count with
  | zero => rfl
  | succ count ih => simp [List.replicate_succ, toNatLE, ih]

lemma toNatLE_append_zeros (b : Bytes) (count : Nat) : toNatLE (b ++ List.replicate count 0) = toNatLE b := by
  induction b with
  | nil => exact toNatLE_zeros count
  | cons c b ih => rw [List.cons_append, toNatLE, toNatLE, ih]

lemma prefix_resize {width : Nat} {b : Bytes} (h : b.length ≤ width) : b <+: resize width b := by
  rw [resize, List.take_of_length_le h]
  exact List.prefix_append _ _

end Bytes

namespace Convention

/-- The bytes of an integer come first in the register that it was extended to. -/
lemma int_prefix (k : IntKind) (n : ℤ) : (Scalar.int k n).bytes <+: Bytes.ofNatLE 8 (k.toRegister n) := by
  have hbits : twoPow (8 * k.width.bytes) = k.width.modulus := by cases k.width <;> rfl
  have hsize : k.width.bytes ≤ 8 := by cases k.width <;> decide
  have hpos : (0 : ℤ) < k.width.modulus := Int.natCast_pos.2 k.width.modulus_pos
  have hword : (k.toWord n : ℤ) = n % k.width.modulus := Int.toNat_of_nonneg (Int.emod_nonneg _ hpos.ne')
  refine Bytes.ofNatLE_prefix hsize ?_
  rw [hbits]
  refine Int.natCast_modEq_iff.1 ((k.toRegister_modEq n).trans ?_)
  rw [hword]
  exact (Int.mod_modEq _ _).symm

/-- A slot is found again by the first argument of its type. -/
lemma memories_cons {d : Descriptor} {type : AbiType} {slot : Slot} (habi : d.abi = .ok type) (hfit : slot.Fits type)
    (ds : List Descriptor) (types : List AbiType) (slots : List Slot) :
    ∃ memory, memories (d :: ds) (words (type :: types) (slot :: slots)) =
      (d, memory) :: memories ds (words types slots) ∧ slot.bytes <+: memory := by
  cases hfit with
  | int k n =>
    refine ⟨Bytes.ofNatLE 8 (k.toRegister n), ?_, int_prefix k n⟩
    cases d with
    | float size => by_cases hsize : size = 32 <;> simp [Descriptor.abi, hsize] at habi
    | undefined => cases habi
    | _ => rfl
  | float x =>
    cases d with
    | float size => exact ⟨_, rfl, Bytes.ofNatLE_prefix (by decide) rfl⟩
    | int size signed => cases hw : Width.ofBits? size <;> simp [Descriptor.abi, hw] at habi
    | _ => cases habi
  | double x =>
    cases d with
    | float size => exact ⟨_, rfl, List.prefix_rfl⟩
    | int size signed => cases hw : Width.ofBits? size <;> simp [Descriptor.abi, hw] at habi
    | _ => cases habi
  | pointer p =>
    refine ⟨Bytes.ofNatLE 8 p, ?_, List.prefix_rfl⟩
    cases d with
    | float size => by_cases hsize : size = 32 <;> simp [Descriptor.abi, hsize] at habi
    | undefined => cases habi
    | _ => rfl

/-! What a callback returns in a register comes first in the return buffer of the call. -/

lemma prefix_buffer_int {k : IntKind} {n : ℤ} (hleast : k.least ≤ n) (hgreatest : n ≤ k.greatest) :
    Bytes.ofNatLE 8 (k.toRegister n) <+:
      buffer (.int k) { int := Bytes.toNatLE (Bytes.ofNatLE 8 (k.toRegister n)) } := by
  simp only [buffer, IntKind.ofWord_register hleast hgreatest]
  exact Bytes.prefix_resize (by simp)

lemma prefix_buffer_pointer (n : Nat) :
    Bytes.ofNatLE 8 n <+: buffer .pointer { int := Bytes.toNatLE (Bytes.ofNatLE 8 n) } := by
  refine .trans ?_ (Bytes.prefix_resize (by simp))
  exact Bytes.ofNatLE_prefix le_rfl (by rw [Bytes.toNatLE_ofNatLE, Nat.mod_mod])

lemma prefix_resize_float {size : Nat} (hsize : size ≤ 8) (n : Nat) :
    Bytes.ofNatLE size n <+:
      Bytes.resize 16 (Bytes.ofNatLE size (Bytes.toNatLE (Bytes.resize 8 (Bytes.ofNatLE size n)))) := by
  have hnumber : Bytes.toNatLE (Bytes.resize 8 (Bytes.ofNatLE size n)) = n % twoPow (8 * size) := by
    rw [Bytes.resize, List.take_of_length_le (by simpa using hsize), Bytes.toNatLE_append_zeros, Bytes.toNatLE_ofNatLE]
  rw [hnumber]
  refine .trans ?_ (Bytes.prefix_resize (by rw [Bytes.length_ofNatLE]; omega))
  exact Bytes.ofNatLE_prefix le_rfl (Nat.mod_mod _ _)

/-- The words of native code keep what the bridge relies on. -/
theorem standard_lawful : standard.Lawful where
  void _ _ _ := rfl
  dealt {args types} hargs := by
    induction hargs with
    | nil => exact .nil
    | @cons a type args types ha _ ih =>
      obtain ⟨memory, hmemory, hprefix⟩ := memories_cons ha.1 ha.2 (args.map Prod.fst) types (args.map Prod.snd)
      change List.Forall₂ _ _ (memories (a.1 :: args.map Prod.fst) (words (type :: types) (a.2 :: args.map Prod.snd)))
      rw [hmemory]
      exact .cons ⟨rfl, hprefix⟩ ih
  kept {type abi v buffer} ha habi hbuffer := by
    cases ha with
    | @int size width hsize signed n hleast hgreatest =>
      rw [Descriptor.abi, hsize] at habi
      cases habi
      cases hbuffer
      exact prefix_buffer_int hleast hgreatest
    | single x =>
      cases habi
      cases hbuffer
      exact prefix_resize_float (by decide) x.bits.toNat
    | double hsize x =>
      rw [Descriptor.abi, if_neg hsize] at habi
      cases habi
      cases hbuffer
      exact prefix_resize_float (by decide) x.bits.toNat
    | boolean b =>
      cases habi
      cases hbuffer
      have hleast : IntKind.least ⟨.w8, false⟩ ≤ if b then 1 else 0 := by cases b <;> decide
      have hgreatest : (if b then 1 else 0) ≤ IntKind.greatest ⟨.w8, false⟩ := by cases b <;> decide
      exact prefix_buffer_int hleast hgreatest
    | pointer htype p =>
      cases hbuffer
      rcases htype with rfl | hobject
      · cases habi
        exact prefix_buffer_pointer p
      · cases type with
        | object | boxed | variant =>
          cases habi
          exact prefix_buffer_pointer p
        | _ => cases hobject

end Convention

/-! ### What is handed on -/

variable {h : Host S}

lemma Scalar.Encodes.slot_fits {type : Descriptor} {v : Value} {s : Scalar} {abi : AbiType} (he : Encodes type v s)
    (habi : type.abi = .ok abi) : Slot.Fits abi (.scalar s) := by
  cases he with
  | int width signed x =>
    have hwidth : Width.ofBits? width.bits = some width := by cases width <;> rfl
    rw [Descriptor.abi, hwidth] at habi
    cases habi
    exact .int _ _
  | single x =>
    cases habi
    exact .float _
  | double x =>
    cases habi
    exact .double _
  | boolean b =>
    cases habi
    exact .int _ _

/-- A number or a truth value that a call passes. -/
structure PassedScalar where
  type : Descriptor
  value : Value
  scalar : Scalar
  encodes : Scalar.Encodes type value scalar
  fits : Scalar.Fits type value

/-- **Arguments that are handed on arrive.** Where a call passes numbers and truth values that fit their types, a
callback of the same types is given these values by the same words. -/
theorem Convention.Lawful.arguments_arrive (hc : h.convention.Lawful) {passed : List PassedScalar}
    {types : List AbiType} (htypes : List.Forall₂ (fun a type => a.type.abi = .ok type) passed types) (w : World S) :
    ∃ us, Eff.collect (fun m : Descriptor × Bytes => argumentFromMemory h m.2 m.1)
        (h.convention.deal (passed.map PassedScalar.type)
          (h.convention.pass types (passed.map fun a => .scalar a.scalar))) w = some (.ok us, w) ∧
      List.Forall₂ (fun a u => Scalar.GivesBack a.type a.value u) passed us := by
  have hfit : List.Forall₂ (fun (a : Descriptor × Slot) type => a.1.abi = .ok type ∧ a.2.Fits type)
      (passed.map fun a => (a.type, .scalar a.scalar)) types :=
    List.forall₂_map_left_iff.2 (htypes.imp fun a type habi => ⟨habi, a.encodes.slot_fits habi⟩)
  have hdealt := hc.dealt hfit
  rw [List.map_map, List.map_map, List.forall₂_map_left_iff] at hdealt
  change List.Forall₂ _ passed (h.convention.deal (passed.map PassedScalar.type)
    (h.convention.pass types (passed.map fun a => .scalar a.scalar))) at hdealt
  generalize h.convention.deal (passed.map PassedScalar.type)
    (h.convention.pass types (passed.map fun a => .scalar a.scalar)) = memories at hdealt
  clear hfit htypes
  induction hdealt with
  | nil => exact ⟨[], rfl, .nil⟩
  | @cons a m passed memories hm _ ih =>
    obtain ⟨us, hus, hback⟩ := ih
    obtain ⟨type, memory⟩ := m
    obtain ⟨rfl, rest, rfl⟩ := hm
    obtain ⟨t, ht, ha⟩ := Scalar.read_back a.encodes a.fits rest
    exact ⟨_, (bind_ok ((Scalar.readsAs h ht).argument w)).trans (bind_ok hus), .cons ha hback⟩

/-- **An answer that is handed on arrives.** Where native code returns what it got from code made for a callback, a call
of the same return type receives what the script function answered. -/
theorem Convention.Lawful.answer_arrives (hc : h.convention.Lawful) {a : Address} {t : Thunk} {abi : AbiType}
    {words : Registers} {native : NativeValue} {w w' : World S} (hcode : Entry.ofAddress? a = none)
    (ht : w.thunks.lookup a = some t) (haccepted : closureReturns t.result = true) (hresult : t.result ≠ .undefined)
    (habi : t.result.abi = .ok abi) (he : Thunk.Ends h t (h.convention.deal t.args words) w (some native) w')
    (hword : native.IsWord) :
    ∃ r, callCode h a words w = some (.ok r, w') ∧ readReturn t.result (h.convention.receive abi r) = .ok native := by
  have ha := he.answer haccepted hresult
  obtain ⟨buffer, hbuffer, -⟩ := ha.resultBytes
  have hrespond := he.respond hresult
  rw [Thunk.bufferOf, Option.bind_some, hbuffer, Option.getD_some] at hrespond
  refine ⟨h.convention.give t.result buffer, ?_, ?_⟩
  · simp only [callCode, hcode]
    rw [bind_ok (get_apply w), ht]
    exact bind_ok hrespond
  · obtain ⟨rest, hrest⟩ := hc.kept ha habi hbuffer
    rw [← hrest]
    exact ha.readReturn_append hword rest

end NativeBridge
