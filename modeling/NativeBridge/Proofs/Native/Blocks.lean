import Mathlib.Data.List.TakeWhile
import Mathlib.Order.Basic
import NativeBridge.Memory.Heap

/-!
Bytes in blocks of native memory: what a new block holds, what a store leaves, and what is found on the way to a zero.
-/

namespace NativeBridge

/-- C code sees nothing behind a NUL. -/
lemma Bytes.untilNul_append_nul (s rest : Bytes) : Bytes.untilNul (s ++ 0 :: rest) = Bytes.untilNul s := by
  induction s with
  | nil => rfl
  | cons c s ih =>
    rw [List.cons_append, untilNul, untilNul, List.takeWhile_cons, List.takeWhile_cons]
    exact congrArg (if c != 0 then c :: · else []) ih

lemma Bytes.untilNul_eq_self_iff {s : Bytes} : Bytes.untilNul s = s ↔ 0 ∉ s := by
  rw [untilNul, List.takeWhile_eq_self_iff]
  simp only [bne_iff_ne, ne_eq]
  exact ⟨fun h hz => h 0 hz rfl, fun h c hc hz => h (hz ▸ hc)⟩

namespace Heap

/-- The block that an address lies in holds these bytes, from an offset past the address on. -/
def Holds (h : Heap) (a : Address) (offset : Nat) (bytes : Bytes) : Prop :=
  ∃ b, h.blockAt a = some b ∧ (b.bytes.drop (a - b.base + offset)).take bytes.length = bytes

/-- There is room for this many bytes from an address on. -/
def HasRoom (h : Heap) (a : Address) (count : Nat) : Prop :=
  ∃ b, h.blockAt a = some b ∧ a - b.base + count ≤ b.bytes.length

/-- What a block holds at an address is what is loaded from there. -/
lemma Holds.load {h : Heap} {a : Address} {bytes : Bytes} (hh : h.Holds a 0 bytes) : h.load a bytes.length = bytes := by
  obtain ⟨b, hb, hbytes⟩ := hh
  rw [Nat.add_zero] at hbytes
  have hlength : bytes.length ≤ (b.bytes.drop (a - b.base)).length := by
    have := congrArg List.length hbytes
    rw [List.length_take] at this
    omega
  rw [Heap.load, hb]
  dsimp only
  rw [Bytes.resize, Nat.sub_eq_zero_of_le hlength, List.replicate_zero, List.append_nil, hbytes]

lemma alloc_holds (h : Heap) (before bytes after : Bytes) :
    (h.alloc (before ++ bytes ++ after)).2.Holds (h.alloc (before ++ bytes ++ after)).1 before.length bytes := by
  refine ⟨⟨_, before ++ bytes ++ after⟩, List.find?_cons_of_pos ?_, ?_⟩
  · have : 0 < stride := by decide
    simp [alloc, reserve, this]
  · simp [alloc, reserve]

/-- The bytes of a block at `base` after others were stored from `a` on. -/
def written (base : Nat) (bytes : Bytes) (a : Nat) (new : Bytes) : Bytes :=
  if base ≤ a ∧ a < base + stride then overwrite bytes (a - base) new else bytes

lemma store_eq (h : Heap) (a : Nat) (new : Bytes) :
    h.store a new = { h with blocks := h.blocks.map fun b => ⟨b.base, written b.base b.bytes a new⟩ } := by
  have hblock (b : Block) :
      (if b.base ≤ a && a < b.base + stride then { b with bytes := overwrite b.bytes (a - b.base) new } else b) =
        ⟨b.base, written b.base b.bytes a new⟩ := by
    by_cases hin : b.base ≤ a ∧ a < b.base + stride <;> simp [written, hin]
  simp only [store, hblock]

lemma blockAt_store_eq (h : Heap) (a : Nat) (new : Bytes) (c : Nat) :
    (h.store a new).blockAt c = (h.blockAt c).map fun b => ⟨b.base, written b.base b.bytes a new⟩ := by
  rw [store_eq, blockAt, List.find?_map]
  rfl

lemma blockAt_store {h : Heap} {a : Address} {b : Block} (hb : h.blockAt a = some b) (new : Bytes) :
    (h.store a new).blockAt a = some { b with bytes := overwrite b.bytes (a - b.base) new } := by
  have hin : b.base ≤ a ∧ a < b.base + stride := by
    simpa only [Bool.and_eq_true, decide_eq_true_eq] using List.find?_some hb
  rw [blockAt_store_eq, hb, Option.map_some, written, if_pos hin]

/-- Bytes that have room in place of others. -/
lemma drop_overwrite {old new : Bytes} {offset : Nat} (hroom : offset + new.length ≤ old.length) :
    ((overwrite old offset new).drop offset).take new.length = new := by
  induction offset generalizing old with
  | zero =>
    have hall : new.take old.length = new := List.take_of_length_le (by omega)
    rw [overwrite, hall, List.drop_zero, List.take_left]
  | succ offset ih =>
    cases old with
    | nil => simp at hroom
    | cons c rest =>
      rw [overwrite, List.drop_succ_cons]
      exact ih (by simp at hroom; omega)

lemma store_holds {h : Heap} {a : Address} {new : Bytes} (hroom : h.HasRoom a new.length) :
    (h.store a new).Holds a 0 new := by
  obtain ⟨b, hb, hle⟩ := hroom
  exact ⟨_, blockAt_store hb new, drop_overwrite hle⟩

/-! ### New blocks -/

/-- The later heap has the blocks of the earlier one, and its new blocks are above them. -/
structure Extends (h h' : Heap) : Prop where
  given : h.given ≤ h'.given
  blockAt : ∀ a < (h.given + 1) * stride, h'.blockAt a = h.blockAt a

lemma Extends.refl (h : Heap) : h.Extends h := ⟨le_rfl, fun _ _ => rfl⟩

lemma Extends.trans {h h' h'' : Heap} (he : h.Extends h') (he' : h'.Extends h'') : h.Extends h'' where
  given := he.given.trans he'.given
  blockAt a ha := by
    have hle : (h.given + 1) * stride ≤ (h'.given + 1) * stride :=
      Nat.mul_le_mul_right _ (Nat.succ_le_succ he.given)
    rw [he'.blockAt a (ha.trans_le hle), he.blockAt a ha]

lemma Extends.holds {h h' : Heap} (he : h.Extends h') {a offset : Nat} {bytes : Bytes}
    (ha : a < (h.given + 1) * stride) (hh : h.Holds a offset bytes) : h'.Holds a offset bytes := by
  obtain ⟨b, hb, hbytes⟩ := hh
  exact ⟨b, (he.blockAt a ha).trans hb, hbytes⟩

lemma extends_alloc (h : Heap) (bytes : Bytes) : h.Extends (h.alloc bytes).2 where
  given := Nat.le_succ _
  blockAt a ha := by
    refine List.find?_cons_of_neg ?_
    simp only [Bool.and_eq_true, decide_eq_true_eq, not_and_or, not_le]
    exact .inl ha

/-- A new block is found from everywhere in it. -/
lemma blockAt_alloc {h : Heap} {bytes : Bytes} {offset : Nat} (hoffset : offset < stride) :
    (h.alloc bytes).2.blockAt ((h.alloc bytes).1 + offset) = some ⟨(h.alloc bytes).1, bytes⟩ := by
  refine List.find?_cons_of_pos ?_
  simp only [Bool.and_eq_true, decide_eq_true_eq]
  exact ⟨Nat.le_add_right _ _, Nat.add_lt_add_left hoffset _⟩

/-! ### Up to a zero -/

lemma Holds.loadString {h : Heap} {a : Address} {s : Bytes} (hh : h.Holds a 0 (s ++ [0])) :
    h.loadString a = Bytes.untilNul s := by
  obtain ⟨b, hb, hbytes⟩ := hh
  rw [Nat.add_zero] at hbytes
  rw [Heap.loadString, hb]
  dsimp only
  rw [← List.take_append_drop (s ++ [0]).length (b.bytes.drop (a - b.base)), hbytes, List.append_assoc]
  exact Bytes.untilNul_append_nul s _

/-- Words one after the other. -/
def packed (words : List Nat) : Bytes := words.flatMap (Bytes.ofNatLE 8)

lemma length_packed (words : List Nat) : (packed words).length = 8 * words.length := by
  induction words with
  | nil => rfl
  | cons w rest ih =>
    rw [packed] at ih
    rw [packed, List.flatMap_cons, List.length_append, Bytes.length_ofNatLE, ih, List.length_cons, Nat.mul_succ,
      Nat.add_comm]

lemma drop_packed (words : List Nat) (i : Nat) : (packed words).drop (8 * i) = packed (words.drop i) := by
  induction i generalizing words with
  | zero => rfl
  | succ i ih =>
    cases words with
    | nil => simp [packed]
    | cons x rest =>
      have hcons : packed (x :: rest) = Bytes.ofNatLE 8 x ++ packed rest := rfl
      rw [hcons, Nat.mul_succ, Nat.add_comm, ← List.drop_drop, List.drop_left' (Bytes.length_ofNatLE 8 x), ih,
        List.drop_succ_cons]

/-- The words of a new block, each at its place. -/
lemma loadWord_alloc (h : Heap) {words : List Nat} {i : Nat} (hi : i < words.length) (hword : words[i] < twoPow 64)
    (hroom : 8 * i < stride) :
    (h.alloc (packed words)).2.loadWord ((h.alloc (packed words)).1 + 8 * i) = words[i] := by
  have hdrop : (packed words).drop (8 * i) = Bytes.ofNatLE 8 words[i] ++ packed (words.drop (i + 1)) := by
    rw [drop_packed, List.drop_eq_getElem_cons hi]
    rfl
  have hholds : (h.alloc (packed words)).2.Holds ((h.alloc (packed words)).1 + 8 * i) 0 (Bytes.ofNatLE 8 words[i]) := by
    refine ⟨_, blockAt_alloc hroom, ?_⟩
    rw [Nat.add_sub_cancel_left, Nat.add_zero, hdrop]
    exact List.take_left
  have hload := hholds.load
  rw [Bytes.length_ofNatLE] at hload
  rw [loadWord, hload, Bytes.toNatLE_ofNatLE]
  exact Nat.mod_eq_of_lt hword

/-- Words are read up to the first zero. -/
lemma wordsUntilZero_of_loadWord {h : Heap} {words : List Nat} {fuel : Nat} {a : Address} (hfuel : words.length < fuel)
    (hwords : ∀ x ∈ words, x ≠ 0) (hload : ∀ i ≤ words.length, h.loadWord (a + 8 * i) = words.getD i 0) :
    h.wordsUntilZero fuel a = words := by
  induction words generalizing fuel a with
  | nil =>
    obtain ⟨fuel, rfl⟩ := Nat.exists_eq_succ_of_ne_zero (Nat.ne_zero_of_lt hfuel)
    have hzero : h.loadWord a = 0 := hload 0 le_rfl
    rw [wordsUntilZero, hzero, if_pos rfl]
  | cons x rest ih =>
    obtain ⟨fuel, rfl⟩ := Nat.exists_eq_succ_of_ne_zero (Nat.ne_zero_of_lt hfuel)
    obtain ⟨hx, hrest⟩ := List.forall_mem_cons.1 hwords
    have hword : h.loadWord a = x := hload 0 (Nat.zero_le _)
    have hnext (i : Nat) (hi : i ≤ rest.length) : h.loadWord (a + 8 + 8 * i) = rest.getD i 0 := by
      rw [Nat.add_assoc, Nat.add_comm 8, ← Nat.mul_succ]
      exact hload (i + 1) (Nat.succ_le_succ hi)
    rw [wordsUntilZero, hword, if_neg hx, ih (Nat.lt_of_succ_lt_succ hfuel) hrest hnext]

/-- How many bytes there are in all blocks together. -/
def size (h : Heap) : Nat := (h.blocks.flatMap Block.bytes).length

lemma bound_eq (h : Heap) : h.bound = h.size + 1 := by
  have hfold (blocks : List Block) (n : Nat) :
      blocks.foldl (fun n b => n + b.bytes.length) n = n + (blocks.flatMap Block.bytes).length := by
    induction blocks generalizing n with
    | nil => rfl
    | cons b rest ih => rw [List.foldl_cons, ih, List.flatMap_cons, List.length_append, Nat.add_assoc]
  rw [bound, hfold, size, Nat.add_comm]

/-- A block of words that ends with a zero is read up to it. -/
lemma wordsUntilZero_alloc (h : Heap) {words : List Nat} (hwords : ∀ x ∈ words, x ≠ 0 ∧ x < twoPow 64)
    (hroom : 8 * words.length < stride) :
    (h.alloc (packed (words ++ [0]))).2.wordsUntilZero (h.alloc (packed (words ++ [0]))).2.bound
      (h.alloc (packed (words ++ [0]))).1 = words := by
  refine wordsUntilZero_of_loadWord ?_ (fun x hx => (hwords x hx).1) fun i hi => ?_
  · have hsize : (h.alloc (packed (words ++ [0]))).2.size = (packed (words ++ [0])).length + h.size :=
      List.length_append
    rw [bound_eq, hsize, length_packed, List.length_append]
    omega
  · have hlt : i < (words ++ [0]).length := by simp; omega
    have hget : (words ++ [0])[i] = words.getD i 0 := by
      rcases hi.lt_or_eq with hlt | rfl <;> simp [*]
    have hword : (words ++ [0])[i] < twoPow 64 := by
      rcases List.mem_append.1 (List.getElem_mem hlt) with hmem | hmem
      · exact (hwords _ hmem).2
      · rw [List.mem_singleton.1 hmem]
        exact twoPow_pos 64
    rw [loadWord_alloc h hlt hword (by omega), hget]

end Heap

end NativeBridge
