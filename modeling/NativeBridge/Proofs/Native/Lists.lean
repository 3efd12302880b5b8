import Mathlib.Data.List.Perm.Subperm
import NativeBridge.Proofs.Native.Blocks
import NativeBridge.Proofs.Number.Exact
import NativeBridge.Proofs.Ownership.Delivery
import NativeBridge.Proofs.Ownership.Results

/-!
Linked lists from native code. Every node gives one value, in order, and a transferred list is freed once by the function
of its kind, after that. A data word is read as a signed integer of 64 bits whatever the type of the items, so of all
integers only the unsigned ones beyond that do not come back.
-/

namespace NativeBridge

open Eff

variable {S : Sides}

/-! ### Chains of nodes -/

namespace Heap

/-- The nodes of a list from an address on. A node holds its data and the address of the next one, and null ends the
list. -/
inductive Chain (h : Heap) : Address → List Address → Prop
  | nil : Chain h 0 []
  | cons {p next : Address} {nodes : List Address} (given : p ≠ 0) (room : h.HasRoom p 16)
      (link : h.loadWord (p + 8) = next) (rest : Chain h next nodes) : Chain h p (p :: nodes)

namespace Chain

variable {h : Heap} {p : Address} {nodes : List Address}

lemma unique (hc : h.Chain p nodes) {others : List Address} (ho : h.Chain p others) : nodes = others := by
  induction hc generalizing others with
  | nil =>
    cases ho with
    | nil => rfl
    | cons given => exact absurd rfl given
  | cons given _ link _ ih =>
    cases ho with
    | nil => exact absurd rfl given
    | cons _ _ link' rest' => rw [ih (link ▸ link' ▸ rest')]

/-- From each of its nodes on, a list is a list. -/
lemma from_node (hc : h.Chain p nodes) {q : Address} (hq : q ∈ nodes) :
    ∃ before after, nodes = before ++ q :: after ∧ h.Chain q (q :: after) := by
  induction hc with
  | nil => cases hq
  | @cons p next nodes given room link rest ih =>
    rcases List.mem_cons.1 hq with rfl | hq
    · exact ⟨[], nodes, rfl, .cons given room link rest⟩
    · obtain ⟨before, after, hsplit, hchain⟩ := ih hq
      exact ⟨p :: before, after, by rw [hsplit, List.cons_append], hchain⟩

/-- A list that ends never comes back to a node. -/
lemma nodup (hc : h.Chain p nodes) : nodes.Nodup := by
  induction hc with
  | nil => exact List.nodup_nil
  | cons given room link rest ih =>
    refine List.nodup_cons.2 ⟨fun hmem => ?_, ih⟩
    obtain ⟨before, after, hsplit, hagain⟩ := rest.from_node hmem
    have hlength := congrArg List.length (hagain.unique (.cons given room link rest))
    rw [hsplit] at hlength
    simp at hlength
    omega

/-- Each node takes up a byte of memory, so the bound on a walk is never reached. -/
lemma length_le (hc : h.Chain p nodes) : nodes.length ≤ h.size := by
  have hmem : nodes ⊆ h.blocks.flatMap fun b => (List.range b.bytes.length).map (b.base + ·) := by
    intro q hq
    obtain ⟨_, _, -, hchain⟩ := hc.from_node hq
    cases hchain with
    | cons _ room =>
      obtain ⟨b, hb, hroom⟩ := room
      have hin := List.find?_some hb
      simp only [Bool.and_eq_true, decide_eq_true_eq] at hin
      refine List.mem_flatMap.2 ⟨b, List.mem_of_find?_eq_some hb, List.mem_map.2 ⟨q - b.base, ?_, ?_⟩⟩
      · exact List.mem_range.2 (Nat.lt_of_lt_of_le (Nat.lt_add_of_pos_right (by decide)) hroom)
      · exact Nat.add_sub_cancel' hin.1
  have hle := (List.subperm_of_subset hc.nodup hmem).length_le
  simpa [List.length_flatMap, size] using hle

lemma listData_eq (hc : h.Chain p nodes) {fuel : Nat} (hfuel : nodes.length < fuel) :
    h.listData fuel p = nodes.map h.loadWord := by
  induction hc generalizing fuel with
  | nil =>
    obtain ⟨fuel, rfl⟩ := Nat.exists_eq_succ_of_ne_zero (Nat.ne_zero_of_lt hfuel)
    rfl
  | cons given _ link _ ih =>
    obtain ⟨fuel, rfl⟩ := Nat.exists_eq_succ_of_ne_zero (Nat.ne_zero_of_lt hfuel)
    rw [listData, if_neg given, link, ih (Nat.lt_of_succ_lt_succ hfuel), List.map_cons]

/-- A walk over a list finds the data of its nodes, in order. -/
lemma data (hc : h.Chain p nodes) : h.listData h.bound p = nodes.map h.loadWord :=
  hc.listData_eq (h.bound_eq ▸ Nat.lt_succ_of_le hc.length_le)

end Chain

end Heap

/-! ### Integers in a node -/

/-- A value of any type that was extended to a register is read there as a signed value of 64 bits. -/
lemma IntKind.int64_ofWord_toRegister {k : IntKind} {n : ℤ} (hleast : k.least ≤ n) (hgreatest : n ≤ k.greatest) :
    int64.ofWord (k.toRegister n) = if n ≤ int64.greatest then n else n - 2 ^ 64 := by
  have hrange := k.range_le
  have hmodulus : (int64.width.modulus : ℤ) = 2 ^ 64 := rfl
  have hword : (k.toRegister n : ℤ) ≡ n [ZMOD int64.width.modulus] := by
    rw [toRegister, Width.low, wrap_of_range hleast hgreatest, Int.toNat_of_nonneg (Int.emod_nonneg _ (by decide))]
    exact Int.mod_modEq _ _
  split
  · next hn =>
    refine ofWord_of_modEq ?_ hn hword
    rw [Double.least_int64]
    omega
  · next hn =>
    rw [Double.greatest_int64] at hn
    have hwrapped : n ≡ n - 2 ^ 64 [ZMOD int64.width.modulus] := Int.modEq_iff_dvd.2 ⟨-1, by rw [hmodulus]; ring⟩
    refine ofWord_of_modEq ?_ ?_ (hword.trans hwrapped)
    · rw [Double.least_int64]
      omega
    · rw [Double.greatest_int64]
      omega

lemma Format.encodeQuotient_le (f : Format) (negative : Bool) (num den : Nat) :
    f.encodeQuotient negative num den ≤ f.signBit negative + f.infinity := by
  refine Nat.add_le_add_left ?_ _
  dsimp only
  split
  · exact Nat.zero_le _
  · exact Nat.min_le_right _ _

/-- The number nearest to a negative integer is not positive. -/
lemma Double.value?_ofInt_nonpos {n : ℤ} (hn : n < 0) {q : ℚ} (h : (Double.ofInt n).value? = some q) : q ≤ 0 := by
  have hsign : twoPow 63 ≤ (Double.ofInt n).bits.toNat := by
    have hbits : (Double.ofInt n).bits.toNat = binary64.encodeQuotient (decide (n < 0)) n.natAbs 1 := by
      rw [ofInt, ofQuotient]
      exact UInt64.toNat_ofNat_of_lt' ((binary64.encodeQuotient_le _ _ _).trans_lt (by
        cases decide (n < 0) <;> decide))
    rw [hbits, decide_eq_true hn]
    exact Nat.le_add_right _ _
  have hrank : (Double.ofInt n).rank ≤ 0 := by
    rw [rank, if_pos hsign]
    omega
  have hplace : place (Double.ofInt n).rank ≤ 0 := place_strictMono.monotone hrank
  rw [eq_place_of_value? h]
  exact mul_nonpos_of_nonpos_of_nonneg (by exact_mod_cast hplace) (by positivity)

/-- **An integer in a node is read back unless it is beyond the signed integers of 64 bits.** -/
lemma IntKind.read_back_iff {k : IntKind} {n : ℤ} (hleast : k.least ≤ n) (hgreatest : n ≤ k.greatest)
    (hexact : ∃ x : Double, x.value? = some (n : ℚ)) :
    (Double.ofInt (int64.ofWord (k.toRegister n))).value? = some (n : ℚ) ↔ n ≤ int64.greatest := by
  obtain ⟨x, hx⟩ := hexact
  rw [int64_ofWord_toRegister hleast hgreatest]
  split
  · next hn => exact iff_of_true (Double.value?_ofInt hx) hn
  · next hn =>
    refine iff_of_false (fun h => ?_) hn
    have hrange := k.range_le
    rw [Double.greatest_int64] at hn
    have hnonpos : (n : ℚ) ≤ 0 := Double.value?_ofInt_nonpos (by omega) h
    have hn' : n ≤ 0 := by exact_mod_cast hnonpos
    omega

/-! ### Items -/

/-- The function is one that a list goes with. -/
def LifecycleRole.freesList : LifecycleRole → Bool
  | listFree | slistFree => true
  | _ => false

/-- What an item is read as, by its type and its data word. -/
inductive ItemReads (w : World S) (d : Nat) : Descriptor → Value → Prop
  | int {size : Nat} {signed : Bool} : ItemReads w d (.int size signed) (.ofInt (IntKind.int64.ofWord d))
  | null {type : Descriptor} (pointer : ¬type.isScalar) (null : d = 0) : ItemReads w d type .null
  | string {borrowed : Bool} (given : d ≠ 0) : ItemReads w d (.string borrowed) (.string (w.heap.loadString d))
  | object {type : Descriptor} (object : type.isObjectLike) (given : d ≠ 0) (k : Handle) :
      ItemReads w d type (.object (some k))

section

variable {h : Host S} {l : Lifecycle} {log : S.Native → CallLog} {item : Descriptor} {vs : List Value} {e : Uptake}
  {data : List Nat} {u w w' : World S}

/-- Taking up items frees no list. -/
lemma ItemEnters.frees_nothing {d : Nat} {x : Value} (he : ItemEnters h l item w d x e) :
    ∀ q ∈ e.asked, q.role.freesList = false := by
  cases he with
  | object _ _ enters => cases enters <;> simp [LifecycleRole.freesList]
  | _ => simp

lemma InTurn.frees_nothing (hs : InTurn l log (ItemEnters h l item) data vs e w w') :
    ∀ q ∈ e.asked, q.role.freesList = false := by
  induction hs with
  | nil => simp
  | cons one _ _ ih =>
    intro q hq
    rcases List.mem_append.1 hq with hq | hq
    · exact one.frees_nothing q hq
    · exact ih q hq

/-- Integers and strings are read in the world that the walk begins in. -/
lemma itemFromPointer_apply (hitem : item.isListItem) (hobject : ¬item.isObjectLike) :
    ∃ g : Nat → Value, ∀ d, itemFromPointer h d item w = some (.ok (g d), w) ∧ ItemReads w d item (g d) := by
  cases item with
  | int => exact ⟨_, fun d => ⟨rfl, .int⟩⟩
  | string =>
    refine ⟨stringAt w, fun d => ⟨copyString_apply w d, ?_⟩⟩
    by_cases hd : d = 0
    · rw [stringAt, if_pos hd]
      exact .null Bool.false_ne_true hd
    · rw [stringAt, if_neg hd]
      exact .string hd
  | object | boxed | variant => exact absurd rfl hobject
  | _ => cases hitem

lemma Descriptor.not_isScalar_of_isObjectLike {type : Descriptor} (h : type.isObjectLike) : ¬type.isScalar := by
  cases type <;> simp_all [isObjectLike, isScalar]

lemma InTurn.reads_objects (hobject : item.isObjectLike) (hs : InTurn l log (ItemEnters h l item) data vs e u w') :
    List.Forall₂ (ItemReads w · item) data vs := by
  induction hs with
  | nil => exact .nil
  | cons one _ _ ih =>
    refine .cons ?_ ih
    cases one with
    | null _ null => exact .null (Descriptor.not_isScalar_of_isObjectLike hobject) null
    | object _ given => exact .object hobject given _
    | string hstring => rw [hstring] at hobject; cases hobject
    | int hint => rw [hint] at hobject; cases hobject

variable (hn : ∀ a call words, NativeCode call (h.run a call words)) (hl : l.Logs h log) (hr : l.Returns h)

include hn hl hr

/-- All items are read, each in its turn. -/
lemma collect_items (hw : w.lifecycle? = some l) (hitem : item.isListItem) (data : List Nat) :
    ∃ vs e u, Eff.collect (fun d => itemFromPointer h d item) data w = some (.ok vs, u) ∧
      InTurn l log (ItemEnters h l item) data vs e w u ∧ List.Forall₂ (ItemReads w · item) data vs := by
  obtain ⟨vs, u, hcollect, -⟩ := Delivers.collect (fun d _ => .itemFromPointer hn hr hitem d) w hw
  obtain ⟨e, henter⟩ := InTurn.of_collect (f := fun d => itemFromPointer h d item)
    (fun _ _ _ _ _ hsame _ hx => itemFromPointer_enters hn hl (hsame.trans hw) hx) hcollect
  refine ⟨vs, e, u, hcollect, henter, ?_⟩
  by_cases hobject : item.isObjectLike = true
  · exact henter.reads_objects hobject
  · obtain ⟨g, hg⟩ := itemFromPointer_apply (h := h) (w := w) hitem hobject
    rw [collect_apply fun d _ => (hg d).1] at hcollect
    cases hcollect
    exact List.forall₂_map_right_iff.2 (List.forall₂_same.2 fun d _ => (hg d).2)

/-- A list goes with one call of the function of its kind. -/
lemma freeList_gains {kind : ListKind} (hkind : kind ≠ .array) (item : Descriptor) (p : Address)
    (hw : w.lifecycle? = some l) :
    ∃ r w', (∀ {α : Type} (next : Unit → Eff S α),
        (match kind with | .list => l.listFree h p >>= next | _ => l.slistFree h p >>= next) w = next () w') ∧
      Gains l log ⟨[.memory p], [⟨kind.freedBy item, [p], r⟩], []⟩ w w' := by
  cases kind with
  | array => exact absurd rfl hkind
  | list =>
    obtain ⟨⟨⟩, w', hfree, -⟩ := (Delivers.require hn hr .listFree .listFree [p]).bind (fun _ => .pure ()) w hw
    obtain ⟨r, hg⟩ := listFree_gains hn hl hfree
    exact ⟨r, w', fun _ => bind_ok hfree, hg⟩
  | slist =>
    obtain ⟨⟨⟩, w', hfree, -⟩ := (Delivers.require hn hr .slistFree .slistFree [p]).bind (fun _ => .pure ()) w hw
    obtain ⟨r, hg⟩ := slistFree_gains hn hl hfree
    exact ⟨r, w', fun _ => bind_ok hfree, hg⟩

/-- A list is read, and then freed if it was transferred. -/
lemma listFromPointer_apply {kind : ListKind} (hkind : kind ≠ .array) (hitem : item.isListItem)
    (hw : w.lifecycle? = some l) {p : Address} {nodes : List Address} (hchain : w.heap.Chain p nodes)
    (transfer : Bool) :
    ∃ vs e freed u w', listFromPointer h p item kind transfer w = some (.ok (.array vs), w') ∧
      List.Forall₂ (ItemReads w · item) (nodes.map w.heap.loadWord) vs ∧
      InTurn l log (ItemEnters h l item) (nodes.map w.heap.loadWord) vs e w u ∧ Gains l log freed u w' ∧
      freed.asked.map (fun q => (q.role, q.words)) = if transfer then [(kind.freedBy item, [p])] else [] := by
  obtain ⟨vs, e, u, hcollect, henter, hreads⟩ := collect_items hn hl hr hw hitem (nodes.map w.heap.loadWord)
  rw [listFromPointer, bind_ok (currentLifecycle_of hw), bind_ok (get_apply w), hchain.data, bind_ok hcollect]
  cases transfer with
  | false => exact ⟨vs, e, {}, u, u, rfl, hreads, henter, .nothing u, rfl⟩
  | true =>
    obtain ⟨r, w', hfree, hg⟩ := freeList_gains hn hl hr hkind item p (henter.gains.lifecycle.trans hw)
    refine ⟨vs, e, _, u, w', ?_, hreads, henter, hg, rfl⟩
    rw [if_pos rfl]
    cases kind with
    | array => exact absurd rfl hkind
    | list | slist => exact hfree fun _ => pure (Value.array vs)

end

/-- The value is the number that is an integer. -/
def Value.IsInt (v : Value) (n : ℤ) : Prop := ∃ x, v = .number x ∧ x.value? = some (n : ℚ)

/-- An integer that was stored in a node is read as a number, which may be another one. -/
lemma reads_ints_iff {w : World S} {k : IntKind} {ns : List ℤ} {vs : List Value}
    (hreads : List.Forall₂ (ItemReads w · (.int k.width.bits k.signed)) (ns.map k.toRegister) vs)
    (hns : ∀ n ∈ ns, k.least ≤ n ∧ n ≤ k.greatest ∧ ∃ x : Double, x.value? = some (n : ℚ)) :
    List.Forall₂ (fun n v => v.IsInt n) ns vs ↔
      ∀ n ∈ ns, n ≤ IntKind.int64.greatest := by
  induction ns generalizing vs with
  | nil =>
    cases hreads
    simp
  | cons n rest ih =>
    cases hreads with
    | cons hread hrest =>
      obtain ⟨⟨hleast, hgreatest, hexact⟩, hmore⟩ := List.forall_mem_cons.1 hns
      rw [List.forall₂_cons, List.forall_mem_cons, ih hrest hmore]
      refine and_congr_left fun _ => ?_
      cases hread with
      | int =>
        refine Iff.trans ?_ (k.read_back_iff hleast hgreatest hexact)
        constructor
        · rintro ⟨x, hx, hvalue⟩
          obtain rfl := Value.number.inj hx
          exact hvalue
        · exact fun hvalue => ⟨_, rfl, hvalue⟩
      | null hpointer => exact absurd rfl hpointer
      | object hobject => cases hobject

/-- **Lists are read whole, and are freed once if they are transferred.** Every node gives one value, in order, by the
type of the items: objects are taken hold of, strings are copied, and null pointers read as null. Integers that numbers
can hold come back exactly if they are no greater than the signed integers of 64 bits. -/
theorem list_read_back (h : Host S) (hn : ∀ a call words, NativeCode call (h.run a call words)) {l : Lifecycle}
    {log : S.Native → CallLog} (hl : l.Logs h log) (hr : l.Returns h) {w : World S} (hw : w.lifecycle? = some l)
    {kind : ListKind} (hkind : kind ≠ .array) {item : Descriptor} (hitem : item.isListItem) {p : Address}
    {nodes : List Address} (hchain : w.heap.Chain p nodes) (kept transfer : Bool) :
    ∃ vs e freed u w', fromPointer h p (.array item kind kept) transfer w = some (.ok (.array vs), w') ∧
      List.Forall₂ (ItemReads w · item) (nodes.map w.heap.loadWord) vs ∧
      InTurn l log (ItemEnters h l item) (nodes.map w.heap.loadWord) vs e w u ∧
      (∀ q ∈ e.asked, q.role.freesList = false) ∧ Gains l log freed u w' ∧
      freed.asked.map (fun q => (q.role, q.words)) =
        (if transfer ∧ p ≠ 0 then [(kind.freedBy item, [p])] else []) ∧
      ∀ (k : IntKind) (ns : List ℤ), item = .int k.width.bits k.signed → nodes.map w.heap.loadWord = ns.map k.toRegister →
        (∀ n ∈ ns, k.least ≤ n ∧ n ≤ k.greatest ∧ ∃ x : Double, x.value? = some (n : ℚ)) →
        (List.Forall₂ (fun n v => v.IsInt n) ns vs ↔
          ∀ n ∈ ns, n ≤ IntKind.int64.greatest) := by
  have hints {vs : List Value} (hreads : List.Forall₂ (ItemReads w · item) (nodes.map w.heap.loadWord) vs)
      (k : IntKind) (ns : List ℤ) (htype : item = .int k.width.bits k.signed)
      (hdata : nodes.map w.heap.loadWord = ns.map k.toRegister) := reads_ints_iff (htype ▸ hdata ▸ hreads)
  by_cases hp : p = 0
  · subst hp
    cases hchain with
    | cons given => exact absurd rfl given
    | nil =>
      refine ⟨[], {}, {}, w, w, ?_, .nil, .nil w, by simp, .nothing w, by simp, hints .nil⟩
      change arrayFromPointer h 0 item kind transfer w = _
      unfold arrayFromPointer
      rw [if_pos rfl]
      rfl
  · obtain ⟨vs, e, freed, u, w', hread, hreads, henter, hg, hfreed⟩ :=
      listFromPointer_apply hn hl hr hkind hitem hw hchain transfer
    refine ⟨vs, e, freed, u, w', ?_, hreads, henter, henter.frees_nothing, hg, ?_, hints hreads⟩
    · change arrayFromPointer h p item kind transfer w = _
      unfold arrayFromPointer
      rw [if_neg hp, if_pos hkind]
      exact hread
    · rw [hfreed]
      cases transfer <;> simp [hp]

/-! ### Two lists -/

lemma handOutHost_returns : Shelf.ledgerLifecycle.Returns Call.handOutHost where
  functions role := by
    refine ⟨_, rfl, fun words w => ?_⟩
    cases role <;> exact Option.some_ne_none _
  types inner library a ha w := by
    cases ha
    exact Option.some_ne_none _

/-- A list of two nodes, with `-5` in the first and `0` in the second. -/
def twoNodes : Heap :=
  (((Heap.empty.alloc (Heap.packed [0, 0])).2).alloc
    (Heap.packed [(IntKind.mk .w8 true).toRegister (-5), Heap.stride])).2

lemma twoNodes_chain : twoNodes.Chain (2 * Heap.stride) [2 * Heap.stride, Heap.stride] := by
  have hroom (a : Address)
      (ha : (twoNodes.blockAt a).any (fun b => decide (a - b.base + 16 ≤ b.bytes.length)) = true) :
      twoNodes.HasRoom a 16 := by
    obtain ⟨b, hb, hle⟩ := (Option.any_eq_true _ _).1 ha
    exact ⟨b, hb, of_decide_eq_true hle⟩
  have hlink : twoNodes.loadWord (2 * Heap.stride + 8) = Heap.stride := by decide +kernel
  have hend : twoNodes.loadWord (Heap.stride + 8) = 0 := by decide +kernel
  exact .cons (by decide) (hroom _ (by decide +kernel)) hlink
    (.cons (by decide) (hroom _ (by decide +kernel)) hend .nil)

/-- Both are read, and the list is freed. -/
theorem two_signed_bytes_are_read :
    Shelf.ledgerLifecycle.Logs Call.handOutHost Prod.fst ∧ Shelf.ledgerLifecycle.Returns Call.handOutHost ∧
      ∃ vs w', ∃ freed : Uptake, fromPointer Call.handOutHost (2 * Heap.stride) (.array (.int 8 true) .list false) true
          { Call.nothingTakenUp with heap := twoNodes } = some (.ok (.array vs), w') ∧
        List.Forall₂ (fun n v => v.IsInt n) [-5, 0] vs ∧
        freed.asked.map (fun q => (q.role, q.words)) = [(LifecycleRole.listFree, [2 * Heap.stride])] := by
  have hkind : ListKind.list ≠ .array := by decide
  have hitem : Descriptor.isListItem (.int 8 true) = true := rfl
  obtain ⟨vs, e, freed, u, w', hread, -, -, -, -, hfreed, hints⟩ :=
    list_read_back Call.handOutHost Call.handOutHost_native Call.handOutHost_logs handOutHost_returns
      (w := { Call.nothingTakenUp with heap := twoNodes }) rfl hkind hitem twoNodes_chain false true
  have hfive : (Double.ofInt (-5)).value? = some ((-5 : ℤ) : ℚ) := by
    have hreading : (Double.ofInt (-5)).reading = .finite true (5 * twoPow 50) (-50) := by decide +kernel
    norm_num [Double.value?, hreading, Reading.value?, cast_twoPow]
  refine ⟨Call.handOutHost_logs, handOutHost_returns, vs, w', freed, hread, ?_, hfreed⟩
  refine (hints ⟨.w8, true⟩ [-5, 0] rfl (by decide +kernel) ?_).2 (by decide)
  refine List.forall_mem_cons.2 ⟨⟨by decide, by decide, _, hfive⟩, List.forall_mem_cons.2 ⟨?_, by simp⟩⟩
  exact ⟨by decide, by decide, _, by exact_mod_cast Double.value?_zero⟩

/-- **A great unsigned integer is read as a negative one.** The word of a node is read as a signed integer, the same word
in any other place by the type. -/
theorem unsigned_item_turns_negative :
    fromPointer Call.handOutHost Heap.stride (.array (.int 64 false) .slist false) false
        { Call.nothingTakenUp with heap := (Heap.empty.alloc (Heap.packed [2 ^ 63, 0])).2 } =
      some (.ok (.array [.ofInt (-2 ^ 63)]),
        { Call.nothingTakenUp with heap := (Heap.empty.alloc (Heap.packed [2 ^ 63, 0])).2 }) ∧
      readScalar (Bytes.ofNatLE 8 (2 ^ 63)) (.int 64 false) = .ok (.ofInt (2 ^ 63)) := by
  constructor
  · rfl
  · rfl

end NativeBridge
