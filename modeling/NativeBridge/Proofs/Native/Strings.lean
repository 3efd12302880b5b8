import NativeBridge.Proofs.Native.Scalars
import NativeBridge.Proofs.Ownership.Pointers

/-!
Arrays of strings on their way to native code and back. Each string gets a block of its own that ends with a NUL, and
the array is a block of their addresses that ends with a null pointer. Who walks it finds every string as far as its first
NUL: a string with a NUL inside, which is refused as an argument of its own, comes back cut.
-/

namespace NativeBridge

open Eff

variable {S : Sides}

/-- There is room for an array of this many strings: their addresses are words, and the array fits into a block. -/
def Heap.Admits (heap : Heap) (count : Nat) : Prop :=
  (heap.given + count) * Heap.stride < twoPow 64 ∧ 8 * count < Heap.stride

/-- A pointer to a string. -/
def Heap.StringAt (heap : Heap) (p : Address) (s : Bytes) : Prop := p ≠ 0 ∧ heap.Holds p 0 (s ++ [0])

/-! ### To native code -/

lemma allocString_apply (s : Bytes) (w : World S) :
    ∃ p heap, Memory.allocString s w = some (.ok p, { w with heap }) ∧ w.heap.Extends heap ∧
      heap.given = w.heap.given + 1 ∧ p = heap.given * Heap.stride ∧ heap.StringAt p s := by
  refine ⟨_, (w.heap.alloc (s ++ [0])).2, rfl, w.heap.extends_alloc _, rfl, rfl, ?_, ?_⟩
  · exact (Nat.mul_pos (Nat.succ_pos _) (by decide)).ne'
  · have hholds := w.heap.alloc_holds [] (s ++ [0]) []
    rwa [List.append_nil, List.nil_append] at hholds

/-- Later strings leave the earlier ones alone. -/
lemma collect_allocString (strings : List Bytes) (w : World S) :
    ∃ pointers heap, Eff.collect Memory.allocString strings w = some (.ok pointers, { w with heap }) ∧
      w.heap.Extends heap ∧ heap.given = w.heap.given + strings.length ∧
      (∀ p ∈ pointers, p ≤ heap.given * Heap.stride) ∧ List.Forall₂ heap.StringAt pointers strings := by
  induction strings generalizing w with
  | nil => exact ⟨[], w.heap, rfl, .refl _, rfl, by simp, .nil⟩
  | cons s rest ih =>
    obtain ⟨p, heap₁, hs, hextends₁, hgiven₁, hp, hstring⟩ := allocString_apply s w
    obtain ⟨pointers, heap, hrest, hextends, hgiven, hle, hstrings⟩ := ih { w with heap := heap₁ }
    have hpos : 0 < Heap.stride := by decide
    have hbelow : p < (heap₁.given + 1) * Heap.stride := by
      rw [hp, Nat.succ_mul]
      exact Nat.lt_add_of_pos_right hpos
    refine ⟨p :: pointers, heap, ?_, hextends₁.trans hextends, ?_, List.forall_mem_cons.2 ⟨?_, hle⟩,
      .cons ⟨hstring.1, hextends.holds hbelow hstring.2⟩ hstrings⟩
    · rw [collect, bind_ok hs, bind_ok hrest]
      rfl
    · rw [hgiven, List.length_cons]
      dsimp only
      rw [hgiven₁, Nat.add_assoc, Nat.add_comm 1]
    · rw [hp]
      exact Nat.mul_le_mul_right _ hextends.given

lemma packStrings_apply {strings : List Bytes} {w : World S} (hroom : w.heap.Admits strings.length) :
    ∃ pointers p heap, packStrings (strings.map .string) w =
        some (.ok (.owned p (.blocks (pointers ++ [p]))), { w with heap }) ∧ p ≠ 0 ∧
      heap.wordsUntilZero heap.bound p = pointers ∧ List.Forall₂ heap.StringAt pointers strings := by
  obtain ⟨pointers, heap, hcollect, hextends, hgiven, hle, hstrings⟩ := collect_allocString strings w
  have hitems : (strings.map Value.string).mapM Value.asString = .ok strings :=
    Scalar.mapM_ok (List.forall₂_map_left_iff.2 (List.forall₂_same.2 fun s _ => rfl))
  have hlength : pointers.length = strings.length := hstrings.length_eq
  have hne : ∀ x ∈ pointers, x ≠ 0 := ((List.forall₂_and_left (p := (· ≠ 0)) _ _).1 hstrings).1
  have hwords (x : Address) (hx : x ∈ pointers) : x ≠ 0 ∧ x < twoPow 64 :=
    ⟨hne x hx, (hle x hx).trans_lt (hgiven ▸ hroom.1)⟩
  have hpos : 0 < Heap.stride := by decide
  refine ⟨pointers, _, (heap.alloc (Heap.packed (pointers ++ [0]))).2, ?_, (Nat.mul_pos (Nat.succ_pos _) hpos).ne',
    heap.wordsUntilZero_alloc hwords (hlength ▸ hroom.2), ?_⟩
  · rw [packStrings, hitems, bind_ok (ofExcept_apply _ w), bind_ok hcollect]
    rfl
  · refine ((List.forall₂_and_left _ _).2 ⟨hle, hstrings⟩).imp fun x s hx => ⟨hx.2.1, ?_⟩
    have hbelow : x < (heap.given + 1) * Heap.stride :=
      hx.1.trans_lt (Nat.mul_lt_mul_of_pos_right (Nat.lt_succ_self _) hpos)
    exact (heap.extends_alloc _).holds hbelow hx.2.2

/-! ### And back -/

lemma map_stringAt {w : World S} {pointers : List Address} {strings : List Bytes}
    (hstrings : List.Forall₂ w.heap.StringAt pointers strings) :
    pointers.map (stringAt w) = strings.map fun s => .string (Bytes.untilNul s) := by
  induction hstrings with
  | nil => rfl
  | cons hp _ ih =>
    rw [List.map_cons, List.map_cons, ih, stringAt, if_neg hp.1, hp.2.loadString]

lemma arrayFromPointer_strings (h : Host S) {l : Lifecycle} {w : World S} (hw : w.lifecycle? = some l) {p : Address}
    (hp : p ≠ 0) {strings : List Bytes} (borrowed : Bool)
    (hstrings : List.Forall₂ w.heap.StringAt (w.heap.wordsUntilZero w.heap.bound p) strings) :
    arrayFromPointer h p (.string borrowed) .array false w =
      some (.ok (.array (strings.map fun s => .string (Bytes.untilNul s))), w) := by
  have hitems : Eff.collect (fun d => itemFromPointer h d (.string borrowed)) (w.heap.wordsUntilZero w.heap.bound p) w =
      some (.ok (strings.map fun s => .string (Bytes.untilNul s)), w) := by
    rw [← map_stringAt hstrings]
    exact collect_apply fun d _ => copyString_apply w d
  rw [arrayFromPointer, if_neg hp, if_neg (by decide)]
  change pointersFromPointer h p _ false w = _
  rw [pointersFromPointer, bind_ok (currentLifecycle_of hw), bind_ok (get_apply w), bind_ok hitems]
  rfl

/-- A string passes as an argument of its own if there is no NUL in it. -/
lemma stringToNative_accepts_iff {s : Bytes} {w : World S} :
    (∃ native w', stringToNative (.string s) w = some (.ok native, w')) ↔ 0 ∉ s := by
  have hstart : stringToNative (.string s) w = (do
      if s.contains 0 then throw .embeddedNul
      let p ← Memory.allocString s
      return .owned p (.blocks [p]) : Eff S NativeValue) w := rfl
  rw [hstart, ← List.contains_iff_mem]
  constructor
  · rintro ⟨native, w', hx⟩
    rcases guard_eq_some.1 hx with ⟨-, he, -⟩ | ⟨hs, -⟩
    · cases he
    · exact hs
  · exact fun hs => ⟨_, _, guard_eq_some.2 (.inr ⟨hs, rfl⟩)⟩

/-- An array that was made for strings is read as the strings up to their first NULs. -/
lemma strings_there_and_back (h : Host S) {l : Lifecycle} {w : World S} (hw : w.lifecycle? = some l)
    {strings : List Bytes} (hroom : w.heap.Admits strings.length) (borrowed kept optional : Bool) :
    ∃ p blocks w',
      toNative h ⟨.array (.string borrowed) .array kept, .array (strings.map .string), optional⟩ w =
        some (.ok (.owned p (.blocks blocks)), w') ∧
      arrayFromPointer h p (.string borrowed) .array false w' =
        some (.ok (.array (strings.map fun s => .string (Bytes.untilNul s))), w') := by
  obtain ⟨pointers, p, heap, hpack, hp, hwords, hstrings⟩ := packStrings_apply hroom
  have hback := arrayFromPointer_strings h (w := { w with heap }) hw hp borrowed (hwords.symm ▸ hstrings)
  exact ⟨p, _, _, hpack, hback⟩

/-- **Arrays of strings come back as far as their first NULs**, so an array comes back as it was exactly if each of its
strings would have passed as an argument of its own. -/
theorem string_array_read_back_iff (h : Host S) {l : Lifecycle} {w : World S} (hw : w.lifecycle? = some l)
    {strings : List Bytes} (hroom : w.heap.Admits strings.length) (borrowed kept optional : Bool) :
    ∃ p blocks w' back,
      toNative h ⟨.array (.string borrowed) .array kept, .array (strings.map .string), optional⟩ w =
        some (.ok (.owned p (.blocks blocks)), w') ∧
      arrayFromPointer h p (.string borrowed) .array false w' = some (.ok (.array back), w') ∧
      back = strings.map (fun s => .string (Bytes.untilNul s)) ∧
      (back = strings.map .string ↔ ∀ s ∈ strings, ∃ native u,
        toNative h ⟨.string borrowed, .string s, optional⟩ w = some (.ok native, u)) := by
  obtain ⟨p, blocks, w', hto, hfrom⟩ := strings_there_and_back h hw hroom borrowed kept optional
  refine ⟨p, blocks, w', _, hto, hfrom, rfl, ?_⟩
  rw [List.map_inj_left]
  refine forall₂_congr fun s _ => ?_
  rw [Value.string.injEq, Bytes.untilNul_eq_self_iff]
  exact stringToNative_accepts_iff.symm

/-- A world that has a state and nothing else. -/
def bareWorld : World ⟨Unit, Unit, Unit, Unit⟩ where
  native := ()
  side := ()
  state := some { lifecycle := ⟨fun _ => none, []⟩ }

/-- A word and an empty string. -/
theorem two_strings_come_back :
    bareWorld.lifecycle? = some ⟨fun _ => none, []⟩ ∧ bareWorld.heap.Admits 2 ∧ ∃ p blocks w',
      toNative emptyHost ⟨.array (.string false) .array false, .array [.string [104, 105], .string []], false⟩ bareWorld =
        some (.ok (.owned p (.blocks blocks)), w') ∧
      arrayFromPointer emptyHost p (.string false) .array false w' =
        some (.ok (.array [.string [104, 105], .string []]), w') := by
  have hroom : bareWorld.heap.Admits ([[104, 105], []] : List Bytes).length := by
    constructor <;> decide
  obtain ⟨p, blocks, w', back, hto, hfrom, rfl, -⟩ :=
    string_array_read_back_iff emptyHost (w := bareWorld) rfl hroom false false false
  exact ⟨rfl, hroom, p, blocks, w', hto, hfrom⟩

/-- **What follows a NUL is lost.** As an argument of its own the string is refused; as an item it is cut. -/
theorem text_behind_nul_is_lost :
    (toNative emptyHost ⟨.string false, .string [97, 0, 98], false⟩ bareWorld = some (.error .embeddedNul, bareWorld)) ∧
      ∃ p blocks w',
        toNative emptyHost ⟨.array (.string false) .array false, .array [.string [97, 0, 98]], false⟩ bareWorld =
          some (.ok (.owned p (.blocks blocks)), w') ∧
        arrayFromPointer emptyHost p (.string false) .array false w' = some (.ok (.array [.string [97]]), w') := by
  have hroom : bareWorld.heap.Admits ([[97, 0, 98]] : List Bytes).length := by
    constructor <;> decide
  exact ⟨rfl, strings_there_and_back emptyHost rfl hroom false false false⟩

end NativeBridge
