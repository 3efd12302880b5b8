import NativeBridge.Proofs.Table
import NativeBridge.Proofs.Unwinding.Growth

/-!
What values hold of closures and code, and what their release undoes. Each value lets go of what was made for it, except
of code that the loop state keeps as well.
-/

namespace NativeBridge

open Eff

variable {S : Sides}

namespace Closure

lemma create_apply (c : Closure) (w : World S) :
    (create c : Eff S Address) w =
      some (.ok w.heap.reserve.1,
        { w with heap := w.heap.reserve.2, closures := w.closures ++ [(w.heap.reserve.1, c)] }) :=
  rfl

/-- The last reference takes the closure away and leaves the others. -/
lemma unref_last {w : World S} {A B : List (Address × Closure)} {d : Address} {c : Closure}
    (hc : w.closures = A ++ (d, c) :: B) (hd : (w.closures.map Prod.fst).Nodup) (hr : c.refs = 1) :
    (unref d : Eff S Unit) w = some (.ok (), { w with closures := A ++ B }) := by
  rw [hc] at hd
  obtain ⟨hA, hB⟩ := ne_key_of_nodup hd
  simp [unref, hc, filterMap_of_ne hA, filterMap_of_ne hB, hr]

end Closure

namespace Thunk

lemma create_apply (t : Thunk) (w : World S) :
    (create t : Eff S Address) w =
      some (.ok w.heap.reserve.1,
        { w with heap := w.heap.reserve.2, thunks := w.thunks ++ [(w.heap.reserve.1, t)] }) :=
  rfl

variable {w : World S} {A B : List (Address × Thunk)} {t : Address} {th : Thunk}

lemma own_last (ht : w.thunks = A ++ [(t, th)]) (hd : (w.thunks.map Prod.fst).Nodup) :
    (own t : Eff S Unit) w = some (.ok (), { w with thunks := A ++ [(t, { th with owners := th.owners + 1 })] }) := by
  rw [ht] at hd
  obtain ⟨hA, -⟩ := ne_key_of_nodup hd
  simp [own, ht, map_of_ne hA]

lemma disown_last (ht : w.thunks = A ++ (t, th) :: B) (hd : (w.thunks.map Prod.fst).Nodup) (ho : th.owners = 1) :
    (disown t : Eff S Unit) w = (Closure.unref th.target : Eff S Unit) { w with thunks := A ++ B } := by
  rw [ht] at hd
  obtain ⟨hA, hB⟩ := ne_key_of_nodup hd
  rw [disown, bind_ok (get_apply w), ht, lookup_middle hA]
  simp [ho, bind_apply, ht, filter_of_ne hA, filter_of_ne hB]

lemma disown_shared (ht : w.thunks = A ++ (t, th) :: B) (hd : (w.thunks.map Prod.fst).Nodup) (ho : th.owners = 2) :
    (disown t : Eff S Unit) w =
      some (.ok (), { w with thunks := A ++ (t, { th with owners := 1 }) :: B }) := by
  rw [ht] at hd
  obtain ⟨hA, hB⟩ := ne_key_of_nodup hd
  rw [disown, bind_ok (get_apply w), ht, lookup_middle hA]
  simp [ho, ht, map_of_ne hA, map_of_ne hB]

lemma disown_ok (t : Address) (w : World S) : ∃ w', (disown t : Eff S Unit) w = some (.ok (), w') := by
  rw [disown, bind_ok (get_apply w)]
  rcases w.thunks.lookup t with _ | th
  · exact ⟨w, rfl⟩
  · by_cases ho : th.owners ≤ 1
    · exact ⟨_, congrFun (if_pos ho) w⟩
    · exact ⟨_, congrFun (if_neg ho) w⟩

end Thunk

/-! ### Values -/

namespace NativeValue

/-- A value that is no callback: it owns nothing but memory. -/
def Plain : NativeValue → Prop
  | owned _ (.code _) => False
  | trampoline .. => False
  | _ => True

/-- A value that is a pointer, into memory that it owns if it owns anything. -/
def Points : NativeValue → Prop
  | raw _ => True
  | owned _ (.code _) => False
  | owned .. => True
  | _ => False

lemma Points.plain {v : NativeValue} (hv : v.Points) : v.Plain := by
  cases v with
  | owned p storage =>
    cases storage with
    | code => exact hv.elim
    | _ => trivial
  | trampoline => exact hv.elim
  | _ => trivial

lemma Plain.slotCount {v : NativeValue} (hv : v.Plain) : v.slotCount = 1 := by
  cases v with
  | trampoline => exact hv.elim
  | _ => rfl

/-- What a value holds of what was made for it, and how often the loop state keeps it as well. -/
inductive Holds : NativeValue → Made → Nat → Prop where
  | plain {v : NativeValue} (hv : v.Plain) : Holds v {} 0
  | null {code : Address} {destroy : Option Address} {dataFirst : Bool} :
      Holds (.trampoline code 0 destroy dataFirst) {} 0
  | trampoline {code d : Address} {destroy : Option Address} {dataFirst : Bool} {c : Closure} (hd : d ≠ 0)
      (hr : c.refs = 1) : Holds (.trampoline code d destroy dataFirst) { closures := [(d, c)] } 0
  | code {t d : Address} {c : Closure} {th : Thunk} (hr : c.refs = 1) (htarget : th.target = d)
      (ho : th.owners = 1) : Holds (.owned t (.code t)) { closures := [(d, c)], thunks := [(t, th)] } 0
  | keptCode {t d : Address} {c : Closure} {th : Thunk} (hr : c.refs = 1) (htarget : th.target = d)
      (ho : th.owners = 2) : Holds (.owned t (.code t)) { closures := [(d, c)], thunks := [(t, th)] } 1

lemma each_release (bases : List Address) (w : World S) :
    ∃ heap, heap.given = w.heap.given ∧ Eff.each Memory.release bases w = some (.ok (), { w with heap }) := by
  induction bases generalizing w with
  | nil => exact ⟨w.heap, rfl, rfl⟩
  | cons a rest ih =>
    obtain ⟨heap, hg, h⟩ := ih { w with heap := w.heap.release a }
    exact ⟨heap, hg, h⟩

lemma Plain.release {v : NativeValue} (hv : v.Plain) (w : World S) :
    ∃ heap, heap.given = w.heap.given ∧ (v.release : Eff S Unit) w = some (.ok (), { w with heap }) := by
  match v, hv with
  | .void, _ => exact ⟨w.heap, rfl, rfl⟩
  | .scalar _, _ => exact ⟨w.heap, rfl, rfl⟩
  | .raw _, _ => exact ⟨w.heap, rfl, rfl⟩
  | .owned _ (.blocks bases), _ => exact each_release bases w
  | .owned _ (.objects block _), _ => exact ⟨w.heap.release block, rfl, rfl⟩
  | .owned _ (.slot block held _), _ =>
    obtain ⟨heap, hg, h⟩ := each_release held w
    exact ⟨heap.release block, hg, by rw [NativeValue.release, bind_ok h]; rfl⟩

lemma plain_or (v : NativeValue) : v.Plain ∨ (∃ p t, v = .owned p (.code t)) ∨
    ∃ code data destroy dataFirst, v = .trampoline code data destroy dataFirst := by
  cases v with
  | owned p storage =>
    cases storage with
    | code t => exact .inr (.inl ⟨p, t, rfl⟩)
    | _ => exact .inl trivial
  | trampoline code data destroy dataFirst => exact .inr (.inr ⟨code, data, destroy, dataFirst, rfl⟩)
  | _ => exact .inl trivial

lemma release_ok (v : NativeValue) (w : World S) :
    ∃ w', (v.release : Eff S Unit) w = some (.ok (), w') := by
  rcases v.plain_or with hv | ⟨p, t, rfl⟩ | ⟨code, data, destroy, dataFirst, rfl⟩
  · obtain ⟨heap, -, h⟩ := hv.release w
    exact ⟨_, h⟩
  · exact Thunk.disown_ok t w
  · rw [NativeValue.release]
    split
    · exact ⟨w, rfl⟩
    · exact ⟨_, rfl⟩

lemma each_release_ok (vs : List NativeValue) (w : World S) :
    ∃ w', (Eff.each NativeValue.release vs : Eff S Unit) w = some (.ok (), w') := by
  induction vs generalizing w with
  | nil => exact ⟨w, rfl⟩
  | cons v rest ih =>
    obtain ⟨w₁, h₁⟩ := v.release_ok w
    obtain ⟨w₂, h₂⟩ := ih w₁
    exact ⟨w₂, (bind_ok h₁).trans h₂⟩

/-- The release of a value takes away what was made for it; of code that the loop state keeps, closure and code stay. -/
lemma Holds.release {v : NativeValue} {m : Made} {n : Nat} (hv : v.Holds m n) {w : World S}
    {A B : List (Address × Closure)} {T U : List (Address × Thunk)} (hc : w.closures = A ++ m.closures ++ B)
    (ht : w.thunks = T ++ m.thunks ++ U) (hcd : (w.closures.map Prod.fst).Nodup)
    (htd : (w.thunks.map Prod.fst).Nodup) :
    ∃ heap C K, heap.given = w.heap.given ∧ C.length = n ∧ K.length = n ∧
      (C.map Prod.fst).Sublist (m.closures.map Prod.fst) ∧ (K.map Prod.fst).Sublist (m.thunks.map Prod.fst) ∧
      (v.release : Eff S Unit) w = some (.ok (), { w with heap, closures := A ++ C ++ B, thunks := T ++ K ++ U }) := by
  cases hv with
  | plain hv =>
    obtain ⟨heap, hg, h⟩ := hv.release w
    refine ⟨heap, [], [], hg, rfl, rfl, .slnil, .slnil, ?_⟩
    rw [h, ← hc, ← ht]
  | null =>
    refine ⟨w.heap, [], [], rfl, rfl, rfl, .slnil, .slnil, ?_⟩
    rw [NativeValue.release, if_pos rfl, ← hc, ← ht]
    rfl
  | @trampoline _ d _ _ c hd hr =>
    refine ⟨w.heap, [], [], rfl, rfl, rfl, by simp, .slnil, ?_⟩
    have hc' : w.closures = A ++ (d, c) :: B := by simpa using hc
    rw [NativeValue.release, if_neg hd, Closure.unref_last hc' hcd hr]
    simp [ht]
  | @code t d c th hr htarget ho =>
    refine ⟨w.heap, [], [], rfl, rfl, rfl, by simp, by simp, ?_⟩
    have hc' : w.closures = A ++ (d, c) :: B := by simpa using hc
    have ht' : w.thunks = T ++ (t, th) :: U := by simpa using ht
    rw [NativeValue.release, Thunk.disown_last ht' htd ho, htarget,
      Closure.unref_last (w := { w with thunks := T ++ U }) hc' hcd hr]
    simp
  | @keptCode t d c th hr htarget ho =>
    refine ⟨w.heap, [(d, c)], [(t, { th with owners := 1 })], rfl, rfl, rfl, by simp, by simp, ?_⟩
    have ht' : w.thunks = T ++ (t, th) :: U := by simpa using ht
    rw [NativeValue.release, Thunk.disown_shared ht' htd ho]
    simp [hc]

/-- What the values of a list hold, one after the other. -/
inductive HoldAll : List NativeValue → Made → Nat → Prop where
  | nil : HoldAll [] {} 0
  | cons {v : NativeValue} {vs : List NativeValue} {m m' : Made} {n n' : Nat} (hv : v.Holds m n)
      (hr : HoldAll vs m' n') : HoldAll (v :: vs) (m.append m') (n + n')

lemma HoldAll.snoc {vs : List NativeValue} {m m' : Made} {n n' : Nat} {v : NativeValue} (h : HoldAll vs m n)
    (hv : v.Holds m' n') : HoldAll (vs ++ [v]) (m.append m') (n + n') := by
  induction h with
  | nil => simpa [Made.append] using HoldAll.cons hv .nil
  | cons hu _ ih => simpa [Made.append, Nat.add_assoc] using HoldAll.cons hu ih

/-- Values that are released in order leave only what the loop state keeps. -/
lemma HoldAll.release {vs : List NativeValue} {m : Made} {n : Nat} (h : HoldAll vs m n) {w : World S}
    {A : List (Address × Closure)} {T : List (Address × Thunk)} (hc : w.closures = A ++ m.closures)
    (ht : w.thunks = T ++ m.thunks) (hcd : (w.closures.map Prod.fst).Nodup) (htd : (w.thunks.map Prod.fst).Nodup) :
    ∃ heap C K, C.length = n ∧ Eff.each NativeValue.release vs w =
      some (.ok (), { w with heap, closures := A ++ C, thunks := T ++ K }) := by
  induction h generalizing w A T with
  | nil =>
    refine ⟨w.heap, [], [], rfl, ?_⟩
    have hA : A ++ [] = w.closures := hc.symm
    have hT : T ++ [] = w.thunks := ht.symm
    rw [hA, hT]
    rfl
  | @cons v vs m m' n n' hv _ ih =>
    have hc' : w.closures = A ++ m.closures ++ m'.closures := by rw [hc, List.append_assoc]; rfl
    have ht' : w.thunks = T ++ m.thunks ++ m'.thunks := by rw [ht, List.append_assoc]; rfl
    obtain ⟨heap₁, C₁, K₁, -, hC₁, -, hsc, hst, h₁⟩ := hv.release hc' ht' hcd htd
    have hcs := hsc.append_right (m'.closures.map Prod.fst)
    have hts := hst.append_right (m'.thunks.map Prod.fst)
    obtain ⟨heap₂, C₂, K₂, hC₂, h₂⟩ := ih
      (w := { w with heap := heap₁, closures := A ++ C₁ ++ m'.closures, thunks := T ++ K₁ ++ m'.thunks }) rfl rfl
      (hcd.sublist (by simpa [hc'] using hcs)) (htd.sublist (by simpa [ht'] using hts))
    refine ⟨heap₂, C₁ ++ C₂, K₁ ++ K₂, by simp [hC₁, hC₂], ?_⟩
    rw [Eff.each, bind_ok h₁, h₂]
    simp

end NativeValue

end NativeBridge
