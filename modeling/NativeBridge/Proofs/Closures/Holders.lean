import NativeBridge.Proofs.Calls.Work
import NativeBridge.Proofs.Closures.Machine
import NativeBridge.Proofs.Evolution.Conversion
import NativeBridge.Proofs.Table

/-!
Counts and holders. A closure is there just as long as somebody holds it, and each holder accounts for one reference, to
the closure itself or to the code that was made for it.
-/

namespace NativeBridge

open Eff

variable {S : Sides}

/-! ### Tables -/

lemma Closure.ref_apply (a : Address) (w : World S) :
    ∃ closures, (Closure.ref a : Eff S Unit) w = some (.ok (), { w with closures }) ∧ ∀ b c',
      (b, c') ∈ closures ↔ b ≠ a ∧ (b, c') ∈ w.closures ∨
        b = a ∧ ∃ c, (a, c) ∈ w.closures ∧ c' = { c with refs := c.refs + 1 } := by
  refine ⟨_, rfl, fun b c' => ?_⟩
  rw [List.mem_map]
  constructor
  · rintro ⟨⟨d, c⟩, hmem, he⟩
    by_cases hd : d = a
    · rw [if_pos hd, Prod.mk.injEq] at he
      exact .inr ⟨he.1.symm, c, hd ▸ hmem, he.2.symm⟩
    · rw [if_neg hd, Prod.mk.injEq] at he
      obtain ⟨rfl, rfl⟩ := he
      exact .inl ⟨hd, hmem⟩
  · rintro (⟨hb, hmem⟩ | ⟨rfl, c, hmem, rfl⟩)
    · exact ⟨(b, c'), hmem, if_neg hb⟩
    · exact ⟨(b, c), hmem, if_pos rfl⟩

lemma Closure.unref_apply (a : Address) (w : World S) :
    ∃ closures, (Closure.unref a : Eff S Unit) w = some (.ok (), { w with closures }) ∧ ∀ b c',
      (b, c') ∈ closures ↔ b ≠ a ∧ (b, c') ∈ w.closures ∨
        b = a ∧ ∃ c, (a, c) ∈ w.closures ∧ 1 < c.refs ∧ c' = { c with refs := c.refs - 1 } := by
  refine ⟨_, rfl, fun b c' => ?_⟩
  rw [List.mem_filterMap]
  constructor
  · rintro ⟨⟨d, c⟩, hmem, he⟩
    by_cases hd : d = a
    · rw [if_pos hd] at he
      by_cases hr : c.refs ≤ 1
      · rw [if_pos hr] at he
        cases he
      · rw [if_neg hr, Option.some.injEq, Prod.mk.injEq] at he
        exact .inr ⟨he.1.symm, c, hd ▸ hmem, Nat.lt_of_not_le hr, he.2.symm⟩
    · rw [if_neg hd, Option.some.injEq, Prod.mk.injEq] at he
      obtain ⟨rfl, rfl⟩ := he
      exact .inl ⟨hd, hmem⟩
  · rintro (⟨hb, hmem⟩ | ⟨rfl, c, hmem, hr, rfl⟩)
    · exact ⟨(b, c'), hmem, if_neg hb⟩
    · exact ⟨(b, c), hmem, by rw [if_pos rfl, if_neg (Nat.not_le.2 hr)]⟩

/-- Code that has another owner stays, with one owner less. -/
lemma Thunk.disown_of_owned {w : World S} {t : Address} {th : Thunk} (ht : (t, th) ∈ w.thunks)
    (hd : (w.thunks.map Prod.fst).Nodup) (ho : 1 < th.owners) :
    ∃ thunks, (Thunk.disown t : Eff S Unit) w = some (.ok (), { w with thunks }) ∧ ∀ u th',
      (u, th') ∈ thunks ↔ u ≠ t ∧ (u, th') ∈ w.thunks ∨ u = t ∧ th' = { th with owners := th.owners - 1 } := by
  refine ⟨w.thunks.map fun e => if e.1 = t then (t, { e.2 with owners := e.2.owners - 1 }) else e, ?_, fun u th' => ?_⟩
  · rw [Thunk.disown, bind_ok (get_apply w), lookup_of_mem hd ht]
    dsimp only
    rw [if_neg (Nat.not_le.2 ho), modify_apply]
  · rw [List.mem_map]
    constructor
    · rintro ⟨⟨v, th₁⟩, hmem, he⟩
      by_cases hv : v = t
      · rw [if_pos hv, Prod.mk.injEq] at he
        obtain rfl := eq_of_keys hd (hv ▸ hmem) ht
        exact .inr ⟨he.1.symm, he.2.symm⟩
      · rw [if_neg hv, Prod.mk.injEq] at he
        obtain ⟨rfl, rfl⟩ := he
        exact .inl ⟨hv, hmem⟩
    · rintro (⟨hu, hmem⟩ | ⟨rfl, rfl⟩)
      · exact ⟨(u, th'), hmem, if_neg hu⟩
      · exact ⟨(u, th), ht, if_pos rfl⟩

/-- Code that has no other owner goes, and lets go of its closure. -/
lemma Thunk.disown_of_last {w : World S} {t : Address} {th : Thunk} (ht : (t, th) ∈ w.thunks)
    (hd : (w.thunks.map Prod.fst).Nodup) (ho : th.owners ≤ 1) :
    (Thunk.disown t : Eff S Unit) w =
      (Closure.unref th.target : Eff S Unit) { w with thunks := w.thunks.filter (·.1 != t) } := by
  rw [Thunk.disown, bind_ok (get_apply w), lookup_of_mem hd ht]
  dsimp only
  rw [if_pos ho, bind_ok (modify_apply _ w)]

namespace Closures

/-! ### The invariant -/

/-- The code was made for the closure. -/
def Targets (w : World S) (t a : Address) : Prop := ∃ th, (t, th) ∈ w.thunks ∧ th.target = a

lemma targets_of_thunks {w w' : World S} (h : w'.thunks = w.thunks) : Targets w' = Targets w := by
  funext t a
  rw [Targets, Targets, h]

/-- What there is at an address, and how its count tells the holders. -/
inductive Account (s : State S) (a : Address) : Prop where
  | free (hc : ∀ c, (a, c) ∉ s.world.closures) (ht : ∀ t, ¬Targets s.world t a) (hn : s.holders a = 0)
  /-- a closure with an entry point -/
  | entry {c : Closure} (hc : ∀ c', (a, c') ∈ s.world.closures ↔ c' = c) (ht : ∀ t, ¬Targets s.world t a)
      (hk : c.signature.kind ≠ .closure) (hr : c.refs = s.holders a) (hn : 0 < s.holders a) (hl : a ∉ s.lasting)
  /-- a closure, and the code that was made for it -/
  | code {c : Closure} {t : Address} {th : Thunk} (hc : ∀ c', (a, c') ∈ s.world.closures ↔ c' = c)
      (ht : ∀ u th', (u, th') ∈ s.world.thunks ∧ th'.target = a ↔ u = t ∧ th' = th)
      (hq : ¬th.result.isCallback) (hk : c.signature.kind = .closure) (hr : c.refs = 1)
      (ho : th.owners = s.holders a) (hn : 0 < s.holders a) (hh : a ∉ s.handed)
      (hl : a ∈ s.lasting → c.signature.scope = .forever)

/-- What stands behind a value that is alive: the closure that it points to, or code for the closure. -/
def Live.Stands (x : Live) (w : World S) : Prop :=
  (∃ code destroy first c, x.value = .trampoline code x.closure destroy first ∧ x.closure ≠ 0 ∧
      (x.closure, c) ∈ w.closures ∧ c.signature.kind ≠ .closure) ∨
    ∃ t, x.value = .owned t (.code t) ∧ Targets w t x.closure

/-- Every address has its account, and `kept` is the code of the closures that last. -/
structure Sound (kept : List Address) (s : State S) : Prop where
  account : ∀ a, Account s a
  stands : ∀ x ∈ s.values, x.Stands s.world
  kept : List.Forall₂ (Targets s.world) kept s.lasting

/-- Each holder holds a closure once. -/
structure Orderly (s : State S) : Prop where
  values : (s.values.map Live.closure).Nodup
  handed : s.handed.Nodup
  lasting : s.lasting.Nodup
  /-- what was not handed over yet, native code does not hold -/
  unhanded : ∀ x ∈ s.values, x.handed = false → x.closure ∉ s.handed
  running : s.running.Nodup
  runs : ∀ a ∈ s.running, a ∈ s.handed

variable {kept kept' : List Address} {s s' : State S} {a : Address}

lemma State.held_iff : s.Held a ↔ a ∈ s.values.map Live.closure := by
  rw [List.mem_map]
  exact Iff.rfl

lemma State.holders_pos : 0 < s.holders a ↔ s.Held a ∨ a ∈ s.handed ∨ a ∈ s.lasting := by
  rw [State.held_iff, ← List.count_pos_iff, ← List.count_pos_iff (l := s.handed),
    ← List.count_pos_iff (l := s.lasting), State.holders]
  omega

lemma State.holders_eq_zero : s.holders a = 0 ↔ ¬(s.Held a ∨ a ∈ s.handed ∨ a ∈ s.lasting) := by
  rw [← State.holders_pos, Nat.pos_iff_ne_zero, not_not]

namespace Account

lemma present_iff (h : Account s a) : (∃ c, (a, c) ∈ s.world.closures) ↔ 0 < s.holders a := by
  cases h with
  | free hc _ hn => exact ⟨fun ⟨c, h⟩ => absurd h (hc c), fun h => absurd hn h.ne'⟩
  | entry hc _ _ _ hn | code hc _ _ _ _ _ hn => exact ⟨fun _ => hn, fun _ => ⟨_, (hc _).2 rfl⟩⟩

/-- Code that was made for a closure is the only one. -/
lemma of_targets (h : Account s a) {t : Address} (ht : Targets s.world t a) :
    ∃ c th, (∀ c', (a, c') ∈ s.world.closures ↔ c' = c) ∧
      (∀ u th', (u, th') ∈ s.world.thunks ∧ th'.target = a ↔ u = t ∧ th' = th) ∧ ¬th.result.isCallback ∧
      c.signature.kind = .closure ∧ c.refs = 1 ∧ th.owners = s.holders a ∧ a ∉ s.handed ∧
      (a ∈ s.lasting → c.signature.scope = .forever) := by
  cases h with
  | free _ hno | entry _ hno => exact absurd ht (hno t)
  | @code c u th hc hthunks hq hk hr ho _ hh hl =>
    obtain ⟨th', hmem, htarget⟩ := ht
    obtain ⟨rfl, -⟩ := (hthunks t th').1 ⟨hmem, htarget⟩
    exact ⟨c, th, hc, hthunks, hq, hk, hr, ho, hh, hl⟩

/-- A closure that native code holds, or that is of another kind than bare function pointers, has an entry point. -/
lemma of_entry (h : Account s a)
    (ha : a ∈ s.handed ∨ ∃ c, (a, c) ∈ s.world.closures ∧ c.signature.kind ≠ .closure) :
    ∃ c, (∀ c', (a, c') ∈ s.world.closures ↔ c' = c) ∧ (∀ t, ¬Targets s.world t a) ∧ c.signature.kind ≠ .closure ∧
      c.refs = s.holders a ∧ a ∉ s.lasting := by
  cases h with
  | free hc _ hn =>
    rcases ha with ha | ⟨c, hmem, -⟩
    · exact absurd hn (State.holders_pos.2 (.inr (.inl ha))).ne'
    · exact absurd hmem (hc c)
  | @entry c hc ht hk hr _ hl => exact ⟨c, hc, ht, hk, hr, hl⟩
  | code hc _ _ hk _ _ _ hh =>
    rcases ha with ha | ⟨c, hmem, hne⟩
    · exact absurd ha hh
    · exact absurd hk ((hc c).1 hmem ▸ hne)

end Account

/-! ### Changes at one closure -/

/-- Apart from one closure and the code that was made for it, nothing is different. -/
structure SameBut (a : Address) (s s' : State S) : Prop where
  closures : ∀ b, b ≠ a → ∀ c, (b, c) ∈ s'.world.closures ↔ (b, c) ∈ s.world.closures
  thunks : ∀ t th, th.target ≠ a → ((t, th) ∈ s'.world.thunks ↔ (t, th) ∈ s.world.thunks)
  holders : ∀ b, b ≠ a → s'.holders b = s.holders b
  handed : ∀ b, b ≠ a → b ∈ s'.handed → b ∈ s.handed
  lasting : ∀ b, b ≠ a → b ∈ s'.lasting → b ∈ s.lasting
  values : ∀ x ∈ s'.values, x.closure ≠ a → ∃ y ∈ s.values, y.value = x.value ∧ y.closure = x.closure

namespace SameBut

variable {b : Address} (h : SameBut a s s')

include h

lemma thunk_iff (hb : b ≠ a) (t : Address) (th : Thunk) :
    (t, th) ∈ s'.world.thunks ∧ th.target = b ↔ (t, th) ∈ s.world.thunks ∧ th.target = b :=
  and_congr_left fun htarget => h.thunks t th (htarget ▸ hb)

lemma targets (hb : b ≠ a) (t : Address) : Targets s'.world t b ↔ Targets s.world t b :=
  exists_congr (h.thunk_iff hb t)

lemma account (hs : Account s b) (hb : b ≠ a) : Account s' b := by
  cases hs with
  | free hc ht hn =>
    refine .free (fun c => ?_) (fun t => ?_) (h.holders b hb ▸ hn)
    · rw [h.closures b hb]
      exact hc c
    · rw [h.targets hb]
      exact ht t
  | entry hc ht hk hr hn hl =>
    refine .entry (fun c => ?_) (fun t => ?_) hk (h.holders b hb ▸ hr) (h.holders b hb ▸ hn) (mt (h.lasting b hb) hl)
    · rw [h.closures b hb]
      exact hc c
    · rw [h.targets hb]
      exact ht t
  | @code c t th hc ht hq hk hr ho hn hh hl =>
    refine .code (t := t) (fun c => ?_) (fun u th' => ?_) hq hk hr (h.holders b hb ▸ ho) (h.holders b hb ▸ hn)
      (mt (h.handed b hb) hh) fun hlast => hl (h.lasting b hb hlast)
    · rw [h.closures b hb]
      exact hc c
    · rw [h.thunk_iff hb]
      exact ht u th'

lemma stands {x : Live} (hs : ∀ y ∈ s.values, y.Stands s.world) (hx : x ∈ s'.values) (hne : x.closure ≠ a) :
    x.Stands s'.world := by
  obtain ⟨y, hy, hvalue, hclosure⟩ := h.values x hx hne
  have hy := hs y hy
  rw [Live.Stands, hvalue, hclosure] at hy
  rcases hy with ⟨code, destroy, first, c, hv, hzero, hmem, hk⟩ | ⟨t, hv, ht⟩
  · exact .inl ⟨code, destroy, first, c, hv, hzero, (h.closures _ hne c).2 hmem, hk⟩
  · exact .inr ⟨t, hv, (h.targets hne t).2 ht⟩

lemma targets_all {l : List Address} (hl : a ∉ l) (hk : List.Forall₂ (Targets s.world) kept l) :
    List.Forall₂ (Targets s'.world) kept l := by
  induction hk with
  | nil => exact .nil
  | cons ht _ ih =>
    rw [List.mem_cons, not_or] at hl
    exact .cons ((h.targets (Ne.symm hl.1) _).2 ht) (ih hl.2)

/-- What is sound stays so if it is sound where it changes. -/
lemma sound (hs : Sound kept s) (ha : Account s' a) (hstands : ∀ x ∈ s'.values, x.closure = a → x.Stands s'.world)
    (hkept : List.Forall₂ (Targets s'.world) kept' s'.lasting) : Sound kept' s' where
  account b := by
    by_cases hb : b = a
    · exact hb ▸ ha
    · exact h.account (hs.account b) hb
  stands x hx := by
    by_cases hne : x.closure = a
    · exact hstands x hx hne
    · exact h.stands hs.stands hx hne
  kept := hkept

end SameBut

/-- One holder of the closure lets go of it. -/
structure LetsGo (a : Address) (s s' : State S) : Prop where
  holders : ∀ b, s.holders b = s'.holders b + if b = a then 1 else 0
  handed : s'.handed ⊆ s.handed
  lasting : s'.lasting ⊆ s.lasting
  values : s'.values ⊆ s.values

namespace LetsGo

variable (h : LetsGo a s s')

include h

lemma one : s.holders a = s'.holders a + 1 := by
  rw [h.holders, if_pos rfl]

lemma sameBut (hclosures : ∀ b, b ≠ a → ∀ c, (b, c) ∈ s'.world.closures ↔ (b, c) ∈ s.world.closures)
    (hthunks : ∀ t th, th.target ≠ a → ((t, th) ∈ s'.world.thunks ↔ (t, th) ∈ s.world.thunks)) : SameBut a s s' where
  closures := hclosures
  thunks := hthunks
  holders b hb := by rw [h.holders b, if_neg hb, Nat.add_zero]
  handed _ _ hb := h.handed hb
  lasting _ _ hb := h.lasting hb
  values x hx _ := ⟨x, h.values hx, rfl, rfl⟩

end LetsGo

namespace Sound

/-- Closures, code and holders are what they were. -/
lemma of_same (hs : Sound kept s) (hc : s'.world.closures = s.world.closures) (ht : s'.world.thunks = s.world.thunks)
    (hholders : ∀ b, s'.holders b = s.holders b) (hhanded : s'.handed ⊆ s.handed) (hlasting : s'.lasting = s.lasting)
    (hvalues : ∀ x ∈ s'.values, ∃ y ∈ s.values, y.value = x.value ∧ y.closure = x.closure) : Sound kept s' := by
  have htargets := targets_of_thunks ht
  have hsame (a : Address) : SameBut a s s' := by
    refine ⟨fun b _ c => ?_, fun t th _ => ?_, fun b _ => hholders b, fun _ _ hb => hhanded hb,
      fun _ _ hb => hlasting ▸ hb, fun x hx _ => hvalues x hx⟩
    · rw [hc]
    · rw [ht]
  -- nothing is different anywhere, so the exception may be taken at any other address
  refine ⟨fun a => ?_, fun x hx => ?_, ?_⟩
  · exact (hsame (a + 1)).account (hs.account a) (Nat.ne_add_one a)
  · exact (hsame (x.closure + 1)).stands hs.stands hx (Nat.ne_add_one _)
  · rw [htargets, hlasting]
    exact hs.kept

lemma of_world (hs : Sound kept s) {w : World S} (hc : w.closures = s.world.closures)
    (ht : w.thunks = s.world.thunks) : Sound kept { s with world := w } :=
  hs.of_same hc ht (fun _ => rfl) (List.Subset.refl _) rfl fun x hx => ⟨x, hx, rfl, rfl⟩

/-- The holders of a closure with an entry point change, and its count with them. -/
lemma recount (hs : Sound kept s) (h : SameBut a s s') {c : Closure} (hk : c.signature.kind ≠ .closure)
    (hno : ∀ t, ¬Targets s.world t a) (hl : a ∉ s.lasting) (ht : s'.world.thunks = s.world.thunks)
    (hclosures : ∀ c', (a, c') ∈ s'.world.closures ↔ 0 < s'.holders a ∧ c' = { c with refs := s'.holders a })
    (hlasting : s'.lasting = s.lasting)
    (hvalues : ∀ x ∈ s'.values, ∃ y ∈ s.values, y.value = x.value ∧ y.closure = x.closure) : Sound kept s' := by
  have htargets := targets_of_thunks ht
  refine h.sound hs ?_ (fun x hx hxa => ?_) (by rw [htargets, hlasting]; exact hs.kept)
  · -- the closure goes with its last holder
    rcases Nat.eq_zero_or_pos (s'.holders a) with hn | hn
    · refine .free (fun c' hc' => ?_) (htargets ▸ hno) hn
      exact absurd hn ((hclosures c').1 hc').1.ne'
    · refine .entry (fun c' => ?_) (htargets ▸ hno) (c := { c with refs := s'.holders a }) hk rfl hn (hlasting ▸ hl)
      rw [hclosures, and_iff_right hn]
  · obtain ⟨y, hy, hvalue, hclosure⟩ := hvalues x hx
    have hn : 0 < s'.holders a := State.holders_pos.2 (.inl ⟨x, hx, hxa⟩)
    have hy := hs.stands y hy
    rw [Live.Stands, hvalue, hclosure, hxa] at hy
    rcases hy with ⟨code, destroy, first, c', hv, hzero, -, -⟩ | ⟨t, hv, ht⟩
    · rw [Live.Stands, hxa]
      exact .inl ⟨code, destroy, first, _, hv, hzero, (hclosures _).2 ⟨hn, rfl⟩, hk⟩
    · exact absurd ht (hno t)

/-- One holder less of a closure with an entry point. -/
lemma unref (hs : Sound kept s) (h : LetsGo a s s')
    (ha : a ∈ s.handed ∨ ∃ c, (a, c) ∈ s.world.closures ∧ c.signature.kind ≠ .closure)
    (hx : (Closure.unref a : Eff S Unit) s.world = some (.ok (), s'.world)) (hlasting : s'.lasting = s.lasting) :
    Sound kept s' := by
  obtain ⟨c, hc, hno, hk, hr, hl⟩ := (hs.account a).of_entry ha
  obtain ⟨closures, happly, hmem⟩ := Closure.unref_apply a s.world
  rw [happly] at hx
  obtain ⟨-, hw⟩ := Prod.mk.inj (Option.some.inj hx)
  have hone := h.one
  have hsame : SameBut a s s' := by
    refine h.sameBut (fun b hb c' => ?_) fun t th _ => ?_
    · rw [← hw, hmem]
      simp [hb]
    · rw [← hw]
  refine hs.recount hsame hk hno hl (by rw [← hw]) (fun c' => ?_) hlasting fun x hx => ⟨x, h.values hx, rfl, rfl⟩
  rw [← hw, hmem]
  constructor
  · rintro (⟨hne, -⟩ | ⟨-, c₁, hc₁, hlt, rfl⟩)
    · exact absurd rfl hne
    · obtain rfl := (hc c₁).1 hc₁
      have hpred : c₁.refs - 1 = s'.holders a := by omega
      exact ⟨by omega, by rw [hpred]⟩
  · rintro ⟨hn, rfl⟩
    have hpred : c.refs - 1 = s'.holders a := by omega
    exact .inr ⟨rfl, c, (hc c).2 rfl, by omega, by rw [hpred]⟩

/-- Native code is one holder more of a closure with an entry point. -/
lemma ref (hs : Sound kept s) {c : Closure} (hc : (a, c) ∈ s.world.closures) (hk : c.signature.kind ≠ .closure)
    (hx : (Closure.ref a : Eff S Unit) s.world = some (.ok (), s'.world))
    (hholders : ∀ b, s'.holders b = s.holders b + if b = a then 1 else 0) (hlasting : s'.lasting = s.lasting)
    (hhanded : s'.handed = a :: s.handed)
    (hvalues : ∀ x ∈ s'.values, ∃ y ∈ s.values, y.value = x.value ∧ y.closure = x.closure) : Sound kept s' := by
  obtain ⟨c, hc, hno, hk, hr, hl⟩ := (hs.account a).of_entry (.inr ⟨c, hc, hk⟩)
  obtain ⟨closures, happly, hmem⟩ := Closure.ref_apply a s.world
  rw [happly] at hx
  obtain ⟨-, hw⟩ := Prod.mk.inj (Option.some.inj hx)
  have hone := hholders a
  rw [if_pos rfl] at hone
  have hsame : SameBut a s s' := by
    refine ⟨fun b hb c' => ?_, fun t th _ => ?_, fun b hb => ?_, fun b hb h => ?_, fun b _ h => hlasting ▸ h,
      fun x hx _ => hvalues x hx⟩
    · rw [← hw, hmem]
      simp [hb]
    · rw [← hw]
    · rw [hholders, if_neg hb, Nat.add_zero]
    · rw [hhanded, List.mem_cons] at h
      exact h.resolve_left hb
  refine hs.recount hsame hk hno hl (by rw [← hw]) (fun c' => ?_) hlasting hvalues
  rw [← hw, hmem]
  constructor
  · rintro (⟨hne, -⟩ | ⟨-, c₁, hc₁, rfl⟩)
    · exact absurd rfl hne
    · obtain rfl := (hc c₁).1 hc₁
      exact ⟨by omega, by rw [hone, hr]⟩
  · rintro ⟨hn, rfl⟩
    exact .inr ⟨rfl, c, (hc c).2 rfl, by rw [hone, hr]⟩

section

variable {t : Address} {th : Thunk} (hs : Sound kept s) (hp : s.world.Placed) (h : LetsGo a s s')
  (hmemt : (t, th) ∈ s.world.thunks) (htarget : th.target = a)
  (hx : (Thunk.disown t : Eff S Unit) s.world = some (.ok (), s'.world))
  (hkept : List.Forall₂ (Targets s.world) kept' s'.lasting)

include hs hp h hmemt htarget hx hkept

/-- Code that another owner keeps stays, with an owner less. -/
lemma disown_of_owned (hmore : 1 < th.owners) : Sound kept' s' := by
  obtain ⟨c, th₀, hc, hthunks, hq, hk, hr, ho, hh, hl⟩ := (hs.account a).of_targets ⟨th, hmemt, htarget⟩
  obtain rfl := ((hthunks t th).1 ⟨hmemt, htarget⟩).2
  obtain ⟨thunks, happly, hmem⟩ := Thunk.disown_of_owned hmemt hp.thunks_nodup hmore
  rw [happly] at hx
  obtain ⟨-, hw⟩ := Prod.mk.inj (Option.some.inj hx)
  have hone := h.one
  have hthunks' (u : Address) (th' : Thunk) : (u, th') ∈ s'.world.thunks ↔
      u ≠ t ∧ (u, th') ∈ s.world.thunks ∨ u = t ∧ th' = { th with owners := th.owners - 1 } := by
    rw [← hw]
    exact hmem u th'
  have htargets {u b : Address} (hu : Targets s.world u b) : Targets s'.world u b := by
    obtain ⟨th', hu, rfl⟩ := hu
    by_cases hut : u = t
    · subst hut
      obtain rfl := eq_of_keys hp.thunks_nodup hu hmemt
      exact ⟨_, (hthunks' u _).2 (.inr ⟨rfl, rfl⟩), rfl⟩
    · exact ⟨th', (hthunks' u th').2 (.inl ⟨hut, hu⟩), rfl⟩
  have hsame : SameBut a s s' := by
    refine h.sameBut (fun b _ c' => by rw [← hw]) fun u th' hne => ?_
    rw [hthunks']
    constructor
    · rintro (⟨-, hu⟩ | ⟨-, rfl⟩)
      · exact hu
      · exact absurd htarget hne
    · intro hu
      refine .inl ⟨?_, hu⟩
      rintro rfl
      exact hne (eq_of_keys hp.thunks_nodup hu hmemt ▸ htarget)
  have hcode (u : Address) (th' : Thunk) : (u, th') ∈ s'.world.thunks ∧ th'.target = a ↔
      u = t ∧ th' = { th with owners := th.owners - 1 } := by
    rw [hthunks']
    constructor
    · rintro ⟨⟨hne, hu⟩ | hu, htarget'⟩
      · exact absurd ((hthunks u th').1 ⟨hu, htarget'⟩).1 hne
      · exact hu
    · rintro ⟨rfl, rfl⟩
      exact ⟨.inr ⟨rfl, rfl⟩, htarget⟩
  have howners : th.owners - 1 = s'.holders a := by omega
  have haccount : Account s' a :=
    .code (fun c' => hw ▸ hc c') hcode hq hk hr howners (by omega) (fun ha => hh (h.handed ha)) fun ha =>
      hl (h.lasting ha)
  refine hsame.sound hs haccount (fun x hx hxa => ?_) (hkept.imp fun _ _ => htargets)
  rcases hs.stands x (h.values hx) with ⟨_, _, _, c', -, -, hmem', hk'⟩ | ⟨u, hv, hu⟩
  · rw [hxa] at hmem'
    exact absurd hk ((hc c').1 hmem' ▸ hk')
  · exact .inr ⟨u, hv, htargets hu⟩

/-- With the last owner, code and closure go. -/
lemma disown_of_last (hlast : th.owners ≤ 1) : Sound kept' s' := by
  obtain ⟨c, th₀, hc, hthunks, hq, hk, hr, ho, hh, hl⟩ := (hs.account a).of_targets ⟨th, hmemt, htarget⟩
  obtain rfl := ((hthunks t th).1 ⟨hmemt, htarget⟩).2
  have hone := h.one
  have hzero : s'.holders a = 0 := by omega
  rw [Thunk.disown_of_last hmemt hp.thunks_nodup hlast, htarget] at hx
  obtain ⟨closures, happly, hmem⟩ := Closure.unref_apply a { s.world with thunks := s.world.thunks.filter (·.1 != t) }
  rw [happly] at hx
  obtain ⟨-, hw⟩ := Prod.mk.inj (Option.some.inj hx)
  have hthunks' (u : Address) (th' : Thunk) :
      (u, th') ∈ s'.world.thunks ↔ (u, th') ∈ s.world.thunks ∧ u ≠ t := by
    rw [← hw, List.mem_filter, bne_iff_ne]
  have hsame : SameBut a s s' := by
    refine h.sameBut (fun b hb c' => ?_) fun u th' hne => ?_
    · rw [← hw, hmem]
      simp [hb]
    · rw [hthunks', and_iff_left_iff_imp]
      rintro hu rfl
      exact hne (eq_of_keys hp.thunks_nodup hu hmemt ▸ htarget)
  have haccount : Account s' a := by
    refine .free (fun c' hc' => ?_) (fun u hu => ?_) hzero
    · rw [← hw, hmem] at hc'
      rcases hc' with ⟨hne, -⟩ | ⟨-, c₁, hc₁, hlt, -⟩
      · exact hne rfl
      · rw [(hc c₁).1 hc₁, hr] at hlt
        exact absurd hlt (lt_irrefl 1)
    · obtain ⟨th', hmem', htarget'⟩ := hu
      rw [hthunks'] at hmem'
      exact hmem'.2 ((hthunks u th').1 ⟨hmem'.1, htarget'⟩).1
  have hnone := State.holders_eq_zero.1 hzero
  refine hsame.sound hs haccount (fun x hx hxa => ?_) (hsame.targets_all (fun ha => ?_) hkept)
  · exact (hnone (.inl ⟨x, hx, hxa⟩)).elim
  · exact hnone (.inr (.inr ha))

end

/-- One holder less of a closure that code was made for. -/
lemma disown (hs : Sound kept s) (hp : s.world.Placed) (h : LetsGo a s s') {t : Address}
    (ht : Targets s.world t a) (hx : (Thunk.disown t : Eff S Unit) s.world = some (.ok (), s'.world))
    (hkept : List.Forall₂ (Targets s.world) kept' s'.lasting) : Sound kept' s' := by
  obtain ⟨th, hmem, htarget⟩ := ht
  rcases Nat.lt_or_ge 1 th.owners with hmore | hlast
  · exact hs.disown_of_owned hp h hmem htarget hx hkept hmore
  · exact hs.disown_of_last hp h hmem htarget hx hkept hlast

end Sound

end Closures

end NativeBridge
