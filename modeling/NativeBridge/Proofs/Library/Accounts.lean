import Mathlib.Logic.Equiv.Basic
import NativeBridge.Proofs.Library.Machine

/-!
The account of openings: each of them has one owner, or has ended once.
-/

namespace NativeBridge.Library.Openings

variable {s s' : State} {r r' : Record} {p q : Place} {n : Nat} {h : Handle} {k : Keeper}

/-! ### Accounts -/

/-- The openings that no handle owns any more. -/
def ended (r : Record) : List Nat := r.closed ++ r.released

/-- Each opening has one owner, or has ended once. -/
structure Accounted (owned : Place → Option Nat) (r : Record) : Prop where
  opened (n : Nat) : n < r.opened ↔ n ∈ ended r ∨ ∃ p, owned p = some n
  nodup : (ended r).Nodup
  notMem {p : Place} {n : Nat} (hp : owned p = some n) : n ∉ ended r
  unique {p q : Place} {n : Nat} (hp : owned p = some n) (hq : owned q = some n) : p = q

namespace Accounted

variable {owned : Place → Option Nat}

/-- An opening goes from one place to another, which owned nothing. -/
lemma handOver (ha : Accounted owned r) (hq : owned q = none) (p : Place) :
    Accounted (Function.update (Function.update owned p none) q (owned p)) r := by
  -- the other place owned nothing, so the two places are exchanged
  have hswap : Function.update (Function.update owned p none) q (owned p) = owned ∘ Equiv.swap q p := by
    rw [Equiv.comp_swap_eq_update, hq]
  rw [hswap]
  refine ⟨fun n => ?_, ha.nodup, fun hp => ha.notMem hp, fun hp hq => (Equiv.swap q p).injective (ha.unique hp hq)⟩
  rw [ha.opened, (Equiv.swap q p).surjective.exists]
  rfl

/-- An opening ends. -/
lemma giveUp (ha : Accounted owned r) (hp : owned p = some n) (ho : r'.opened = r.opened)
    (hr : (ended r').Perm (n :: ended r)) : Accounted (Function.update owned p none) r' := by
  have hupdate {x : Place} {m : Nat} : Function.update owned p none x = some m ↔ x ≠ p ∧ owned x = some m := by
    by_cases hx : x = p <;> simp [hx]
  have hmem {m : Nat} : m ∈ ended r' ↔ m = n ∨ m ∈ ended r := hr.mem_iff.trans List.mem_cons
  refine ⟨fun m => ?_, hr.nodup_iff.2 (List.nodup_cons.2 ⟨ha.notMem hp, ha.nodup⟩), fun {x m} hx => ?_,
    fun hx hy => ha.unique (hupdate.1 hx).2 (hupdate.1 hy).2⟩
  · rw [ho, ha.opened, hmem]
    constructor
    · rintro (hended | ⟨x, hx⟩)
      · exact .inl (.inr hended)
      · by_cases hxp : x = p
        · exact .inl (.inl (Option.some.inj (hx.symm.trans (hxp ▸ hp))))
        · exact .inr ⟨x, hupdate.2 ⟨hxp, hx⟩⟩
    · rintro ((rfl | hended) | ⟨x, hx⟩)
      · exact .inr ⟨p, hp⟩
      · exact .inl hended
      · exact .inr ⟨x, (hupdate.1 hx).2⟩
  · obtain ⟨hxp, hx⟩ := hupdate.1 hx
    rw [hmem]
    rintro (rfl | hended)
    · exact hxp (ha.unique hx hp)
    · exact ha.notMem hx hended

/-- A handle that owned nothing opens a library. -/
lemma takeUp (ha : Accounted owned r) (hp : owned p = none) :
    Accounted (Function.update owned p (some r.opened)) { r with opened := r.opened + 1 } := by
  have hnew {x : Place} {m : Nat} (hx : owned x = some m) : x ≠ p ∧ m < r.opened :=
    ⟨fun h => by simp [← h, hx] at hp, (ha.opened m).2 (.inr ⟨x, hx⟩)⟩
  have hupdate {x : Place} {m : Nat} :
      Function.update owned p (some r.opened) x = some m ↔ x = p ∧ m = r.opened ∨ owned x = some m := by
    by_cases hx : x = p
    · simp [hx, hp, eq_comm]
    · simp [hx]
  refine ⟨fun m => ?_, ha.nodup, fun {x m} hx => ?_, fun {x y m} hx hy => ?_⟩
  · show m < r.opened + 1 ↔ m ∈ ended r ∨ _
    rw [Nat.lt_succ_iff_lt_or_eq, ha.opened]
    constructor
    · rintro ((hended | ⟨x, hx⟩) | rfl)
      · exact .inl hended
      · exact .inr ⟨x, hupdate.2 (.inr hx)⟩
      · exact .inr ⟨p, hupdate.2 (.inl ⟨rfl, rfl⟩)⟩
    · rintro (hended | ⟨x, hx⟩)
      · exact .inl (.inl hended)
      · rcases hupdate.1 hx with ⟨-, rfl⟩ | hx
        · exact .inr rfl
        · exact .inl (.inr ⟨x, hx⟩)
  · rcases hupdate.1 hx with ⟨-, rfl⟩ | hx
    · exact fun hended => Nat.lt_irrefl _ ((ha.opened _).2 (.inl hended))
    · exact ha.notMem hx
  · rcases hupdate.1 hx with ⟨hxp, rfl⟩ | hold <;> rcases hupdate.1 hy with ⟨hyp, hm⟩ | hold'
    · exact hxp.trans hyp.symm
    · exact absurd (hnew hold').2 (Nat.lt_irrefl _)
    · exact absurd (hm ▸ (hnew hold).2) (Nat.lt_irrefl _)
    · exact ha.unique hold hold'

end Accounted

/-! ### Operations on a handle -/

/-- What a load does: what the handle owned is closed, and then a library is opened or is not. -/
lemma load_cases {h' : Handle} {loader : Loader} {path : Bytes} {answer : Except Bytes Unit}
    (hx : Handle.load loader path h r = (answer, h', r')) :
    (∃ library, answer = .ok () ∧ h' = some ⟨(Handle.unload h r).opened, library⟩ ∧
      r' = { Handle.unload h r with opened := (Handle.unload h r).opened + 1 }) ∨
      ∃ reason, answer = .error reason ∧ h' = none ∧ r' = Handle.unload h r := by
  rw [Handle.load] at hx
  cases hpath : loader path with
  | ok library =>
    rw [hpath] at hx
    cases hx
    exact .inl ⟨library, rfl, rfl, rfl⟩
  | error reason =>
    rw [hpath] at hx
    cases hx
    exact .inr ⟨reason, rfl, rfl, rfl⟩

namespace Accounted

variable {owned : Place → Option Nat} (ha : Accounted owned r) (hp : owned p = h.map Opening.number)

include ha hp

lemma unload : Accounted (Function.update owned p none) (Handle.unload h r) := by
  cases h with
  | none => rwa [Function.update_eq_self_iff.2 hp.symm]
  | some o =>
    refine ha.giveUp hp rfl ?_
    rw [ended, Handle.unload, List.append_assoc]
    exact List.perm_middle

lemma release : Accounted (Function.update owned p none) (Handle.release h r) := by
  cases h with
  | none => rwa [Function.update_eq_self_iff.2 hp.symm]
  | some o =>
    refine ha.giveUp hp rfl ?_
    rw [ended, Handle.release, ← List.append_assoc]
    exact List.perm_append_singleton _ _

lemma load {h' : Handle} {loader : Loader} {path : Bytes} {answer : Except Bytes Unit}
    (hx : Handle.load loader path h r = (answer, h', r')) :
    Accounted (Function.update owned p (h'.map Opening.number)) r' := by
  have hclosed := ha.unload hp
  rcases load_cases hx with ⟨library, -, rfl, rfl⟩ | ⟨reason, -, rfl, rfl⟩
  · simpa using hclosed.takeUp (Function.update_self ..)
  · exact hclosed

end Accounted

/-! ### Steps -/

namespace State

/-- The number of the opening that a handle owns. -/
def number? (h : Option Handle) : Option Nat := h.join.map Opening.number

/-- The openings that are owned, by the place of their handle. -/
def owned (s : State) (p : Place) : Option Nat := number? (s.handles p)

lemma owned_of_absent (hp : s.handles p = none) : s.owned p = none := by rw [owned, hp]; rfl

lemma owned_of_some (hp : s.handles p = some h) : s.owned p = h.map Opening.number := by rw [owned, hp]; rfl

lemma owned_put (p : Place) (h : Option Handle) (s : State) :
    (s.put p h).owned = Function.update s.owned p (number? h) :=
  Function.comp_update number? s.handles p h

lemma owned_put_eq_none {h : Option Handle} (hh : number? h = none) (hp : p ≠ q → s.owned p = none) :
    (s.put q h).owned p = none := by
  rw [owned_put, Function.update_apply]
  split
  · exact hh
  · exact hp ‹_›

lemma owned_put_of_ne (hp : p ≠ q) (h : Option Handle) (s : State) : (s.put q h).owned p = s.owned p := by
  rw [owned_put, Function.update_of_ne hp]

/-- A new handle takes over from another one. -/
lemma owned_put_move (p : Place) (hq : s.handles q = some h) :
    (put p (some h.move.1) (put q (some h.move.2) s)).owned =
      Function.update (Function.update s.owned q none) p (s.owned q) := by
  rw [owned_put, owned_put, owned_of_some hq]
  rfl

end State

namespace Step

open State

lemma accounted_put {h : Option Handle} (ha : Accounted (Function.update s.owned p (number? h)) r) :
    Accounted (owned { s.put p h with record := r }) r := by
  rwa [← owned_put] at ha

lemma accounted_move (ha : Accounted s.owned s.record) (hp : s.handles p = none) (hq : s.handles q = some h) :
    Accounted (put p (some h.move.1) (put q (some h.move.2) s)).owned s.record := by
  rw [owned_put_move p hq]
  exact ha.handOver (owned_of_absent hp) q

lemma accounted_assign {h' source source' : Handle} (ha : Accounted s.owned s.record) (hne : p ≠ q)
    (hp : s.handles p = some h) (hq : s.handles q = some source)
    (hx : Handle.assign source h s.record = (h', source', r)) :
    Accounted (owned { put p (some h') (put q (some source') s) with record := r }) r := by
  cases hx
  -- what the handle owned is closed first, so that the place is free for what the other one hands over
  have hclosed := ha.unload (owned_of_some hp)
  have hmoved := hclosed.handOver (Function.update_self ..) q
  rw [Function.update_comm hne _ _ s.owned, Function.update_idem, Function.update_of_ne hne.symm, owned_of_some hq]
    at hmoved
  refine accounted_put ?_
  rw [owned_put]
  exact hmoved

lemma accounted (hs : Step s s') (ha : Accounted s.owned s.record) : Accounted s'.owned s'.record := by
  cases hs with
  | make hn =>
    refine accounted_put ?_
    rwa [Function.update_eq_self_iff.2 (owned_of_absent hn).symm]
  | load hn hx => exact accounted_put (ha.load (owned_of_some hn) hx)
  | unload hn | destroy hn | discard _ _ hn | clear _ hn => exact accounted_put (ha.unload (owned_of_some hn))
  | release hn | letGo _ hn => exact accounted_put (ha.release (owned_of_some hn))
  | moveNew hn hm | keep _ hn hm | relocate _ hn hm => exact accounted_move ha hn hm
  | assign hne hn hm hx => exact accounted_assign ha (by simpa using hne) hn hm hx
  | assignSelf | found | begin | released | gone => exact ha

end Step

/-! ### What has ended -/

/-- What was recorded stays on the record. -/
structure Continues (r r' : Record) : Prop where
  opened : r.opened ≤ r'.opened
  closed : r.closed <+: r'.closed
  released : r.released <+: r'.released

namespace Continues

lemma refl (r : Record) : Continues r r := ⟨Nat.le_refl _, List.prefix_rfl, List.prefix_rfl⟩

lemma trans {r₁ r₂ r₃ : Record} (h : Continues r₁ r₂) (h' : Continues r₂ r₃) : Continues r₁ r₃ :=
  ⟨Nat.le_trans h.opened h'.opened, h.closed.trans h'.closed, h.released.trans h'.released⟩

lemma unload (h : Handle) (r : Record) : Continues r (Handle.unload h r) := by
  cases h with
  | none => exact refl r
  | some o => exact ⟨Nat.le_refl _, List.prefix_append .., List.prefix_rfl⟩

lemma release (h : Handle) (r : Record) : Continues r (Handle.release h r) := by
  cases h with
  | none => exact refl r
  | some o => exact ⟨Nat.le_refl _, List.prefix_rfl, List.prefix_append ..⟩

lemma load {h' : Handle} {loader : Loader} {path : Bytes} {answer : Except Bytes Unit}
    (hx : Handle.load loader path h r = (answer, h', r')) : Continues r r' := by
  have hclosed := unload h r
  rcases load_cases hx with ⟨library, -, -, rfl⟩ | ⟨reason, -, -, rfl⟩
  · exact hclosed.trans ⟨Nat.le_succ _, List.prefix_rfl, List.prefix_rfl⟩
  · exact hclosed

end Continues

lemma Step.continues (hs : Step s s') : Continues s.record s'.record := by
  cases hs with
  | load _ hx => exact .load hx
  | unload | destroy | discard | clear => exact .unload _ _
  | release | letGo => exact .release _ _
  | assign _ _ _ hx =>
    cases hx
    exact .unload _ _
  | make | moveNew | assignSelf | found | keep | relocate | begin | released | gone => exact .refl _

namespace Run

lemma accounted (h : Run s s') (ha : Accounted s.owned s.record) : Accounted s'.owned s'.record := by
  induction h with
  | refl => exact ha
  | tail _ hs ih => exact hs.accounted ih

lemma continues (h : Run s s') : Continues s.record s'.record := by
  induction h with
  | refl => exact .refl _
  | tail _ hs ih => exact ih.trans hs.continues

end Run

end NativeBridge.Library.Openings
