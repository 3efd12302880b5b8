import Mathlib.Logic.Function.Basic
import Mathlib.Logic.Relation
import NativeBridge.Library.Cache

/-!
Handles of libraries, wherever they are: in variables of a program, and in the memory of caches and lifecycles, which
take handles over and release them at their end. Each operation on a handle is a step, and so is each part of what a
keeper of handles does with one of them, so that anything else may happen between any two.
-/

namespace NativeBridge.Library.Openings

/-! ### Places -/

/-- What takes handles over: a cache, or the functions that were found for native lifetimes. -/
inductive Keeper where
  | cache (n : Nat)
  | lifecycle (n : Nat)
  deriving DecidableEq

/-- Where a handle is. -/
inductive Place where
  | var (n : Nat)
  /-- in the memory of a keeper, which may have several blocks while handles are moved from one to another -/
  | kept (k : Keeper) (block index : Nat)
  deriving DecidableEq

/-- The keeper that a place belongs to. -/
def Place.keeper? : Place → Option Keeper
  | var _ => none
  | kept k _ _ => some k

lemma Place.ne_var {p : Place} {k : Keeper} (hp : p.keeper? = some k) (n : Nat) : p ≠ var n := by
  rintro rfl
  cases hp

lemma Place.ne_kept {p : Place} {k : Keeper} (hp : p.keeper? ≠ some k) (b i : Nat) : p ≠ kept k b i := by
  rintro rfl
  exact hp rfl

lemma Place.exists_kept {p : Place} {k : Keeper} (hp : p.keeper? = some k) : ∃ b i, p = kept k b i := by
  cases p with
  | var n => cases hp
  | kept l b i =>
    cases hp
    exact ⟨b, i, rfl⟩

/-- How far a keeper has come. -/
inductive Phase where
  /-- takes handles over, and has to destroy those that it has moved to another block -/
  | alive (left : List Place)
  /-- its end has begun; it releases these handles next -/
  | releasing (rest : List Place)
  /-- it has released its handles, and destroys them -/
  | ending

/-- The handles that there are, the keepers that there are, and what became of openings. -/
structure State where
  handles : Place → Option Handle := fun _ => none
  keepers : Keeper → Option Phase := fun _ => none
  record : Record := {}

namespace State

/-- With another handle at a place, or none. -/
def put (p : Place) (h : Option Handle) (s : State) : State := { s with handles := Function.update s.handles p h }

/-- With a keeper in another phase, or without it. -/
def enter (k : Keeper) (phase : Option Phase) (s : State) : State :=
  { s with keepers := Function.update s.keepers k phase }

variable {s : State} {p q : Place} {h : Option Handle} {k l : Keeper} {phase : Option Phase}

@[simp]
lemma handles_put_self : (s.put p h).handles p = h := Function.update_self ..

lemma handles_put_of_ne (hq : q ≠ p) (h : Option Handle) (s : State) : (s.put p h).handles q = s.handles q :=
  Function.update_of_ne hq _ _

lemma put_put (p : Place) (h h' : Option Handle) (s : State) : (s.put p h).put p h' = s.put p h' := by
  simp only [put, Function.update_idem]

lemma put_comm (hq : q ≠ p) (h h' : Option Handle) (s : State) : (s.put p h).put q h' = (s.put q h').put p h := by
  simp only [put, Function.update_comm hq]

lemma put_of_eq (hp : s.handles p = h) : s.put p h = s := by rw [put, Function.update_eq_self_iff.2 hp.symm]

@[simp]
lemma handles_enter : (s.enter k phase).handles = s.handles := rfl

@[simp]
lemma keepers_enter_self : (s.enter k phase).keepers k = phase := Function.update_self ..

lemma keepers_enter_of_ne (hl : l ≠ k) (phase : Option Phase) (s : State) :
    (s.enter k phase).keepers l = s.keepers l :=
  Function.update_of_ne hl _ _

lemma enter_enter (k : Keeper) (phase phase' : Option Phase) (s : State) :
    (s.enter k phase).enter k phase' = s.enter k phase' := by
  simp only [enter, Function.update_idem]

lemma enter_of_eq (hk : s.keepers k = phase) : s.enter k phase = s := by
  rw [enter, Function.update_eq_self_iff.2 hk.symm]

@[simp]
lemma record_enter : (s.enter k phase).record = s.record := rfl

end State

/-! ### Steps -/

open Place State in
inductive Step : State → State → Prop where
  | make {s : State} {n : Nat} (hn : s.handles (var n) = none) : Step s (put (var n) (some none) s)
  /-- a library is opened, or is not -/
  | load {s : State} {n : Nat} {h h' : Handle} {loader : Loader} {path : Bytes} {answer : Except Bytes Unit}
      {r : Record} (hn : s.handles (var n) = some h) (hx : Handle.load loader path h s.record = (answer, h', r)) :
      Step s { put (var n) (some h') s with record := r }
  | unload {s : State} {n : Nat} {h : Handle} (hn : s.handles (var n) = some h) :
      Step s { put (var n) (some none) s with record := Handle.unload h s.record }
  | release {s : State} {n : Nat} {h : Handle} (hn : s.handles (var n) = some h) :
      Step s { put (var n) (some none) s with record := Handle.release h s.record }
  /-- a new handle takes over from another one -/
  | moveNew {s : State} {n m : Nat} {h : Handle} (hn : s.handles (var n) = none) (hm : s.handles (var m) = some h) :
      Step s (put (var n) (some h.move.1) (put (var m) (some h.move.2) s))
  | assign {s : State} {n m : Nat} {h h' source source' : Handle} {r : Record} (hne : n ≠ m)
      (hn : s.handles (var n) = some h) (hm : s.handles (var m) = some source)
      (hx : Handle.assign source h s.record = (h', source', r)) :
      Step s { put (var n) (some h') (put (var m) (some source') s) with record := r }
  /-- a handle that is assigned to itself stays as it is -/
  | assignSelf {s : State} {n : Nat} {h : Handle} (hn : s.handles (var n) = some h) : Step s s
  | destroy {s : State} {n : Nat} {h : Handle} (hn : s.handles (var n) = some h) :
      Step s { put (var n) none s with record := Handle.unload h s.record }
  | found {s : State} {k : Keeper} (hk : s.keepers k = none) : Step s (enter k (some (.alive [])) s)
  /-- a new handle of the keeper takes over from a variable -/
  | keep {s : State} {k : Keeper} {left : List Place} {m b i : Nat} {h : Handle} (hk : s.keepers k = some (.alive left))
      (hn : s.handles (kept k b i) = none) (hm : s.handles (var m) = some h) :
      Step s (put (kept k b i) (some h.move.1) (put (var m) (some h.move.2) s))
  /-- a new handle of the keeper takes over from an old one -/
  | relocate {s : State} {k : Keeper} {left : List Place} {b i c j : Nat} {h : Handle}
      (hk : s.keepers k = some (.alive left)) (hn : s.handles (kept k b i) = none)
      (hm : s.handles (kept k c j) = some h) :
      Step s (enter k (some (.alive (kept k c j :: left)))
        (put (kept k b i) (some h.move.1) (put (kept k c j) (some h.move.2) s)))
  | discard {s : State} {k : Keeper} {left : List Place} {b i : Nat} {h : Handle}
      (hk : s.keepers k = some (.alive left)) (hleft : kept k b i ∈ left) (hn : s.handles (kept k b i) = some h) :
      Step s { enter k (some (.alive (left.filter (· ≠ kept k b i)))) (put (kept k b i) none s) with
        record := Handle.unload h s.record }
  /-- the end of a keeper begins, which releases all its handles, in any order -/
  | begin {s : State} {k : Keeper} {rest : List Place} (hk : s.keepers k = some (.alive []))
      (hrest : ∀ p, p ∈ rest ↔ p.keeper? = some k ∧ (s.handles p).isSome) :
      Step s (enter k (some (.releasing rest)) s)
  | letGo {s : State} {k : Keeper} {rest : List Place} {b i : Nat} {h : Handle}
      (hk : s.keepers k = some (.releasing (kept k b i :: rest))) (hn : s.handles (kept k b i) = some h) :
      Step s { enter k (some (.releasing rest)) (put (kept k b i) (some none) s) with
        record := Handle.release h s.record }
  | released {s : State} {k : Keeper} (hk : s.keepers k = some (.releasing [])) : Step s (enter k (some .ending) s)
  | clear {s : State} {k : Keeper} {b i : Nat} {h : Handle} (hk : s.keepers k = some .ending)
      (hn : s.handles (kept k b i) = some h) :
      Step s { put (kept k b i) none s with record := Handle.unload h s.record }
  | gone {s : State} {k : Keeper} (hk : s.keepers k = some .ending) (hall : ∀ b i, s.handles (kept k b i) = none) :
      Step s (enter k none s)

abbrev Run : State → State → Prop := Relation.ReflTransGen Step

end NativeBridge.Library.Openings
