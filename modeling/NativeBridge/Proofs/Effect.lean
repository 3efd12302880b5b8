import Mathlib.Order.Defs.Unbundled
import NativeBridge.World

/-!
Running effects. A run of a composed effect is a run of its parts, and a relation between worlds
that is reflexive and transitive holds along a composed effect when it holds along the parts.
-/

namespace NativeBridge.Eff

variable {S : Sides} {α β : Type}

/-! ### Runs -/

@[simp] lemma pure_apply (a : α) (w : World S) : (pure a : Eff S α) w = some (.ok a, w) := rfl

@[simp] lemma throw_apply (e : Error) (w : World S) : (throw e : Eff S α) w = some (.error e, w) := rfl

@[simp] lemma get_apply (w : World S) : (get : Eff S (World S)) w = some (.ok w, w) := rfl

@[simp] lemma set_apply (u w : World S) : (set u : Eff S PUnit) w = some (.ok ⟨⟩, u) := rfl

@[simp] lemma modify_apply (f : World S → World S) (w : World S) :
    (modify f : Eff S PUnit) w = some (.ok ⟨⟩, f w) := rfl

@[simp] lemma update_apply (f : World S → α × World S) (w : World S) :
    update f w = some (.ok (f w).1, (f w).2) := rfl

@[simp] lemma stuck_apply (w : World S) : (stuck : Eff S α) w = none := rfl

lemma ofExcept_apply (r : Except Error α) (w : World S) : ofExcept r w = some (r, w) := by
  cases r <;> rfl

lemma attempt_apply (x : Eff S α) (w : World S) :
    attempt x w = (x w).map fun p => (.ok p.1, p.2) := by
  rcases hx : x w with _ | ⟨r, w'⟩ <;> simp [attempt, hx]

lemma bind_apply (x : Eff S α) (f : α → Eff S β) (w : World S) :
    (x >>= f) w = (x w).bind fun p =>
      match p.1 with
      | .ok a => f a p.2
      | .error e => some (.error e, p.2) := by
  change (StateT.bind x (ExceptT.bindCont f)) w = _
  simp only [StateT.bind, ExceptT.bindCont]
  rcases x w with _ | ⟨r | r, w'⟩ <;> rfl

/-- What follows runs in the world that the first part left. -/
lemma bind_ok {x : Eff S α} {f : α → Eff S β} {w w' : World S} {a : α} (h : x w = some (.ok a, w')) :
    (x >>= f) w = f a w' := by
  simp [bind_apply, h]

lemma bind_error {x : Eff S α} {f : α → Eff S β} {w w' : World S} {e : Error}
    (h : x w = some (.error e, w')) : (x >>= f) w = some (.error e, w') := by
  simp [bind_apply, h]

/-- What follows an effect that does not end does not begin. -/
lemma bind_none {x : Eff S α} {f : α → Eff S β} {w : World S} (h : x w = none) : (x >>= f) w = none := by
  simp [bind_apply, h]

/-- A composed effect ends with what its second part ends with, or with the error of its first. -/
lemma bind_eq_some {x : Eff S α} {f : α → Eff S β} {w w' : World S} {r : Except Error β} :
    (x >>= f) w = some (r, w') ↔
      (∃ a w₁, x w = some (.ok a, w₁) ∧ f a w₁ = some (r, w')) ∨ ∃ e, x w = some (.error e, w') ∧ r = .error e := by
  rw [bind_apply]
  rcases x w with _ | ⟨e | a, w₁⟩
  · simp
  · simp only [Option.bind_some, Option.some.injEq, Prod.mk.injEq, reduceCtorEq, false_and, exists_false,
      false_or, Except.error.injEq]
    constructor
    · rintro ⟨h, h'⟩
      exact ⟨e, ⟨rfl, h'⟩, h.symm⟩
    · rintro ⟨e', ⟨he, h'⟩, h⟩
      exact ⟨by rw [h, he], h'⟩
  · simp only [Option.bind_some, Option.some.injEq, Prod.mk.injEq, Except.ok.injEq, reduceCtorEq, false_and,
      exists_false, or_false]
    constructor
    · exact fun h => ⟨a, w₁, ⟨rfl, rfl⟩, h⟩
    · rintro ⟨_, _, ⟨rfl, rfl⟩, h⟩
      exact h

/-- Work in two steps succeeds if both do. -/
lemma bind_eq_ok {x : Eff S α} {f : α → Eff S β} {w w' : World S} {b : β} :
    (x >>= f) w = some (.ok b, w') ↔ ∃ a w₁, x w = some (.ok a, w₁) ∧ f a w₁ = some (.ok b, w') := by
  rw [bind_eq_some]
  simp

lemma ofExcept_bind_eq_some {x : Except Error α} {f : α → Eff S β} {w w' : World S} {r : Except Error β} :
    (ofExcept x >>= f) w = some (r, w') ↔
      (∃ a, x = .ok a ∧ f a w = some (r, w')) ∨ ∃ e, x = .error e ∧ .error e = r ∧ w = w' := by
  cases x with
  | ok a => simp [bind_ok (ofExcept_apply (.ok a) w)]
  | error e => simp [bind_error (ofExcept_apply (.error e) w)]

lemma attempt_bind_eq_some {x : Eff S α} {f : Except Error α → Eff S β} {w w' : World S} {r : Except Error β} :
    (attempt x >>= f) w = some (r, w') ↔ ∃ q w₁, x w = some (q, w₁) ∧ f q w₁ = some (r, w') := by
  rw [bind_apply, attempt_apply]
  rcases x w with _ | ⟨q, w₁⟩
  · simp
  · simp [and_assoc]

/-- What is run at the end depends on nothing but what the effect ended with. -/
lemma andFinally_congr {x y : Eff S α} {last : Eff S Unit} {w u : World S} (h : x w = y u) :
    x.andFinally last w = y.andFinally last u := by
  rw [andFinally, andFinally, bind_apply, bind_apply, attempt_apply, attempt_apply, h]

/-- A guard raises its error before anything has changed. -/
lemma guard_eq_some {c : Prop} [Decidable c] {e : Error} {f : PUnit → Eff S α} {w w' : World S} {r : Except Error α} :
    (if c then (throw e : Eff S PUnit) >>= f else f ⟨⟩) w = some (r, w') ↔
      c ∧ .error e = r ∧ w = w' ∨ ¬c ∧ f ⟨⟩ w = some (r, w') := by
  by_cases hc : c
  · simp [hc, bind_apply]
  · simp [hc]

lemma map_eq_bind (f : α → β) (x : Eff S α) : f <$> x = x >>= fun a => pure (f a) := by
  rw [bind_pure_comp]

lemma map_apply (f : α → β) (x : Eff S α) (w : World S) :
    (f <$> x) w = (x w).map fun p => (p.1.map f, p.2) := by
  rw [map_eq_bind, bind_apply]
  rcases x w with _ | ⟨r | r, w'⟩ <;> rfl

lemma if_apply (c : Prop) [Decidable c] (x y : Eff S α) (w : World S) :
    (if c then x else y) w = if c then x w else y w := by
  split <;> rfl

/-- Work that leaves the world alone is done for each item in the same world. -/
lemma collect_apply {f : β → Eff S α} {g : β → α} {bs : List β} {w : World S}
    (hf : ∀ b ∈ bs, f b w = some (.ok (g b), w)) : collect f bs w = some (.ok (bs.map g), w) := by
  induction bs with
  | nil => rfl
  | cons b rest ih =>
    obtain ⟨hb, hrest⟩ := List.forall_mem_cons.1 hf
    rw [collect, bind_ok hb, bind_ok (ih hrest)]
    rfl

/-! ### Properties of composed effects -/

/-- A property of effects that effects in sequence have if each of them has it, be it one of effects that raise no
error. -/
structure Chains (P : ∀ α : Type, Eff S α → Prop) : Prop where
  pure {α : Type} (a : α) : P α (pure a)
  bind {α β : Type} {x : Eff S α} {f : α → Eff S β} (hx : P α x) (hf : ∀ a, P β (f a)) : P β (x >>= f)

namespace Chains

variable {P : ∀ α : Type, Eff S α → Prop} (hp : Chains P)

lemma ite {c : Prop} [Decidable c] {x y : Eff S α} (hx : P α x) (hy : P α y) : P α (if c then x else y) := by
  split
  · exact hx
  · exact hy

include hp

lemma map (f : α → β) {x : Eff S α} (hx : P α x) : P β (f <$> x) := by
  rw [map_eq_bind]
  exact hp.bind hx fun a => hp.pure (f a)

lemma forget {x : Eff S α} (hx : P α x) : P PUnit (do let _ ← x) := hp.bind hx fun _ => hp.pure _

lemma each {f : β → Eff S Unit} (hf : ∀ b, P Unit (f b)) (bs : List β) : P Unit (each f bs) := by
  induction bs with
  | nil => exact hp.pure ()
  | cons b rest ih => exact hp.bind (hf b) fun _ => ih

lemma collect {f : β → Eff S α} {bs : List β} (hf : ∀ b ∈ bs, P α (f b)) : P (List α) (collect f bs) := by
  induction bs with
  | nil => exact hp.pure []
  | cons b rest ih =>
    rw [List.forall_mem_cons] at hf
    exact hp.bind hf.1 fun a => hp.bind (ih hf.2) fun more => hp.pure (a :: more)

end Chains

/-- A property of effects that effects in sequence have if each of them has it, and that every error has. -/
structure Sequences (P : ∀ α : Type, Eff S α → Prop) : Prop extends Chains P where
  throw {α : Type} (e : Error) : P α (throw e)

namespace Sequences

variable {P : ∀ α : Type, Eff S α → Prop} (hp : Sequences P)

include hp

lemma ofExcept (r : Except Error α) : P α (ofExcept r) := by
  cases r with
  | ok a => exact hp.pure a
  | error e => exact hp.throw e

lemma guard {c : Prop} [Decidable c] {e : Error} {f : PUnit → Eff S α} (hf : P α (f ⟨⟩)) :
    P α (if c then (MonadExcept.throw e : Eff S PUnit) >>= f else f ⟨⟩) := by
  split
  · exact hp.throw e
  · exact hf

end Sequences

/-- A property of effects that every composed effect has if its parts have it. -/
structure Composes (P : ∀ α : Type, Eff S α → Prop) : Prop extends Sequences P where
  stuck {α : Type} : P α stuck
  get : P _ get
  attempt {α : Type} {x : Eff S α} (hx : P α x) : P _ x.attempt

/-- A relation between effects that composed effects have if their parts have it, so that it does not tell apart effects
that are composed alike. -/
structure Parametric (P : ∀ α : Type, Eff S α → Eff S α → Prop) : Prop where
  pure {α : Type} (a : α) : P α (pure a) (pure a)
  throw {α : Type} (e : Error) : P α (throw e) (throw e)
  stuck {α : Type} : P α stuck stuck
  get : P _ get get
  attempt {α : Type} {x y : Eff S α} (hx : P α x y) : P _ x.attempt y.attempt
  bind {α β : Type} {x y : Eff S α} {f g : α → Eff S β} (hx : P α x y) (hf : ∀ a, P β (f a) (g a)) :
    P β (x >>= f) (y >>= g)

/-- A property of composed effects is a relation between each of them and any other. -/
lemma Composes.parametric {P : ∀ α : Type, Eff S α → Prop} (hp : Composes P) : Parametric fun α x _ => P α x where
  pure := hp.pure
  throw := hp.throw
  stuck := hp.stuck
  get := hp.get
  attempt := hp.attempt
  bind := hp.bind

namespace Parametric

variable {P : ∀ α : Type, Eff S α → Eff S α → Prop} (hp : Parametric P)

lemma ite {c : Prop} [Decidable c] {x y x' y' : Eff S α} (hx : P α x x') (hy : P α y y') :
    P α (if c then x else y) (if c then x' else y') := by
  split
  · exact hx
  · exact hy

include hp

lemma map (f : α → β) {x x' : Eff S α} (hx : P α x x') : P β (f <$> x) (f <$> x') := by
  rw [map_eq_bind, map_eq_bind]
  exact hp.bind hx fun a => hp.pure (f a)

lemma forget {x x' : Eff S α} (hx : P α x x') : P PUnit (do let _ ← x) (do let _ ← x') :=
  hp.bind hx fun _ => hp.pure _

lemma each {f g : β → Eff S Unit} (hf : ∀ b, P Unit (f b) (g b)) (bs : List β) : P Unit (each f bs) (each g bs) := by
  induction bs with
  | nil => exact hp.pure ()
  | cons b rest ih => exact hp.bind (hf b) fun _ => ih

lemma ofExcept (r : Except Error α) : P α (ofExcept r) (ofExcept r) := by
  cases r with
  | ok a => exact hp.pure a
  | error e => exact hp.throw e

lemma guard {c : Prop} [Decidable c] {e : Error} {f g : PUnit → Eff S α} (hf : P α (f ⟨⟩) (g ⟨⟩)) :
    P α (if c then (MonadExcept.throw e : Eff S PUnit) >>= f else f ⟨⟩)
      (if c then (MonadExcept.throw e : Eff S PUnit) >>= g else g ⟨⟩) := by
  split
  · exact hp.throw e
  · exact hf

lemma andFinally {x x' : Eff S α} {last last' : Eff S Unit} (hx : P α x x') (hl : P Unit last last') :
    P α (x.andFinally last) (x'.andFinally last') :=
  hp.bind (hp.attempt hx) fun r => hp.bind hl fun _ => hp.ofExcept r

end Parametric

lemma Composes.andFinally {P : ∀ α : Type, Eff S α → Prop} (hp : Composes P) {x : Eff S α} {last : Eff S Unit}
    (hx : P α x) (hl : P Unit last) : P α (x.andFinally last) :=
  hp.bind (hp.attempt hx) fun r => hp.bind hl fun _ => hp.ofExcept r

/-! ### Relations that hold along an effect -/

/-- The relation holds between each world and the one that the effect ends in. -/
def Along (R : World S → World S → Prop) (x : Eff S α) : Prop :=
  ∀ ⦃w r w'⦄, x w = some (r, w') → R w w'

variable {R : World S → World S → Prop}

namespace Along

lemma update {f : World S → α × World S} (h : ∀ w, R w (f w).2) : Along R (Eff.update f) := by
  intro w r w' hx
  simp only [update_apply, Option.some.injEq, Prod.mk.injEq] at hx
  exact hx.2 ▸ h w

lemma modify {f : World S → World S} (h : ∀ w, R w (f w)) : Along R (modify f : Eff S PUnit) := by
  intro w r w' hx
  simp only [modify_apply, Option.some.injEq, Prod.mk.injEq] at hx
  exact hx.2 ▸ h w

lemma stuck : Along R (Eff.stuck : Eff S α) := fun _ _ _ hx => by simp at hx

lemma attempt {x : Eff S α} (h : Along R x) : Along R (Eff.attempt x) := by
  intro w r w' hx
  rw [attempt_apply, Option.map_eq_some_iff] at hx
  obtain ⟨⟨q, w₁⟩, hq, he⟩ := hx
  cases he
  exact h hq

lemma ite {c : Prop} [Decidable c] {x y : Eff S α} (hx : Along R x) (hy : Along R y) :
    Along R (if c then x else y) :=
  Chains.ite (P := fun _ x => Along R x) hx hy

variable [IsPreorder (World S) R]

lemma pure (a : α) : Along R (pure a : Eff S α) := by
  intro w r w' hx
  simp only [pure_apply, Option.some.injEq, Prod.mk.injEq] at hx
  exact hx.2 ▸ refl w

lemma throw (e : Error) : Along R (throw e : Eff S α) := by
  intro w r w' hx
  simp only [throw_apply, Option.some.injEq, Prod.mk.injEq] at hx
  exact hx.2 ▸ refl w

lemma get : Along R (get : Eff S (World S)) := by
  intro w r w' hx
  simp only [get_apply, Option.some.injEq, Prod.mk.injEq] at hx
  exact hx.2 ▸ refl w

lemma bind {x : Eff S α} {f : α → Eff S β} (hx : Along R x) (hf : ∀ a, Along R (f a)) : Along R (x >>= f) := by
  intro w r w' h
  rcases bind_eq_some.1 h with ⟨a, w₁, h₁, h₂⟩ | ⟨e, h₁, -⟩
  · exact IsTrans.trans _ _ _ (hx h₁) (hf a h₂)
  · exact hx h₁

/-- What leads along a relation does so as a whole if its parts do. -/
lemma composes : Composes fun _ (x : Eff S _) => Along R x where
  pure := pure
  throw := throw
  bind := bind
  stuck hx := stuck hx
  get := get
  attempt := attempt

lemma parametric : Parametric fun _ (x _ : Eff S _) => Along R x := composes.parametric

lemma ofExcept (r : Except Error α) : Along R (ofExcept r : Eff S α) := composes.ofExcept r

lemma guard {c : Prop} [Decidable c] {e : Error} {f : PUnit → Eff S α} (hf : Along R (f ⟨⟩)) :
    Along R (if c then (MonadExcept.throw e : Eff S PUnit) >>= f else f ⟨⟩) :=
  composes.guard hf

lemma andFinally {x : Eff S α} {last : Eff S Unit} (hx : Along R x) (hl : Along R last) :
    Along R (x.andFinally last) :=
  composes.andFinally hx hl

lemma each {f : β → Eff S Unit} (hf : ∀ b, Along R (f b)) (bs : List β) : Along R (Eff.each f bs) :=
  composes.each hf bs

lemma collect {f : β → Eff S α} (hf : ∀ b, Along R (f b)) (bs : List β) : Along R (Eff.collect f bs) :=
  composes.collect fun b _ => hf b

end Along

/-! ### What an effect gives -/

/-- Every value that the effect ends with has the property. -/
def Gives (P : α → Prop) (x : Eff S α) : Prop := ∀ ⦃w a w'⦄, x w = some (.ok a, w') → P a

namespace Gives

variable {P : α → Prop}

lemma pure {a : α} (h : P a) : Gives P (pure a : Eff S α) := by
  intro w b w' hx
  cases hx
  exact h

lemma throw (e : Error) : Gives P (throw e : Eff S α) := by
  intro w b w' hx
  cases hx

lemma bind {x : Eff S β} {f : β → Eff S α} (hf : ∀ b, Gives P (f b)) : Gives P (x >>= f) := by
  intro w a w' hx
  rcases bind_eq_some.1 hx with ⟨b, w₁, -, h₂⟩ | ⟨e, -, he⟩
  · exact hf b h₂
  · cases he

lemma imp {Q : α → Prop} {x : Eff S α} (hx : Gives P x) (h : ∀ a, P a → Q a) : Gives Q x :=
  fun _ a _ ha => h a (hx ha)

lemma ite {c : Prop} [Decidable c] {x y : Eff S α} (hx : Gives P x) (hy : Gives P y) :
    Gives P (if c then x else y) := by
  split
  · exact hx
  · exact hy

lemma guard {c : Prop} [Decidable c] {e : Error} {f : PUnit → Eff S α} (hf : Gives P (f ⟨⟩)) :
    Gives P (if c then (MonadExcept.throw e : Eff S PUnit) >>= f else f ⟨⟩) :=
  .ite (fun _ _ _ hx => by cases hx) hf

end Gives

end NativeBridge.Eff
