import NativeBridge.Proofs.Ownership.Pointers

/-!
Reading a list ends with its items. What can keep it from it is native code that does not return and functions that were
not found, so where the functions of the lifecycle are there and return, every item is delivered, whatever it points to.
-/

namespace NativeBridge

open Eff

variable {S : Sides}

/-- Types that the items of a list can have. -/
def Descriptor.isListItem : Descriptor → Bool
  | int .. | string _ | object _ | boxed .. | variant _ => true
  | _ => false

/-- Types that the items of an array, and what a reference refers to, can have as arguments. -/
def Descriptor.isElementary : Descriptor → Bool
  | int .. | float _ | string _ | boolean | object _ | boxed .. | variant _ => true
  | _ => false

/-- Every role has a function that returns, and so do the functions that register types. -/
structure Lifecycle.Returns (h : Host S) (l : Lifecycle) : Prop where
  functions : ∀ role, ∃ a, l.bound role = some a ∧ ∀ words (w : World S),
    h.run a (fun _ _ => stuck) { ints := words } w ≠ none
  types : ∀ inner library a,
    h.symbol library (Bytes.untilNul (Library.typeFunction (.ofString inner))) = .ok a → ∀ w : World S,
      h.run a (fun _ _ => stuck) {} w ≠ none

/-- With this lifecycle in use the work ends with a value, and the lifecycle stays in use. -/
def Eff.Delivers {α : Type} (l : Lifecycle) (x : Eff S α) : Prop :=
  ∀ w : World S, w.lifecycle? = some l → ∃ a w', x w = some (.ok a, w') ∧ w'.lifecycle? = some l

namespace Eff.Delivers

variable {α β : Type} {l : Lifecycle}

lemma pure (a : α) : Delivers l (pure a : Eff S α) := fun w hw => ⟨a, w, rfl, hw⟩

lemma bind {x : Eff S α} {f : α → Eff S β} (hx : Delivers l x) (hf : ∀ a, Delivers l (f a)) :
    Delivers l (x >>= f) := by
  intro w hw
  obtain ⟨a, w₁, h₁, hw₁⟩ := hx w hw
  obtain ⟨b, w₂, h₂, hw₂⟩ := hf a w₁ hw₁
  exact ⟨b, w₂, (bind_ok h₁).trans h₂, hw₂⟩

lemma ite {c : Prop} [Decidable c] {x y : Eff S α} (hx : Delivers l x) (hy : Delivers l y) :
    Delivers l (if c then x else y) := by
  split
  · exact hx
  · exact hy

lemma modify {f : World S → World S} (hf : ∀ w, (f w).lifecycle? = w.lifecycle?) :
    Delivers l (modify f : Eff S PUnit) :=
  fun w hw => ⟨⟨⟩, f w, rfl, (hf w).trans hw⟩

lemma collect {f : β → Eff S α} {bs : List β} (hf : ∀ b ∈ bs, Delivers l (f b)) : Delivers l (collect f bs) := by
  induction bs with
  | nil => exact .pure []
  | cons b rest ih =>
    obtain ⟨hb, hrest⟩ := List.forall_mem_cons.1 hf
    exact hb.bind fun a => (ih hrest).bind fun more => .pure _

/-- The lifecycle that is looked up is the one in use. -/
lemma currentLifecycle {f : Lifecycle → Eff S α} (hf : Delivers l (f l)) :
    Delivers l (LoopState.currentLifecycle >>= f) := by
  intro w hw
  rw [bind_ok (currentLifecycle_of hw)]
  exact hf w hw

lemma alloc (bytes : Bytes) : Delivers l (Memory.alloc bytes : Eff S Address) := fun _ hw => ⟨_, _, rfl, hw⟩

/-- A library is opened or not; either way the state keeps its lifecycle. -/
lemma library (h : Host S) (name : Bytes) : Delivers l (Eff.attempt (LoopState.library h name)) := by
  intro w hw
  obtain ⟨s, hs, rfl⟩ := lifecycle?_eq_some.1 hw
  rcases hget : s.libraries.get h.loader name w.record with ⟨r, libraries, record⟩
  have hlibrary : LoopState.library h name w =
      some (r, { w with record, state := some { s with libraries } }) := by
    rw [LoopState.library, bind_ok (LoopState.current_of_some hs), bind_ok (get_apply w), hget]
    dsimp only
    rw [bind_ok (modify_apply _ w), LoopState.update, bind_ok (modify_apply _ _), ofExcept_apply]
    simp [hs]
  exact ⟨r, _, by rw [attempt_apply, hlibrary]; rfl, rfl⟩

lemma wrap (o : Wrapper) : Delivers l (LoopState.wrap o : Eff S Handle) := by
  intro w hw
  obtain ⟨s, hs, rfl⟩ := lifecycle?_eq_some.1 hw
  exact ⟨_, _, LoopState.wrap_of_some hs o, rfl⟩

section

variable {h : Host S} (hn : ∀ a call words, NativeCode call (h.run a call words)) (hr : l.Returns h)

include hn

/-- Native code that returns raises no error. -/
lemma run {a : Address} {words : Registers} (hreturns : ∀ w, h.run a (fun _ _ => stuck) words w ≠ none) :
    Delivers l (h.run a (fun _ _ => stuck) words) := by
  intro w hw
  obtain ⟨⟨r, w'⟩, hrun⟩ := Option.ne_none_iff_exists'.1 (hreturns w)
  obtain ⟨⟨q, rfl⟩, native, heap, -, rfl⟩ := (hn a _ words).outside hrun
  exact ⟨q, _, hrun, hw⟩

include hr

lemma call? (role : LifecycleRole) (words : List Nat) :
    ∀ w : World S, w.lifecycle? = some l →
      ∃ r w', l.call? h role words w = some (.ok (some r), w') ∧ w'.lifecycle? = some l := by
  intro w hw
  obtain ⟨a, ha, hreturns⟩ := hr.functions role
  obtain ⟨r, w', hrun, hw'⟩ := run hn (hreturns words) w hw
  exact ⟨r.int, w', Lifecycle.call?_of_run ha hrun, hw'⟩

lemma require (role : LifecycleRole) (need : LifecycleNeed) (words : List Nat) :
    Delivers l (l.require h role need words) := by
  intro w hw
  obtain ⟨r, w', hcall, hw'⟩ := call? hn hr role words w hw
  exact ⟨r, w', bind_ok hcall, hw'⟩

lemma variantRefSink (p : Address) : Delivers l (l.variantRefSink h p) := by
  intro w hw
  obtain ⟨r, w', hcall, hw'⟩ := call? hn hr .variantRefSink [p] w hw
  exact ⟨r, w', bind_ok hcall, hw'⟩

lemma typeFromName (name : Bytes) : Delivers l (l.typeFromName h name) := by
  have called (text : Address) : Delivers l (l.call? h .typeFromName [text]) := fun w hw => by
    obtain ⟨r, w', hcall, hw'⟩ := call? hn hr .typeFromName [text] w hw
    exact ⟨some r, w', hcall, hw'⟩
  refine .ite (.pure 0) (.bind (alloc _) fun text => .bind (called text) fun id => ?_)
  exact .bind (.modify fun w => rfl) fun _ => .pure _

lemma boxedTypeId (inner : String) (lib : Option String) : Delivers l (boxedTypeId h inner lib) := by
  refine .currentLifecycle (.bind (typeFromName hn hr _) fun id => .ite (.pure id) ?_)
  cases lib with
  | none => exact .pure 0
  | some lib =>
    refine .bind (library h _) fun opened => ?_
    cases opened with
    | error => exact .pure 0
    | ok o =>
      dsimp only
      split
      · exact .pure 0
      · next a ha => exact .bind (run hn (hr.types inner o.library a ha)) fun r => .pure r.int

/-- What a container keeps is taken hold of. -/
lemma wrapObject (p : Address) {type : Descriptor} (htype : type.isObjectLike) :
    Delivers l (wrapObject h p type false) := by
  by_cases hp : p = 0
  · rw [NativeBridge.wrapObject, if_pos hp]
    exact .pure Value.null
  rw [wrapObject_eq h hp]
  refine .currentLifecycle (.bind ?_ fun o => .bind (.wrap o) fun k => .pure _)
  cases type with
  | object => exact .ite (.bind (require hn hr _ _ _) fun _ => .pure _) (.pure _)
  | boxed =>
    refine .bind (boxedTypeId hn hr _ _) fun id => .ite (.pure _) ?_
    exact .ite (.bind (require hn hr _ _ _) fun _ => .pure _) (.pure _)
  | variant => exact .ite (.bind (variantRefSink hn hr p) fun _ => .pure _) (.pure _)
  | _ => cases htype

lemma itemFromPointer {item : Descriptor} (hitem : item.isListItem) (d : Nat) :
    Delivers l (itemFromPointer h d item) := by
  have hwrap (hobject : item.isObjectLike) :
      NativeBridge.itemFromPointer h d item = NativeBridge.wrapObject h d item false := by
    cases item with
    | object | boxed | variant => rfl
    | _ => cases hobject
  cases item with
  | int => exact .pure _
  | string => exact fun w hw => ⟨_, w, copyString_apply w d, hw⟩
  | object | boxed | variant => exact hwrap rfl ▸ wrapObject hn hr d rfl
  | _ => cases hitem

end

end Eff.Delivers

end NativeBridge
