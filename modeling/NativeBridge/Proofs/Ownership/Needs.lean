import NativeBridge.Proofs.Ownership.Delivery

/-!
Reading values back without all of the functions for native lifetimes. What was read is a value, or one of the functions
that are missing was needed, or a pointer led to items that cannot be walked.
-/

namespace NativeBridge

open Eff

variable {S : Sides}

/-- The role of a function that some operation cannot do without. -/
def LifecycleNeed.role : LifecycleNeed → LifecycleRole
  | objectRef => .objectRef
  | variantRef => .variantRef
  | boxedCopy => .boxedCopy
  | listFree => .listFree
  | slistFree => .slistFree

/-- The error says what is true: a function that was needed is missing. -/
def Lifecycle.Lacks (l : Lifecycle) (e : Error) : Prop :=
  ∃ need : LifecycleNeed, e = .lifecycle need ∧ l.bound need.role = none

/-- With this lifecycle in use the work raises no errors but these, and the lifecycle stays in use. -/
def Eff.RaisesOnly {α : Type} (l : Lifecycle) (P : Error → Prop) (x : Eff S α) : Prop :=
  ∀ w r w', w.lifecycle? = some l → x w = some (r, w') → (∀ e, r = .error e → P e) ∧ w'.lifecycle? = some l

namespace Eff.RaisesOnly

variable {α β : Type} {l : Lifecycle} {P Q : Error → Prop}

/-! ### Composed work -/

lemma update {f : World S → α × World S} (hf : ∀ w, (f w).2.lifecycle? = w.lifecycle?) :
    RaisesOnly l P (Eff.update f) := by
  intro w r w' hw hx
  cases hx
  exact ⟨by simp, (hf w).trans hw⟩

lemma modify {f : World S → World S} (hf : ∀ w, (f w).lifecycle? = w.lifecycle?) :
    RaisesOnly l P (modify f : Eff S PUnit) :=
  update (f := fun w => (PUnit.unit, f w)) hf

lemma pure (a : α) : RaisesOnly l P (pure a : Eff S α) := update (f := fun w => (a, w)) fun _ => rfl

lemma get : RaisesOnly l P (get : Eff S (World S)) := update (f := fun w => (w, w)) fun _ => rfl

lemma throw {e : Error} (he : P e) : RaisesOnly l P (throw e : Eff S α) := by
  intro w r w' hw hx
  cases hx
  exact ⟨by simpa using he, hw⟩

lemma imp {x : Eff S α} (hx : RaisesOnly l P x) (h : ∀ e, P e → Q e) : RaisesOnly l Q x := by
  intro w r w' hw hrun
  obtain ⟨he, hw'⟩ := hx w r w' hw hrun
  exact ⟨fun e hr => h e (he e hr), hw'⟩

lemma bind {x : Eff S α} {f : α → Eff S β} (hx : RaisesOnly l P x) (hf : ∀ a, RaisesOnly l P (f a)) :
    RaisesOnly l P (x >>= f) := by
  intro w r w' hw hrun
  rcases bind_eq_some.1 hrun with ⟨a, w₁, h₁, h₂⟩ | ⟨e, h₁, rfl⟩
  · exact hf a w₁ r w' (hx w _ w₁ hw h₁).2 h₂
  · obtain ⟨he, hw'⟩ := hx w _ w' hw h₁
    exact ⟨fun e' hr => he e' (congrArg _ (Except.error.inj hr)), hw'⟩

lemma ite {c : Prop} [Decidable c] {x y : Eff S α} (hx : RaisesOnly l P x) (hy : RaisesOnly l P y) :
    RaisesOnly l P (if c then x else y) := by
  split
  · exact hx
  · exact hy

lemma ofExcept {r : Except Error α} (h : ∀ e, r = .error e → P e) : RaisesOnly l P (Eff.ofExcept r : Eff S α) := by
  intro w q w' hw hx
  rw [ofExcept_apply] at hx
  cases hx
  exact ⟨h, hw⟩

lemma each {f : β → Eff S Unit} (hf : ∀ b, RaisesOnly l P (f b)) (bs : List β) : RaisesOnly l P (Eff.each f bs) := by
  induction bs with
  | nil => exact .pure ()
  | cons b rest ih => exact (hf b).bind fun _ => ih

lemma collect {f : β → Eff S α} {bs : List β} (hf : ∀ b ∈ bs, RaisesOnly l P (f b)) :
    RaisesOnly l P (Eff.collect f bs) := by
  induction bs with
  | nil => exact .pure []
  | cons b rest ih =>
    obtain ⟨hb, hrest⟩ := List.forall_mem_cons.1 hf
    exact hb.bind fun a => (ih hrest).bind fun more => .pure _

lemma currentLifecycle {f : Lifecycle → Eff S α} (hf : RaisesOnly l P (f l)) :
    RaisesOnly l P (LoopState.currentLifecycle >>= f) := by
  intro w r w' hw hx
  rw [bind_ok (currentLifecycle_of hw)] at hx
  exact hf w r w' hw hx

/-- Work that always delivers raises nothing. -/
lemma of_delivers {x : Eff S α} (hx : Delivers l x) : RaisesOnly l P x := by
  intro w r w' hw hrun
  obtain ⟨a, w₁, h₁, hw₁⟩ := hx w hw
  rw [hrun] at h₁
  cases h₁
  exact ⟨by simp, hw₁⟩

lemma copyString (p : Address) : RaisesOnly l P (copyString p : Eff S Value) :=
  of_delivers fun w hw => ⟨_, w, copyString_apply w p, hw⟩

/-! ### Functions for native lifetimes -/

section

variable {h : Host S} (hn : ∀ a call words, NativeCode call (h.run a call words))

include hn

lemma quiet (a : Address) (words : Registers) : RaisesOnly l P (h.run a (fun _ _ => stuck) words) := by
  intro w r w' hw hx
  obtain ⟨⟨q, rfl⟩, native, heap, -, rfl⟩ := (hn a _ words).outside hx
  exact ⟨by simp, hw⟩

lemma call? (role : LifecycleRole) (words : List Nat) : RaisesOnly l P (l.call? h role words) := by
  unfold Lifecycle.call?
  split
  · exact .pure none
  · exact .bind (quiet hn _ _) fun r => .pure _

lemma require (need : LifecycleNeed) (words : List Nat) :
    RaisesOnly l l.Lacks (l.require h need.role need words) := by
  intro w r w' hw hx
  rcases Lifecycle.require_cases hx with ⟨hb, rfl, rfl⟩ | ⟨a, q, -, hrun, rfl⟩
  · exact ⟨fun e he => by cases he; exact ⟨need, rfl, hb⟩, hw⟩
  · obtain ⟨hraises, hw'⟩ := quiet hn (P := l.Lacks) a _ w q w' hw hrun
    cases q with
    | ok v => exact ⟨nofun, hw'⟩
    | error e => exact ⟨fun _ he => hraises _ (by cases he; rfl), hw'⟩

lemma variantRefSink (p : Address) : RaisesOnly l l.Lacks (l.variantRefSink h p) := by
  refine .bind (call? hn _ _) fun r => ?_
  cases r with
  | some r => exact .pure r
  | none => exact require hn .variantRef [p]

lemma typeFromName (name : Bytes) : RaisesOnly l P (l.typeFromName h name) := by
  refine .ite (.pure 0) (.bind (.of_delivers (.alloc _)) fun text => .bind (call? hn _ _) fun id => ?_)
  exact .bind (.modify fun _ => rfl) fun _ => .pure _

/-- A library that does not open is a type that is not known. -/
lemma boxedTypeId (inner : String) (lib : Option String) : RaisesOnly l P (boxedTypeId h inner lib) := by
  refine .currentLifecycle (.bind (typeFromName hn _) fun id => .ite (.pure id) ?_)
  cases lib with
  | none => exact .pure 0
  | some lib =>
    refine .bind (.of_delivers (Delivers.library h _)) fun opened => ?_
    cases opened with
    | error => exact .pure 0
    | ok o =>
      dsimp only
      split
      · exact .pure 0
      · exact .bind (quiet hn _ _) fun r => .pure r.int

lemma free (p : Address) : RaisesOnly l P (l.free h p) :=
  .bind (call? hn _ _) fun _ => .ite (.modify fun _ => rfl) (.pure ())

lemma strfreev (p : Address) : RaisesOnly l P (l.strfreev h p) :=
  .ite (.pure ()) (.bind (call? hn _ _) fun _ => .ite (.pure ()) (.bind .get fun _ =>
    .bind (.each (free hn) _) fun _ => free hn p))

/-! ### Pointers -/

lemma wrapperFor (p : Address) (type : Descriptor) (transfer : Bool) :
    RaisesOnly l l.Lacks (wrapperFor h l p type transfer) := by
  unfold NativeBridge.wrapperFor
  split
  · refine .ite ?_ (.ite (.bind (require hn .objectRef [p]) fun _ => .pure _) (.pure _))
    refine .ite (.bind (.bind (call? hn _ _) fun _ => .pure _) fun floating => .ite ?_ (.pure _)) (.pure _)
    exact .bind (.bind (call? hn _ _) fun _ => .pure _) fun _ => .pure _
  · refine .bind (boxedTypeId hn _ _) fun id => .ite (.pure _) (.ite ?_ (.pure _))
    exact .bind (require hn .boxedCopy [id, p]) fun _ => .pure _
  · exact .ite (.pure _) (.ite (.bind (variantRefSink hn p) fun _ => .pure _) (.pure _))

lemma wrapObject (p : Address) (type : Descriptor) (transfer : Bool) :
    RaisesOnly l l.Lacks (wrapObject h p type transfer) := by
  by_cases hp : p = 0
  · rw [NativeBridge.wrapObject, if_pos hp]
    exact .pure Value.null
  · rw [wrapObject_eq h hp]
    refine .currentLifecycle (.bind (wrapperFor hn p type transfer) fun o => ?_)
    exact .bind (.of_delivers (Delivers.wrap o)) fun k => .pure _

end

end Eff.RaisesOnly

/-- What a pointer to items is refused with: an array without a length whose items are no pointers, or a list whose
items are of a type that no list has. -/
inductive Unwalkable : Descriptor → Error → Prop
  | array {item : Descriptor} {borrowed : Bool} (hstring : ∀ b, item ≠ .string b)
      (hobject : item.isObjectLike = false) :
      Unwalkable (.array item .array borrowed) (.arrayWithoutLength item.describe)
  | list {item : Descriptor} {kind : ListKind} {borrowed : Bool} (hkind : kind ≠ .array)
      (hitem : item.isListItem = false) : Unwalkable (.array item kind borrowed) (.listItem item.describe)

/-- The items are of a type that no list has, and the error says so. -/
def Descriptor.Unlisted (item : Descriptor) (e : Error) : Prop := item.isListItem = false ∧ e = .listItem item.describe

namespace Eff.RaisesOnly

variable {l : Lifecycle} {h : Host S} (hn : ∀ a call words, NativeCode call (h.run a call words))

include hn

lemma itemFromPointer (d : Nat) (item : Descriptor) :
    RaisesOnly l (fun e => l.Lacks e ∨ item.Unlisted e) (itemFromPointer h d item) := by
  have hwrap : RaisesOnly l (fun e => l.Lacks e ∨ item.Unlisted e) (NativeBridge.wrapObject h d item false) :=
    (wrapObject hn d item false).imp fun _ => Or.inl
  cases item with
  | string => exact copyString d
  | object | boxed | variant => exact hwrap
  | int => exact .pure _
  | _ => exact .throw (Or.inr ⟨rfl, rfl⟩)

lemma listFromPointer (p : Address) (item : Descriptor) (kind : ListKind) (transfer : Bool) :
    RaisesOnly l (fun e => l.Lacks e ∨ item.Unlisted e) (listFromPointer h p item kind transfer) := by
  have hfree (need : LifecycleNeed) :
      RaisesOnly l (fun e => l.Lacks e ∨ item.Unlisted e) (do let _ ← l.require h need.role need [p] : Eff S Unit) :=
    (RaisesOnly.bind (require hn need [p]) fun _ => .pure ()).imp fun _ => Or.inl
  refine .currentLifecycle (.bind .get fun w => .bind (.collect fun d _ => itemFromPointer hn d item) fun items => ?_)
  refine .ite ?_ (.pure _)
  split
  · exact .bind (hfree .listFree) fun _ => .pure _
  · exact .bind (hfree .slistFree) fun _ => .pure _

lemma pointersFromPointer (p : Address) (item : Descriptor) (transfer : Bool) :
    RaisesOnly l (fun e => l.Lacks e ∨ item.Unlisted e) (pointersFromPointer h p item transfer) := by
  refine .currentLifecycle (.bind .get fun w => .bind (.collect fun d _ => itemFromPointer hn d item) fun items => ?_)
  refine .ite ?_ (.pure _)
  split
  · exact .bind (strfreev hn p) fun _ => .pure _
  · exact .bind (free hn p) fun _ => .pure _

lemma fromString (p : Address) (borrowed transfer : Bool) {P : Error → Prop} :
    RaisesOnly l P (fromPointer h p (.string borrowed) transfer) :=
  .bind (copyString p) fun _ => .ite (.currentLifecycle (.bind (free hn p) fun _ => .pure _)) (.pure _)

lemma arrayFromPointer (p : Address) (item : Descriptor) (kind : ListKind) (borrowed transfer : Bool) :
    RaisesOnly l (fun e => l.Lacks e ∨ p ≠ 0 ∧ Unwalkable (.array item kind borrowed) e)
      (arrayFromPointer h p item kind transfer) := by
  unfold NativeBridge.arrayFromPointer
  by_cases hp : p = 0
  · rw [if_pos hp]
    exact .pure _
  rw [if_neg hp]
  by_cases hkind : kind = .array
  · subst hkind
    rw [if_neg (by simp)]
    have hpointers (hitem : item.isListItem = true) :
        RaisesOnly l (fun e => l.Lacks e ∨ p ≠ 0 ∧ Unwalkable (.array item .array borrowed) e)
          (NativeBridge.pointersFromPointer h p item transfer) :=
      (pointersFromPointer hn p item transfer).imp fun e => Or.imp_right fun he => by
        simp [Descriptor.Unlisted, hitem] at he
    cases item with
    | string | object | boxed | variant => exact hpointers rfl
    | _ => exact .throw (.inr ⟨hp, .array (by simp) rfl⟩)
  · rw [if_pos hkind]
    exact (listFromPointer hn p item kind transfer).imp fun e => Or.imp_right fun he => by
      obtain ⟨hitem, rfl⟩ := he
      exact ⟨hp, .list hkind hitem⟩

end Eff.RaisesOnly

end NativeBridge
