import NativeBridge.Proofs.Calls.Wrapping
import NativeBridge.Proofs.Evolution.Host

/-!
Handles that reading back makes. Every object that is registered has a handle, and every handle that is made is in what
was read.
-/

namespace NativeBridge

open Eff

variable {S : Sides}

/-! ### Handles in what is read -/

/-- The effect makes no handle. -/
def Mintless (w w' : World S) : Prop := w'.minted = w.minted

instance : Housekeeping (Mintless (S := S)) where
  refl _ := rfl
  trans _ _ _ h h' := h'.trans h
  memory _ _ _ := rfl
  record _ _ := rfl
  libraries _ _ := rfl

/-- Every handle that the effect makes is in what it gives. -/
def Mints {α : Type} (keys : α → List HandleKey) (x : Eff S α) : Prop :=
  ∀ ⦃w a w'⦄, x w = some (.ok a, w') → ∀ k, w.minted ≤ k → k < w'.minted → k ∈ keys a

namespace Mints

variable {α β : Type} {keys : α → List HandleKey}

lemma of_mintless {x : Eff S α} (hx : Along Mintless x) : Mints keys x := fun w a w' h k hk hk' => by
  have hsame : w'.minted = w.minted := hx h
  omega

lemma pure (a : α) : Mints keys (pure a : Eff S α) := of_mintless (.pure a)

lemma throw (e : Error) : Mints keys (throw e : Eff S α) := of_mintless (.throw e)

lemma ite {c : Prop} [Decidable c] {x y : Eff S α} (hx : Mints keys x) (hy : Mints keys y) :
    Mints keys (if c then x else y) := by
  split
  · exact hx
  · exact hy

/-- What follows passes on the handles that were made. -/
lemma bind {more : β → List HandleKey} {x : Eff S α} {f : α → Eff S β} (hx : Mints keys x)
    (hf : ∀ a, Mints more (f a)) (hpass : ∀ a, Gives (fun b => keys a ⊆ more b) (f a)) : Mints more (x >>= f) := by
  intro w b w' h k hk hk'
  rcases bind_eq_some.1 h with ⟨a, w₁, h₁, h₂⟩ | ⟨e, -, he⟩
  · rcases Nat.lt_or_ge k w₁.minted with hlt | hge
    · exact hpass a h₂ (hx h₁ k hk hlt)
    · exact hf a h₂ k hge hk'
  · cases he

lemma after {x : Eff S β} {f : β → Eff S α} (hx : Along Mintless x) (hf : ∀ b, Mints keys (f b)) :
    Mints keys (x >>= f) :=
  have hnone : Mints (fun _ => []) x := of_mintless hx
  hnone.bind hf fun _ _ _ _ _ => List.nil_subset _

lemma map {more : β → List HandleKey} {x : Eff S α} (hx : Mints keys x) {g : α → β} (hg : ∀ a, keys a ⊆ more (g a)) :
    Mints more (do return g (← x)) :=
  hx.bind (fun a => pure (g a)) fun a => .pure (hg a)

lemma holding {x : Eff S α} (hx : Mints keys x) : Mints keys (LoopState.holding x) := by
  intro w a w' h k hk hk'
  rcases LoopState.holding_eq_some h with ⟨-, -, e, he⟩ | ⟨-, w₁, h₁, rfl⟩
  · cases he
  · exact hx h₁ k hk hk'

lemma collect {f : β → Eff S α} (hf : ∀ b, Mints keys (f b)) (bs : List β) :
    Mints (fun as : List α => as.flatMap keys) (Eff.collect f bs) := by
  induction bs with
  | nil => exact pure []
  | cons b rest ih =>
    refine (hf b).bind (fun a => ih.map fun more => ?_) fun a => .bind fun more => .pure ?_
    · exact List.subset_append_right _ _
    · exact List.subset_append_left _ _

end Mints

lemma Value.itemKeys_eq (items : List Value) : Value.itemKeys items = items.flatMap Value.handleKeys := by
  induction items with
  | nil => rfl
  | cons v rest ih => rw [Value.itemKeys, ih, List.flatMap_cons]

section

variable {h : Host S} (hn : ∀ a call words, NativeCode call (h.run a call words))

include hn

lemma mintless_quiet (a : Address) (words : Registers) : Along Mintless (h.run a (fun _ _ => Eff.stuck) words) :=
  (hn a _ words).along (fun _ _ _ _ => rfl) fun _ _ => .stuck

lemma wrapObject_mints (p : Address) (type : Descriptor) (transfer : Bool) :
    Mints Value.handleKeys (wrapObject h p type transfer) := by
  by_cases hp : p = 0
  · rw [wrapObject, if_pos hp]
    exact .pure _
  · rw [wrapObject_eq h hp]
    refine .after Housekeeping.currentLifecycle fun l =>
      .after (along_wrapperFor (mintless_quiet hn) l _ _ _) fun o => ?_
    intro w v w' hx k hk hk'
    rcases bind_eq_some.1 hx with ⟨handle, w₁, hwrap, hx⟩ | ⟨e, -, he⟩
    · cases hx
      obtain ⟨s, -, rfl, rfl⟩ := LoopState.wrap_ok hwrap
      exact List.mem_singleton.2 (Nat.le_antisymm (Nat.le_of_lt_succ hk') hk)
    · cases he

lemma itemFromPointer_mints (data : Nat) (type : Descriptor) :
    Mints Value.handleKeys (itemFromPointer h data type) := by
  unfold itemFromPointer
  split
  all_goals first
    | exact wrapObject_mints hn _ _ _
    | exact .throw _
    | exact .pure _
    | exact .of_mintless (.ite (.pure _) (.bind (.bind .get fun _ => .pure _) fun _ => .pure _))

/-- Items are read, and then their container may be freed. -/
lemma items_mint (data : List Nat) (item : Descriptor) {last : List Value → Eff S Value}
    (hlast : ∀ items, Along Mintless (last items)) (hgives : ∀ items, Gives (· = .array items) (last items)) :
    Mints Value.handleKeys (Eff.collect (fun d => itemFromPointer h d item) data >>= last) := by
  refine (Mints.collect (itemFromPointer_mints hn · item) data).bind (fun items => .of_mintless (hlast items)) ?_
  refine fun items => (hgives items).imp fun v hv => ?_
  rw [hv, Value.handleKeys, Value.itemKeys_eq]
  exact List.Subset.refl _

lemma arrayFromPointer_mints (p : Address) (item : Descriptor) (kind : ListKind) (transfer : Bool) :
    Mints Value.handleKeys (arrayFromPointer h p item kind transfer) := by
  have hq := mintless_quiet hn
  have freed {x : Eff S Unit} (hx : Along Mintless x) (items : List Value) :
      Along Mintless (x >>= fun _ => pure (Value.array items)) := hx.bind fun _ => .pure _
  have given {x : Eff S Unit} (items : List Value) :
      Gives (· = Value.array items) (x >>= fun _ => pure (Value.array items)) := .bind fun _ => .pure rfl
  have forget {l : Lifecycle} (role : LifecycleRole) (need : LifecycleNeed) :
      Along Mintless (do let _ ← l.require h role need [p]) :=
    (Lifecycle.along_require hq l role need [p]).bind fun _ => .pure _
  have pointers (item : Descriptor) : Mints Value.handleKeys (pointersFromPointer h p item transfer) := by
    refine .after Housekeeping.currentLifecycle fun l => .after .get fun w => items_mint hn _ _ ?_ ?_
    · refine fun items => .ite ?_ (.pure _)
      split
      · exact freed (Lifecycle.along_strfreev hq l p) items
      · exact freed (Lifecycle.along_free hq l p) items
    · refine fun items => .ite ?_ (.pure rfl)
      split <;> exact given items
  have list : Mints Value.handleKeys (listFromPointer h p item kind transfer) := by
    refine .after Housekeeping.currentLifecycle fun l => .after .get fun w => items_mint hn _ _ ?_ ?_
    · refine fun items => .ite ?_ (.pure _)
      split <;> exact freed (forget _ _) items
    · refine fun items => .ite ?_ (.pure rfl)
      split <;> exact given items
  refine .ite (.pure _) (.ite list ?_)
  split
  all_goals first
    | exact pointers _
    | exact .throw _

lemma fromPointer_mints (p : Address) (type : Descriptor) (transfer : Bool) :
    Mints Value.handleKeys (fromPointer h p type transfer) := by
  have hstring : Along Mintless (do
      let s ← copyString p
      if transfer ∧ p ≠ 0 then
        (← LoopState.currentLifecycle).free h p
      return s : Eff S Value) := by
    refine .bind (.ite (.pure _) (.bind (.bind .get fun _ => .pure _) fun _ => .pure _)) fun s => .ite ?_ (.pure _)
    exact .bind Housekeeping.currentLifecycle fun l => .bind (Lifecycle.along_free (mintless_quiet hn) l p) fun _ =>
      .pure _
  unfold fromPointer
  split
  all_goals first
    | exact .pure _
    | exact .throw _
    | exact wrapObject_mints hn _ _ _
    | exact arrayFromPointer_mints hn _ _ _ _
    | exact .of_mintless hstring

lemma readRef_mints (p : Address) (storage : Storage) (inner : Descriptor) :
    Mints Value.handleKeys (readRef h p storage inner) := by
  have hload (a : Address) : Along Mintless (Memory.loadWord a : Eff S Nat) := .bind .get fun _ => .pure _
  unfold readRef
  split
  · exact .after (hload p) fun _ => wrapObject_mints hn _ _ _
  · exact .after (hload p) fun _ => wrapObject_mints hn _ _ _
  · exact .after (hload p) fun _ => wrapObject_mints hn _ _ _
  · refine .after (hload p) fun written => ?_
    split
    · refine .ite (.of_mintless (.ite (.pure _) ?_)) (fromPointer_mints hn _ _ _)
      exact .bind (.bind .get fun _ => .pure _) fun _ => .pure _
    · exact fromPointer_mints hn _ _ _
  · exact .of_mintless (.bind (.bind .get fun _ => .pure _) fun _ => .ofExcept _)

lemma fromNative_mints (v : NativeValue) (type : Descriptor) : Mints Value.handleKeys (fromNative h v type) := by
  unfold fromNative
  split
  all_goals try split
  all_goals first
    | exact .pure _
    | exact .throw _
    | exact readRef_mints hn _ _ _
    | exact fromPointer_mints hn _ _ _

/-- The handles of what is to be stored in a cell, if anything is. -/
def updateKeys (update : Option (CellId × Value)) : List HandleKey := Call.handleKeys update.toList

lemma readUpdate_mints (a : Arg) (v : NativeValue) : Mints updateKeys (Call.readUpdate h a v) := by
  obtain ⟨type, value, optional⟩ := a
  unfold Call.readUpdate
  split
  next inner c htype hvalue =>
    dsimp only at htype hvalue
    subst htype hvalue
    have hread : Mints updateKeys (do return some (c, ← fromNative h v (.ref inner))) :=
      (fromNative_mints hn v _).map fun x => by simp [updateKeys, Call.handleKeys]
    refine .after .get fun w => ?_
    split
    · exact .ite (.pure _) hread
    · exact hread
  next => exact .pure _

/-- The handles that are made while a call is read back are in its value and in what it gives for cells. -/
lemma readBack_mints (c : Call) (result : Descriptor) (values : List NativeValue) (buffer : Bytes) :
    Mints (fun o => o.value.handleKeys ++ Call.handleKeys o.updates) (Call.readBack h c result values buffer) := by
  refine .after (.ofExcept _) fun v => (fromNative_mints hn v result).bind (fun value => ?_) fun value => ?_
  · refine (Mints.collect (fun p : Arg × NativeValue => readUpdate_mints hn p.1 p.2) _).map fun updates k hk => ?_
    obtain ⟨update, hmem, hk⟩ := List.mem_flatMap.1 hk
    obtain ⟨u, hu, hk⟩ := List.mem_flatMap.1 hk
    refine List.mem_append_right _ (List.mem_flatMap.2 ⟨u, List.mem_filterMap.2 ⟨update, hmem, ?_⟩, hk⟩)
    exact Option.mem_toList.1 hu
  · exact .bind fun _ => .pure (List.subset_append_left _ _)

end

/-! ### Objects that are registered -/

/-- The identities of the objects that are registered. -/
def World.entryIds (w : World S) : List ObjectId :=
  (w.state.map fun s => s.registry.entries.map Prod.fst).getD []

/-- Handles stay, and every object that is registered since has a handle that was made since. -/
structure Enrolls (w w' : World S) : Prop where
  minted : w.minted ≤ w'.minted
  held : w.handles ⊆ w'.handles
  handle : ∀ id ∈ w'.entryIds, id ∈ w.entryIds ∨ ∃ e ∈ w'.handles, e.2.1 = id ∧ w.minted ≤ e.1

namespace Enrolls

lemma of_same {w w' : World S} (hm : w'.minted = w.minted) (hh : w'.handles = w.handles)
    (hr : w'.entryIds = w.entryIds) : Enrolls w w' :=
  ⟨hm.ge, hh ▸ List.Subset.refl _, fun _ h => .inl (hr ▸ h)⟩

lemma entryIds_libraries (w : World S) (libraries : Library.Cache) :
    World.entryIds { w with state := w.state.map fun s => { s with libraries } } = w.entryIds := by
  rcases hs : w.state with _ | s <;> simp [World.entryIds, hs]

instance : Housekeeping (Enrolls (S := S)) where
  refl w := of_same rfl rfl rfl
  trans u v w h h' := by
    refine ⟨h.minted.trans h'.minted, List.Subset.trans h.held h'.held, fun id hid => ?_⟩
    rcases h'.handle id hid with hv | ⟨e, he, hi, hk⟩
    · rcases h.handle id hv with hu | ⟨e, he, hi, hk⟩
      · exact .inl hu
      · exact .inr ⟨e, h'.held he, hi, hk⟩
    · exact .inr ⟨e, he, hi, h.minted.trans hk⟩
  memory _ _ _ := of_same rfl rfl rfl
  record _ _ := of_same rfl rfl rfl
  libraries w libraries := of_same rfl rfl (entryIds_libraries w libraries)

lemma wrap (o : Wrapper) : Along Enrolls (LoopState.wrap o : Eff S Handle) := by
  rintro w (e | k) w' hx
  · obtain rfl := LoopState.wrap_error hx
    exact refl _
  · obtain ⟨s, hs, -, rfl⟩ := LoopState.wrap_ok hx
    refine ⟨Nat.le_succ _, List.subset_append_left _ _, fun id hid => ?_⟩
    simp only [World.entryIds, Registry.add, Option.map_some, Option.getD_some, List.map_append,
      List.mem_append, List.map_cons, List.map_nil, List.mem_singleton] at hid
    rcases hid with hid | rfl
    · exact .inl (by simpa [World.entryIds, hs] using hid)
    · exact .inr ⟨_, List.mem_append_right _ (List.mem_singleton.2 rfl), rfl, Nat.le_refl _⟩

/-- What is registered while a call is read back has its handles. -/
lemma readBack {h : Host S} (hn : ∀ a call words, NativeCode call (h.run a call words)) (c : Call)
    (result : Descriptor) (values : List NativeValue) (buffer : Bytes) :
    Along Enrolls (LoopState.holding (Call.readBack h c result values buffer)) := by
  have hread : LoopWork h Set.univ False True (Call.readBack h c result values buffer) :=
    .readBack (fun _ _ => trivial) result values buffer
  intro w r w' hx
  rcases LoopState.holding_eq_some hx with ⟨-, rfl, -⟩ | ⟨-, w₁, h₁, rfl⟩
  · exact refl w'
  · have hquiet (a : Address) (words : Registers) : Along Enrolls (h.run a (fun _ _ => Eff.stuck) words) :=
      (hn a _ words).along (fun _ _ _ _ => of_same rfl rfl rfl) fun _ _ => .stuck
    obtain ⟨hm, hh, hr⟩ := hread.along (fun _ => hquiet) (fun _ => wrap) False.elim False.elim h₁
    exact ⟨hm, hh, hr⟩

end Enrolls

end NativeBridge
