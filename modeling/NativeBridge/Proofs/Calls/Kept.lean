import NativeBridge.Proofs.Calls.Work
import NativeBridge.Proofs.Evolution.Host

/-!
What stays as it is while the loop thread works on arguments and results: queues, replies, cells, the thread, and
whether there is a state. Values are released by changes to memory, closures and code, and to nothing else.
-/

namespace NativeBridge

open Eff

variable {S : Sides}

/-! ### Releases -/

/-- Nothing but memory, closures and code is changed. -/
def Disposes (w w' : World S) : Prop := ∃ heap closures thunks, w' = { w with heap, closures, thunks }

namespace Disposes

instance : IsPreorder (World S) Disposes where
  refl w := ⟨w.heap, w.closures, w.thunks, rfl⟩
  trans _ _ _ h h' := by
    obtain ⟨_, _, _, rfl⟩ := h
    obtain ⟨heap, closures, thunks, rfl⟩ := h'
    exact ⟨heap, closures, thunks, rfl⟩

lemma free (a : Address) : Along Disposes (Memory.release a : Eff S Unit) :=
  .modify fun w => ⟨_, w.closures, w.thunks, rfl⟩

lemma reserve : Along Disposes (Memory.reserve : Eff S Address) := .update fun w => ⟨_, w.closures, w.thunks, rfl⟩

lemma closures (f : World S → List (Address × Closure)) :
    Along Disposes (modify fun w => { w with closures := f w } : Eff S Unit) :=
  .modify fun w => ⟨w.heap, f w, w.thunks, rfl⟩

lemma thunks (f : World S → List (Address × Thunk)) :
    Along Disposes (modify fun w => { w with thunks := f w } : Eff S Unit) :=
  .modify fun w => ⟨w.heap, w.closures, f w, rfl⟩

lemma unref (a : Address) : Along Disposes (Closure.unref a : Eff S Unit) := closures _

lemma disown (t : Address) : Along Disposes (Thunk.disown t : Eff S Unit) := by
  refine .bind .get fun w => ?_
  split
  · exact .pure _
  · exact .ite (.bind (thunks _) fun _ => unref _) (thunks _)

lemma values : ComposesValues fun _ (x : Eff S _) => Along Disposes x where
  toSequences := Along.composes.toSequences
  free := free
  ref _ := closures _
  unref := unref
  disown := disown
  code _ := .bind reserve fun _ => .bind (thunks _) fun _ => .pure _

lemma release (v : NativeValue) : Along Disposes (v.release : Eff S Unit) := values.release v

lemma handOver (v : NativeValue) : Along Disposes (v.handOver : Eff S Unit) := values.handOver v

end Disposes

/-! ### Work -/

/-- What stays as it is during work on arguments and results. Handles may be made, but none is let go of. -/
structure Kept (w w' : World S) : Prop where
  loop : w'.loop = w.loop
  replies : w'.replies = w.replies
  script : w'.script = w.script
  cells : w'.cells = w.cells
  thread : w'.thread = w.thread
  state : w'.state.isSome = w.state.isSome
  handles : w.handles ⊆ w'.handles

namespace Kept

/-- Handles are left alone as well. -/
lemma of_same {w w' : World S} (hl : w'.loop = w.loop) (hr : w'.replies = w.replies) (hs : w'.script = w.script)
    (hc : w'.cells = w.cells) (ht : w'.thread = w.thread) (hstate : w'.state.isSome = w.state.isSome)
    (hh : w'.handles = w.handles) : Kept w w' :=
  ⟨hl, hr, hs, hc, ht, hstate, hh ▸ List.Subset.refl _⟩

lemma rfl' (w : World S) : Kept w w := of_same rfl rfl rfl rfl rfl rfl rfl

instance : Housekeeping (Kept (S := S)) where
  refl := rfl'
  trans _ _ _ h h' :=
    ⟨h'.loop.trans h.loop, h'.replies.trans h.replies, h'.script.trans h.script, h'.cells.trans h.cells,
      h'.thread.trans h.thread, h'.state.trans h.state, List.Subset.trans h.handles h'.handles⟩
  memory _ _ _ := of_same rfl rfl rfl rfl rfl rfl rfl
  record _ _ := of_same rfl rfl rfl rfl rfl rfl rfl
  libraries _ _ := of_same rfl rfl rfl rfl rfl Option.isSome_map rfl

lemma of_disposes {w w' : World S} (h : Disposes w w') : Kept w w' := by
  obtain ⟨_, _, _, rfl⟩ := h
  exact of_same rfl rfl rfl rfl rfl rfl rfl

lemma change (f : LoopState → LoopState) : Along Kept (LoopState.update f : Eff S Unit) :=
  .modify fun _ => of_same rfl rfl rfl rfl rfl Option.isSome_map rfl

lemma wrap (o : Wrapper) : Along Kept (LoopState.wrap o : Eff S Handle) :=
  .bind Housekeeping.current fun _ => .bind (change _) fun _ => .update fun _ =>
    ⟨rfl, rfl, rfl, rfl, rfl, rfl, List.subset_append_left _ _⟩

lemma makeCallback (function : Option FunctionId) (s : Signature) :
    Along Kept (makeCallback function s : Eff S NativeValue) := by
  have disposes {α : Type} {x : Eff S α} (hx : Along Disposes x) : Along Kept x := fun _ _ _ h => .of_disposes (hx h)
  have values : ComposesValues fun _ (x : Eff S _) => Along Kept x :=
    { Along.composes.toSequences with
      free := fun _ => disposes (Disposes.free _)
      ref := fun _ => disposes (Disposes.closures _)
      unref := fun _ => disposes (Disposes.unref _)
      disown := fun _ => disposes (Disposes.disown _)
      code := fun _ => disposes (Disposes.values.code _) }
  exact values.makeCallback .get (fun _ => disposes (.bind .reserve fun _ => .bind (.closures _) fun _ => .pure _))
    (fun _ => disposes (.thunks _)) (fun _ => change _) function s

lemma work {h : Host S} (hn : ∀ a call words, NativeCode call (h.run a call words)) {cells : Set CellId}
    {makes calls : Prop} {α : Type} {x : Eff S α} (hx : LoopWork h cells makes calls x) : Along Kept x := by
  refine hx.along (fun _ a words => ?_) (fun _ => wrap) (fun _ => makeCallback) fun _ v _ _ _ h => ?_
  · exact (hn a _ words).along (fun _ _ _ _ => of_same rfl rfl rfl rfl rfl rfl rfl) fun _ _ => .stuck
  · exact .of_disposes (Disposes.release v h)

end Kept

end NativeBridge
