import NativeBridge.Proofs.Evolution.Change
import NativeBridge.Proofs.Operations

/-!
Work on the loop thread leads from a world only where a relation leads that allows for the operations of a bridge: what
values own is made, handed over and released, and so are closures, code and what the loop state keeps.
-/

namespace NativeBridge

open Eff

variable {S : Sides}

/-- The relation allows for all that the operations of a bridge do: for changes under which no task comes to wait, no
reply is made or settled and no handle is let go of, and for what does these. -/
class Permits (R : World S → World S → Prop) extends IsPreorder (World S) R where
  /-- what an answer to a job must do for the relation -/
  Answers : S.Job → Except Error S.Reply → World S → World S → Prop
  change : ∀ {w w' : World S}, Change w w' → w'.loop.pending.Sublist w.loop.pending → w'.replies = w.replies →
    w.handles.Sublist w'.handles → R w w'
  finalize : ∀ key, Along R (LoopDispatch.finalize key : Eff S Unit)
  stop : Along R (LoopDispatch.stop : Eff S Unit)
  drain : ∀ h : Host S, (∀ j w r w', h.answer j w = some (r, w') → Answers j r w w') →
    (∀ id, Along R (LoopState.removeObject h id)) → ∀ fuel, Along R (LoopDispatch.drain h fuel)
  send : ∀ h : Host S, Along R (ScriptDispatch.processPending h) → Along R h.loopTurn →
    ∀ j, Along R (LoopRequest.send h j)

/-- A change that touches no tasks, no replies and no handles. -/
lemma Permits.still {R : World S → World S → Prop} [Permits R] {w w' : World S} (hc : Change w w')
    (hp : w'.loop.pending = w.loop.pending) (hr : w'.replies = w.replies) (hh : w'.handles = w.handles) : R w w' :=
  change hc (hp ▸ List.Sublist.refl _) hr (hh ▸ List.Sublist.refl _)

/-- Native code leads only where the relation allows, whether it calls nothing or calls back. -/
structure Host.Runs (R : World S → World S → Prop) (h : Host S) : Prop where
  quiet : ∀ a words, Along R (h.run a (fun _ _ => Eff.stuck) words)
  native : ∀ a words, Along R (h.run a (callCode h) words)

/-- Whatever is outside of the bridge leads only where the relation allows. -/
structure Host.Within (R : World S → World S → Prop) [Permits R] (h : Host S) : Prop where
  run : ∀ a call words, (∀ b more, Along R (call b more)) → Along R (h.run a call words)
  script : ∀ f args, Along R (h.script f args)
  answer : ∀ j w r w', h.answer j w = some (r, w') → Permits.Answers R j r w w'
  scriptTurn : Along R h.scriptTurn
  loopTurn : Along R h.loopTurn

namespace Evolution

open Permits (still)

variable {R : World S → World S → Prop} [Permits R]

/-! ### Closures, code and what the loop state keeps -/

lemma state_map (w : World S) {f : LoopState → LoopState} (hf : ∀ s, (f s).registry = s.registry) :
    R w { w with state := w.state.map f } := by
  rcases hs : w.state with _ | s
  · rw [Option.map_none, ← hs]
    exact refl w
  · exact still (.keep w s _ hs (hf s)) rfl rfl rfl

instance : Housekeeping R where
  memory w heap h := still (.memory w heap h) rfl rfl rfl
  record w record := still (.flags w _ _ _ record) rfl rfl rfl
  libraries w _ := state_map w fun _ => rfl

lemma update {f : LoopState → LoopState} (hf : ∀ s, (f s).registry = s.registry) :
    Along R (LoopState.update f : Eff S Unit) :=
  .modify fun w => state_map w hf

lemma keys_filterMap {α : Type} {f : Address × α → Option (Address × α)} (hf : ∀ e e', f e = some e' → e'.1 = e.1)
    (l : List (Address × α)) : ((l.filterMap f).map Prod.fst).Sublist (l.map Prod.fst) := by
  induction l with
  | nil => exact List.Sublist.slnil
  | cons e rest ih =>
    rcases he : f e with _ | e'
    · simpa [he] using ih.cons e.1
    · simpa [he, hf e e' he] using ih

lemma keys_map {α : Type} {f : Address × α → Address × α} (hf : ∀ e, (f e).1 = e.1) (l : List (Address × α)) :
    ((l.map f).map Prod.fst).Sublist (l.map Prod.fst) := by
  simp [Function.comp_def, hf]

lemma createClosure (c : Closure) : Along R (Closure.create c : Eff S Address) := by
  intro w r w' h
  simp only [Closure.create, Memory.reserve, bind_apply, update_apply, modify_apply, pure_apply, Option.bind_some,
    Option.some.injEq, Prod.mk.injEq] at h
  exact h.2 ▸ still (.closure w c) rfl rfl rfl

lemma refClosure (a : Address) : Along R (Closure.ref a : Eff S Unit) :=
  .modify fun w => still (.closures w _ (keys_map (fun e => by split <;> simp_all) _)) rfl rfl rfl

lemma unrefClosure (a : Address) : Along R (Closure.unref a : Eff S Unit) :=
  .modify fun w => still (.closures w _ (keys_filterMap (fun e e' h => by grind) _)) rfl rfl rfl

lemma createThunk (t : Thunk) : Along R (Thunk.create t : Eff S Address) := by
  intro w r w' h
  simp only [Thunk.create, Memory.reserve, bind_apply, update_apply, modify_apply, pure_apply, Option.bind_some,
    Option.some.injEq, Prod.mk.injEq] at h
  exact h.2 ▸ still (.thunk w t) rfl rfl rfl

lemma ownThunk (a : Address) : Along R (Thunk.own a : Eff S Unit) :=
  .modify fun w => still (.thunks w _ (keys_map (fun e => by split <;> simp_all) _)) rfl rfl rfl

lemma disownThunk (a : Address) : Along R (Thunk.disown a : Eff S Unit) := by
  refine .bind .get fun w => ?_
  split
  · exact .pure _
  · refine .ite (.bind (.modify fun w => still (.thunks w _ ?_) rfl rfl rfl) fun _ => unrefClosure _)
      (.modify fun w => still (.thunks w _ (keys_map (fun e => by split <;> simp_all) _)) rfl rfl rfl)
    exact List.filter_sublist.map _

lemma releaseRetained (r : Retained) : Along R (LoopState.releaseRetained r : Eff S Unit) := by
  cases r with
  | thunk a => exact disownThunk a
  | resource => exact .pure _

/-- What values own is made, handed over and released. -/
lemma values : ComposesValues fun _ (x : Eff S _) => Along R x where
  toSequences := Along.composes.toSequences
  free := Housekeeping.release
  ref := refClosure
  unref := unrefClosure
  disown := disownThunk
  code := createThunk

lemma releaseValue (v : NativeValue) : Along R (v.release : Eff S Unit) := values.release v

lemma handOver (v : NativeValue) : Along R (v.handOver : Eff S Unit) := values.handOver v

lemma wrap (o : Wrapper) : Along R (LoopState.wrap o : Eff S Handle) := by
  rintro w (e | k) w' hx
  · obtain rfl := LoopState.wrap_error hx
    exact refl _
  · obtain ⟨s, hs, -, rfl⟩ := LoopState.wrap_ok hx
    exact Permits.change (.wrap w s hs o) (List.Sublist.refl _) rfl (List.sublist_append_left _ _)

lemma holding {α : Type} {x : Eff S α} (hx : Along R x) : Along R (LoopState.holding x) :=
  hx.holding fun w _ => still (.flags w _ _ _ _) rfl rfl rfl

/-! ### Callbacks -/

lemma retain (r : Retained) : Along R (LoopState.retain r : Eff S Unit) := update fun _ => rfl

lemma makeCallback (function : Option FunctionId) (s : Signature) :
    Along R (makeCallback function s : Eff S NativeValue) :=
  values.makeCallback .get createClosure ownThunk retain function s

/-! ### Arguments and results -/

section

variable {h : Host S} (hq : ∀ a words, Along R (h.run a (fun _ _ => Eff.stuck) words))

include hq

lemma work {α : Type} {x : Eff S α} (hx : LoopWork h Set.univ True True x) : Along R x :=
  hx.along (fun _ => hq) (fun _ => wrap) (fun _ => makeCallback) fun _ => releaseValue

lemma toNative (a : Arg) : Along R (toNative h a) :=
  work hq (.toNative (fun _ => trivial) (fun _ => trivial) fun _ _ => trivial)

end

end Evolution

/-- Native code that calls nothing. -/
lemma Host.Within.quiet {R : World S → World S → Prop} [Permits R] {h : Host S} (hh : h.Within R) (a : Address)
    (words : Registers) : Along R (h.run a (fun _ _ => Eff.stuck) words) :=
  hh.run a _ words fun _ _ => .stuck

end NativeBridge
