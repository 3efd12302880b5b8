import NativeBridge.Proofs.Evolution.Conversion
import NativeBridge.Proofs.Exchange.Outcome
import NativeBridge.Proofs.Handles
import NativeBridge.Proofs.Operations

/-!
The queues between the two threads, and what each thread does while it waits, lead from a world only where a relation
leads that allows for the operations of a bridge.
-/

namespace NativeBridge.Evolution

open Eff

open Permits (still)

variable {S : Sides} {R : World S → World S → Prop} [Permits R]

/-! ### Queues -/

lemma letGo (keys : List HandleKey) : Along R (LoopDispatch.letGo keys : Eff S Unit) :=
  .each Permits.finalize keys

lemma queue (f : Option FunctionId) (args : List Value) (capture : Bool) :
    Along R (ScriptDispatch.queue f args capture : Eff S PromiseId) :=
  .update fun w => still (.queues w _ _ _) rfl rfl rfl

lemma takeCall : Along R (ScriptDispatch.take : Eff S _) := by
  refine .update fun w => ?_
  split
  · exact refl w
  · exact still (.queues w _ _ _) rfl rfl rfl

lemma settleResult (c : PendingCall) (r : Except Raised Value) :
    Along R (ScriptDispatch.settle c r : Eff S Unit) :=
  .modify fun w => still (.queues w _ _ _) rfl rfl rfl

lemma announce : Along R (ScriptDispatch.announce : Eff S Unit) := by
  refine .modify fun w => ?_
  split
  · exact still (.queues w _ _ _) rfl rfl rfl
  · exact refl w

lemma deliver : Along R (ScriptDispatch.deliver : Eff S _) := by
  refine .update fun w => ?_
  split
  · exact refl w
  · exact still (.queues w _ _ _) rfl rfl rfl

lemma collectResult (id : PromiseId) : Along R (ScriptDispatch.collect id : Eff S _) :=
  Along.parametric.collectResult (.modify fun w => still (.queues w _ _ _) rfl rfl rfl)

lemma chooseRoute : Along R (ScriptDispatch.chooseRoute : Eff S Bool) :=
  .update fun w => still (.queues w _ _ _) (LoopQueue.pending_recordRoute _ _) rfl rfl

lemma clearCalls : Along R (ScriptDispatch.clear : Eff S Unit) :=
  .modify fun w => still (.queues w _ _ _) rfl rfl rfl

/-! ### The loop thread -/

section

variable {h : Host S} (hq : ∀ a words, Along R (h.run a (fun _ _ => Eff.stuck) words))

include hq

lemma removeObject (id : ObjectId) : Along R (LoopState.removeObject h id) := by
  refine .bind (holding ?_) fun taken => ?_
  · intro w r w' h
    rcases hs : w.state with _ | s
    · simp [LoopState.current, bind_apply, hs] at h
      exact h.2 ▸ refl w
    · simp [LoopState.current, LoopState.update, bind_apply, map_apply, hs] at h
      exact h.2 ▸ still (.take w s hs id) rfl rfl rfl
  rcases taken with ⟨_ | o, l⟩
  · exact .pure _
  · exact work hq (.drop l _)

end

section

variable {h : Host S} (hh : h.Within R)

include hh

lemma drain (fuel : Nat) : Along R (LoopDispatch.drain h fuel) := Permits.drain h hh.answer (removeObject hh.quiet) fuel

omit hh in
lemma runPosted (hd : ∀ fuel, Along R (LoopDispatch.drain h fuel)) (fuel : Nat) :
    Along R (LoopDispatch.runPosted h fuel) :=
  Along.parametric.runPosted (.modify fun w => still (.queues w _ _ _) rfl rfl rfl)
    (.modify fun w => still (.queues w _ _ _) (LoopQueue.pending_endBatch _) rfl rfl) rfl hd fuel

lemma poll : Along R (LoopDispatch.poll h) := runPosted (drain hh) _

/-! ### Callbacks -/

/-- What callbacks consist of leads only where the relation leads. -/
lemma callbacks : ComposesCallbacks (fun _ (x _ : Eff S _) => Along R x) h h where
  toParametric := Along.parametric
  same := rfl
  holding hx := holding (work hh.quiet hx)
  finalize := Permits.finalize
  unref := unrefClosure
  chooseRoute := chooseRoute
  queue := queue
  announce := announce
  deliver := deliver
  take := takeCall
  settle := settleResult
  collect := collectResult
  script := hh.script
  scriptTurn := hh.scriptTurn
  drain := drain hh
  quiet := hh.quiet

lemma processPending : Along R (ScriptDispatch.processPending h) := (callbacks hh).processPending

/-- Native code that may call function pointers. -/
lemma runs : h.Runs R :=
  ⟨hh.quiet, fun a words => hh.run a _ words fun b more => (callbacks hh).callCode b more⟩

/-! ### The end of a loop state -/

/-- The registry that is emptied is the one of the state. -/
lemma clear {s : LoopState} {w w' : World S} {r : Except Error Unit} (hs : w.state = some s)
    (hx : LoopState.clear h s w = some (r, w')) : R w w' := by
  have rest : Along R (do
      Eff.each (Wrapper.drop h s.lifecycle) s.registry.clear.1
      LoopState.update fun s => { s with retained := [] }
      Eff.each LoopState.releaseRetained s.retained
      LoopState.update fun s => { s with workGuard := false }) :=
    .bind (.each (fun o => work hh.quiet (.drop _ o)) _) fun _ => .bind (update fun _ => rfl) fun _ =>
      .bind (.each releaseRetained _) fun _ => update fun _ => rfl
  have emptied : R w { w with state := w.state.map fun t => { t with registry := s.registry.clear.2 } } := by
    rw [hs]
    exact still (.clear w s hs) rfl rfl rfl
  exact IsTrans.trans _ _ _ emptied (rest hx)

lemma teardown : Along R (LoopState.teardown h) := by
  have last : Along R LoopState.uninstall :=
    .modify fun w => IsTrans.trans _ _ _ (still (.flags w w.loopOwned false w.thread _) rfl rfl rfl)
      (still (.uninstall _) rfl rfl rfl)
  intro w r w' hx
  rcases LoopState.teardown_cases h w with ⟨q, hq⟩ | ⟨s, hs, -, hq⟩
  · cases hq.symm.trans hx
    exact refl w
  · rw [hq] at hx
    have begun : R w { w with inUse := true } := still (.flags w _ _ _ _) rfl rfl rfl
    rcases bind_eq_some.1 hx with ⟨_, w₁, h₁, h₂⟩ | ⟨e, h₁, -⟩
    · exact IsTrans.trans _ _ _ begun (IsTrans.trans _ _ _ (clear hh (by exact hs) h₁) (last h₂))
    · exact IsTrans.trans _ _ _ begun (clear hh (by exact hs) h₁)

/-- A request is sent, and the scripting thread waits for its reply. -/
lemma send (j : S.Job) : Along R (LoopRequest.send h j) := Permits.send h (processPending hh) hh.loopTurn j

end

/-! ### Relations that allow for any change of the queues -/

section Queues

variable {R : World S → World S → Prop}
  (hc : ∀ (w : World S) (loop : LoopQueue (Task S.Job)) (replies : Promises (Except Error S.Reply))
    (script : ScriptQueue), R w { w with loop, replies, script })

include hc

lemma schedule (t : Task S.Job) : Along R (LoopDispatch.schedule t : Eff S Unit) := by
  refine .modify fun w => ?_
  dsimp only
  split
  · exact hc w _ _ _
  · rw [Exchange.abandon_eq]
    exact hc w _ _ _

lemma stop : Along R (LoopDispatch.stop : Eff S Unit) := by
  refine .modify fun w => ?_
  dsimp only
  rw [Exchange.abandonAll_eq]
  exact hc w _ _ _

variable [IsPreorder (World S) R]

lemma takeTask : Along R (LoopDispatch.take : Eff S _) := by
  refine .update fun w => ?_
  split
  · exact refl w
  · exact hc w _ _ _

lemma collectReply (id : PromiseId) : Along R (LoopRequest.collect id : Eff S _) :=
  Along.parametric.collectReply (.modify fun w => hc w _ _ _)

lemma post (j : S.Job) : Along R (LoopRequest.post j : Eff S PromiseId) :=
  .bind (.update fun w => hc w _ _ _) fun _ => .bind (schedule hc _) fun _ => .pure _

lemma sendRequest {h : Host S} (hp : Along R (ScriptDispatch.processPending h)) (hl : Along R h.loopTurn) (j : S.Job) :
    Along R (LoopRequest.send h j) :=
  Along.parametric.send (.modify fun w => hc w _ _ _) (post hc j) (collectReply hc) (.modify fun w => hc w _ _ _) rfl
    hp hl

end Queues

/-- A relation that allows for all changes, and for a script that lets go of a handle, allows for all that the
operations of a bridge do. -/
@[reducible]
def permitsOfChanges {R : World S → World S → Prop} [IsPreorder (World S) R]
    (hc : ∀ {w w' : World S}, Change w w' → w.handles.Sublist w'.handles → R w w')
    (hf : ∀ key, Along R (LoopDispatch.finalize key : Eff S Unit)) : Permits R where
  Answers _ _ := R
  change h _ _ hh := hc h hh
  finalize := hf
  stop := stop fun w _ _ _ => hc (.queues w _ _ _) (List.Sublist.refl _)
  drain h ha := Along.parametric.drain h h (takeTask fun w _ _ _ => hc (.queues w _ _ _) (List.Sublist.refl _))
    (fun _ _ => .modify fun w => hc (.queues w _ _ _) (List.Sublist.refl _)) fun j w r w' => ha j w r w'
  send _ hp hl := sendRequest (fun w _ _ _ => hc (.queues w _ _ _) (List.Sublist.refl _)) hp hl

lemma finalize_evolves (key : HandleKey) : Along Evolves (LoopDispatch.finalize key : Eff S Unit) := by
  intro w r w' h
  rw [LoopDispatch.finalize_apply] at h
  cases h
  exact .tail (.single (.handles w _ List.filter_sublist)) (.queues _ _ _ _)

instance : Permits (Evolves (S := S)) := permitsOfChanges (fun hc _ => .single hc) finalize_evolves

end NativeBridge.Evolution
