import NativeBridge.Proofs.Access.Alike
import NativeBridge.Proofs.Calls.Aftermath
import NativeBridge.Proofs.Calls.Kept

/-!
While the script waits for the loop thread, the state of that thread stays. A bridge that runs is not started again, and
a stop from within the wait would wait for itself. So a call of a bridge finds the state again when its native function
has run, whatever the callbacks did meanwhile.
-/

namespace NativeBridge

open Eff

variable {S : Sides}

/-- A script that waits for the loop thread waits as deeply as before, and the state is still there. -/
def Stands (w w' : World S) : Prop :=
  0 < w.loop.depth → w.state.isSome → w'.loop.depth = w.loop.depth ∧ w'.state.isSome

namespace Stands

lemma of_same {w w' : World S} (hd : w'.loop.depth = w.loop.depth) (hs : w'.state.isSome = w.state.isSome) :
    Stands w w' :=
  fun _ h => ⟨hd, hs ▸ h⟩

instance : IsPreorder (World S) Stands where
  refl _ := of_same rfl rfl
  trans w₁ w₂ w₃ h h' hd hs := by
    obtain ⟨hd₁, hs₁⟩ := h hd hs
    obtain ⟨hd₂, hs₂⟩ := h' (hd₁ ▸ hd) hs₁
    exact ⟨hd₂.trans hd₁, hs₂⟩

lemma parametric : Parametric fun _ (x _ : Eff S _) => Along Stands x := Along.parametric

/-! ### Queues and handles -/

lemma depth_told (w : World S) (key : HandleKey) : (w.told key).depth = w.loop.depth := by
  unfold World.told
  split
  · split
    · exact LoopQueue.depth_schedule _
    · rfl
  · rfl

lemma schedule (t : Task S.Job) : Along Stands (LoopDispatch.schedule t : Eff S Unit) := by
  refine .modify fun w => ?_
  dsimp only
  split
  · exact of_same (LoopQueue.depth_schedule _) rfl
  · rw [Exchange.abandon_eq]
    exact of_same (LoopQueue.depth_schedule _) rfl

lemma finalize (key : HandleKey) : Along Stands (LoopDispatch.finalize key : Eff S Unit) := by
  intro w r w' hx
  rw [LoopDispatch.finalize_apply] at hx
  cases hx
  exact of_same (depth_told w key) rfl

lemma takeTask : Along Stands (LoopDispatch.take : Eff S _) := by
  refine .update fun w => ?_
  cases hp : w.loop.pending with
  | nil =>
    rw [LoopQueue.pop_of_nil hp]
    exact refl w
  | cons t rest =>
    rw [LoopQueue.pop_of_cons hp]
    exact of_same rfl rfl

lemma stop : Along Stands (LoopDispatch.stop : Eff S Unit) := by
  refine .modify fun w => ?_
  dsimp only
  rw [Exchange.abandonAll_eq]
  exact of_same rfl rfl

/-! ### Work -/

variable {h : Host S}

lemma of_kept {α : Type} {x : Eff S α} (hx : Along Kept x) : Along Stands x :=
  fun _ _ _ hrun => of_same (congrArg LoopQueue.depth (hx hrun).loop) (hx hrun).state

lemma of_disposes {α : Type} {x : Eff S α} (hx : Along Disposes x) : Along Stands x :=
  of_kept fun _ _ _ hrun => .of_disposes (hx hrun)

lemma holding {α : Type} {x : Eff S α} (hx : Along Stands x) : Along Stands (LoopState.holding x) :=
  hx.holding fun _ _ => of_same rfl rfl

lemma change (f : LoopState → LoopState) : Along Stands (LoopState.update f : Eff S Unit) := of_kept (Kept.change f)

section

variable (hn : ∀ a call words, NativeCode call (h.run a call words))

include hn

lemma work {α : Type} {x : Eff S α} (hx : LoopWork h Set.univ True True x) : Along Stands x := of_kept (Kept.work hn hx)

lemma native (a : Address) {call : CallCode S} (words : Registers) (hcall : ∀ b more, Along Stands (call b more)) :
    Along Stands (h.run a call words) :=
  (hn a call words).along (fun _ _ _ _ => of_same rfl rfl) hcall

lemma removeObject (id : ObjectId) : Along Stands (LoopState.removeObject h id) := by
  refine .bind (holding (.bind (of_kept Housekeeping.current) fun _ => .bind (change _) fun _ => .pure _)) fun o => ?_
  rcases o with ⟨_ | o, l⟩
  · exact .pure _
  · exact work hn (.drop l o)

end

end Stands

/-! ### The operations of a bridge -/

/-- While a script waits for the loop thread, what stands on the other sides leaves the state there. -/
structure Host.Stands (h : Host S) : Prop where
  code : ∀ a call words, NativeCode call (h.run a call words)
  script : ∀ f args, Along NativeBridge.Stands (h.script f args)
  answer : ∀ j, Along NativeBridge.Stands (h.answer j)
  scriptTurn : Along NativeBridge.Stands h.scriptTurn
  loopTurn : Along NativeBridge.Stands h.loopTurn

namespace Stands

section

variable {h : Host S} (hh : h.Stands)

include hh

lemma drain (fuel : Nat) : Along Stands (LoopDispatch.drain h fuel) :=
  parametric.drain h h takeTask (fun _ _ => .modify fun _ => of_same rfl rfl) hh.answer (removeObject hh.code) fuel

lemma poll : Along Stands (LoopDispatch.poll h) :=
  parametric.runPosted (.modify fun _ => of_same rfl rfl) (.modify fun w => of_same (w.loop.depth_endBatch) rfl) rfl
    (drain hh) _

lemma callbacks : ComposesCallbacks (fun _ (x _ : Eff S _) => Along Stands x) h h where
  toParametric := parametric
  same := rfl
  holding hx := holding (work hh.code hx)
  finalize := finalize
  unref a := of_disposes (Disposes.unref a)
  chooseRoute := .update fun w => of_same (w.loop.depth_recordRoute _) rfl
  queue _ _ _ := .update fun _ => of_same rfl rfl
  announce := .modify fun w => by
    split
    · exact of_same rfl rfl
    · exact refl w
  deliver := .update fun w => by
    split
    · exact refl w
    · exact of_same rfl rfl
  take := .update fun w => by
    split
    · exact refl w
    · exact of_same rfl rfl
  settle _ _ := .modify fun _ => of_same rfl rfl
  collect _ := parametric.collectResult (.modify fun _ => of_same rfl rfl)
  script := hh.script
  scriptTurn := hh.scriptTurn
  drain := drain hh
  quiet a words := native hh.code a words fun _ _ => .stuck

lemma runNative (a : Address) (words : Registers) : Along Stands (h.run a (callCode h) words) :=
  native hh.code a words fun b more => (callbacks hh).callCode b more

lemma calls : ComposesCalls (fun _ (x _ : Eff S _) => Along Stands x) h h where
  toParametric := parametric
  same := rfl
  holding hx := holding (work hh.code hx)
  native := runNative hh
  handOver v := of_disposes (Disposes.handOver v)
  release v := of_disposes (Disposes.release v)
  finalize := finalize

/-- A wait for a reply goes one deeper and comes back. -/
lemma send (j : S.Job) : Along Stands (LoopRequest.send h j) := by
  have hpost : Along Stands (LoopRequest.post j : Eff S PromiseId) :=
    .bind (.update fun _ => of_same rfl rfl) fun _ => .bind (schedule _) fun _ => .pure _
  have hawait (id : PromiseId) : Along Stands (LoopRequest.await h id h.limit) :=
    parametric.awaitReply h h (parametric.collectReply (.modify fun _ => of_same rfl rfl))
      (callbacks hh).processPending hh.loopTurn _
  intro w r w' hx hd hs
  rw [LoopRequest.send, LoopRequest.enter, bind_ok (modify_apply _ w)] at hx
  obtain ⟨id, w₁, hx₁, hx⟩ : ∃ id w₁, LoopRequest.post j { w with loop := w.loop.enterWait } = some (.ok id, w₁) ∧
      Eff.andFinally (LoopRequest.await h id h.limit) LoopRequest.leave w₁ = some (r, w') := ⟨_, _, rfl, hx⟩
  obtain ⟨q, w₂, hx₂, hx⟩ := attempt_bind_eq_some.1 hx
  obtain ⟨hdepth, hstate⟩ : w₂.loop.depth = w.loop.depth + 1 ∧ w₂.state.isSome :=
    IsTrans.trans _ _ _ (hpost hx₁) (hawait id hx₂) (Nat.succ_pos _) hs
  rw [LoopRequest.leave, bind_ok (modify_apply _ w₂), ofExcept_apply] at hx
  cases hx
  refine ⟨?_, hstate⟩
  rw [LoopQueue.exitWait, hdepth, Nat.add_sub_cancel]

end

section

variable {Native Script : Type} {h : Host (Bridge.sides Native Script)}

lemma answer (hh : h.Stands) (r : Bridge.Request) : Along Stands (Bridge.answer h r) :=
  (calls hh).answer stop (holding (change _)) r

/-- A bridge that runs is not started again. -/
lemma start (config : LifecycleConfig) : Along Stands (Bridge.start h config) := by
  intro w r w' hx hd hs
  have hrunning : (Bridge.isRunning : Eff (Bridge.sides Native Script) Bool) w = some (.ok w.state.isSome, w) := rfl
  rw [Bridge.start, bind_ok hrunning] at hx
  rcases guard_eq_some.1 hx with ⟨-, -, rfl⟩ | ⟨hnone, -⟩
  · exact ⟨rfl, hs⟩
  · exact absurd hs hnone

/-- A stop from within a wait waits for itself. -/
lemma stopBridge : Along Stands (Bridge.stop h) := by
  intro w r w' hx hd hs
  have hrunning : (Bridge.isRunning : Eff (Bridge.sides Native Script) Bool) w = some (.ok w.state.isSome, w) := rfl
  have hwaiting : w.loop.isWaiting = true := decide_eq_true hd
  rw [Bridge.stop, bind_ok hrunning, if_neg (by simp [hs])] at hx
  rw [bind_ok (get_apply w), if_pos hwaiting] at hx
  cases hx

/-- What both sides of a bridge do leaves the state there while the script waits. -/
lemma bridge (hh : h.Stands) :
    ComposesBridge (fun _ (x _ : Eff (Bridge.sides Native Script) _) => Along Stands x) h h where
  toComposesCallbacks := callbacks hh
  send := send hh
  setCell _ _ := .modify fun _ => of_same rfl rfl
  own _ := .update fun _ => of_same rfl rfl
  start := start
  stop := stopBridge
  loopPoll := poll hh
  native := runNative hh
  thread _ := .modify fun _ => of_same rfl rfl

/-- What crosses to the other side leaves the state there, at every depth. -/
lemma of_tied (hh : h.Tied) : h.Stands := hh.of_crossings .stuck bridge answer Host.Stands.mk

/-- **The state of the loop thread outlasts every wait for it.** While a script waits, it goes on waiting at the same
depth whatever both sides do meanwhile, and a state that is there stays there. -/
theorem state_outlasts_wait (hh : h.Tied) {α : Type} {x : Eff (Bridge.sides Native Script) α}
    (hx : ScriptCode h x ∨ LoopCode h x) : Along Stands x :=
  hx.elim (ScriptCode.composed (bridge (of_tied hh))) (LoopCode.composed (bridge (of_tied hh)))

end

end Stands

namespace Call

variable {Native Script : Type} {h : Host (Bridge.sides Native Script)} {c : Call} {result : Descriptor}
  {w w₁ v w' : World (Bridge.sides Native Script)} {p : PreparedCall} {r : Returned} {e : Error}

lemma runPrepared_stands (hh : h.Stands) (p : PreparedCall) : Along Stands (runPrepared h p) :=
  .bind (.each (Stands.calls hh).handOver _) fun _ => Stands.runNative hh _ _

/-- When a native function has run, no work holds the state. -/
lemma runPrepared_free (hh : h.Tied) (hfree : w.inUse = false) (hrun : runPrepared h p w = some (.ok r, v)) :
    v.inUse = false := by
  have hagree := Access.agree_of_tied hh
  have hfrees : Along Access.Frees (runPrepared h p) :=
    .bind (.each (fun v => (hagree.calls.handOver v).frees) _) fun _ => (hagree.runNative _ _).frees
  exact hfrees hrun hfree

/-- **A call that a script waits for finds the state again.** Its callbacks may use the bridge as they like, to any
depth. When the native function has run and the loop thread goes on, the call raises an error only if a function for
native lifetimes is needed that is missing, or the result is an array whose pointer leads to items that cannot be
walked. -/
theorem raises_after_run_of_waiting (hh : h.Tied) (hwaits : 0 < w.loop.depth)
    (hprepare : LoopState.holding (prepare h c result) w = some (.ok p, w₁))
    (hrun : runPrepared h p w₁ = some (.ok r, v)) (hthread : v.thread = .loop)
    (hx : invoke h c result w = some (.error e, w')) :
    (∃ s, v.state = some s ∧ s.lifecycle.Lacks e) ∨ Unreadable result (h.convention.receive p.result r) e := by
  have hs := Stands.of_tied hh
  rcases LoopState.holding_eq_some hprepare with ⟨-, -, e', he⟩ | ⟨⟨-, hstate, -⟩, w₂, -, rfl⟩
  · cases he
  have hprepared : Stands w { w₂ with inUse := false } :=
    Stands.holding (Stands.work hs.code (.prepare trivial (fun _ _ => trivial) result)) hprepare
  obtain ⟨-, hthere⟩ := IsTrans.trans _ _ _ hprepared (runPrepared_stands hs p hrun) hwaits hstate
  rcases raises_after_run hs.code hprepare hrun hx with hrefused | hraised
  · rcases LoopState.refusal?_of_free (runPrepared_free hh rfl hrun) hrefused with hother | hnone
    · exact absurd hthread hother
    · rw [hnone] at hthere
      cases hthere
  · exact hraised

end Call

end NativeBridge
