import NativeBridge.Proofs.Access.Holding
import NativeBridge.Proofs.Calls.Kept

/-!
Effects that are the same wherever the state of the loop thread is free, and that leave it free. The operations of a
bridge are alike with two hosts that are alike: their parts never meet the state in use but in work that takes it.
-/

namespace NativeBridge.Access

open Eff

variable {S : Sides}

/-- A state that was free is free again. -/
def Frees (w w' : World S) : Prop := w.inUse = false → w'.inUse = false

instance : IsPreorder (World S) Frees where
  refl _ := id
  trans _ _ _ h h' := h' ∘ h

/-- Both effects are the same where the state is free, and leave it free. -/
structure Alike {α : Type} (x y : Eff S α) : Prop where
  frees : Along Frees x
  same : ∀ ⦃w⦄, w.inUse = false → x w = y w

namespace Frees

lemma of_same {w w' : World S} (h : w'.inUse = w.inUse) : Frees w w' := fun hu => h.trans hu

lemma of_disposes {α : Type} {x : Eff S α} (hx : Along Disposes x) : Along Frees x := by
  intro w r w' hrun
  obtain ⟨_, _, _, rfl⟩ := hx hrun
  exact id

/-- Work that holds the state gives it back. -/
lemma holding {α : Type} (x : Eff S α) : Along Frees (LoopState.holding x) := by
  intro w r w' hrun hu
  cases hr : LoopState.refusal? w with
  | some e =>
    rw [LoopState.holding_of_refusal hr] at hrun
    cases hrun
    exact hu
  | none =>
    rw [LoopState.holding_of_granted hr, Option.map_eq_some_iff] at hrun
    obtain ⟨p, -, he⟩ := hrun
    cases he
    rfl

/-! ### Queues and handles -/

lemma schedule (t : Task S.Job) : Along Frees (LoopDispatch.schedule t : Eff S Unit) := by
  refine .modify fun w => ?_
  dsimp only
  split
  · exact of_same rfl
  · rw [Exchange.abandon_eq]
    exact of_same rfl

lemma finalize (key : HandleKey) : Along Frees (LoopDispatch.finalize key : Eff S Unit) := by
  intro w r w' hrun
  rw [LoopDispatch.finalize_apply] at hrun
  cases hrun
  exact of_same rfl

lemma takeTask : Along Frees (LoopDispatch.take : Eff S _) := by
  refine .update fun w => ?_
  split <;> exact of_same rfl

lemma settleReply (id : PromiseId) (r : Except Error S.Reply) : Along Frees (LoopDispatch.settle id r : Eff S Unit) :=
  .modify fun _ => of_same rfl

lemma stop : Along Frees (LoopDispatch.stop : Eff S Unit) := by
  refine .modify fun w => ?_
  dsimp only
  rw [Exchange.abandonAll_eq]
  exact of_same rfl

lemma takeCall : Along Frees (ScriptDispatch.take : Eff S _) := by
  refine .update fun w => ?_
  split <;> exact of_same rfl

lemma announce : Along Frees (ScriptDispatch.announce : Eff S Unit) := by
  refine .modify fun w => ?_
  split <;> exact of_same rfl

lemma deliver : Along Frees (ScriptDispatch.deliver : Eff S _) := by
  refine .update fun w => ?_
  split <;> exact of_same rfl

/-! ### Native code -/

lemma native {call : CallCode S} {α : Type} {x : Eff S α} (hx : NativeCode call x)
    (hcall : ∀ a words, Along Frees (call a words)) : Along Frees x :=
  hx.along (fun _ _ _ _ => of_same rfl) hcall

section

variable {h : Host S} (hcode : ∀ a call words, NativeCode call (h.run a call words))

include hcode

/-- An object is taken out of the registry by work that holds the state, and is released after that work. -/
lemma removeObject (id : ObjectId) : Along Frees (LoopState.removeObject h id) := by
  refine .bind (holding _) fun taken => ?_
  have hrun (a : Address) (words : Registers) : Along Frees (h.run a (fun _ _ => stuck) words) :=
    native (hcode _ _ _) fun _ _ => .stuck
  rcases taken with ⟨_ | o, l⟩
  · exact .pure _
  · exact Along.composes.drop (Along.composes.call? hrun) (fun _ => .modify fun _ => of_same rfl) o

lemma teardown : Along Frees (LoopState.teardown h) := fun _ _ _ hrun hu => inUse_of_teardown hcode hu hrun

end

end Frees

/-! ### Operations -/

namespace Alike

lemma refl {α : Type} {x : Eff S α} (hx : Along Frees x) : Alike x x := ⟨hx, fun _ _ => rfl⟩

/-- What is made of the quiet parts of two hosts is alike if the hosts have these in common. -/
lemma quietly {h h' : Host S} (hs : h.quietly = h'.quietly) {α : Type} {F : Host S → Eff S α} (hF : Quiet F)
    (hx : Along Frees (F h)) : Alike (F h) (F h') :=
  hF.congr hs ▸ refl hx

lemma parametric : Parametric fun _ (x y : Eff S _) => Alike x y where
  pure a := refl (.pure a)
  throw e := refl (.throw e)
  stuck := refl .stuck
  get := refl .get
  attempt hx := ⟨hx.frees.attempt, fun w hu => by rw [attempt_apply, attempt_apply, hx.same hu]⟩
  bind {_ _ x y f g} hx hf := by
    refine ⟨hx.frees.bind fun a => (hf a).frees, fun w hu => ?_⟩
    rw [bind_apply, bind_apply, ← hx.same hu]
    rcases hrun : x w with _ | ⟨e | a, w₁⟩
    · rfl
    · rfl
    · exact (hf a).same (hx.frees hrun hu)

section

variable {h h' : Host S} (hs : h.quietly = h'.quietly)
  (hcode : ∀ a call words, NativeCode call (h.run a call words)) (hanswer : ∀ j, Alike (h.answer j) (h'.answer j))

include hs hcode

lemma removeObject (id : ObjectId) : Alike (LoopState.removeObject h id) (LoopState.removeObject h' id) :=
  quietly hs (.removeObject id) (Frees.removeObject hcode id)

lemma teardown : Alike (LoopState.teardown h) (LoopState.teardown h') := quietly hs .teardown (Frees.teardown hcode)

include hanswer

lemma run (t : Task S.Job) : Alike (LoopDispatch.run h t) (LoopDispatch.run h' t) :=
  parametric.run h h' (fun id r => refl (Frees.settleReply id r)) hanswer (removeObject hs hcode) t

lemma drain (fuel : Nat) : Alike (LoopDispatch.drain h fuel) (LoopDispatch.drain h' fuel) :=
  parametric.drain h h' (refl Frees.takeTask) (fun id r => refl (Frees.settleReply id r)) hanswer
    (removeObject hs hcode) fuel

lemma poll : Alike (LoopDispatch.poll h) (LoopDispatch.poll h') := by
  rw [LoopDispatch.poll, LoopDispatch.poll, Quiet.limit.congr hs]
  exact parametric.runPosted (refl (.modify fun _ => .of_same rfl)) (refl (.modify fun _ => .of_same rfl))
    (Quiet.limit.congr hs) (drain hs hcode hanswer) _

end

end Alike

/-- Hosts whose quiet parts are the same, and whose other parts are alike. -/
structure Agree (h h' : Host S) : Prop where
  same : h.quietly = h'.quietly
  code : ∀ a call words, NativeCode call (h.run a call words)
  native : ∀ a words, (∀ b more, Alike (callCode h b more) (callCode h' b more)) →
    Alike (h.run a (callCode h) words) (h'.run a (callCode h') words)
  script : ∀ f args, Alike (h.script f args) (h'.script f args)
  answer : ∀ j, Alike (h.answer j) (h'.answer j)
  scriptTurn : Alike h.scriptTurn h'.scriptTurn
  loopTurn : Alike h.loopTurn h'.loopTurn

namespace Agree

section

variable {h h' : Host S} (hh : Agree h h')

include hh

lemma poll : Alike (LoopDispatch.poll h) (LoopDispatch.poll h') := .poll hh.same hh.code hh.answer

/-- What callbacks consist of is alike. -/
lemma callbacks : ComposesCallbacks (fun _ (x y : Eff S _) => Alike x y) h h' where
  toParametric := Alike.parametric
  same := hh.same
  holding _ := .refl (Frees.holding _)
  finalize key := .refl (Frees.finalize key)
  unref a := .refl (Frees.of_disposes (Disposes.unref a))
  chooseRoute := .refl (.update fun _ => .of_same rfl)
  queue _ _ _ := .refl (.update fun _ => .of_same rfl)
  announce := .refl Frees.announce
  deliver := .refl Frees.deliver
  take := .refl Frees.takeCall
  settle _ _ := .refl (.modify fun _ => .of_same rfl)
  collect _ := Alike.parametric.collectResult (.refl (.modify fun _ => .of_same rfl))
  script := hh.script
  scriptTurn := hh.scriptTurn
  drain := .drain hh.same hh.code hh.answer
  quiet a words := .quietly hh.same (F := fun h => h.run a (fun _ _ => stuck) words) (fun _ => rfl)
    (Frees.native (hh.code _ _ _) fun _ _ => .stuck)

/-- A native function runs that may call back. -/
lemma runNative (a : Address) (words : Registers) : Alike (h.run a (callCode h) words) (h'.run a (callCode h') words) :=
  hh.native a words hh.callbacks.callCode

/-- What calls consist of is alike. -/
lemma calls : ComposesCalls (fun _ (x y : Eff S _) => Alike x y) h h' where
  toParametric := Alike.parametric
  same := hh.same
  holding _ := .refl (Frees.holding _)
  native := hh.runNative
  handOver v := .refl (Frees.of_disposes (Disposes.handOver v))
  release v := .refl (Frees.of_disposes (Disposes.release v))
  finalize key := .refl (Frees.finalize key)

/-- A request is sent, and the scripting thread runs what is queued for it while it waits. -/
lemma send (j : S.Job) : Alike (LoopRequest.send h j) (LoopRequest.send h' j) := by
  have hpost : Along Frees (LoopRequest.post j : Eff S PromiseId) :=
    .bind (.update fun _ => .of_same rfl) fun _ => .bind (Frees.schedule _) fun _ => .pure _
  exact Alike.parametric.send (.refl (.modify fun _ => .of_same rfl)) (.refl hpost)
    (fun _ => Alike.parametric.collectReply (.refl (.modify fun _ => .of_same rfl)))
    (.refl (.modify fun _ => .of_same rfl)) (Quiet.limit.congr hh.same) hh.callbacks.processPending hh.loopTurn

end

section

variable {Native Script : Type} {h h' : Host (Bridge.sides Native Script)} (hh : Agree h h')

include hh

/-- The answers of the loop thread. -/
lemma answers (r : Bridge.Request) : Alike (Bridge.answer h r) (Bridge.answer h' r) :=
  hh.calls.answer (.refl Frees.stop) (.refl (Frees.holding _)) r

lemma start (config : LifecycleConfig) : Alike (Bridge.start h config) (Bridge.start h' config) := by
  have hinstall (s : LoopState) : Along Frees (LoopState.install s : Eff (Bridge.sides Native Script) Unit) :=
    .bind .get fun _ => .guard (.modify fun _ => .of_same rfl)
  refine .quietly hh.same (F := fun h => Bridge.start h config) (fun h => ?_) ?_
  · unfold Bridge.start
    simp only [Quiet.resolve config h]
  · exact .bind (.bind .get fun _ => .pure _) fun _ => .guard (.bind (.modify fun _ => .of_same rfl) fun _ =>
      .bind (.update fun _ => .of_same rfl) fun _ => hinstall _)

/-- What requests consist of is alike. -/
lemma requests : ComposesRequests (fun _ (x y : Eff (Bridge.sides Native Script) _) => Alike x y) h h' where
  toParametric := Alike.parametric
  send := hh.send
  setCell _ _ := .refl (.modify fun _ => .of_same rfl)

/-- What both sides of a bridge do is alike. -/
lemma bridge : ComposesBridge (fun _ (x y : Eff (Bridge.sides Native Script) _) => Alike x y) h h' where
  toComposesCallbacks := hh.callbacks
  send := hh.send
  setCell _ _ := .refl (.modify fun _ => .of_same rfl)
  own _ := .refl (.update fun _ => .of_same rfl)
  start := hh.start
  stop :=
    have hs : (Bridge.joining h).quietly = (Bridge.joining h').quietly := hh.same
    hh.requests.stop (.poll hs hh.code hh.answer) (.teardown hs hh.code) (.refl (.modify fun _ => .of_same rfl))
      (.refl (.modify fun _ => .of_same rfl))
  loopPoll := hh.poll
  native := hh.runNative
  thread _ := .refl (.modify fun _ => .of_same rfl)

end

end Agree

/-- A host made for the bridge agrees with itself: at every depth what crosses to the other side leaves the state
free. -/
lemma agree_of_tied {Native Script : Type} {h : Host (Bridge.sides Native Script)} (hh : h.Tied) : Agree h h :=
  hh.of_crossings (.refl .stuck) Agree.bridge Agree.answers fun hcode hscript hanswer hturn hloop =>
    ⟨rfl, hcode, fun _ _ hcall => .refl (Frees.native (hcode _ _ _) fun b more => (hcall b more).frees), hscript,
      hanswer, hturn, hloop⟩

end NativeBridge.Access
