import NativeBridge.Proofs.Calls.Work
import NativeBridge.Proofs.Quiet

/-!
Properties of effects that composed effects have if their parts have them. What is shown of the parts of calls,
callbacks and requests holds of these operations of a bridge, however the property is come by. It may be a relation
between the operations of two bridges, whose hosts are alike in what is quiet about them.
-/

namespace NativeBridge

open Eff

variable {S : Sides} {P : ∀ α : Type, Eff S α → Prop}

/-! ### Values -/

/-- What values own is made, handed over and released with the property. -/
structure ComposesValues (P : ∀ α : Type, Eff S α → Prop) : Prop extends Sequences P where
  free (a : Address) : P Unit (Memory.release a)
  ref (a : Address) : P Unit (Closure.ref a)
  unref (a : Address) : P Unit (Closure.unref a)
  disown (a : Address) : P Unit (Thunk.disown a)
  code (t : Thunk) : P Address (Thunk.create t)

namespace ComposesValues

variable (hp : ComposesValues P)

include hp

lemma release (v : NativeValue) : P Unit v.release := by
  unfold NativeValue.release
  split
  · exact hp.each hp.free _
  · exact hp.free _
  · exact hp.bind (hp.each hp.free _) fun _ => hp.free _
  · exact hp.disown _
  · exact Chains.ite (hp.pure _) (hp.unref _)
  · exact hp.pure _

lemma handOver (v : NativeValue) : P Unit v.handOver := by
  unfold NativeValue.handOver
  split
  · exact Chains.ite (hp.pure _) (hp.ref _)
  · exact hp.pure _

lemma makeThunk (target : Address) (s : Signature) : P Address (makeThunk target s) := by
  unfold NativeBridge.makeThunk
  dsimp only
  split
  · exact hp.bind (hp.unref target) fun _ => hp.throw _
  · exact hp.code _

lemma makeCallback (hget : P _ get) (hclosure : ∀ c, P Address (Closure.create c)) (hown : ∀ a, P Unit (Thunk.own a))
    (hretain : ∀ r, P Unit (LoopState.retain r)) (function : Option FunctionId) (s : Signature) :
    P NativeValue (makeCallback function s) := by
  unfold NativeBridge.makeCallback
  refine hp.bind hget fun w => hp.guard (hp.guard (hp.bind (hclosure _) fun closure => ?_))
  split
  · refine hp.bind (hp.makeThunk closure s) fun thunk => Chains.ite ?_ (hp.pure _)
    exact hp.bind (hown thunk) fun _ => hp.bind (hretain _) fun _ => hp.pure _
  · exact hp.pure _

end ComposesValues

/-! ### Work that unwinds -/

namespace Eff.Parametric

variable {P : ∀ α : Type, Eff S α → Eff S α → Prop} (hp : Parametric P) {α : Type}

include hp

lemma unwinding {x y : Eff S α} (hx : P α x y)
    (hf : ∀ key, P Unit (LoopDispatch.finalize key) (LoopDispatch.finalize key)) :
    P α (LoopDispatch.unwinding x) (LoopDispatch.unwinding y) := by
  refine hp.bind hp.get fun w => hp.bind (hp.attempt hx) fun r => ?_
  cases r with
  | ok a => exact hp.pure a
  | error e => exact hp.bind hp.get fun _ => hp.bind (hp.each hf _) fun _ => hp.throw e

/-! ### Replies and results -/

lemma collectReply {id : PromiseId} (hforget : P PUnit (modify fun w => { w with replies := w.replies.forget id })
      (modify fun w => { w with replies := w.replies.forget id })) :
    P _ (LoopRequest.collect id) (LoopRequest.collect id) := by
  refine hp.bind hp.get fun w => hp.bind (hp.bind hp.get fun _ => hp.pure _) fun _ => Parametric.ite (hp.pure _)
    (hp.bind hforget fun _ => ?_)
  cases w.replies.get? id with
  | none => exact hp.throw _
  | some p =>
    cases p with
    | kept r => exact hp.map _ (hp.ofExcept _)
    | pending | broken => exact hp.throw _

lemma collectResult {id : PromiseId} (hforget : P PUnit
      (modify fun w => { w with script := { w.script with results := w.script.results.forget id } })
      (modify fun w => { w with script := { w.script with results := w.script.results.forget id } })) :
    P _ (ScriptDispatch.collect id) (ScriptDispatch.collect id) := by
  refine hp.bind hp.get fun w => hp.bind (hp.bind hp.get fun _ => hp.pure _) fun _ => Parametric.ite (hp.pure _)
    (hp.bind hforget fun _ => ?_)
  cases w.script.results.get? id with
  | none => exact hp.throw _
  | some p =>
    cases p with
    | kept r => exact hp.pure _
    | pending | broken => exact hp.throw _

/-! ### Tasks -/

lemma run (h h' : Host S) (hsettle : ∀ id r, P Unit (LoopDispatch.settle id r) (LoopDispatch.settle id r))
    (hanswer : ∀ j, P _ (h.answer j) (h'.answer j))
    (hremove : ∀ id, P Unit (LoopState.removeObject h id) (LoopState.removeObject h' id)) (t : Task S.Job) :
    P Unit (LoopDispatch.run h t) (LoopDispatch.run h' t) := by
  cases t with
  | remove id => exact hp.forget (hp.attempt (hremove id))
  | job j => exact hp.forget (hp.attempt (hanswer j))
  | request promise j => exact hp.bind (hp.attempt (hanswer j)) fun r => hsettle promise r

/-- Tasks are taken and run, and requests are settled. -/
lemma drain (h h' : Host S) (htake : P _ LoopDispatch.take LoopDispatch.take)
    (hsettle : ∀ id r, P Unit (LoopDispatch.settle id r) (LoopDispatch.settle id r))
    (hanswer : ∀ j, P _ (h.answer j) (h'.answer j))
    (hremove : ∀ id, P Unit (LoopState.removeObject h id) (LoopState.removeObject h' id)) (fuel : Nat) :
    P Nat (LoopDispatch.drain h fuel) (LoopDispatch.drain h' fuel) := by
  induction fuel with
  | zero => exact hp.stuck
  | succ fuel ih =>
    refine hp.bind htake fun t => ?_
    cases t with
    | none => exact hp.pure 0
    -- an error of the task has ended with it
    | some t => exact hp.bind (hp.run h h' hsettle hanswer hremove t) fun _ => hp.bind ih fun _ => hp.pure _

lemma runPosted {h h' : Host S} (hbegin : P Unit LoopDispatch.beginBatch LoopDispatch.beginBatch)
    (hend : P Unit LoopDispatch.endBatch LoopDispatch.endBatch) (hlimit : h.limit = h'.limit)
    (hdrain : ∀ fuel, P Nat (LoopDispatch.drain h fuel) (LoopDispatch.drain h' fuel)) (fuel : Nat) :
    P Nat (LoopDispatch.runPosted h fuel) (LoopDispatch.runPosted h' fuel) := by
  have hbatch : P Unit (LoopDispatch.batch h) (LoopDispatch.batch h') := by
    rw [LoopDispatch.batch, LoopDispatch.batch, hlimit]
    exact hp.bind hbegin fun _ => hp.bind (hdrain _) fun _ => hend
  induction fuel with
  | zero => exact hp.stuck
  | succ fuel ih =>
    exact hp.bind hp.get fun _ => Parametric.ite (hp.pure _) (hp.bind hbatch fun _ => hp.bind ih fun _ => hp.pure _)

lemma awaitReply (h h' : Host S) {id : PromiseId} (hcollect : P _ (LoopRequest.collect id) (LoopRequest.collect id))
    (hcalls : P _ (ScriptDispatch.processPending h) (ScriptDispatch.processPending h'))
    (hturn : P Unit h.loopTurn h'.loopTurn) (fuel : Nat) :
    P _ (LoopRequest.await h id fuel) (LoopRequest.await h' id fuel) := by
  induction fuel with
  | zero => exact hp.stuck
  | succ fuel ih =>
    refine hp.bind hcollect fun r => ?_
    cases r with
    | some r => exact hp.pure r
    | none =>
      -- the loop thread gets a turn only if the calls have not brought the reply
      exact hp.bind hcalls fun _ => hp.bind (hp.bind hp.get fun _ => hp.pure _) fun _ =>
        Parametric.ite (hp.bind hturn fun _ => ih) ih

/-- A job is posted between the bounds of a wait, and its reply is collected. -/
lemma send {h h' : Host S} {j : S.Job} (henter : P Unit LoopRequest.enter LoopRequest.enter)
    (hpost : P _ (LoopRequest.post j) (LoopRequest.post j))
    (hcollect : ∀ id, P _ (LoopRequest.collect id) (LoopRequest.collect id))
    (hleave : P Unit LoopRequest.leave LoopRequest.leave) (hlimit : h.limit = h'.limit)
    (hcalls : P _ (ScriptDispatch.processPending h) (ScriptDispatch.processPending h'))
    (hturn : P Unit h.loopTurn h'.loopTurn) : P _ (LoopRequest.send h j) (LoopRequest.send h' j) := by
  rw [LoopRequest.send, LoopRequest.send, hlimit]
  exact hp.bind henter fun _ => hp.bind hpost fun id =>
    hp.andFinally (hp.awaitReply h h' (hcollect id) hcalls hturn _) hleave

end Eff.Parametric

/-! ### Calls -/

/-- The parts of native calls are related. -/
structure ComposesCalls (P : ∀ α : Type, Eff S α → Eff S α → Prop) (h h' : Host S) : Prop extends Parametric P where
  same : h.quietly = h'.quietly
  holding {α : Type} {x : Eff S α} (hx : LoopWork h Set.univ True True x) :
    P α (LoopState.holding x) (LoopState.holding x)
  native (a : Address) (words : Registers) : P _ (h.run a (callCode h) words) (h'.run a (callCode h') words)
  handOver (v : NativeValue) : P Unit v.handOver v.handOver
  release (v : NativeValue) : P Unit v.release v.release
  finalize (key : HandleKey) : P Unit (LoopDispatch.finalize key) (LoopDispatch.finalize key)

namespace ComposesCalls

variable {P : ∀ α : Type, Eff S α → Eff S α → Prop} {h h' : Host S} (hp : ComposesCalls P h h')

include hp

/-- Work that holds the state is the same for both hosts. -/
lemma work {α : Type} {F : Host S → Eff S α} (hF : Quiet F) (hx : LoopWork h Set.univ True True (F h)) :
    P α (LoopState.holding (F h)) (LoopState.holding (F h')) :=
  hF.congr hp.same ▸ hp.holding hx

/-- The state is held for the arguments and again for the results, and not while the native function runs. -/
lemma invoke (c : Call) (result : Descriptor) : P _ (Call.invoke h c result) (Call.invoke h' c result) := by
  have hprepare := hp.work (Quiet.prepare c result) (.prepare trivial (fun _ _ => trivial) result)
  have hread (values : List NativeValue) (buffer : Bytes) :=
    hp.work (Quiet.readBack c result values buffer) (.readBack (fun _ _ => trivial) result values buffer)
  have hconvention : h.convention = h'.convention := Quiet.convention.congr hp.same
  rw [Call.invoke, Call.invoke, ← hconvention]
  -- the values are released whatever the native function and the reading back end with
  refine hp.bind hprepare fun p => hp.andFinally ?_ (hp.each hp.release _)
  exact hp.bind (hp.each hp.handOver _) fun _ => hp.bind (hp.native _ _) fun r =>
    hp.unwinding (hread _ _) hp.finalize

lemma invokeAfter (updates : List (CellId × Value)) (calls : List Call) :
    P _ (Call.invokeAfter h updates calls) (Call.invokeAfter h' updates calls) := by
  induction calls generalizing updates with
  | nil => exact hp.pure _
  | cons c rest ih =>
    refine hp.bind (hp.attempt (hp.invoke c _)) fun r => ?_
    cases r with
    | ok outcome => exact ih _
    | error e => exact hp.bind (hp.each hp.finalize _) fun _ => hp.throw e

end ComposesCalls

/-- The answers of the loop thread. -/
lemma ComposesCalls.answer {Native Script : Type}
    {P : ∀ α : Type, Eff (Bridge.sides Native Script) α → Eff (Bridge.sides Native Script) α → Prop}
    {h h' : Host (Bridge.sides Native Script)} (hp : ComposesCalls P h h')
    (hstop : P Unit LoopDispatch.stop LoopDispatch.stop)
    (hguard : P Unit (LoopState.holding LoopState.releaseWorkGuard) (LoopState.holding LoopState.releaseWorkGuard))
    (r : Bridge.Request) : P _ (Bridge.answer h r) (Bridge.answer h' r) := by
  cases r with
  | call c result => exact hp.bind (hp.invoke c result) fun _ => hp.pure _
  | batch calls => exact hp.bind (hp.invokeAfter [] calls) fun _ => hp.pure _
  | read object type offset =>
    have hx := hp.work (Quiet.readObject object type offset)
      (.bind (.resolveObject _) fun _ => .bind (.readField _ _ _) fun _ => .pure _)
    exact hx
  | write object type offset value =>
    exact hp.holding (.bind (.resolveObject _) fun _ => .bind (.writeField _ _ _ _) fun _ => .pure _)
  | alloc size name lib =>
    have hx := hp.work (Quiet.allocBoxed size name lib) (.bind (.boxedTypeId _ _) fun id => .bind .currentLifecycle
      fun l => .bind (.bind (.alloc0 l size) fun _ => .pure _) fun o => .bind (.wrap trivial o) fun _ => .pure _)
    exact hx
  | address object => exact hp.holding (.bind (.resolveObject _) fun _ => .pure _)
  | holdings => exact hp.holding (.bind .current fun _ => .pure _)
  | stop => exact hp.bind hstop fun _ => hp.bind hguard fun _ => hp.pure _

/-! ### Callbacks -/

/-- The parts of callbacks are related, what runs while the threads wait for each other among them. -/
structure ComposesCallbacks (P : ∀ α : Type, Eff S α → Eff S α → Prop) (h h' : Host S) : Prop extends
    Parametric P where
  same : h.quietly = h'.quietly
  holding {α : Type} {x : Eff S α} (hx : LoopWork h Set.univ True True x) :
    P α (LoopState.holding x) (LoopState.holding x)
  finalize (key : HandleKey) : P Unit (LoopDispatch.finalize key) (LoopDispatch.finalize key)
  unref (a : Address) : P Unit (Closure.unref a) (Closure.unref a)
  chooseRoute : P _ ScriptDispatch.chooseRoute ScriptDispatch.chooseRoute
  queue (f : Option FunctionId) (args : List Value) (capture : Bool) :
    P _ (ScriptDispatch.queue f args capture) (ScriptDispatch.queue f args capture)
  announce : P Unit ScriptDispatch.announce ScriptDispatch.announce
  deliver : P _ ScriptDispatch.deliver ScriptDispatch.deliver
  take : P _ ScriptDispatch.take ScriptDispatch.take
  settle (c : PendingCall) (r : Except Raised Value) : P Unit (ScriptDispatch.settle c r) (ScriptDispatch.settle c r)
  collect (id : PromiseId) : P _ (ScriptDispatch.collect id) (ScriptDispatch.collect id)
  script (f : Option FunctionId) (args : List Value) : P _ (h.script f args) (h'.script f args)
  scriptTurn : P Unit h.scriptTurn h'.scriptTurn
  drain (fuel : Nat) : P Nat (LoopDispatch.drain h fuel) (LoopDispatch.drain h' fuel)
  /-- another native function is called through its pointer -/
  quiet (a : Address) (words : Registers) :
    P _ (h.run a (fun _ _ => Eff.stuck) words) (h'.run a (fun _ _ => Eff.stuck) words)

namespace ComposesCallbacks

variable {P : ∀ α : Type, Eff S α → Eff S α → Prop} {h h' : Host S} (hp : ComposesCallbacks P h h')

include hp

lemma limit : h.limit = h'.limit := Quiet.limit.congr hp.same

lemma work {α : Type} {F : Host S → Eff S α} (hF : Quiet F) (hx : LoopWork h Set.univ True True (F h)) :
    P α (LoopState.holding (F h)) (LoopState.holding (F h')) :=
  hF.congr hp.same ▸ hp.holding hx

lemma processPending : P _ (ScriptDispatch.processPending h) (ScriptDispatch.processPending h') := by
  have hsite : h.site = h'.site := Quiet.site.congr hp.same
  have hending : ScriptDispatch.ending h = ScriptDispatch.ending h' := by
    unfold ScriptDispatch.ending
    rw [hsite]
  have hprocess (fuel : Nat) : P Nat (ScriptDispatch.process h fuel) (ScriptDispatch.process h' fuel) := by
    induction fuel with
    | zero => exact hp.stuck
    | succ fuel ih =>
      refine hp.bind hp.take fun c => ?_
      cases c with
      | none => exact hp.pure 0
      | some c =>
        refine hp.bind ?_ fun r => hp.bind (hp.settle c r) fun _ => hp.bind ih fun _ => hp.pure _
        rw [ScriptDispatch.attempt, ScriptDispatch.attempt, hending]
        exact hp.bind (hp.attempt (hp.script _ _)) fun _ => hp.bind hp.get fun _ => hp.pure _
  rw [ScriptDispatch.processPending, ScriptDispatch.processPending, hp.limit]
  exact hprocess _

lemma runMailbox (fuel : Nat) : P _ (ScriptDispatch.runMailbox h fuel) (ScriptDispatch.runMailbox h' fuel) := by
  induction fuel with
  | zero => exact hp.stuck
  | succ fuel ih =>
    refine hp.bind hp.deliver fun current => ?_
    cases current with
    | none => exact hp.pure 0
    | some current =>
      exact Parametric.ite (hp.bind hp.processPending fun _ => hp.bind ih fun _ => hp.pure _)
        (hp.bind ih fun _ => hp.pure _)

lemma queueWithWakeup (f : Option FunctionId) (args : List Value) (capture : Bool) :
    P _ (ScriptDispatch.queueWithWakeup h f args capture) (ScriptDispatch.queueWithWakeup h' f args capture) :=
  hp.bind (hp.queue f args capture) fun _ => hp.bind hp.announce fun _ => hp.bind hp.get fun _ =>
    Parametric.ite (hp.bind hp.processPending fun _ => hp.pure _) (hp.pure _)

/-- The loop thread runs its tasks while it waits for a result. -/
lemma await (id : PromiseId) (fuel : Nat) : P _ (ScriptDispatch.await h id fuel) (ScriptDispatch.await h' id fuel) := by
  have hpending : P _ (LoopDispatch.dispatchPending h) (LoopDispatch.dispatchPending h') := by
    rw [LoopDispatch.dispatchPending, LoopDispatch.dispatchPending, hp.limit]
    exact hp.bind (hp.drain _) fun _ => hp.pure _
  induction fuel with
  | zero => exact hp.stuck
  | succ fuel ih =>
    refine hp.bind (hp.collect id) fun r => ?_
    cases r with
    | some r => exact hp.pure r
    | none =>
      exact hp.bind hpending fun _ => hp.bind (hp.bind hp.get fun _ => hp.pure _) fun _ =>
        Parametric.ite (hp.bind hp.scriptTurn fun _ => ih) ih

lemma callClosure (c : Closure) (args : List Value) (capture : Bool) :
    P _ (c.call h args capture) (c.call h' args capture) := by
  have hinvoke (f : Option FunctionId) :
      P _ (ScriptDispatch.invokeAndWait h f args capture) (ScriptDispatch.invokeAndWait h' f args capture) := by
    rw [ScriptDispatch.invokeAndWait, ScriptDispatch.invokeAndWait, hp.limit]
    exact hp.bind hp.chooseRoute fun _ => Parametric.ite (hp.bind (hp.queue f args capture) fun id => hp.await id _)
      (hp.bind (hp.queueWithWakeup f args capture) fun id => hp.await id _)
  unfold Closure.call
  cases c.generation with
  | none => exact hp.throw _
  | some generation =>
    refine hp.bind hp.get fun _ => Parametric.ite (hp.bind hp.stuck fun _ => ?_) ?_ <;>
    · refine hp.bind (hinvoke _) fun r => ?_
      cases r with
      | ok v => exact hp.pure _
      | error e => exact hp.pure _

/-- The arguments of a callback are converted by work of its own, which ends before the script function is called. -/
lemma convertArgs (types : List (Option Descriptor)) (raw : List Trampoline.RawArg) :
    P _ (Trampoline.convertArgs h types raw) (Trampoline.convertArgs h' types raw) := by
  have hwork := hp.work (Quiet.convertTyped raw types) (.convertTyped raw types)
  exact Parametric.ite (hp.pure _) (hp.unwinding hwork hp.finalize)

lemma notify (c : Closure) {args args' : Eff S (List Value)} (ha : P _ args args') :
    P Unit (Trampoline.notify h c args) (Trampoline.notify h' c args') :=
  hp.forget (hp.attempt (hp.bind ha fun values => hp.callClosure c values _))

lemma request {α : Type} (c : Closure) (fallback : α) {args args' : Eff S (List Value)} (ha : P _ args args')
    (convert : Value → α) :
    P α (Trampoline.request h c fallback args convert) (Trampoline.request h' c fallback args' convert) := by
  refine hp.bind (hp.attempt (hp.bind ha fun values => hp.callClosure c values _)) fun r => ?_
  rcases r with e | _ | v <;> exact hp.pure _

lemma closureAt (data : Address) : P _ (Trampoline.closureAt data) (Trampoline.closureAt data) := by
  refine hp.bind (hp.bind hp.get fun _ => hp.pure _) fun c => ?_
  cases c with
  | some c => exact hp.pure c
  | none => exact hp.stuck

lemma enter (e : Entry) (words : Registers) : P _ (Trampoline.enter h e words) (Trampoline.enter h' e words) := by
  have hnotified {data : Address} {f g : Closure → Eff S Unit} (hf : ∀ c, P Unit (f c) (g c)) : P Returned
      ((if data = 0 then pure PUnit.unit else Trampoline.closureAt data >>= f) >>= fun _ => pure {})
      ((if data = 0 then pure PUnit.unit else Trampoline.closureAt data >>= g) >>= fun _ => pure {}) :=
    hp.bind (Parametric.ite (hp.pure _) (hp.bind (hp.closureAt _) hf)) fun _ => hp.pure _
  have hrequested {α : Type} {data : Address} {fallback : α} {f g : Closure → Eff S α} {k : α → Returned}
      (hf : ∀ c, P α (f c) (g c)) : P Returned
      ((if data = 0 then pure fallback else Trampoline.closureAt data >>= f) >>= fun a => pure (k a))
      ((if data = 0 then pure fallback else Trampoline.closureAt data >>= g) >>= fun a => pure (k a)) :=
    hp.bind (Parametric.ite (hp.pure _) (hp.bind (hp.closureAt _) hf)) fun _ => hp.pure _
  cases e with
  | asyncReady => exact hnotified fun c => hp.bind (hp.notify c (hp.convertArgs _ _)) fun _ => hp.unref _
  | destroy => exact hnotified fun c => hp.bind (hp.notify c (hp.pure [])) fun _ => hp.unref _
  | drawFunc => exact hnotified fun c => hp.notify c (hp.convertArgs _ _)
  | tickFunc => exact hrequested fun c => hp.request c _ (hp.convertArgs _ _) _
  | sourceFunc => exact hrequested fun c => hp.request c _ (hp.pure []) _
  | compareFunc => exact hrequested fun c => hp.request c _ (hp.convertArgs _ _) _
  | unref => exact hp.bind (Parametric.ite (hp.pure _) (hp.unref _)) fun _ => hp.pure _

/-- The result of a callback is converted by work that takes the state anew. -/
lemma respond (t : Thunk) (args : List (Descriptor × Bytes)) :
    P _ (Thunk.respond h t args) (Thunk.respond h' t args) := by
  have hargs := hp.work (Quiet.arguments args) (.collect fun a _ => .argumentFromMemory a.2 a.1)
  have hresult (v : Value) := hp.work (Quiet.toNative { type := t.result, value := v, optional := true })
    (.toNative (fun _ => trivial) (fun _ => trivial) fun _ _ => trivial)
  refine hp.bind (hp.attempt (hp.bind (hp.unwinding hargs hp.finalize) fun values =>
    hp.bind (hp.closureAt _) fun c => hp.bind (hp.callClosure c values true) fun r => ?_)) fun r => ?_
  · cases r with
    | none => exact hp.pure _
    | some v =>
      have hx := hp.bind (hresult v) fun native => hp.pure ((Thunk.resultBytes native).getD Thunk.emptyBuffer)
      revert hx
      cases t.result with
      | undefined => exact fun _ => hp.pure _
      | _ => exact id
  · cases r with
    | ok buffer => exact hp.pure _
    | error e => exact hp.pure _

/-- A function pointer is called: an entry point, code made for a callback, or another native function. -/
lemma callCode (a : Address) (words : Registers) : P _ (callCode h a words) (callCode h' a words) := by
  have hconvention : h.convention = h'.convention := Quiet.convention.congr hp.same
  unfold NativeBridge.callCode
  cases Entry.ofAddress? a with
  | some e => exact hp.enter e words
  | none =>
    refine hp.bind hp.get fun w => ?_
    rw [← hconvention]
    cases w.thunks.lookup a with
    | some t => exact hp.bind (hp.respond t _) fun _ => hp.pure _
    | none => exact hp.quiet a words

end ComposesCallbacks

/-! ### Requests -/

/-- The parts of requests are related. -/
structure ComposesRequests {Native Script : Type}
    (P : ∀ α : Type, Eff (Bridge.sides Native Script) α → Eff (Bridge.sides Native Script) α → Prop)
    (h h' : Host (Bridge.sides Native Script)) : Prop extends Parametric P where
  send (r : Bridge.Request) : P _ (LoopRequest.send h r) (LoopRequest.send h' r)
  setCell (c : CellId) (v : Value) : P Unit (Cell.set c v) (Cell.set c v)

namespace ComposesRequests

variable {Native Script : Type}
  {P : ∀ α : Type, Eff (Bridge.sides Native Script) α → Eff (Bridge.sides Native Script) α → Prop}
  {h h' : Host (Bridge.sides Native Script)} (hp : ComposesRequests P h h')

include hp

lemma isRunning : P _ Bridge.isRunning Bridge.isRunning := hp.bind hp.get fun _ => hp.pure _

lemma request (r : Bridge.Request) : P _ (Bridge.request h r) (Bridge.request h' r) :=
  hp.bind hp.isRunning fun _ => hp.guard (hp.send r)

lemma call (c : Call) (result : Descriptor) : P _ (Bridge.call h c result) (Bridge.call h' c result) := by
  refine hp.bind (hp.request _) fun r => ?_
  cases r with
  | outcome o => exact hp.bind (hp.each (fun u => hp.setCell _ _) _) fun _ => hp.pure _
  | _ => exact hp.stuck

lemma batch (calls : List Call) : P _ (Bridge.batch h calls) (Bridge.batch h' calls) := by
  refine Parametric.ite (hp.pure _) (hp.bind (hp.request _) fun r => ?_)
  cases r with
  | updates cells => exact hp.each (fun u => hp.setCell _ _) _
  | _ => exact hp.stuck

lemma read (object : Value) (type : Descriptor) (offset : Nat) :
    P _ (Bridge.read h object type offset) (Bridge.read h' object type offset) := by
  refine hp.bind (hp.ofExcept _) fun _ => hp.bind (hp.request _) fun r => ?_
  cases r with
  | value v => exact hp.pure _
  | _ => exact hp.stuck

lemma write (object : Value) (type : Descriptor) (offset : Nat) (value : Value) :
    P _ (Bridge.write h object type offset value) (Bridge.write h' object type offset value) :=
  hp.bind (hp.ofExcept _) fun _ => hp.forget (hp.request _)

lemma alloc (size : Nat) (name : String) (lib : Option String) :
    P _ (Bridge.alloc h size name lib) (Bridge.alloc h' size name lib) := by
  refine hp.bind (hp.request _) fun r => ?_
  cases r with
  | value v => exact hp.pure _
  | _ => exact hp.stuck

lemma address (object : Value) : P _ (Bridge.address h object) (Bridge.address h' object) := by
  refine hp.bind (hp.ofExcept _) fun _ => hp.bind (hp.request _) fun r => ?_
  cases r with
  | address a => exact hp.pure _
  | _ => exact hp.stuck

lemma poll (hcalls : P _ (ScriptDispatch.processPending h) (ScriptDispatch.processPending h')) :
    P _ (Bridge.poll h) (Bridge.poll h') :=
  hp.bind hp.isRunning fun _ => Parametric.ite hcalls (hp.pure _)

lemma stats : P _ (Bridge.stats h) (Bridge.stats h') := by
  refine hp.bind hp.get fun w => hp.bind hp.isRunning fun _ => Parametric.ite (hp.pure _)
    (hp.bind (hp.request _) fun r => ?_)
  cases r with
  | holdings held => exact hp.pure _
  | _ => exact hp.stuck

/-- A bridge is stopped: its loop thread ends, and the state goes. -/
lemma stop (hpoll : P _ (LoopDispatch.poll (Bridge.joining h)) (LoopDispatch.poll (Bridge.joining h')))
    (hteardown : P Unit (LoopState.teardown (Bridge.joining h)) (LoopState.teardown (Bridge.joining h')))
    (hclear : P Unit ScriptDispatch.clear ScriptDispatch.clear)
    (hdisown : P PUnit (modify fun w => { w with loopOwned := false }) (modify fun w => { w with loopOwned := false })) :
    P _ (Bridge.stop h) (Bridge.stop h') := by
  have rest : P PUnit
      (do
        let _ ← LoopDispatch.poll (Bridge.joining h)
        LoopState.teardown (Bridge.joining h)
        ScriptDispatch.clear
        modify fun w => { w with loopOwned := false })
      (do
        let _ ← LoopDispatch.poll (Bridge.joining h')
        LoopState.teardown (Bridge.joining h')
        ScriptDispatch.clear
        modify fun w => { w with loopOwned := false }) :=
    hp.bind hpoll fun _ => hp.bind hteardown fun _ => hp.bind hclear fun _ => hdisown
  refine hp.bind hp.isRunning fun _ => Parametric.ite (hp.pure _)
    (hp.bind hp.get fun _ => Parametric.ite (hp.bind hp.stuck fun _ => ?_) ?_) <;>
  · refine hp.bind (hp.attempt (hp.send _)) fun r => ?_
    cases r with
    | ok reply => exact rest
    | error e =>
      cases e with
      | loopGone => exact rest
      | _ => exact hp.bind (hp.throw _) fun _ => rest

end ComposesRequests

end NativeBridge
