import NativeBridge.Proofs.Evolution.Bridge

/-!
What stands on the other sides of a bridge. Native code changes its own state and memory and calls function pointers;
script code uses the operations of the bridge; the loop thread serves requests. Hosts of any depth of crossings that
keep to this lead only where a relation leads that allows for the operations of the bridge: only to worlds that come of
the present one by changes, among others.
-/

namespace NativeBridge

open Eff
open Permits (still)

/-- Effects of native code that calls function pointers by `call`. -/
inductive NativeCode {S : Sides} (call : CallCode S) : ∀ {α : Type}, Eff S α → Prop where
  | pure {α : Type} (a : α) : NativeCode call (pure a : Eff S α)
  | stuck {α : Type} : NativeCode call (Eff.stuck : Eff S α)
  /-- native code may see everything, and changes what is its own -/
  | own {α : Type} (f : World S → α × S.Native × Heap) (h : ∀ w, w.heap.given ≤ (f w).2.2.given) :
      NativeCode call (Eff.update fun w => ((f w).1, { w with native := (f w).2.1, heap := (f w).2.2 }))
  | call (a : Address) (words : Registers) : NativeCode call (call a words)
  | bind {α β : Type} {x : Eff S α} {f : α → Eff S β} (hx : NativeCode call x) (hf : ∀ a, NativeCode call (f a)) :
      NativeCode call (x >>= f)

lemma NativeCode.along {S : Sides} {R : World S → World S → Prop} [IsPreorder (World S) R] {call : CallCode S}
    (hown : ∀ (w : World S) (native : S.Native) (heap : Heap), w.heap.given ≤ heap.given →
      R w { w with native, heap })
    (hcall : ∀ a words, Along R (call a words)) {α : Type} {x : Eff S α} (hx : NativeCode call x) : Along R x := by
  induction hx with
  | pure a => exact .pure a
  | stuck => exact .stuck
  | own f h => exact .update fun w => hown w _ _ (h w)
  | call a words => exact hcall a words
  | bind _ _ ihx ihf => exact ihx.bind ihf

/-- Native code that calls nothing changes its own state and memory, and raises no error. -/
lemma NativeCode.outside {S : Sides} {α : Type} {x : Eff S α} (hx : NativeCode (fun _ _ => Eff.stuck) x)
    {w w' : World S} {r : Except Error α} (h : x w = some (r, w')) :
    (∃ a, r = .ok a) ∧ ∃ native heap, w.heap.given ≤ heap.given ∧ w' = { w with native, heap } := by
  induction hx generalizing w w' with
  | pure a =>
    cases h
    exact ⟨⟨a, rfl⟩, w.native, w.heap, le_rfl, rfl⟩
  | stuck => cases h
  | own f hg =>
    cases h
    exact ⟨⟨_, rfl⟩, _, _, hg w, rfl⟩
  | call a words => cases h
  | bind _ _ ihx ihf =>
    rcases bind_eq_some.1 h with ⟨a, w₁, h₁, h₂⟩ | ⟨e, h₁, -⟩
    · obtain ⟨-, n₁, m₁, hg₁, rfl⟩ := ihx h₁
      obtain ⟨ha, n₂, m₂, hg₂, rfl⟩ := ihf a h₂
      exact ⟨ha, n₂, m₂, hg₁.trans hg₂, rfl⟩
    · obtain ⟨⟨a, ha⟩, -⟩ := ihx h₁
      cases ha

/-- Effects of code that is put together of single steps, of which each kind performs its own, and that may raise errors
and catch them. -/
inductive SideCode {S : Sides} {Step : Type → Type 1} (perform : ∀ α : Type, Step α → Eff S α) :
    ∀ {α : Type}, Eff S α → Prop where
  | pure {α : Type} (a : α) : SideCode perform (pure a : Eff S α)
  | stuck {α : Type} : SideCode perform (Eff.stuck : Eff S α)
  | throw {α : Type} (e : Error) : SideCode perform (throw e : Eff S α)
  | step {α : Type} (o : Step α) : SideCode perform (perform α o)
  | attempt {α : Type} {x : Eff S α} (hx : SideCode perform x) : SideCode perform x.attempt
  | bind {α β : Type} {x : Eff S α} {f : α → Eff S β} (hx : SideCode perform x) (hf : ∀ a, SideCode perform (f a)) :
      SideCode perform (x >>= f)

lemma SideCode.composed {S : Sides} {P : ∀ α : Type, Eff S α → Eff S α → Prop} (hp : Parametric P)
    {Step : Type → Type 1} {perform : ∀ α : Type, Step α → Eff S α}
    (hstep : ∀ {α : Type} (o : Step α), P α (perform α o) (perform α o)) {α : Type} {x : Eff S α}
    (hx : SideCode perform x) : P α x x := by
  induction hx with
  | pure a => exact hp.pure a
  | stuck => exact hp.stuck
  | throw e => exact hp.throw e
  | step o => exact hstep o
  | attempt _ ih => exact hp.attempt ih
  | bind _ _ ihx ihf => exact hp.bind ihx ihf

variable {Native Script : Type}

/-- The steps of script code: what it does to its own state and cells, and the operations of the bridge. -/
inductive ScriptStep (Native Script : Type) : Type → Type 1 where
  | own {α : Type} (f : World (Bridge.sides Native Script) → α × Script × List Value) : ScriptStep Native Script α
  | start (config : LifecycleConfig) : ScriptStep Native Script Unit
  | stop : ScriptStep Native Script Unit
  | call (c : Call) (result : Descriptor) : ScriptStep Native Script Value
  | batch (calls : List Call) : ScriptStep Native Script Unit
  | read (object : Value) (type : Descriptor) (offset : Nat) : ScriptStep Native Script Value
  | write (object : Value) (type : Descriptor) (offset : Nat) (value : Value) : ScriptStep Native Script Unit
  | alloc (size : Nat) (name : String) (lib : Option String) : ScriptStep Native Script Value
  | address (object : Value) : ScriptStep Native Script Address
  | poll : ScriptStep Native Script Nat
  | stats : ScriptStep Native Script Bridge.Stats
  /-- the script lets go of a handle -/
  | finalize (key : HandleKey) : ScriptStep Native Script Unit
  /-- the script runs what is queued for it, or its event loop does -/
  | pending : ScriptStep Native Script Nat
  | mailbox (fuel : Nat) : ScriptStep Native Script Nat
  /-- native code runs on a thread of its own meanwhile -/
  | elsewhere (a : Address) (words : Registers) : ScriptStep Native Script Unit

def ScriptStep.perform (h : Host (Bridge.sides Native Script)) :
    ∀ {α : Type}, ScriptStep Native Script α → Eff (Bridge.sides Native Script) α
  | _, .own f => Eff.update fun w => ((f w).1, { w with side := (f w).2.1, cells := (f w).2.2 })
  | _, .start config => Bridge.start h config
  | _, .stop => Bridge.stop h
  | _, .call c result => Bridge.call h c result
  | _, .batch calls => Bridge.batch h calls
  | _, .read object type offset => Bridge.read h object type offset
  | _, .write object type offset value => Bridge.write h object type offset value
  | _, .alloc size name lib => Bridge.alloc h size name lib
  | _, .address object => Bridge.address h object
  | _, .poll => Bridge.poll h
  | _, .stats => Bridge.stats h
  | _, .finalize key => LoopDispatch.finalize key
  | _, .pending => ScriptDispatch.processPending h
  | _, .mailbox fuel => ScriptDispatch.runMailbox h fuel
  | _, .elsewhere a words => do
    modify fun w => { w with thread := .foreign }
    Eff.andFinally (discard (h.run a (callCode h) words)) (modify fun w => { w with thread := .loop })

/-- Effects of script code. -/
abbrev ScriptCode (h : Host (Bridge.sides Native Script)) {α : Type} (x : Eff (Bridge.sides Native Script) α) : Prop :=
  SideCode (fun _ o => ScriptStep.perform h o) x

/-- The steps of the loop thread while the scripting thread waits. -/
inductive LoopStep (Native Script : Type) : Type → Type 1 where
  | look : LoopStep Native Script (World (Bridge.sides Native Script))
  | thread (t : Thread) : LoopStep Native Script Unit
  | poll : LoopStep Native Script Nat
  /-- a handler of the native event loop -/
  | native (a : Address) (words : Registers) : LoopStep Native Script Returned

def LoopStep.perform (h : Host (Bridge.sides Native Script)) :
    ∀ {α : Type}, LoopStep Native Script α → Eff (Bridge.sides Native Script) α
  | _, .look => get
  | _, .thread t => modify fun w => { w with thread := t }
  | _, .poll => LoopDispatch.poll h
  | _, .native a words => h.run a (callCode h) words

/-- Effects of the loop thread while the scripting thread waits. -/
abbrev LoopCode (h : Host (Bridge.sides Native Script)) {α : Type} (x : Eff (Bridge.sides Native Script) α) : Prop :=
  SideCode (fun _ o => LoopStep.perform h o) x

section

variable {P : ∀ α : Type, Eff (Bridge.sides Native Script) α → Eff (Bridge.sides Native Script) α → Prop}
  {h h' : Host (Bridge.sides Native Script)}

/-- What both sides of a bridge do with the one host and with the other is related. -/
structure ComposesBridge
    (P : ∀ α : Type, Eff (Bridge.sides Native Script) α → Eff (Bridge.sides Native Script) α → Prop)
    (h h' : Host (Bridge.sides Native Script)) : Prop extends ComposesCallbacks P h h', ComposesRequests P h h' where
  own {α : Type} (f : World (Bridge.sides Native Script) → α × Script × List Value) :
    P α (Eff.update fun w => ((f w).1, { w with side := (f w).2.1, cells := (f w).2.2 }))
      (Eff.update fun w => ((f w).1, { w with side := (f w).2.1, cells := (f w).2.2 }))
  start (config : LifecycleConfig) : P Unit (Bridge.start h config) (Bridge.start h' config)
  stop : P _ (Bridge.stop h) (Bridge.stop h')
  loopPoll : P _ (LoopDispatch.poll h) (LoopDispatch.poll h')
  native (a : Address) (words : Registers) : P _ (h.run a (callCode h) words) (h'.run a (callCode h') words)
  thread (t : Thread) : P PUnit (modify fun w => { w with thread := t }) (modify fun w => { w with thread := t })

lemma ScriptStep.composed (hp : ComposesBridge P h h') {α : Type} (o : ScriptStep Native Script α) :
    P α (o.perform h) (o.perform h') := by
  have hr := hp.toComposesRequests
  cases o with
  | own f => exact hp.own f
  | start config => exact hp.start config
  | stop => exact hp.stop
  | call c result => exact hr.call c result
  | batch calls => exact hr.batch calls
  | read object type offset => exact hr.read object type offset
  | write object type offset value => exact hr.write object type offset value
  | alloc size name lib => exact hr.alloc size name lib
  | address object => exact hr.address object
  | poll => exact hr.poll hp.processPending
  | stats => exact hr.stats
  | finalize key => exact hp.finalize key
  | pending => exact hp.processPending
  | mailbox fuel => exact hp.runMailbox fuel
  | elsewhere a words =>
    exact hp.bind (hp.thread _) fun _ => hp.andFinally (hp.map _ (hp.native a words)) (hp.thread _)

lemma LoopStep.composed (hp : ComposesBridge P h h') {α : Type} (o : LoopStep Native Script α) :
    P α (o.perform h) (o.perform h') := by
  cases o with
  | look => exact hp.get
  | thread t => exact hp.thread t
  | poll => exact hp.loopPoll
  | native a words => exact hp.native a words

lemma ScriptCode.composed (hp : ComposesBridge P h h) {α : Type} {x : Eff (Bridge.sides Native Script) α}
    (hx : ScriptCode h x) : P α x x :=
  SideCode.composed hp.toComposesCallbacks.toParametric (ScriptStep.composed hp) hx

lemma LoopCode.composed (hp : ComposesBridge P h h) {α : Type} {x : Eff (Bridge.sides Native Script) α}
    (hx : LoopCode h x) : P α x x :=
  SideCode.composed hp.toComposesCallbacks.toParametric (LoopStep.composed hp) hx

end

variable {R : World (Bridge.sides Native Script) → World (Bridge.sides Native Script) → Prop} [Permits R]

/-- What both sides of a bridge do leads only where the relation leads. -/
lemma Evolution.bridge {h : Host (Bridge.sides Native Script)} (hh : h.Within R) :
    ComposesBridge (fun _ (x _ : Eff (Bridge.sides Native Script) _) => Along R x) h h where
  toComposesCallbacks := callbacks hh
  send := send hh
  setCell := setCell
  own f := .update fun w =>
    IsTrans.trans _ _ _ (still (.side w (f w).2.1) rfl rfl rfl) (still (.cells _ (f w).2.2) rfl rfl rfl)
  start := start
  stop := stopBridge hh
  loopPoll := poll hh
  native := (runs hh).native
  thread t := .modify fun w => still (.flags w _ _ t _) rfl rfl rfl

lemma ScriptCode.along {h : Host (Bridge.sides Native Script)} (hh : h.Within R) {α : Type}
    {x : Eff (Bridge.sides Native Script) α} (hx : ScriptCode h x) : Along R x :=
  hx.composed (Evolution.bridge hh)

lemma LoopCode.along {h : Host (Bridge.sides Native Script)} (hh : h.Within R) {α : Type}
    {x : Eff (Bridge.sides Native Script) α} (hx : LoopCode h x) : Along R x :=
  hx.composed (Evolution.bridge hh)

namespace Host

/-- A host made for the bridge: what crosses to the other side finds there a host of one depth less. -/
inductive Tied : Host (Bridge.sides Native Script) → Prop where
  /-- no crossing is left -/
  | ground {h : Host (Bridge.sides Native Script)} (hrun : ∀ a call words, NativeCode call (h.run a call words))
      (hscript : ∀ f args, h.script f args = Eff.stuck) (hanswer : ∀ j, h.answer j = Eff.stuck)
      (hturn : h.scriptTurn = Eff.stuck) (hloop : h.loopTurn = Eff.stuck) : Tied h
  | crossing {h inner : Host (Bridge.sides Native Script)} (hinner : Tied inner)
      (hrun : ∀ a call words, NativeCode call (h.run a call words))
      (hscript : ∀ f args, ScriptCode inner (h.script f args)) (hanswer : ∀ j, h.answer j = Bridge.answer inner j)
      (hturn : ScriptCode inner h.scriptTurn) (hloop : LoopCode inner h.loopTurn) : Tied h

/-- What a host has if its crossings have a property and both sides of a bridge have it then, a host made for the bridge
has. -/
lemma Tied.of_crossings
    {P : ∀ α : Type, Eff (Bridge.sides Native Script) α → Eff (Bridge.sides Native Script) α → Prop}
    {Q : Host (Bridge.sides Native Script) → Prop} (hstuck : ∀ {α : Type}, P α Eff.stuck Eff.stuck)
    (hbridge : ∀ {g : Host (Bridge.sides Native Script)}, Q g → ComposesBridge P g g)
    (hanswers : ∀ {g : Host (Bridge.sides Native Script)}, Q g → ∀ j, P _ (Bridge.answer g j) (Bridge.answer g j))
    (hcrossings : ∀ {g : Host (Bridge.sides Native Script)}, (∀ a call words, NativeCode call (g.run a call words)) →
      (∀ f args, P _ (g.script f args) (g.script f args)) → (∀ j, P _ (g.answer j) (g.answer j)) →
        P _ g.scriptTurn g.scriptTurn → P _ g.loopTurn g.loopTurn → Q g)
    {h : Host (Bridge.sides Native Script)} (hh : h.Tied) : Q h := by
  induction hh with
  | ground hrun hscript hanswer hturn hloop =>
    refine hcrossings hrun (fun f args => ?_) (fun j => ?_) ?_ ?_
    · rw [hscript]; exact hstuck
    · rw [hanswer]; exact hstuck
    · rw [hturn]; exact hstuck
    · rw [hloop]; exact hstuck
  | crossing _ hrun hscript hanswer hturn hloop ih =>
    refine hcrossings hrun (fun f args => (hscript f args).composed (hbridge ih)) (fun j => ?_)
      (hturn.composed (hbridge ih)) (hloop.composed (hbridge ih))
    rw [hanswer]
    exact hanswers ih j

lemma within_of_native {h : Host (Bridge.sides Native Script)}
    (hrun : ∀ a call words, NativeCode call (h.run a call words)) (a : Address)
    (call : CallCode (Bridge.sides Native Script)) (words : Registers)
    (hcall : ∀ b more, Along R (call b more)) : Along R (h.run a call words) :=
  (hrun a call words).along (fun w native heap hg =>
    IsTrans.trans _ _ _ (still (.native w native) rfl rfl rfl) (still (.memory _ heap hg) rfl rfl rfl)) hcall

/-- Every crossing leads only where a relation leads that allows for the operations of a bridge, and for the answers
that a bridge gives. -/
theorem Tied.within
    (hanswers : ∀ g : Host (Bridge.sides Native Script), g.Tied → g.Within R → ∀ j w r w',
      Bridge.answer g j w = some (r, w') → Permits.Answers R j r w w')
    {h : Host (Bridge.sides Native Script)} (hh : h.Tied) : h.Within R := by
  induction hh with
  | ground hrun hscript hanswer hturn hloop =>
    refine ⟨within_of_native hrun, fun f args => ?_, fun j w r w' hx => ?_, ?_, ?_⟩
    · rw [hscript]; exact .stuck
    · rw [hanswer] at hx; cases hx
    · rw [hturn]; exact .stuck
    · rw [hloop]; exact .stuck
  | crossing hinner hrun hscript hanswer hturn hloop ih =>
    refine ⟨within_of_native hrun, fun f args => (hscript f args).along ih, fun j w r w' hx => ?_, hturn.along ih,
      hloop.along ih⟩
    rw [hanswer] at hx
    exact hanswers _ hinner ih j w r w' hx

/-- Every crossing leads only to worlds that come of the present one by changes. -/
theorem Tied.evolves {h : Host (Bridge.sides Native Script)} (hh : h.Tied) : h.Within Evolves :=
  hh.within fun _ _ hg j _ _ _ hx => Evolution.answer (Evolution.runs hg) j hx

end Host

end NativeBridge
