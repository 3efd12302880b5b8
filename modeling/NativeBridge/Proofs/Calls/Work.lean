import NativeBridge.Call
import NativeBridge.Proofs.Teardown

/-!
What the loop thread does to the arguments and the result of a call, apart from the native function itself. It works on
memory and on its own state, makes and releases what values own, and looks into no cells but those of the references.
-/

namespace NativeBridge

open Eff

variable {S : Sides}

/-- Work on arguments and results that looks into these cells. It makes and releases values, and calls native functions
and registers objects, only where that is said. -/
inductive LoopWork (h : Host S) (cells : Set CellId) (makes calls : Prop) : ∀ {α : Type}, Eff S α → Prop where
  | pure {α : Type} (a : α) : LoopWork h cells makes calls (pure a : Eff S α)
  | throw {α : Type} (e : Error) : LoopWork h cells makes calls (throw e : Eff S α)
  | memory {α : Type} (f : Heap → α × Heap) (hf : ∀ heap, heap.given ≤ (f heap).2.given) :
      LoopWork h cells makes calls (Eff.update fun w => ((f w.heap).1, { w with heap := (f w.heap).2 }))
  /-- a native function that calls nothing -/
  | quiet (hc : calls) (a : Address) (words : Registers) :
      LoopWork h cells makes calls (h.run a (fun _ _ => Eff.stuck) words)
  | current : LoopWork h cells makes calls LoopState.current
  | library (name : Bytes) : LoopWork h cells makes calls (LoopState.library h name)
  | symbol (name symbol : Bytes) : LoopWork h cells makes calls (LoopState.symbol h name symbol)
  | wrap (hc : calls) (o : Wrapper) : LoopWork h cells makes calls (LoopState.wrap o)
  /-- what is seen of the world is memory and these cells -/
  | look {α : Type} {f : World S → Eff S α} (hf : ∀ w, LoopWork h cells makes calls (f w))
      (hs : ∀ w u, w.heap = u.heap → (∀ c ∈ cells, w.cell c = u.cell c) → f w = f u) :
      LoopWork h cells makes calls (get >>= f)
  | callback (hm : makes) (function : Option FunctionId) (s : Signature) :
      LoopWork h cells makes calls (makeCallback function s)
  | release (hm : makes) (v : NativeValue) : LoopWork h cells makes calls v.release
  | attempt {α : Type} {x : Eff S α} (hx : LoopWork h cells makes calls x) : LoopWork h cells makes calls x.attempt
  | bind {α β : Type} {x : Eff S α} {f : α → Eff S β} (hx : LoopWork h cells makes calls x)
      (hf : ∀ a, LoopWork h cells makes calls (f a)) : LoopWork h cells makes calls (x >>= f)

namespace LoopWork

variable {h : Host S} {cells : Set CellId} {makes calls : Prop} {α β : Type}

/-- Work leads only along what allows for each of its parts. -/
lemma along {R : World S → World S → Prop} [Housekeeping R]
    (hquiet : calls → ∀ a words, Along R (h.run a (fun _ _ => Eff.stuck) words))
    (hwrap : calls → ∀ o, Along R (LoopState.wrap o : Eff S Handle))
    (hcallback : makes → ∀ f s, Along R (makeCallback f s : Eff S NativeValue))
    (hrelease : makes → ∀ v : NativeValue, Along R (v.release : Eff S Unit)) {x : Eff S α}
    (hx : LoopWork h cells makes calls x) : Along R x := by
  induction hx with
  | pure a => exact .pure a
  | throw e => exact .throw e
  | memory f hf => exact .update fun w => Housekeeping.memory w _ (hf w.heap)
  | quiet hc a words => exact hquiet hc a words
  | current => exact Housekeeping.current
  | library name => exact Housekeeping.library h name
  | symbol name symbol => exact Housekeeping.symbol h name symbol
  | wrap hc o => exact hwrap hc o
  | look _ _ ih => exact .bind .get ih
  | callback hm f s => exact hcallback hm f s
  | release hm v => exact hrelease hm v
  | attempt _ ih => exact ih.attempt
  | bind _ _ ihx ihf => exact ihx.bind ihf

/-- Work on memory and on the loop state, and no more. -/
lemma inside {R : World S → World S → Prop} [Housekeeping R] {x : Eff S α} (hx : LoopWork h Set.univ False False x) :
    Along R x :=
  hx.along False.elim False.elim False.elim False.elim

lemma sequences : Sequences fun _ (x : Eff S _) => LoopWork h cells makes calls x where
  pure := .pure
  throw := .throw
  bind := .bind

lemma ite {c : Prop} [Decidable c] {x y : Eff S α} (hx : LoopWork h cells makes calls x)
    (hy : LoopWork h cells makes calls y) : LoopWork h cells makes calls (if c then x else y) := by
  split
  · exact hx
  · exact hy

lemma guard {c : Prop} [Decidable c] {e : Error} {f : PUnit → Eff S α} (hf : LoopWork h cells makes calls (f ⟨⟩)) :
    LoopWork h cells makes calls (if c then (MonadExcept.throw e : Eff S PUnit) >>= f else f ⟨⟩) :=
  sequences.guard hf

lemma ofExcept (r : Except Error α) : LoopWork h cells makes calls (Eff.ofExcept r : Eff S α) :=
  sequences.ofExcept r

lemma forget {x : Eff S α} (hx : LoopWork h cells makes calls x) : LoopWork h cells makes calls (do let _ ← x) :=
  sequences.forget hx

lemma each {f : β → Eff S Unit} (hf : ∀ b, LoopWork h cells makes calls (f b)) (bs : List β) :
    LoopWork h cells makes calls (Eff.each f bs) :=
  sequences.each hf bs

lemma collect {f : β → Eff S α} {bs : List β} (hf : ∀ b ∈ bs, LoopWork h cells makes calls (f b)) :
    LoopWork h cells makes calls (Eff.collect f bs) :=
  sequences.collect hf

/-! ### Memory -/

lemma alloc (bytes : Bytes) : LoopWork h cells makes calls (Memory.alloc bytes) :=
  .memory (fun heap => heap.alloc bytes) fun _ => Nat.le_succ _

lemma free (a : Address) : LoopWork h cells makes calls (Memory.release a) :=
  .memory (fun heap => ((), heap.release a)) fun _ => Nat.le_refl _

lemma load (a : Address) (width : Nat) : LoopWork h cells makes calls (Memory.load a width) :=
  .look (fun _ => .pure _) fun _ _ hw _ => by rw [hw]

lemma loadWord (a : Address) : LoopWork h cells makes calls (Memory.loadWord a) :=
  .look (fun _ => .pure _) fun _ _ hw _ => by rw [hw]

lemma store (a : Address) (bytes : Bytes) : LoopWork h cells makes calls (Memory.store a bytes) :=
  .memory (fun heap => ((), heap.store a bytes)) fun _ => Nat.le_refl _

lemma loadString (a : Address) : LoopWork h cells makes calls (Memory.loadString a) :=
  .look (fun _ => .pure _) fun _ _ hw _ => by rw [hw]

/-! ### Lifetimes -/

variable (l : Lifecycle)

lemma currentLifecycle : LoopWork h cells makes calls LoopState.currentLifecycle := .bind .current fun _ => .pure _

lemma call? (role : LifecycleRole) (words : List Nat) : LoopWork h cells makes True (l.call? h role words) :=
  sequences.call? (.quiet trivial) role words

lemma require (role : LifecycleRole) (need : LifecycleNeed) (words : List Nat) :
    LoopWork h cells makes True (l.require h role need words) :=
  sequences.require (call? l) role need words

lemma objectIsFloating (p : Address) : LoopWork h cells makes True (l.objectIsFloating h p) :=
  .bind (call? l _ _) fun _ => .pure _

lemma objectRefSink (p : Address) : LoopWork h cells makes True (l.objectRefSink h p) :=
  .bind (call? l _ _) fun _ => .pure _

lemma variantRefSink (p : Address) : LoopWork h cells makes True (l.variantRefSink h p) := by
  refine .bind (call? l _ _) fun r => ?_
  cases r with
  | some r => exact .pure r
  | none => exact require l _ _ _

lemma freeNative (p : Address) : LoopWork h cells makes True (l.free h p) := sequences.freeNative (call? l) free p

lemma alloc0 (size : Nat) : LoopWork h cells makes True (l.alloc0 h size) := by
  refine .bind (call? l _ _) fun r => ?_
  cases r with
  | some p => exact .pure p
  | none => exact alloc _

lemma strfreev (p : Address) : LoopWork h cells makes True (l.strfreev h p) := by
  refine .ite (.pure _) (.bind (call? l _ _) fun _ => .ite (.pure _) ?_)
  exact .look (fun _ => .bind (.each (freeNative l) _) fun _ => freeNative l p) fun _ _ hw _ => by rw [hw]

lemma drop (o : Wrapper) : LoopWork h cells makes True (o.drop h l) := sequences.drop (call? l) free o

lemma typeFromName (name : Bytes) : LoopWork h cells makes True (l.typeFromName h name) :=
  .ite (.pure _) (.bind (alloc _) fun _ => .bind (call? l _ _) fun _ => .bind (free _) fun _ => .pure _)

lemma boxedTypeId (inner : String) (lib : Option String) : LoopWork h cells makes True (boxedTypeId h inner lib) := by
  refine .bind currentLifecycle fun l => .bind (typeFromName l _) fun id => .ite (.pure _) ?_
  cases lib with
  | none => exact .pure _
  | some lib =>
    refine .bind (.attempt (.library _)) fun opened => ?_
    cases opened with
    | error => exact .pure _
    | ok o =>
      dsimp only
      split
      · exact .pure _
      · exact .bind (.quiet trivial _ _) fun _ => .pure _

lemma resolveObject (handle : Option Handle) : LoopWork h cells makes calls (resolveObject handle) := by
  cases handle with
  | none => exact .throw _
  | some k =>
    refine .bind .current fun s => ?_
    split
    · exact .pure _
    · exact .throw _

/-! ### From native code -/

lemma copyString (p : Address) : LoopWork h cells makes calls (copyString p) :=
  .ite (.pure _) (.bind (loadString _) fun _ => .pure _)

lemma wrapObject (p : Address) (type : Descriptor) (transfer : Bool) :
    LoopWork h cells makes True (wrapObject h p type transfer) := by
  have wrapped (o : Wrapper) :
      LoopWork h cells makes True (do return Value.object (some (← LoopState.wrap o)) : Eff S Value) :=
    .bind (.wrap trivial o) fun _ => .pure _
  refine .ite (.pure _) (.bind currentLifecycle fun l => ?_)
  split
  · refine .ite (.bind ?_ wrapped) (.bind ?_ wrapped)
    · refine .ite (.bind (objectIsFloating l p) fun _ => .ite ?_ (.pure _)) (.pure _)
      exact .bind (objectRefSink l p) fun _ => .pure _
    · exact .ite (.bind (require l _ _ _) fun _ => .pure _) (.pure _)
  · refine .bind (boxedTypeId _ _) fun id => .ite (.bind (.pure _) wrapped) (.bind ?_ wrapped)
    exact .ite (.bind (require l _ _ _) fun _ => .pure _) (.pure _)
  · refine .ite (.bind (.pure _) wrapped) (.bind ?_ wrapped)
    exact .ite (.bind (variantRefSink l p) fun _ => .pure _) (.pure _)

lemma itemFromPointer (data : Nat) (type : Descriptor) : LoopWork h cells makes True (itemFromPointer h data type) := by
  unfold NativeBridge.itemFromPointer
  split
  all_goals first
    | exact copyString _
    | exact wrapObject _ _ _
    | exact .pure _
    | exact .throw _

lemma listFromPointer (p : Address) (item : Descriptor) (kind : ListKind) (transfer : Bool) :
    LoopWork h cells makes True (listFromPointer h p item kind transfer) := by
  refine .bind currentLifecycle fun l => .look (fun _ => ?_) fun _ _ hw _ => by rw [hw]
  refine .bind (.collect fun d _ => itemFromPointer d item) fun _ => .ite ?_ (.pure _)
  split <;> exact .bind (forget (require l _ _ _)) fun _ => .pure _

lemma pointersFromPointer (p : Address) (item : Descriptor) (transfer : Bool) :
    LoopWork h cells makes True (pointersFromPointer h p item transfer) := by
  refine .bind currentLifecycle fun l => .look (fun _ => ?_) fun _ _ hw _ => by rw [hw]
  refine .bind (.collect fun d _ => itemFromPointer d item) fun _ => .ite ?_ (.pure _)
  split
  · exact .bind (strfreev l p) fun _ => .pure _
  · exact .bind (freeNative l p) fun _ => .pure _

lemma arrayFromPointer (p : Address) (item : Descriptor) (kind : ListKind) (transfer : Bool) :
    LoopWork h cells makes True (arrayFromPointer h p item kind transfer) := by
  refine .ite (.pure _) (.ite (listFromPointer p item kind transfer) ?_)
  split
  all_goals first
    | exact pointersFromPointer p _ transfer
    | exact .throw _

lemma fromPointer (p : Address) (type : Descriptor) (transfer : Bool) :
    LoopWork h cells makes True (fromPointer h p type transfer) := by
  unfold NativeBridge.fromPointer
  split
  all_goals first
    | exact .pure _
    | exact .throw _
    | exact wrapObject _ _ _
    | exact arrayFromPointer _ _ _ _
    | exact .bind (copyString p) fun _ => .ite (.bind currentLifecycle fun l =>
        .bind (freeNative l p) fun _ => .pure _) (.pure _)

lemma readField (base : Address) (offset : Nat) (type : Descriptor) :
    LoopWork h cells makes True (readField h base offset type) := by
  refine .ite (.throw _) ?_
  split
  all_goals first
    | exact .bind (loadWord _) fun _ => copyString _
    | exact .bind (loadWord _) fun _ => wrapObject _ _ _
    | exact .bind (load _ _) fun _ => .ofExcept _
    | exact .throw _

lemma argumentFromMemory (memory : Bytes) (type : Descriptor) :
    LoopWork h cells makes True (argumentFromMemory h memory type) :=
  .ite (.ofExcept _) (fromPointer _ _ _)

/-- The arguments with which native code calls a callback. -/
lemma convertTyped (raw : List Trampoline.RawArg) (types : List (Option Descriptor)) :
    LoopWork h cells makes True (Trampoline.convertTyped h raw types) := by
  fun_induction Trampoline.convertTyped h raw types with
  | case1 => exact .pure _
  | case2 _ _ ih | case3 _ _ _ ih => exact .bind ih fun _ => .pure _
  | case4 _ _ _ _ ih => exact .bind (argumentFromMemory _ _) fun _ => .bind ih fun _ => .pure _

lemma readRef (p : Address) (storage : Storage) (inner : Descriptor) :
    LoopWork h cells makes True (readRef h p storage inner) := by
  unfold NativeBridge.readRef
  split
  · exact .bind (loadWord p) fun _ => wrapObject _ _ _
  · exact .bind (loadWord p) fun _ => wrapObject _ _ _
  · exact .bind (loadWord p) fun _ => wrapObject _ _ _
  · refine .bind (loadWord p) fun written => ?_
    split
    · exact .ite (copyString _) (fromPointer _ _ _)
    · exact fromPointer _ _ _
  · exact .bind (load _ _) fun _ => .ofExcept _

lemma fromNative (v : NativeValue) (type : Descriptor) : LoopWork h cells makes True (fromNative h v type) := by
  unfold NativeBridge.fromNative
  split
  all_goals try split
  all_goals first
    | exact .pure _
    | exact .throw _
    | exact readRef _ _ _
    | exact fromPointer _ _ _

/-! ### To native code -/

lemma writeField (base : Address) (offset : Nat) (type : Descriptor) (v : Value) :
    LoopWork h cells makes calls (writeField base offset type v) :=
  .ite (.throw _) (.bind (.ofExcept _) fun _ => store _ _)

lemma stringToNative (v : Value) : LoopWork h cells makes calls (stringToNative v) :=
  .ite (.pure _) (.bind (.ofExcept _) fun _ => .guard (.bind (alloc _) fun _ => .pure _))

lemma grant (p : Address) (type : Descriptor) : LoopWork h cells makes True (grant h p type) := by
  refine .bind currentLifecycle fun l => ?_
  split
  · exact .ite (.bind (require l _ _ _) fun _ => .pure _) (.pure _)
  · exact .ite (.pure _) (.bind (boxedTypeId _ _) fun _ => .ite (require l _ _ _) (.pure _))
  · exact .ite (.bind (require l _ _ _) fun _ => .pure _) (.pure _)
  · exact .pure _

lemma objectToNative (type : Descriptor) (v : Value) : LoopWork h cells makes True (objectToNative h type v) := by
  have granted (p : Address) : LoopWork h cells makes True (do
      if p = 0 then return NativeValue.raw 0
      return .raw (← NativeBridge.grant h p type)) :=
    .ite (.pure _) (.bind (grant p type) fun _ => .pure _)
  unfold NativeBridge.objectToNative
  split
  · exact .bind (resolveObject _) granted
  · exact .bind (.pure _) granted
  · exact .bind (.pure _) granted
  · exact .bind (.throw _) granted

lemma packItems (items : List Bytes) : LoopWork h cells makes calls (packItems items) :=
  .ite (.pure _) (.bind (alloc _) fun _ => .pure _)

lemma packStrings (items : List Value) : LoopWork h cells makes calls (packStrings items) :=
  .bind (.ofExcept _) fun _ => .bind (.collect fun _ _ => alloc _) fun _ => .bind (alloc _) fun _ => .pure _

lemma packObjects (items : List Value) : LoopWork h cells makes calls (packObjects items) := by
  have hfound (v : Value) : LoopWork h cells makes calls (do
      let handle ← Eff.ofExcept v.asObject
      let p ← NativeBridge.resolveObject handle
      return (p, handle)) :=
    .bind (.ofExcept _) fun k => .bind (resolveObject k) fun _ => .pure _
  refine .bind (.collect fun v _ => hfound v) fun found => ?_
  exact .ite (.pure _) (.bind (alloc _) fun _ => .pure _)

lemma arrayToNative (item : Descriptor) (kind : ListKind) (v : Value) :
    LoopWork h cells makes calls (arrayToNative item kind v) := by
  unfold NativeBridge.arrayToNative
  refine .guard (.bind (.ofExcept _) fun items => ?_)
  split
  all_goals first
    | exact .bind (.ofExcept _) fun _ => packItems _
    | exact packStrings _
    | exact packObjects _
    | exact .throw _

lemma makeSlot (content : Bytes) (held : List Address) (initial : Option Address) :
    LoopWork h cells makes calls (makeSlot content held initial) :=
  .bind (alloc _) fun _ => .pure _

lemma scalarSlot (type : Descriptor) (v : Value) : LoopWork h cells makes calls (scalarSlot type v) := by
  unfold NativeBridge.scalarSlot
  split
  · refine .ite (.bind (.pure _) fun x => ?_) (.bind (.ofExcept _) fun x => ?_) <;>
      exact .bind (.ofExcept _) fun _ => makeSlot _ _ _
  · exact .bind (.ofExcept _) fun _ => makeSlot _ _ _
  · exact .bind (.ofExcept _) fun _ => makeSlot _ _ _

lemma refToNative (inner : Descriptor) {v : Value} (hv : ∀ c, v.asRef = .ok c → c ∈ cells) :
    LoopWork h cells makes calls (refToNative inner v) := by
  refine .ite (.pure _) (.look (fun w => .bind (.ofExcept _) fun c => ?_) fun w u _ hcells => ?_)
  · dsimp only
    split
    -- objects, boxed values and variants are told apart by what the cell holds
    case h_1 | h_2 | h_3 =>
      split
      · exact .bind (resolveObject _) fun _ => .pure _
      · exact makeSlot _ _ _
      · exact makeSlot _ _ _
      · exact .throw _
    all_goals first
      | exact scalarSlot _ _
      | exact .bind (stringToNative _) fun _ => makeSlot _ _ _
      | exact .throw _
  · cases hr : v.asRef with
    | error e => rfl
    | ok c =>
      have hc := hcells c (hv c hr)
      show Eff.ofExcept (Except.ok c) >>= _ = Eff.ofExcept (Except.ok c) >>= _
      funext w₀
      rw [bind_ok (ofExcept_apply _ w₀), bind_ok (ofExcept_apply _ w₀), hc]

lemma callbackToNative (hm : makes) (s : Signature) (v : Value) (optional : Bool) :
    LoopWork h cells makes calls (callbackToNative s v optional) := by
  refine .ite ?_ (.bind (.ofExcept _) fun f => .callback hm f s)
  split <;> exact .pure _

end LoopWork

/-- The cell of a reference. -/
def Arg.cell? (a : Arg) : Option CellId :=
  match a.type, a.value with
  | .ref _, .ref c => some c
  | _, _ => none

/-- The type of callbacks. -/
def Descriptor.isCallback : Descriptor → Prop
  | callback .. => True
  | _ => False

/-- The cells of the references of a call. -/
def Call.cells (c : Call) : List CellId := c.args.filterMap Arg.cell?

namespace LoopWork

variable {h : Host S} {cells : Set CellId} {makes calls : Prop}

/-- Only for callbacks are values made, and only for objects are native functions called. -/
lemma toNative {a : Arg} (hm : a.type.isCallback → makes) (ho : a.type.isObjectLike → calls)
    (ha : ∀ c, a.cell? = some c → c ∈ cells) : LoopWork h cells makes calls (toNative h a) := by
  obtain ⟨type, v, optional⟩ := a
  cases type with
  | int =>
    exact .ite (.bind (.pure _) fun _ => .bind (.ofExcept _) fun _ => .pure _)
      (.bind (.ofExcept _) fun _ => .bind (.ofExcept _) fun _ => .pure _)
  | float => exact .bind (.ofExcept _) fun _ => .pure _
  | boolean => exact .bind (.ofExcept _) fun _ => .pure _
  | string => exact stringToNative _
  | null | undefined => exact .pure _
  | object | boxed | variant =>
    obtain rfl : calls = True := eq_true (ho rfl)
    exact objectToNative _ _
  | array => exact arrayToNative _ _ _
  | callback => exact callbackToNative (hm trivial) _ _ _
  | ref inner =>
    refine refToNative inner fun c hc => ha c ?_
    cases v <;> cases hc
    rfl

lemma prepareArg (hm : makes) {symbol : Bytes} {index : Nat} {a : Arg} (ha : ∀ c, a.cell? = some c → c ∈ cells) :
    LoopWork h cells makes True (Call.prepareArg h symbol index a) := by
  refine .bind (toNative (fun _ => hm) (fun _ => trivial) ha) fun v => .bind (.attempt ?_) fun checked => ?_
  · exact .guard (.bind (.ofExcept _) fun _ => .pure _)
  · cases checked with
    | ok types => exact .pure _
    | error e => exact .bind (.release hm v) fun _ => .throw e

lemma prepareArgs (hm : makes) {symbol : Bytes} {args : List Arg} (ha : ∀ a ∈ args, ∀ c, a.cell? = some c → c ∈ cells)
    (index : Nat) (done : List NativeValue) (types : List AbiType) :
    LoopWork h cells makes True (Call.prepareArgs h symbol index done types args) := by
  induction args generalizing index done types with
  | nil => exact .pure _
  | cons a rest ih =>
    rw [List.forall_mem_cons] at ha
    refine .bind (.attempt (prepareArg hm ha.1)) fun r => ?_
    cases r with
    | ok p => exact ih ha.2 _ _ _
    | error e => exact .bind (.each (fun v => .release hm v) _) fun _ => .throw e

lemma prepare (hm : makes) {c : Call} (hc : ∀ k ∈ c.cells, k ∈ cells) (result : Descriptor) :
    LoopWork h cells makes True (Call.prepare h c result) := by
  have hargs : ∀ a ∈ c.args, ∀ k, a.cell? = some k → k ∈ cells :=
    fun a ha k hk => hc k (List.mem_filterMap.2 ⟨a, ha, hk⟩)
  refine .bind (.ofExcept _) fun _ => .bind (.symbol _ _) fun function => ?_
  refine .bind (prepareArgs hm hargs 0 [] []) fun p => ?_
  dsimp only
  split
  · exact .pure _
  · exact .bind (.each (fun v => .release hm v) _) fun _ => .throw _

lemma readUpdate {a : Arg} (ha : ∀ c, a.cell? = some c → c ∈ cells) (v : NativeValue) :
    LoopWork h cells makes True (Call.readUpdate h a v) := by
  obtain ⟨type, value, optional⟩ := a
  unfold Call.readUpdate
  split
  next inner c htype hvalue =>
    dsimp only at htype hvalue
    subst htype hvalue
    have hupdate : LoopWork h cells makes True (do return some (c, ← NativeBridge.fromNative h v (.ref inner))) :=
      .bind (fromNative v _) fun _ => .pure _
    refine .look (fun w => ?_) fun w u _ hcells => by rw [hcells c (ha c rfl)]
    split
    · exact .ite (.pure _) hupdate
    · exact hupdate
  next => exact .pure _

lemma readBack {c : Call} (hc : ∀ k ∈ c.cells, k ∈ cells) (result : Descriptor) (values : List NativeValue)
    (buffer : Bytes) : LoopWork h cells makes True (Call.readBack h c result values buffer) := by
  refine .bind (.ofExcept _) fun v => .bind (fromNative v result) fun _ => ?_
  refine .bind (.collect fun p hp => ?_) fun _ => .pure _
  exact readUpdate (fun k hk => hc k (List.mem_filterMap.2 ⟨p.1, (List.of_mem_zip hp).1, hk⟩)) p.2

end LoopWork

end NativeBridge
