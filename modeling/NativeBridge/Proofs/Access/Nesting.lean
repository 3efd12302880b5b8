import NativeBridge.Proofs.Access.Surroundings
import NativeBridge.Proofs.Calls.Readback

/-!
Script code, native code and the loop thread, nested in each other to any depth. The state of the loop thread is free
wherever one of them goes on, and wherever the bridge takes the state on their behalf.
-/

namespace NativeBridge.Access

open Eff

variable {S : Sides}

/-- Gets from a world, where a thread waits for the other one, to one between two parts of the wait: a task of the loop
thread, the calls that are queued for the scripting thread, and what either thread does else meanwhile. -/
inductive Meanwhile (h : Host S) (v : World S) : World S → Prop where
  | begin : Meanwhile h v v
  | task {u u₁ u₂ : World S} {t : Task S.Job} {r : Except Error Unit} (hu : Meanwhile h v u)
      (htake : LoopDispatch.take u = some (.ok (some t), u₁)) (hrun : LoopDispatch.run h t u₁ = some (r, u₂)) :
      Meanwhile h v u₂
  | calls {u u₁ : World S} {r : Except Error Nat} (hu : Meanwhile h v u)
      (hrun : ScriptDispatch.processPending h u = some (r, u₁)) : Meanwhile h v u₁
  | scriptTurn {u u₁ : World S} {r : Except Error Unit} (hu : Meanwhile h v u) (hrun : h.scriptTurn u = some (r, u₁)) :
      Meanwhile h v u₁
  | loopTurn {u u₁ : World S} {r : Except Error Unit} (hu : Meanwhile h v u) (hrun : h.loopTurn u = some (r, u₁)) :
      Meanwhile h v u₁

/-- What the bridge does from a world on never finds the state of the loop thread in use. -/
structure Undisturbed (h : Host S) (v : World S) : Prop where
  /-- work that is to hold the state of the loop thread is not refused where a state is installed -/
  granted {α : Type} (x : Eff S α) (hthread : v.thread = .loop) (hstate : v.state.isSome) :
    LoopState.holding x v = (x { v with inUse := true }).map fun p => (p.1, { p.2 with inUse := false })
  /-- the state is free when a function is called whose arguments are ready, and when its results are to be read back -/
  function {c : Call} {result : Descriptor} {p : PreparedCall} {u : World S}
    (hprepare : LoopState.holding (Call.prepare h c result) v = some (.ok p, u)) :
    u.inUse = false ∧ ∀ r u', Call.runPrepared h p u = some (r, u') → u'.inUse = false
  /-- the state is free when a closure is called whose arguments are ready, and when its value is to be converted -/
  callback {args : List (Descriptor × Bytes)} {values : List Value} {u : World S}
    (hargs : LoopDispatch.unwinding (LoopState.holding (collect (fun a => argumentFromMemory h a.2 a.1) args)) v =
      some (.ok values, u)) :
    u.inUse = false ∧ ∀ (c : Closure) capture r u', c.call h values capture u = some (r, u') → u'.inUse = false
  /-- the state is free when a task of the loop thread begins that was taken up in a wait -/
  task {u u' : World S} {t : Task S.Job} (hu : Meanwhile h v u)
    (htake : LoopDispatch.take u = some (.ok (some t), u')) : u'.inUse = false
  /-- an object that is removed is taken out of the registry by work that holds the state, and released after it -/
  removal (id : ObjectId) {s : LoopState} (hthread : v.thread = .loop) (hstate : v.state = some s) :
    ∃ u, u.inUse = false ∧ u.state = some { s with registry := (s.registry.take id).2 } ∧
      LoopState.removeObject h id v = (s.registry.take id).1.elim (pure ()) (Wrapper.drop h s.lifecycle) u

section

variable {h : Host S} {v : World S}

lemma refusal?_of_installed (hv : v.inUse = false) (hthread : v.thread = .loop) (hstate : v.state.isSome) :
    LoopState.refusal? v = none := by
  simp [LoopState.refusal?, hthread, hstate, hv]

variable (hh : Agree h h)

include hh

lemma Meanwhile.free {u : World S} (hu : Meanwhile h v u) (hv : v.inUse = false) : u.inUse = false := by
  induction hu with
  | begin => exact hv
  | task _ htake hrun ih => exact (Alike.run hh.same hh.code hh.answer _).frees hrun (Frees.takeTask htake ih)
  | calls _ hrun ih => exact hh.callbacks.processPending.frees hrun ih
  | scriptTurn _ hrun ih => exact hh.scriptTurn.frees hrun ih
  | loopTurn _ hrun ih => exact hh.loopTurn.frees hrun ih

lemma undisturbed_of_free (hv : v.inUse = false) : Undisturbed h v where
  granted x hthread hstate := LoopState.holding_of_granted (refusal?_of_installed hv hthread hstate) x
  function hprepare := by
    have hu := Frees.holding _ hprepare hv
    have hrun (p : PreparedCall) : Along Frees (Call.runPrepared h p) :=
      .bind (.each (fun a => (hh.calls.handOver a).frees) _) fun _ => (hh.runNative _ _).frees
    exact ⟨hu, fun r u' hx => hrun _ hx hu⟩
  callback {args values u} hargs := by
    have hfrees : Along Frees (LoopDispatch.unwinding
        (LoopState.holding (collect (fun a => argumentFromMemory h a.2 a.1) args))) :=
      (Alike.parametric.unwinding (.refl (Frees.holding _)) fun key => .refl (Frees.finalize key)).frees
    have hu := hfrees hargs hv
    exact ⟨hu, fun c capture r u' hx => (hh.callbacks.callClosure c values capture).frees hx hu⟩
  task hu htake := Frees.takeTask htake (hu.free hh hv)
  removal id _ hthread hstate :=
    ⟨_, rfl, rfl, LoopState.removeObject_of_granted h id (refusal?_of_installed hv hthread (hstate ▸ rfl)) hstate⟩

end

/-- **The state is free wherever nested code goes on.** Script code, native functions and the loop thread may nest
requests, callbacks and removals as they like. From a world where the state of the loop thread is free, nothing would
change if each of them did something else instead wherever it begins, goes on or is asked for an answer while the state
is in use; so none of them does. In the end the state is free, and wherever it is free, no access is refused to the
bridge that works on behalf of either side. -/
theorem state_free_for_nested_code {Native Script : Type} (f : Surroundings Native Script) (n : Nat) {α : Type}
    (p : ScriptProgram Native Script α) {w : World (Bridge.sides Native Script)} (hw : w.inUse = false) :
    (∀ instead, f.runWatched instead n p w = f.run n p w) ∧
      (∀ r w', f.run n p w = some (r, w') → w'.inUse = false) ∧ ∀ v, v.inUse = false → Undisturbed (f.host n) v :=
  ⟨fun instead => ((Surroundings.run_alike instead n p).same hw).symm,
    fun _ _ hx => (Surroundings.run_alike (fun _ => stuck) n p).frees hx hw,
    fun _ => undisturbed_of_free (agree_of_tied (Surroundings.host_tied n))⟩

/-! ### An example -/

/-- A call with a script function as its argument. -/
def callWithCallback : Call where
  library := [97]
  symbol := [98]
  args := [{ type := .callback .sourceFunc .call none none none none, value := .callback (some 1) }]

/-- A native function that calls its first argument with the others, and a script function that in its first run lets go
of the first handle and calls the native function again, with itself. The script counts the runs. -/
def nesting : Surroundings Unit Nat where
  loader := .ok
  symbol _ _ := .ok 512
  anySymbol _ := none
  limit := 4
  native _ words := .call (words.ints.getD 0 0) { words with ints := words.ints.tail }
  script _ _ := .bind (.step (.own fun w => (decide (w.side = 0), w.side + 1, w.cells))) fun first =>
    if first then
      .bind (.step (.finalize 0)) fun _ => .bind (.step (.call callWithCallback .undefined)) fun _ =>
        .pure (.boolean false)
    else .pure (.boolean false)
  scriptTurn := .bind (.step .pending) fun _ => .pure ()
  loopTurn := .bind (.step .poll) fun _ => .pure ()

/-- Starts a bridge, has an object made, and makes the call. -/
def startAndCall : ScriptProgram Unit Nat Unit :=
  .bind (.step (.start { libraries := [], symbol := fun _ => "" })) fun _ =>
    .bind (.step (.alloc 8 "Point" none)) fun _ => .bind (.step (.call callWithCallback .undefined)) fun _ => .pure ()

/-- The script function has run within its own run, and the object is gone in the end, also where whoever goes on while
the state is in use would never end. -/
theorem state_free_within_callback :
    (nesting.runWatched (fun _ => stuck) 8 startAndCall (.opening () 0 .none)).map
      (fun p => (p.2.side, p.2.state.map fun s => s.registry.size)) = some (2, some 0) := by
  rw [(state_free_for_nested_code nesting 8 startAndCall rfl).1]
  decide +kernel

end NativeBridge.Access
