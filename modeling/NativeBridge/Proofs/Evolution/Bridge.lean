import NativeBridge.Proofs.Evolution.Dispatch

/-!
Calls of native functions, what native code calls back, and the operations of a bridge lead from a world only where a
relation leads that allows for them.
-/

namespace NativeBridge.Evolution

open Eff
open Permits (still)

variable {S : Sides}

/-! ### Calls -/

section

variable {R : World S → World S → Prop} [Permits R] {h : Host S}

/-- What calls consist of leads only where the relation leads. -/
lemma calls (hr : h.Runs R) : ComposesCalls (fun _ (x _ : Eff S _) => Along R x) h h where
  toParametric := Along.parametric
  same := rfl
  holding hx := holding (work hr.quiet hx)
  native := hr.native
  handOver := handOver
  release := releaseValue
  finalize := Permits.finalize

lemma setCell (c : CellId) (v : Value) : Along R (Cell.set c v : Eff S Unit) :=
  .modify fun w => still (.cells w _) rfl rfl rfl

end

/-! ### A bridge -/

section

variable {Native Script : Type} {R : World (Bridge.sides Native Script) → World (Bridge.sides Native Script) → Prop}
  [Permits R] {h : Host (Bridge.sides Native Script)}

/-- The answers of the loop thread. -/
lemma answer (hr : h.Runs R) (r : Bridge.Request) : Along R (Bridge.answer h r) :=
  (calls hr).answer Permits.stop (holding (update fun _ => rfl)) r

variable (hh : h.Within R)

include hh

omit hh in
/-- The dispatchers are new before the state is, but nobody sees the world in between. -/
lemma start (config : LifecycleConfig) : Along R (Bridge.start h config) := by
  intro w r w' hx
  rcases hs : w.state with _ | s
  · have started (s : LoopState) (hr : s.registry = {}) (record : Library.Record) :
        R w { w with
          loop := {}, loopOwned := true, generation := w.generation + 1, script := w.script.renew, state := some s
          record } :=
      IsTrans.trans _ _ _ (still (.start w s hs hr) rfl rfl rfl) <| IsTrans.trans _ _ _
        (Permits.change (.queues _ {} w.replies w.script.renew) (List.nil_sublist _) rfl (List.Sublist.refl _))
        (still (.flags _ true w.inUse w.thread record) rfl rfl rfl)
    simp [Bridge.start, Bridge.isRunning, Lifecycle.resolve, LoopState.install, bind_apply, map_apply, if_apply,
      Except.map, hs] at hx
    exact hx.2 ▸ started _ rfl _
  · simp [Bridge.start, Bridge.isRunning, bind_apply, map_apply, if_apply, Except.map, hs] at hx
    exact hx.2 ▸ refl w

/-- What requests consist of leads only where the relation leads. -/
lemma requests : ComposesRequests (fun _ (x _ : Eff (Bridge.sides Native Script) _) => Along R x) h h where
  toParametric := Along.parametric
  send := send hh
  setCell := setCell

lemma stopBridge : Along R (Bridge.stop h) :=
  have hj : (Bridge.joining h).Within R := ⟨hh.run, hh.script, hh.answer, .stuck, hh.loopTurn⟩
  (requests hh).stop (poll hj) (teardown hj) clearCalls (.modify fun w => still (.flags w _ _ _ _) rfl rfl rfl)

end

end NativeBridge.Evolution
