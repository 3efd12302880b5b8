import NativeBridge.Proofs.Custody.Tally

/-!
The operations on objects as runs: letting go of a handle, removing an object, work that holds the state, draining the
queue, and stopping. What the jobs of a script do is taken to be a run, and then so is a drain.
-/

namespace NativeBridge.Custody

open Eff

variable {S : Sides} {w w' : World S} {h : Host S} {l : Lifecycle} {s s' : State S}

/-! ### Sending tasks and letting go of handles -/

lemma refuse_aside (id : ObjectId) : Along Aside (LoopDispatch.refuse (.remove id) : Eff S Unit) :=
  .modify fun _ => ⟨rfl, rfl, fun _ => rfl, rfl, rfl, rfl, rfl, rfl, rfl⟩

/-- A handle that a script lets go of. -/
theorem finalize_run {key : HandleKey} {r : Except Error Unit} (hx : LoopDispatch.finalize key s.world = some (r, w)) :
    r = .ok () ∧ Run h l s { s with world := w } := by
  rw [LoopDispatch.finalize, bind_ok (get_apply _)] at hx
  rcases hlook : s.world.handles.lookup key with _ | ⟨id, generation⟩
  · rw [hlook] at hx
    cases hx
    exact ⟨rfl, .refl⟩
  · rw [hlook] at hx
    dsimp only at hx
    rw [bind_ok (set_apply _ _)] at hx
    have hlose : LoopDispatch.lose key s.world = some (.ok (if generation = s.world.generation ∧
        s.world.loopAlive generation then some id else none),
        { s.world with handles := s.world.handles.filter (·.1 != key) }) := by
      simp only [LoopDispatch.lose, hlook, update_apply]
    by_cases hg : generation = s.world.generation ∧ s.world.loopAlive generation
    · rw [if_pos hg] at hx hlose
      rw [LoopDispatch.schedule_apply] at hx
      split at hx
      · next hstop =>
        have haside := refuse_aside id hx
        cases hx
        exact ⟨rfl, .tail (.single (.lapse hlose (.inr hstop))) (.aside haside)⟩
      · next hstop =>
        have hrun : Run h l s { s with world := w, leaving := (id :: s.leaving).erase id } := by
          refine .tail (.single (.lose hlose (Bool.eq_false_iff.2 hstop))) (.queue List.mem_cons_self ?_)
          cases hx
          rfl
        rw [List.erase_cons_head] at hrun
        cases hx
        exact ⟨rfl, hrun⟩
    · rw [if_neg hg] at hx hlose
      cases hx
      exact ⟨rfl, .single (.lapse hlose (.inl rfl))⟩

/-- A stop, whose two halves may be apart. -/
theorem stop_run {r : Except Error Unit} (hx : LoopDispatch.stop s.world = some (r, w)) :
    r = .ok () ∧ Run h l s { s with world := w } := by
  rw [LoopDispatch.stop_eq] at hx
  rcases bind_eq_some.1 hx with ⟨_, w₁, hclose, hsweep⟩ | ⟨e, hclose, -⟩
  · have hstop : w₁.loop.stopped := by
      cases hclose
      rfl
    cases r with
    | ok => exact ⟨rfl, .tail (.single (.close hclose)) (.sweep hstop hsweep)⟩
    | error e => cases hsweep
  · cases hclose

/-! ### The loop thread -/

/-- A removal that was taken from the queue. -/
theorem removal_run (hk : s.Kept l) {rest : List Frame} {id : ObjectId} {r : Except Error Unit}
    (hl : Silent h l) (hs : s.loop = .removing id :: rest)
    (hx : LoopDispatch.run h (.remove id) s.world = some (r, w)) :
    r = .ok () ∧ ∃ released, Run h l s { s with world := w, loop := rest, released } := by
  obtain ⟨q, w₁, hremove, hx⟩ := attempt_bind_eq_some.1 hx
  cases hx
  refine ⟨rfl, ?_⟩
  have hparts : LoopState.removeObject h id = LoopState.unregister id >>= fun taken =>
      taken.1.elim (pure ()) fun o => o.drop h taken.2 := by
    refine bind_congr fun taken => ?_
    rcases taken with ⟨_ | o, _⟩ <;> rfl
  rw [hparts] at hremove
  rcases bind_eq_some.1 hremove with ⟨⟨_ | o, lifecycle⟩, w₂, hunregister, hdrop⟩ | ⟨e, hunregister, -⟩
  · cases hdrop
    exact ⟨s.released, .single (.miss hs hunregister fun _ _ h => by cases h)⟩
  · have hlifecycle : lifecycle = l := by
      rcases unregister_eq hunregister with ⟨-, -, e, he⟩ | ⟨st, hstate, -, hr, -⟩
      · cases he
      · simp only [Except.ok.injEq, Prod.mk.injEq] at hr
        exact hr.2.trans (hk.lifecycle_eq hstate)
    subst hlifecycle
    obtain ⟨w₃, hdrop', -⟩ := drop_silent hl o w₂
    cases hdrop'.symm.trans hdrop
    refine ⟨(id, o) :: s.released, ?_⟩
    exact .tail (.tail (.single (.unregister hs hunregister)) (.release rfl hdrop)) (.released rfl)
  · exact ⟨s.released, .single (.miss hs hunregister fun _ _ h => by cases h)⟩

/-- Work that holds the state, where the work itself is a run. -/
theorem holding_run {α : Type} {work : Eff S α} {r : Except Error α} (hs : s.Free)
    (hwork : ∀ ⦃w⦄, work { s.world with inUse := true } = some (r, w) → ∃ wrapped,
      Run h l { s with world := { s.world with inUse := true }, loop := .holding :: s.loop }
        { s with world := w, loop := .holding :: s.loop, wrapped })
    (hx : LoopState.holding work s.world = some (r, w)) : ∃ wrapped, Run h l s { s with world := w, wrapped } := by
  rcases LoopState.holding_eq_some hx with ⟨-, rfl, -⟩ | ⟨⟨ht, hstate, hu⟩, w₁, hx₁, rfl⟩
  · exact ⟨s.wrapped, .refl⟩
  · obtain ⟨wrapped, hrun⟩ := hwork hx₁
    exact ⟨wrapped, .tail (.head (.hold hs ht hstate hu) hrun) (.letGo rfl)⟩

/-- The effect is a run from where the loop thread may begin a task, and ends there. -/
def Serves {α : Type} (h : Host S) (l : Lifecycle) (x : Eff S α) : Prop :=
  ∀ ⦃s : State S⦄ ⦃r w⦄, s.Sound l → s.Free → x s.world = some (r, w) →
    ∃ wrapped released, Run h l s { s with world := w, wrapped, released }

section

variable (hl : Silent h l) (hanswer : ∀ j, Serves h l (h.answer j))

include hl hanswer

lemma task_run (hs : s.Sound l) {t : Task S.Job} {rest : List Frame} (hloop : s.loop = .of t :: rest)
    {r : Except Error Unit} (hx : LoopDispatch.run h t s.world = some (r, w)) :
    r = .ok () ∧ ∃ wrapped released, Run h l s { s with world := w, loop := rest, wrapped, released } := by
  have hfree {j : S.Job} (ht : Frame.of t = .task) {q : Except Error S.Reply} {w₁ : World S}
      (h₁ : h.answer j s.world = some (q, w₁)) :
      ∃ wrapped released, Run h l s { s with world := w₁, wrapped, released } :=
    hanswer j hs (fun f hf => by rw [hloop, ht] at hf; exact (Option.some.inj hf).symm) h₁
  cases t with
  | remove id =>
    obtain ⟨hr, released, hrun⟩ := removal_run hs.kept hl hloop hx
    exact ⟨hr, s.wrapped, released, hrun⟩
  | job j =>
    obtain ⟨q, w₁, h₁, h₂⟩ := attempt_bind_eq_some.1 hx
    cases h₂
    obtain ⟨wrapped, released, hrun⟩ := hfree rfl h₁
    exact ⟨rfl, wrapped, released, hrun.tail (.done hloop)⟩
  | request promise j =>
    obtain ⟨q, w₁, h₁, h₂⟩ := attempt_bind_eq_some.1 hx
    obtain ⟨wrapped, released, hrun⟩ := hfree rfl h₁
    have haside : Aside w₁ w := by
      cases h₂
      exact ⟨rfl, rfl, fun _ => rfl, rfl, rfl, rfl, rfl, rfl, rfl⟩
    refine ⟨by cases h₂; rfl, wrapped, released, ?_⟩
    exact (hrun.tail (.aside haside)).tail (.done hloop)

/-- A drain, where the jobs of the script are runs. -/
theorem drain_run (fuel : Nat) : Serves h l (LoopDispatch.drain h fuel) := by
  induction fuel with
  | zero => exact fun s r w _ _ hx => by cases hx
  | succ fuel ih =>
    intro s r w hs hf hx
    cases hp : s.world.loop.pending with
    | nil =>
      rw [LoopDispatch.drain_of_nil hp] at hx
      cases hx
      exact ⟨s.wrapped, s.released, .refl⟩
    | cons t rest =>
      obtain ⟨w₁, q, htask, hrest, -⟩ := LoopDispatch.drain_of_cons hp hx
      have hserve := Step.serve (h := h) (l := l) hf (LoopDispatch.take_of_cons hp)
      have hs₁ := hs.run hl (.single hserve)
      obtain ⟨-, wrapped, released, hrun⟩ := task_run hl hanswer hs₁ rfl htask
      obtain ⟨wrapped, released, hruns⟩ := ih (hs₁.run hl hrun) hf hrest
      exact ⟨wrapped, released, .head hserve (hrun.trans hruns)⟩

end

/-! ### The teardown -/

lemma each_aside {β : Type} {f : β → Eff S Unit} (hf : ∀ b w, ∃ w', f b w = some (.ok (), w') ∧ Aside w w')
    (bs : List β) (w : World S) : ∃ w', Eff.each f bs w = some (.ok (), w') ∧ Aside w w' := by
  obtain ⟨_, hx⟩ := chains_aside.each (fun b w => ⟨(), hf b w⟩) bs w
  exact hx

lemma releaseRetained_aside (r : Retained) (w : World S) :
    ∃ w', LoopState.releaseRetained r w = some (.ok (), w') ∧ Aside w w' := by
  cases r with
  | resource => exact ⟨w, rfl, refl w⟩
  | thunk a =>
    rw [LoopState.releaseRetained, Thunk.disown, bind_ok (get_apply w)]
    rcases w.thunks.lookup a with _ | t
    · exact ⟨w, rfl, refl w⟩
    · by_cases ho : t.owners ≤ 1
      · exact ⟨_, congrFun (if_pos ho) w, rfl, rfl, fun _ => rfl, rfl, rfl, rfl, rfl, rfl, rfl⟩
      · exact ⟨_, congrFun (if_neg ho) w, rfl, rfl, fun _ => rfl, rfl, rfl, rfl, rfl, rfl, rfl⟩

lemma update_aside {f : LoopState → LoopState}
    (hf : ∀ st, ((f st).registry, (f st).lifecycle) = (st.registry, st.lifecycle)) (w : World S) :
    ∃ w', LoopState.update f w = some (.ok (), w') ∧ Aside w w' := by
  refine ⟨_, rfl, rfl, rfl, fun _ => rfl, rfl, ?_, rfl, rfl, rfl, rfl⟩
  rw [World.estate, World.estate, Option.map_map]
  exact congrArg (fun g => w.state.map g) (funext hf)

/-- Objects that are out of the registry are released one after the other. -/
lemma releases_run (hl : Silent h l) {rest : List Frame} {es : List (ObjectId × Wrapper)}
    (hs : s.loop = .releasing es :: rest) :
    ∃ w released, Eff.each (Wrapper.drop h l) (es.map Prod.snd) s.world = some (.ok (), w) ∧
      Run h l s { s with world := w, loop := .releasing [] :: rest, released } := by
  induction es generalizing s with
  | nil =>
    refine ⟨s.world, s.released, rfl, ?_⟩
    rw [← hs]
  | cons e es ih =>
    obtain ⟨w₁, h₁, -⟩ := drop_silent hl e.2 s.world
    obtain ⟨w₂, released, h₂, hrun⟩ :=
      ih (s := { s with world := w₁, loop := .releasing es :: rest, released := e :: s.released }) rfl
    exact ⟨w₂, released, (bind_ok h₁).trans h₂, .head (.release hs h₁) hrun⟩

/-- What the state owns is let go of: the objects first, then what is retained. -/
lemma clear_run (hl : Silent h l) {st : LoopState} (hlifecycle : st.lifecycle = l) (hs : s.loop = [])
    (hstop : s.world.loop.stopped) (hstate : s.world.state = some st) (hu : s.world.inUse = false) :
    ∃ w released, LoopState.clear h st { s.world with inUse := true } = some (.ok (), w) ∧
      Run h l s { s with world := w, loop := [.tearing], released } := by
  subst hlifecycle
  have hcleared : LoopState.update (fun st' => { st' with registry := st.registry.clear.2 })
      { s.world with inUse := true } = some (.ok (), { s.world with
        inUse := true, state := some { st with registry := st.registry.clear.2 } }) := by
    rw [LoopState.update, modify_apply, hstate]
    rfl
  obtain ⟨w₁, released, h₁, hrun⟩ := releases_run (s := { s with
    world := { s.world with inUse := true, state := some { st with registry := st.registry.clear.2 } }
    loop := [.releasing st.registry.entries, .tearing] }) hl rfl
  obtain ⟨w₂, h₂, haside₂⟩ := update_aside (f := fun st => { st with retained := [] }) (fun _ => rfl) w₁
  obtain ⟨w₃, h₃, haside₃⟩ := each_aside releaseRetained_aside st.retained w₂
  obtain ⟨w₄, h₄, haside₄⟩ := update_aside (f := fun st => { st with workGuard := false }) (fun _ => rfl) w₃
  refine ⟨w₄, released, ?_, ?_⟩
  · exact (bind_ok hcleared).trans ((bind_ok h₁).trans ((bind_ok h₂).trans ((bind_ok h₃).trans h₄)))
  · have haside : Aside w₁ w₄ := IsTrans.trans _ _ _ haside₂ (IsTrans.trans _ _ _ haside₃ haside₄)
    exact .head (.clear hs hstop hstate hu) (.tail (.tail hrun (.released rfl)) (.aside haside))

/-- A teardown after the stop ends, and leaves no state. -/
theorem teardown_run (hk : s.Kept l) (hh : s.Held) (hl : Silent h l) (hs : s.loop = [])
    (hstop : s.world.loop.stopped) :
    ∃ w released, LoopState.teardown h s.world = some (.ok (), w) ∧ w.state = none ∧
      Run h l s { s with world := w, released } := by
  rcases hstate : s.world.state with _ | st
  · exact ⟨s.world, s.released, LoopState.teardown_of_absent (by simp [hstate]) h, hstate, .refl⟩
  · have hu : s.world.inUse = false := (hh.idle (by simp [hs])).1
    obtain ⟨w, released, hclear, hrun⟩ := clear_run hl (hk.lifecycle_eq hstate) hs hstop hstate hu
    -- the libraries of the state are let go of as well, which is nothing to the objects
    let v := { w with record := w.state.elim w.record fun s => s.releaseLibraries w.record }
    have haside : Aside w v := ⟨rfl, rfl, fun _ => rfl, rfl, rfl, rfl, rfl, rfl, rfl⟩
    refine ⟨{ v with inUse := false, state := none }, released, ?_, rfl, ?_⟩
    · rw [LoopState.teardown_of_free hh.thread hstate hu h]
      exact bind_ok hclear
    · -- nothing is left on the loop thread, as before
      have hend := (hrun.tail (.aside haside)).tail (Step.uninstall rfl)
      rw [← hs] at hend
      exact hend

end NativeBridge.Custody
