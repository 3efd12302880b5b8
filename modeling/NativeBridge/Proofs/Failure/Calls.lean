import NativeBridge.Proofs.Calls.Batch
import NativeBridge.Proofs.Evolution.Booked
import NativeBridge.Proofs.Failure.Course
import NativeBridge.Proofs.Unwinding.Call

/-!
Calls that fail, as the script sees them. The loop thread serves a request once or never. Where a call of it raises an
error the script gets that error, and nothing of what was made for the calls stays.
-/

namespace NativeBridge

open Eff

variable {Native Script : Type}

namespace Bridge

/-! ### Requests that are served -/

/-- A request of a world that nobody serves, and the error that its sender gets. -/
inductive Refused (w : World (sides Native Script)) : Error → World (sides Native Script) → Prop where
  | notRunning (h : w.state = none) : Refused w .notRunning w
  | stopped {w' : World (sides Native Script)} (h : w.loop.stopped) : Refused w .loopGone w'
  /-- the loop was stopped while the request was in its queue -/
  | dropped {v w' : World (sides Native Script)} (h : Dropped Evolves w.replies.made w v) (h' : Evolves v w') :
      Refused w .loopGone w'

/-- A request of a world is taken from the queue and served on the loop thread. -/
structure Serving (g : Host (sides Native Script)) (j : Request) (r : Except Error Reply)
    (w u u' w' : World (sides Native Script)) : Prop where
  tied : g.Tied
  comes : Evolves w u
  taken : u.requests w.replies.made = []
  answer : Bridge.answer g j u = some (r, u')
  leads : Evolves u' w'

/-- An answer that some host of a bridge gives. -/
def Answered (j : Request) (r : Except Error Reply) (u u' : World (sides Native Script)) : Prop :=
  ∃ g : Host (sides Native Script), g.Tied ∧ answer g j u = some (r, u')

end Bridge

section

variable {h : Host (Bridge.sides Native Script)} {w w' : World (Bridge.sides Native Script)}

namespace Bridge

/-- **A request is served once or never**, and its sender gets the answer. -/
theorem request_served (hh : h.Tied) (hraise : ∀ v e v', h.loopTurn v ≠ some (.error e, v')) (hb : w.Booked)
    {j : Request} {r : Except Error Reply} (hx : request h j w = some (r, w')) :
    (∃ e, r = .error e ∧ Refused w e w') ∨ ∃ g u u', Serving g j r w u u' w' := by
  let _ := Honours.permits (S := sides Native Script) (E := Evolves) (A := Answered) (n := w.replies.made + 1)
    fun hc => .single hc
  have hwithin : h.Within (Honours Evolves Answered (w.replies.made + 1)) := by
    refine hh.within fun g hg hin j u r u' hx => ?_
    exact ⟨Evolution.answer (Evolution.runs hin) j hx, g, hg, hx⟩
  have hrunning : (isRunning : Eff (sides Native Script) Bool) w = some (.ok w.state.isSome, w) := rfl
  rw [request, bind_ok hrunning] at hx
  rcases hs : w.state with _ | s <;> rw [hs] at hx
  · cases hx
    exact .inl ⟨_, rfl, .notRunning hs⟩
  · rcases send_answered (fun hc => .single hc) (Evolution.processPending hwithin) hwithin.loopTurn hraise hb.fresh
      hb.requests hx with ⟨rfl, hstop | ⟨v, hv, hv'⟩⟩ | ⟨u, u', hu, htaken, ⟨g, hg, ha⟩, hu'⟩
    · exact .inl ⟨_, rfl, .stopped hstop⟩
    · exact .inl ⟨_, rfl, .dropped hv hv'⟩
    · exact .inr ⟨g, u, u', hg, hu, htaken, ha, hu'⟩

end Bridge

end

/-! ### Calls that fail -/

/-- The calls before one return, and it raises an error. -/
def Call.FailsAt {S : Sides} (g : Host S) (before : List Call) (c : Call) (result : Descriptor) (e : Error)
    (u : World S) : Prop :=
  ∃ all v v', Call.invokeAll g before u = some (.ok all, v) ∧ Call.invoke g c result v = some (.error e, v')

/-- The cells of two worlds are related. -/
def OnCells {S : Sides} (C : List Value → List Value → Prop) (w w' : World S) : Prop := C w.cells w'.cells

instance {S : Sides} {C : List Value → List Value → Prop} [IsPreorder (List Value) C] :
    IsPreorder (World S) (OnCells C) where
  refl w := refl w.cells
  trans _ _ _ h h' := IsTrans.trans (r := C) _ _ _ h h'

section

variable {h g : Host (Bridge.sides Native Script)} {w u u' w' : World (Bridge.sides Native Script)}

namespace Bridge

lemma tied_calls_undone (hg : g.Tied) {before : List Call} {c : Call} {result : Descriptor} {e : Error}
    {all : List (CellId × Value)} {v v' : World (sides Native Script)} (hu : u.Keyed)
    (hbefore : Call.invokeAll g before u = some (.ok all, v)) (hc : Call.invoke g c result v = some (.error e, v'))
    (hgo : LoopDispatch.letGo (Call.handleKeys all) v' = some (.ok (), u')) :
    ∃ ran made, Undone g before c u u' ran made := by
  have hlasts (e : HandleKey × ObjectId × Nat) : g.Within (Lasts e) :=
    hg.within fun _ _ hin j _ _ _ hx => Evolution.answer (Evolution.runs hin) j hx
  exact calls_undone hg.native (Evolution.runs hg.evolves) (fun e => Evolution.runs (hlasts e)) hu hbefore hc hgo

/-- The answer to a batch with a call that fails is the error of that call. -/
lemma answer_batch_fails (hg : g.Tied) (hu : u.Keyed) {before after : List Call} {c : Call} {e : Error}
    (hfails : Call.FailsAt g before c .undefined e u) {r : Except Error Reply}
    (hx : answer g (.batch (before ++ c :: after)) u = some (r, u')) :
    r = .error e ∧ ∃ ran made, Undone g before c u u' ran made := by
  obtain ⟨all, v, v', hbefore, hc⟩ := hfails
  obtain ⟨v₁, hgo, hall⟩ := Call.invokeAfter_fails after hbefore hc
  have hbatch : answer g (.batch (before ++ c :: after)) u = some (.error e, v₁) := bind_error hall
  rw [hbatch] at hx
  cases hx
  exact ⟨rfl, tied_calls_undone hg hu hbefore hc hgo⟩

lemma answer_batch_error {calls : List Call} {e : Error} (hx : answer g (.batch calls) u = some (.error e, u')) :
    ∃ before c after, calls = before ++ c :: after ∧ Call.FailsAt g before c .undefined e u := by
  rcases bind_eq_some.1 hx with ⟨all, v, -, hx⟩ | ⟨e', hx, he⟩
  · cases hx
  · cases he
    obtain ⟨before, c, after, all, v, v', hcalls, hbefore, hc⟩ := Call.invokeAfter_error hx
    exact ⟨before, c, after, hcalls, all, v, v', hbefore, hc⟩

/-- The answer to a call that fails is its error. -/
lemma answer_call_fails (hg : g.Tied) (hu : u.Keyed) {c : Call} {result : Descriptor} {e : Error}
    (hfails : Call.FailsAt g [] c result e u) {r : Except Error Reply}
    (hx : answer g (.call c result) u = some (r, u')) :
    r = .error e ∧ ∃ ran made, Undone g [] c u u' ran made := by
  obtain ⟨all, v, v', hbefore, hc⟩ := hfails
  cases hbefore
  have hcall : answer g (.call c result) u = some (.error e, v') := bind_error hc
  rw [hcall] at hx
  cases hx
  exact ⟨rfl, tied_calls_undone hg hu rfl hc rfl⟩

lemma answer_call_error {c : Call} {result : Descriptor} {e : Error}
    (hx : answer g (.call c result) u = some (.error e, u')) : Call.FailsAt g [] c result e u := by
  rcases bind_eq_some.1 hx with ⟨o, v, -, hx⟩ | ⟨e', hx, he⟩
  · cases hx
  · cases he
    exact ⟨[], u, u', rfl, hx⟩

/-- What follows a request raises nothing, so an error is that of the request, and nothing happens after it. -/
lemma request_or {α : Type} {f : Reply → Eff (sides Native Script) α} {j : Request} {r : Except Error α}
    (hf : ∀ reply v q v', f reply v = some (q, v') → ∃ a, q = .ok a) (hx : (request h j >>= f) w = some (r, w')) :
    (∃ e, r = .error e ∧ request h j w = some (.error e, w')) ∨
      ∃ a reply v, r = .ok a ∧ request h j w = some (.ok reply, v) := by
  rcases bind_eq_some.1 hx with ⟨reply, v, hrequest, hx⟩ | ⟨e, hrequest, rfl⟩
  · obtain ⟨a, rfl⟩ := hf reply v r w' hx
    exact .inr ⟨a, reply, v, rfl, hrequest⟩
  · exact .inl ⟨e, rfl, hrequest⟩

lemma batch_request {calls : List Call} (hcalls : calls ≠ []) {r : Except Error Unit}
    (hx : batch h calls w = some (r, w')) :
    (∃ e, r = .error e ∧ request h (.batch calls) w = some (.error e, w')) ∨
      ∃ a reply v, r = .ok a ∧ request h (.batch calls) w = some (.ok reply, v) := by
  rw [batch, if_neg (by simpa using hcalls)] at hx
  refine request_or (fun reply v q v' hq => ?_) hx
  cases reply with
  | updates cells =>
    obtain ⟨rfl, -⟩ := Prod.mk.inj (Option.some.inj ((applyUpdates_apply cells v).symm.trans hq))
    exact ⟨(), rfl⟩
  | _ => cases hq

lemma call_request {c : Call} {result : Descriptor} {r : Except Error Value}
    (hx : call h c result w = some (r, w')) :
    (∃ e, r = .error e ∧ request h (.call c result) w = some (.error e, w')) ∨
      ∃ a reply v, r = .ok a ∧ request h (.call c result) w = some (.ok reply, v) := by
  refine request_or (fun reply v q v' hq => ?_) hx
  cases reply with
  | outcome o =>
    have hvalue := (bind_ok (f := fun _ => pure o.value) (applyUpdates_apply o.updates v)).symm.trans hq
    obtain ⟨rfl, -⟩ := Prod.mk.inj (Option.some.inj hvalue)
    exact ⟨o.value, rfl⟩
  | _ => cases hq

/-- The calls of a request are served once, one after the other. The first of them that fails ends them: its error is
what the script gets, and the calls so far are undone. No other error comes of it. -/
def ServesCalls {α : Type} (j : Request) (calls : List Call) (result : Descriptor) (r : Except Error α)
    (w w' : World (sides Native Script)) : Prop :=
  ∃ g q u u' v, Serving g j q w u u' v ∧
    (∀ before c after e, calls = before ++ c :: after → Call.FailsAt g before c result e u →
      r = .error e ∧ w' = v ∧ ∃ ran made, Undone g before c u u' ran made) ∧
    ∀ e, r = .error e → ∃ before c after, calls = before ++ c :: after ∧ Call.FailsAt g before c result e u

/-- What is known of answers to calls is known of what the script gets. -/
lemma serves_calls {α : Type} {j : Request} {calls : List Call} {result : Descriptor} {r : Except Error α}
    (hh : h.Tied) (hraise : ∀ v e v', h.loopTurn v ≠ some (.error e, v')) (hw : w.Reached) (hb : w.Booked)
    (hfails : ∀ (g : Host (sides Native Script)) u u' before c after e q, g.Tied → u.Keyed →
      calls = before ++ c :: after → Call.FailsAt g before c result e u → answer g j u = some (q, u') →
        q = .error e ∧ ∃ ran made, Undone g before c u u' ran made)
    (herror : ∀ (g : Host (sides Native Script)) u u' e, answer g j u = some (.error e, u') →
      ∃ before c after, calls = before ++ c :: after ∧ Call.FailsAt g before c result e u)
    (hx : (∃ e, r = .error e ∧ request h j w = some (.error e, w')) ∨
      ∃ a reply v, r = .ok a ∧ request h j w = some (.ok reply, v)) :
    (∃ e, r = .error e ∧ Refused w e w') ∨ ServesCalls j calls result r w w' := by
  rcases hx with ⟨e, rfl, hrequest⟩ | ⟨a, reply, v, rfl, hrequest⟩
  · rcases request_served hh hraise hb hrequest with ⟨e', he, hrefused⟩ | ⟨g, u, u', hserved⟩
    · cases he
      exact .inl ⟨e, rfl, hrefused⟩
    · refine .inr ⟨g, _, u, u', w', hserved, fun before c after e' hcalls hf => ?_, fun e' he => ?_⟩
      · obtain ⟨he, hundone⟩ := hfails g u u' before c after e' _ hserved.tied (hw.keyed.evolves hserved.comes)
          hcalls hf hserved.answer
        cases he
        exact ⟨rfl, rfl, hundone⟩
      · cases he
        exact herror g u u' e hserved.answer
  · rcases request_served hh hraise hb hrequest with ⟨e', he, -⟩ | ⟨g, u, u', hserved⟩
    · cases he
    · refine .inr ⟨g, _, u, u', v, hserved, fun before c after e' hcalls hf => ?_, fun e' he => (by cases he)⟩
      obtain ⟨he, -⟩ := hfails g u u' before c after e' _ hserved.tied (hw.keyed.evolves hserved.comes) hcalls hf
        hserved.answer
      cases he

/-- A request leaves cells to the scripts and the loop that run while it waits. -/
lemma request_cells {C : List Value → List Value → Prop} [IsPreorder (List Value) C]
    (hp : Along (OnCells C) (ScriptDispatch.processPending h)) (hl : Along (OnCells C) h.loopTurn) (j : Request) :
    Along (OnCells C) (request h j) :=
  .bind (.bind .get fun _ => .pure _) fun _ =>
    .guard (Evolution.sendRequest (fun w _ _ _ => refl w.cells) hp hl j)

/-- **Calls that fail are undone.** A batch or a single call is refused before anything is done for it, or it is served
once. Then the first of its calls that raises an error ends it, and the script gets this error. Native functions have
run once for each call before, in order, at most once for the call that failed, and never for those after it. Cells are
changed by what runs in the native functions, and otherwise by nothing but the script and the loop while the request
waits. The handles of all objects that were registered are gone, and the removals of the objects are in the queue; the
task takes an object from the registry and releases it. -/
theorem failing_calls_are_undone (hh : h.Tied) (hraise : ∀ v e v', h.loopTurn v ≠ some (.error e, v'))
    (hw : w.Reached) (hb : w.Booked) :
    (∀ calls r w', calls ≠ [] → batch h calls w = some (r, w') →
      (∃ e, r = .error e ∧ Refused w e w') ∨ ServesCalls (.batch calls) calls .undefined r w w') ∧
    (∀ c result r w', call h c result w = some (r, w') →
      (∃ e, r = .error e ∧ Refused w e w') ∨ ServesCalls (.call c result) [c] result r w w') ∧
    (∀ C : List Value → List Value → Prop, IsPreorder (List Value) C →
      Along (OnCells C) (ScriptDispatch.processPending h) → Along (OnCells C) h.loopTurn →
        (∀ calls e w', batch h calls w = some (.error e, w') → C w.cells w'.cells) ∧
          ∀ c result e w', call h c result w = some (.error e, w') → C w.cells w'.cells) ∧
    ∀ (g : Host (sides Native Script)) u s id o, u.Free s → s.registry.find? id = some o →
      LoopDispatch.run g (.remove id) u =
        (do let _ ← Eff.attempt (o.drop g s.lifecycle) : Eff (sides Native Script) Unit)
          { u with state := some { s with registry := (s.registry.take id).2 } } := by
  refine ⟨fun calls r w' hcalls hx => ?_, fun c result r w' hx => ?_, fun C hC hp hl => ⟨fun calls e w' hx => ?_,
    fun c result e w' hx => ?_⟩, fun g u s id o hu ho => run_remove g hu ho⟩
  · refine serves_calls hh hraise hw hb (fun g u u' before c after e q hg hu hsplit hf ha => ?_)
      (fun g u u' e => answer_batch_error) (batch_request hcalls hx)
    subst hsplit
    exact answer_batch_fails hg hu hf ha
  · refine serves_calls hh hraise hw hb (fun g u u' before d after e q hg hu hsplit hf ha => ?_)
      (fun g u u' e ha => ⟨[], c, [], rfl, answer_call_error ha⟩) (call_request hx)
    obtain ⟨rfl, hrest⟩ | ⟨rest, rfl, hrest⟩ := List.cons_eq_append_iff.1 hsplit
    · cases hrest
      exact answer_call_fails hg hu hf ha
    · exact absurd (List.append_eq_nil_iff.1 hrest.symm).2 (List.cons_ne_nil _ _)
  · by_cases hcalls : calls = []
    · subst hcalls
      cases hx
    · rcases batch_request hcalls hx with ⟨_, -, hrequest⟩ | ⟨_, _, _, he, -⟩
      · exact request_cells hp hl _ hrequest
      · cases he
  · rcases call_request hx with ⟨_, -, hrequest⟩ | ⟨_, _, _, he, -⟩
    · exact request_cells hp hl _ hrequest
    · cases he

end Bridge

end

/-! ### A batch whose second call fails -/

/-- A function at 512 that counts its calls and writes the address 64 through its argument, and a script without
functions, to a depth of crossings. -/
def fillingHost : Nat → Host (Bridge.sides Nat Unit)
  | 0 => { fillingLinkage with
      limit := 0, script := fun _ _ => stuck, answer := fun _ => stuck, scriptTurn := stuck, loopTurn := stuck }
  | depth + 1 => { fillingLinkage with
      limit := 4, script := fun _ _ => stuck, answer := Bridge.answer (fillingHost depth), scriptTurn := pure ()
      loopTurn := do let _ ← LoopDispatch.poll (fillingHost depth) }
where
  fillingLinkage : Linkage (Bridge.sides Nat Unit) :=
    { loader := .ok
      symbol := fun _ symbol => if symbol = [98] then .ok 512 else .error []
      anySymbol := fun _ => none
      run := fun _ _ words => Eff.update fun w => ({},
        { w with native := w.native + 1, heap := w.heap.store (words.ints.getD 0 0) (Bytes.ofNatLE 8 64) }) }

lemma fillingHost_tied (depth : Nat) : (fillingHost depth).Tied := by
  have hrun (depth : Nat) (a : Address) (call : CallCode (Bridge.sides Nat Unit)) (words : Registers) :
      NativeCode call ((fillingHost depth).run a call words) := by
    cases depth with
    | _ =>
      exact NativeCode.own (S := Bridge.sides Nat Unit)
        (fun w => (({} : Returned), w.native + 1, w.heap.store (words.ints.getD 0 0) (Bytes.ofNatLE 8 64)))
        fun _ => Nat.le_refl _
  induction depth with
  | zero => exact .ground (hrun 0) (fun _ _ => rfl) (fun _ => rfl) rfl rfl
  | succ depth ih =>
    exact .crossing ih (hrun (depth + 1)) (fun _ _ => .stuck) (fun _ => rfl) (.pure ())
      (.bind (.step LoopStep.poll) fun _ => .pure ())

lemma fillingHost_loopTurn (v v' : World (Bridge.sides Nat Unit)) (e : Error) :
    (fillingHost 2).loopTurn v ≠ some (.error e, v') := by
  intro hx
  rcases bind_eq_some.1 hx with ⟨n, v₁, -, hx⟩ | ⟨e, hpoll, -⟩
  · cases hx
  · obtain ⟨n, hn⟩ := LoopDispatch.runPosted_ok hpoll
    cases hn

/-- A bridge that has started, with a cell. -/
def fillingRun : World (Bridge.sides Nat Unit) :=
  { World.opening (S := Bridge.sides Nat Unit) 0 () .none with
    generation := 1, state := some { lifecycle := ⟨fun _ => none, []⟩ }, cells := [.null] }

/-- A call that has a variant written to the cell. -/
def fill : Call where
  library := [97]
  symbol := [98]
  args := [{ type := .ref (.variant false), value := .ref 0 }]

/-- A call of a function that there is not. -/
def fillMissing : Call := { library := [97], symbol := [99], args := [] }

theorem second_call_fails :
    ∃ e w', Bridge.batch (fillingHost 2) [fill, fillMissing] fillingRun = some (.error e, w') ∧ e.kind = .symbol ∧
      Bridge.ServesCalls (.batch [fill, fillMissing]) [fill, fillMissing] .undefined (.error e : Except Error Unit)
        fillingRun w' ∧ w'.native = 1 ∧ w'.cells = [.null] ∧ w'.handles = [] ∧ w'.entryIds = [] := by
  have hw : fillingRun.Reached := ⟨0, (), .none, .tail (.single (.start _ _ rfl rfl)) (.cells _ _)⟩
  have hb : fillingRun.Booked := ⟨fun _ he => (by cases he), fun _ hp => (by cases hp)⟩
  obtain ⟨hbatch, -⟩ :=
    Bridge.failing_calls_are_undone (fillingHost_tied 2) (fun v e v' => fillingHost_loopTurn v v' e) hw hb
  have hruns : (Bridge.batch (fillingHost 2) [fill, fillMissing] fillingRun).map
      (fun p => (p.1.mapError Error.kind, p.2.native, p.2.cells, p.2.handles, p.2.entryIds)) =
        some (.error .symbol, 1, [.null], [], []) := by
    cbv
  obtain ⟨⟨e | ⟨⟩, w'⟩, hw', hp⟩ := Option.map_eq_some_iff.1 hruns
  · obtain ⟨hkind, hrest⟩ := Prod.mk.inj hp
    obtain ⟨hnative, hrest⟩ := Prod.mk.inj hrest
    obtain ⟨hcells, hrest⟩ := Prod.mk.inj hrest
    obtain ⟨hhandles, hregistered⟩ := Prod.mk.inj hrest
    have hkind : e.kind = .symbol := Except.error.inj hkind
    refine ⟨e, w', hw', hkind, ?_, hnative, hcells, hhandles, hregistered⟩
    rcases hbatch _ _ _ (List.cons_ne_nil _ _) hw' with ⟨e', he, hrefused⟩ | hserves
    · cases he
      cases hrefused <;> cases hkind
    · exact hserves
  · cases congrArg Prod.fst hp

end NativeBridge
