import NativeBridge.Proofs.Calls.Readback
import NativeBridge.Proofs.Evolution.Bridge
import NativeBridge.Proofs.Failure.Handles
import NativeBridge.Proofs.Failure.Minted
import NativeBridge.Proofs.Unwinding.Release

/-!
The course of calls on the loop thread: what is done in order, with the native functions that run and the handles that
are made. A call that fails has run its native function at most once, and all that it made is let go of.
-/

namespace NativeBridge

open Eff

variable {S : Sides}

/-- A run of the native function of a call. -/
structure Ran (S : Sides) where
  call : Call
  before : World S
  after : World S

/-- What the loop thread does in serving calls, one stretch after the other, with the runs of native functions and the
handles of all objects that are registered while results are read back. -/
inductive Course (h : Host S) : List (Ran S) → List (HandleKey × ObjectId × Nat) → World S → World S → Prop where
  | done (w : World S) : Course h [] [] w w
  | prepare {c : Call} {result : Descriptor} {r : Except Error PreparedCall} {w v w' : World S} {ran : List (Ran S)}
      {made : List (HandleKey × ObjectId × Nat)} (hx : LoopState.holding (Call.prepare h c result) w = some (r, v))
      (rest : Course h ran made v w') : Course h ran made w w'
  | handOver {x : NativeValue} {r : Except Error Unit} {w v w' : World S} {ran : List (Ran S)}
      {made : List (HandleKey × ObjectId × Nat)} (hx : x.handOver w = some (r, v)) (rest : Course h ran made v w') :
      Course h ran made w w'
  /-- the function that was found for a call runs with its arguments -/
  | native {c : Call} {result : Descriptor} {p : PreparedCall} {r : Except Error Returned} {u u' w v w' : World S}
      {ran : List (Ran S)} {made : List (HandleKey × ObjectId × Nat)}
      (hp : LoopState.holding (Call.prepare h c result) u = some (.ok p, u'))
      (hx : h.run p.function (callCode h) (h.convention.pass p.types (p.values.flatMap NativeValue.slots)) w = some (r, v))
      (rest : Course h ran made v w') : Course h (⟨c, w, v⟩ :: ran) made w w'
  | readBack {c : Call} {result : Descriptor} {values : List NativeValue} {buffer : Bytes} {r : Except Error Outcome}
      {w v w' : World S} {ran : List (Ran S)} {new made : List (HandleKey × ObjectId × Nat)}
      (hx : LoopState.holding (Call.readBack h c result values buffer) w = some (r, v))
      (hheld : ∀ e ∈ new, e ∈ v.handles) (hnew : ∀ id ∈ v.entryIds, id ∈ w.entryIds ∨ ∃ e ∈ new, e.2.1 = id)
      (rest : Course h ran made v w') : Course h ran (new ++ made) w w'
  | letGo {key : HandleKey} {r : Except Error Unit} {w v w' : World S} {ran : List (Ran S)}
      {made : List (HandleKey × ObjectId × Nat)} (hx : LoopDispatch.finalize key w = some (r, v))
      (rest : Course h ran made v w') : Course h ran made w w'
  | release {x : NativeValue} {r : Except Error Unit} {w v w' : World S} {ran : List (Ran S)}
      {made : List (HandleKey × ObjectId × Nat)} (hx : x.release w = some (r, v)) (rest : Course h ran made v w') :
      Course h ran made w w'

/-- Native functions run one after the other, and between their runs cells are left alone. -/
def Linked (cells : List Value) : List (Ran S) → List Value → Prop
  | [], cells' => cells' = cells
  | r :: rest, cells' => r.before.cells = cells ∧ Linked r.after.cells rest cells'

namespace Course

variable {h : Host S} {ran more : List (Ran S)} {made made' : List (HandleKey × ObjectId × Nat)} {u v w w' : World S}

lemma trans (hc : Course h ran made u v) (hc' : Course h more made' v w) :
    Course h (ran ++ more) (made ++ made') u w := by
  induction hc with
  | done => exact hc'
  | prepare hx _ ih => exact .prepare hx (ih hc')
  | handOver hx _ ih => exact .handOver hx (ih hc')
  | native hp hx _ ih => exact .native hp hx (ih hc')
  | readBack hx hheld hnew _ ih =>
    rw [List.append_assoc]
    exact .readBack hx hheld hnew (ih hc')
  | letGo hx _ ih => exact .letGo hx (ih hc')
  | release hx _ ih => exact .release hx (ih hc')

/-- A relation that allows for the operations of a bridge holds along a course. -/
lemma along {R : World S → World S → Prop} [Permits R] (hr : h.Runs R) (hc : Course h ran made w w') : R w w' := by
  have hprepare (c : Call) (result : Descriptor) : Along R (LoopState.holding (Call.prepare h c result)) :=
    Evolution.holding (Evolution.work hr.quiet (.prepare trivial (fun _ _ => trivial) result))
  have hread (c : Call) (result : Descriptor) (values : List NativeValue) (buffer : Bytes) :
      Along R (LoopState.holding (Call.readBack h c result values buffer)) :=
    Evolution.holding (Evolution.work hr.quiet (.readBack (fun _ _ => trivial) result values buffer))
  induction hc with
  | done w => exact refl w
  | prepare hx _ ih => exact IsTrans.trans _ _ _ (hprepare _ _ hx) ih
  | handOver hx _ ih => exact IsTrans.trans _ _ _ (Evolution.handOver _ hx) ih
  | native _ hx _ ih => exact IsTrans.trans _ _ _ (hr.native _ _ hx) ih
  | readBack hx _ _ _ ih => exact IsTrans.trans _ _ _ (hread _ _ _ _ hx) ih
  | letGo hx _ ih => exact IsTrans.trans _ _ _ (Permits.finalize _ hx) ih
  | release hx _ ih => exact IsTrans.trans _ _ _ (Evolution.releaseValue _ hx) ih

/-- **Only native functions, and what they call back, change cells.** -/
theorem linked (hn : ∀ a call words, NativeCode call (h.run a call words)) (hc : Course h ran made w w') :
    Linked w.cells ran w'.cells := by
  have hprepare (c : Call) (result : Descriptor) : Along SameCells (LoopState.holding (Call.prepare h c result)) :=
    SameCells.holding (SameCells.work hn (LoopWork.prepare trivial (fun _ _ => trivial) result))
  have hread (c : Call) (result : Descriptor) (values : List NativeValue) (buffer : Bytes) :
      Along SameCells (LoopState.holding (Call.readBack h c result values buffer)) := by
    have hwork : LoopWork h Set.univ False True (Call.readBack h c result values buffer) :=
      .readBack (fun _ _ => trivial) result values buffer
    exact SameCells.holding (SameCells.work hn hwork)
  have same {w v w' : World S} {ran : List (Ran S)} (hcells : SameCells w v) (ih : Linked v.cells ran w'.cells) :
      Linked w.cells ran w'.cells := hcells ▸ ih
  induction hc with
  | done => rfl
  | prepare hx _ ih => exact same (hprepare _ _ hx) ih
  | handOver hx _ ih => exact same (Kept.of_disposes (Disposes.handOver _ hx)).cells ih
  | native _ _ _ ih => exact ⟨rfl, ih⟩
  | readBack hx _ _ _ ih => exact same (hread _ _ _ _ hx) ih
  | letGo hx _ ih =>
    rw [LoopDispatch.finalize_apply] at hx
    cases hx
    exact ih
  | release hx _ ih => exact same (Kept.of_disposes (Disposes.release _ hx)).cells ih

end Course

/-! ### One call -/

/-- A handle is let go of while one of these native functions runs. -/
def LostIn (ran : List (Ran S)) (e : HandleKey × ObjectId × Nat) : Prop := ∃ r ∈ ran, Forsaken e r.before r.after

lemma LostIn.of_prefix {ran : List (Ran S)} {e : HandleKey × ObjectId × Nat} (h : LostIn ran e) (more : List (Ran S)) :
    LostIn (ran ++ more) e := by
  obtain ⟨r, hr, hlost⟩ := h
  exact ⟨r, List.mem_append_left _ hr, hlost⟩

lemma LostIn.of_suffix {ran : List (Ran S)} {e : HandleKey × ObjectId × Nat} (before : List (Ran S))
    (h : LostIn ran e) : LostIn (before ++ ran) e := by
  obtain ⟨r, hr, hlost⟩ := h
  exact ⟨r, List.mem_append_right _ hr, hlost⟩

section

variable {h : Host S} {w w' : World S}

lemma course_handOver {vs : List NativeValue} {r : Except Error Unit}
    (hx : Eff.each NativeValue.handOver vs w = some (r, w')) :
    w'.handles = w.handles ∧ Course h [] [] w w' := by
  induction vs generalizing w with
  | nil =>
    cases hx
    exact ⟨rfl, .done _⟩
  | cons v rest ih =>
    rcases bind_eq_some.1 hx with ⟨_, w₁, hv, hx⟩ | ⟨e, hv, -⟩
    · obtain ⟨hh, hc⟩ := ih hx
      obtain ⟨_, _, _, rfl⟩ := Disposes.handOver v hv
      exact ⟨hh, .handOver hv hc⟩
    · have hhand := hv
      obtain ⟨_, _, _, rfl⟩ := Disposes.handOver v hv
      exact ⟨rfl, .handOver hhand (.done _)⟩

lemma course_letGo {keys : List HandleKey} {r : Except Error Unit} (hx : LoopDispatch.letGo keys w = some (r, w')) :
    Course h [] [] w w' := by
  induction keys generalizing w with
  | nil =>
    cases hx
    exact .done _
  | cons key rest ih =>
    rcases bind_eq_some.1 hx with ⟨_, w₁, hkey, hx⟩ | ⟨e, hkey, -⟩
    · exact .letGo hkey (ih hx)
    · exact .letGo hkey (.done _)

/-- Values are released without an error. Handles and tasks stay. -/
lemma course_release {vs : List NativeValue} {r : Except Error Unit}
    (hx : Eff.each NativeValue.release vs w = some (r, w')) :
    r = .ok () ∧ w'.handles = w.handles ∧ w'.loop = w.loop ∧ Course h [] [] w w' := by
  induction vs generalizing w with
  | nil =>
    cases hx
    exact ⟨rfl, rfl, rfl, .done _⟩
  | cons v rest ih =>
    obtain ⟨w₁, hv⟩ := v.release_ok w
    rw [Eff.each, bind_ok hv] at hx
    obtain ⟨hr, hh, hl, hc⟩ := ih hx
    have hrelease := hv
    obtain ⟨_, _, _, rfl⟩ := Disposes.release v hv
    exact ⟨hr, hh, hl, .release hrelease hc⟩

variable (hn : ∀ a call words, NativeCode call (h.run a call words))

include hn

/-- Work lets go of no handle. -/
lemma handles_holding {cells : Set CellId} {makes calls : Prop} {α : Type} {x : Eff S α} {r : Except Error α}
    (hwork : LoopWork h cells makes calls x) (hx : LoopState.holding x w = some (r, w')) : w.handles ⊆ w'.handles := by
  rcases LoopState.holding_eq_some hx with ⟨-, rfl, -⟩ | ⟨-, w₁, h₁, rfl⟩
  · exact List.Subset.refl _
  · exact (Kept.work hn hwork h₁).handles

/-- What was registered while results were read back has its handles among those that were made since. -/
lemma new_handles {c : Call} {result : Descriptor} {values : List NativeValue} {buffer : Bytes}
    {r : Except Error Outcome} (hx : LoopState.holding (Call.readBack h c result values buffer) w = some (r, w')) :
    ∀ id ∈ w'.entryIds, id ∈ w.entryIds ∨ ∃ e ∈ w'.handles.filter (w.minted ≤ ·.1), e.2.1 = id := by
  intro id hid
  rcases (Enrolls.readBack hn c result values buffer hx).handle id hid with hold | ⟨e, he, hi, hk⟩
  · exact .inl hold
  · exact .inr ⟨e, List.mem_filter.2 ⟨he, by simpa using hk⟩, hi⟩

end

/-- The course of reading back by what it ends with. The handles of what was registered are in what was read, or are let
go of. -/
structure ReadCourse (h : Host S) (r : Except Error Outcome) (w w' : World S)
    (made : List (HandleKey × ObjectId × Nat)) : Prop where
  course : Course h [] made w w'
  kept : w.handles ⊆ w'.handles
  returned : ∀ o, r = .ok o → ∀ e ∈ made, e ∈ w'.handles ∧ e.1 ∈ o.value.handleKeys ++ Call.handleKeys o.updates
  failed : ∀ x, r = .error x → ∀ e ∈ made, e ∉ w'.handles ∧ Sent e w w'

/-- The course of a call by what it ends with. Its native function runs once if the call returns, and at most once if it
fails. The handles of what was registered are in what it returns, or are let go of. Other handles are lost only while
the native function runs. -/
structure CallCourse (h : Host S) (c : Call) (r : Except Error Outcome) (w w' : World S) (ran : List (Ran S))
    (made : List (HandleKey × ObjectId × Nat)) : Prop where
  course : Course h ran made w w'
  once : ran.map Ran.call = [] ∨ ran.map Ran.call = [c]
  kept : ∀ e ∈ w.handles, e ∈ w'.handles ∨ LostIn ran e
  returned : ∀ o, r = .ok o → ran.map Ran.call = [c] ∧
    ∀ e ∈ made, e ∈ w'.handles ∧ e.1 ∈ o.value.handleKeys ++ Call.handleKeys o.updates
  failed : ∀ x, r = .error x → ∀ e ∈ made, e ∉ w'.handles ∧ Sent e w w'

lemma CallCourse.of_error {h : Host S} {w w' : World S} {c : Call} {x : Error} {ran : List (Ran S)}
    (hc : Course h ran [] w w') (hran : ran.map Ran.call = [] ∨ ran.map Ran.call = [c])
    (hkept : ∀ e ∈ w.handles, e ∈ w'.handles ∨ LostIn ran e) : CallCourse h c (.error x) w w' ran [] :=
  ⟨hc, hran, hkept, fun _ ho => (by cases ho), fun _ _ _ he => (by cases he)⟩

section

variable {h : Host S} (hn : ∀ a call words, NativeCode call (h.run a call words)) (hr : h.Runs Evolves)
  {w w' : World S} (hw : w.Keyed)

include hn hr hw

lemma readBack_course {c : Call} {result : Descriptor} {values : List NativeValue} {buffer : Bytes}
    {r : Except Error Outcome}
    (hx : LoopDispatch.unwinding (LoopState.holding (Call.readBack h c result values buffer)) w = some (r, w')) :
    ∃ made, ReadCourse h r w w' made := by
  have hreads : LoopWork h Set.univ False True (Call.readBack h c result values buffer) :=
    .readBack (fun _ _ => trivial) result values buffer
  rcases LoopDispatch.unwinding_eq_some.1 hx with ⟨o, hback, rfl⟩ | ⟨x, v, hback, rfl, hgo⟩
  · have hcourse : Course h [] (w'.handles.filter (w.minted ≤ ·.1) ++ []) w w' :=
      .readBack hback (fun e he => List.mem_of_mem_filter he) (new_handles hn hback) (.done _)
    refine ⟨_, hcourse, handles_holding hn hreads hback, fun o' ho e he => ?_, fun x hx => (by cases hx)⟩
    cases ho
    have hnew : e ∈ w'.handles ∧ w.minted ≤ e.1 := by simpa using he
    exact ⟨hnew.1, Mints.holding (readBack_mints hn c result _ _) hback e.1 hnew.2
      ((hw.evolves (hcourse.along hr)).minted e hnew.1)⟩
  · have hcourse : Course h [] (v.handles.filter (w.minted ≤ ·.1) ++ []) w v :=
      .readBack hback (fun e he => List.mem_of_mem_filter he) (new_handles hn hback) (.done _)
    have hleft : w'.handles = v.handles.filter fun e => e.1 ∉ (v.handles.map Prod.fst).filter (w.minted ≤ ·) := by
      obtain ⟨v', hgo', hleft⟩ := LoopDispatch.letGo_apply ((v.handles.map Prod.fst).filter (w.minted ≤ ·)) v
      rw [hgo] at hgo'
      cases hgo'
      exact hleft
    refine ⟨_, hcourse.trans (course_letGo hgo), fun e he => ?_, fun o' ho => (by cases ho), fun _ _ e he => ?_⟩
    · rw [hleft]
      refine List.mem_filter.2 ⟨handles_holding hn hreads hback he, ?_⟩
      have hold : ¬w.minted ≤ e.1 := Nat.not_le.2 (hw.minted e he)
      simp [hold]
    · have hnew : e ∈ v.handles ∧ w.minted ≤ e.1 := by simpa using he
      have hkey : e.1 ∈ (v.handles.map Prod.fst).filter (w.minted ≤ ·) :=
        List.mem_filter.2 ⟨List.mem_map.2 ⟨e, hnew.1, rfl⟩, by simpa using hnew.2⟩
      have hcomes := hcourse.along hr
      refine ⟨fun hstays => ?_, (letGo_sent (hw.evolves hcomes) hnew.1 hkey hgo).trans hcomes .refl fun _ ht => ht⟩
      rw [hleft, List.mem_filter] at hstays
      exact absurd hkey (by simpa using hstays.2)

variable (hlasts : ∀ e, h.Runs (Lasts e))

include hlasts

/-- **Every call has a course.** -/
theorem invoke_course {c : Call} {result : Descriptor} {r : Except Error Outcome}
    (hx : Call.invoke h c result w = some (r, w')) : ∃ ran made, CallCourse h c r w w' ran made := by
  have hprepares : LoopWork h Set.univ True True (Call.prepare h c result) :=
    .prepare trivial (fun _ _ => trivial) result
  rcases bind_eq_some.1 hx with ⟨p, w₁, hprepare, hx⟩ | ⟨x, hprepare, rfl⟩
  · obtain ⟨q, w₂, hbody, hx⟩ := attempt_bind_eq_some.1 hx
    rcases bind_eq_some.1 hx with ⟨_, w₃, hrelease, hx⟩ | ⟨x, hrelease, -⟩
    · rw [ofExcept_apply] at hx
      cases hx
      obtain ⟨-, hhandles, hloop, hreleased⟩ := course_release (h := h) hrelease
      have hheld := handles_holding hn hprepares hprepare
      have hprepared : Course h [] [] w w₁ := .prepare hprepare (.done _)
      rcases bind_eq_some.1 hbody with ⟨_, u, hhand, hbody⟩ | ⟨x, hhand, rfl⟩
      · obtain ⟨hu, hhanded⟩ := course_handOver (h := h) hhand
        have hbegun := hprepared.trans hhanded
        -- until the native function returns, only script code that it calls lets go of handles
        have hlost {v : World S} {q : Except Error Returned}
            (hrun : h.run p.function (callCode h) (h.convention.pass p.types (p.values.flatMap NativeValue.slots)) u =
              some (q, v)) (e : HandleKey × ObjectId × Nat) (he : e ∈ w.handles) :
            e ∈ v.handles ∨ LostIn [⟨c, u, v⟩] e :=
          (((hlasts e).native _ _ hrun).held (hw.evolves (hbegun.along hr)) (hu ▸ hheld he)).imp id fun hv =>
            ⟨_, List.mem_singleton.2 rfl, hv⟩
        rcases bind_eq_some.1 hbody with ⟨returned, v, hrun, hread⟩ | ⟨x, hrun, rfl⟩
        · have hran : Course h [⟨c, u, v⟩] [] w v := hbegun.trans (.native hprepare hrun (.done _))
          have hcomes := hran.along hr
          obtain ⟨made, hback⟩ := readBack_course hn hr (hw.evolves hcomes) hread
          have hcourse : Course h [⟨c, u, v⟩] made w w' := by
            simpa using (hran.trans hback.course).trans hreleased
          refine ⟨_, made, hcourse, .inr rfl, fun e he => ?_, fun o ho => ⟨rfl, ?_⟩, fun x hx e he => ?_⟩
          · exact (hlost hrun e he).imp (fun hv => hhandles ▸ hback.kept hv) id
          · exact fun e he => hhandles ▸ hback.returned o ho e he
          · obtain ⟨hgone, hsent⟩ := hback.failed x hx e he
            exact ⟨hhandles ▸ hgone, hsent.trans hcomes (hreleased.along hr) (hloop ▸ List.Subset.refl _)⟩
        · refine ⟨_, [], .of_error ((hbegun.trans (.native hprepare hrun (.done _))).trans hreleased) (.inr rfl) ?_⟩
          exact fun e he => (hlost hrun e he).imp (fun hv => hhandles ▸ hv) id
      · obtain ⟨hu, hhanded⟩ := course_handOver (h := h) hhand
        exact ⟨_, [], .of_error ((hprepared.trans hhanded).trans hreleased) (.inl rfl)
          fun e he => .inl (hhandles ▸ hu ▸ hheld he)⟩
    · cases (course_release (h := h) hrelease).1
  · exact ⟨[], [], .of_error (.prepare hprepare (.done _)) (.inl rfl)
      fun e he => .inl (handles_holding hn hprepares hprepare he)⟩

end

/-! ### Calls in order -/

namespace Call

variable {h : Host S} {c : Call} {calls before after : List Call} {updates all : List (CellId × Value)}
  {w v w' : World S}

lemma handleKeys_append (first second : List (CellId × Value)) :
    handleKeys (first ++ second) = handleKeys first ++ handleKeys second := List.flatMap_append

/-- A call for its effect gives no value, so no handle but for cells. -/
lemma value_of_undefined {o : Outcome} (hx : invoke h c .undefined w = some (.ok o, w')) : o.value = .undefined := by
  obtain ⟨p, w₁, r, w₂, w₃, -, -, hread, -⟩ := invoke_ok hx
  rcases LoopState.holding_eq_some hread with ⟨-, -, e, he⟩ | ⟨-, w₄, hread, -⟩
  · cases he
  · rw [readBack, readReturn, bind_ok (ofExcept_apply (.ok _) _), fromNative, bind_ok (pure_apply _ _)] at hread
    rcases bind_eq_some.1 hread with ⟨results, w₅, -, hread⟩ | ⟨e, -, he⟩
    · cases hread
      rfl
    · cases he

lemma invokeAfter_append (more : List Call) (hx : invokeAfter h updates before w = some (.ok all, v)) :
    invokeAfter h updates (before ++ more) w = invokeAfter h all more v := by
  induction before generalizing updates w with
  | nil =>
    cases hx
    rfl
  | cons c rest ih =>
    obtain ⟨q, w₁, hc, hx⟩ := attempt_bind_eq_some.1 hx
    have hstep : (invoke h c .undefined).attempt w = some (.ok q, w₁) := by rw [attempt_apply, hc]; rfl
    rw [List.cons_append, invokeAfter, bind_ok hstep]
    cases q with
    | ok o => exact ih hx
    | error e =>
      rcases bind_eq_some.1 hx with ⟨_, w₂, -, hx⟩ | ⟨e, -, he⟩
      · cases hx
      · cases he

/-- A call that fails ends the batch with its error, and what the calls before it gave is let go of. -/
lemma invokeAfter_fails {e : Error} {v' : World S} (after : List Call)
    (hx : invokeAfter h updates before w = some (.ok all, v)) (hc : invoke h c .undefined v = some (.error e, v')) :
    ∃ w', LoopDispatch.letGo (handleKeys all) v' = some (.ok (), w') ∧
      invokeAfter h updates (before ++ c :: after) w = some (.error e, w') := by
  obtain ⟨w', hgo, -⟩ := LoopDispatch.letGo_apply (handleKeys all) v'
  have hstep : (invoke h c .undefined).attempt v = some (.ok (.error e), v') := by rw [attempt_apply, hc]; rfl
  refine ⟨w', hgo, ?_⟩
  rw [invokeAfter_append _ hx, invokeAfter, bind_ok hstep]
  exact bind_ok hgo

/-- The error of a batch is that of the first call that fails. -/
lemma invokeAfter_error {e : Error} (hx : invokeAfter h updates calls w = some (.error e, w')) :
    ∃ before c after all v v', calls = before ++ c :: after ∧ invokeAfter h updates before w = some (.ok all, v) ∧
      invoke h c .undefined v = some (.error e, v') := by
  induction calls generalizing updates w with
  | nil => cases hx
  | cons c rest ih =>
    obtain ⟨q, w₁, hc, hx⟩ := attempt_bind_eq_some.1 hx
    cases q with
    | ok o =>
      obtain ⟨before, d, after, all, v, v', rfl, hbefore, hd⟩ := ih hx
      have hstep : (invoke h c .undefined).attempt w = some (.ok (.ok o), w₁) := by rw [attempt_apply, hc]; rfl
      refine ⟨c :: before, d, after, all, v, v', rfl, ?_, hd⟩
      rw [invokeAfter, bind_ok hstep]
      exact hbefore
    | error e' =>
      obtain ⟨w₂, hgo, -⟩ := LoopDispatch.letGo_apply (handleKeys updates) w₁
      dsimp only at hx
      rw [bind_ok hgo] at hx
      cases hx
      exact ⟨[], c, rest, updates, w, w₁, rfl, rfl, hc⟩

variable (hn : ∀ a call words, NativeCode call (h.run a call words)) (hr : h.Runs Evolves)
  (hlasts : ∀ e, h.Runs (Lasts e))

include hn hr hlasts

/-- The course of calls that all return: each native function runs once, in order. The handles of what was registered
are in what the calls gave for cells, and handles are lost only while native functions run. -/
lemma invokeAfter_course (hw : w.Keyed) (hx : invokeAfter h updates calls w = some (.ok all, w')) :
    ∃ more ran made, all = updates ++ more ∧ Course h ran made w w' ∧ ran.map Ran.call = calls ∧
      (∀ e ∈ w.handles, e ∈ w'.handles ∨ LostIn ran e) ∧
      ∀ e ∈ made, e.1 ∈ handleKeys more ∧ (e ∈ w'.handles ∨ LostIn ran e) := by
  induction calls generalizing updates w with
  | nil =>
    cases hx
    exact ⟨[], [], [], (List.append_nil _).symm, .done _, rfl, fun _ he => .inl he, fun _ he => (by cases he)⟩
  | cons c rest ih =>
    obtain ⟨q, w₁, hc, hx⟩ := attempt_bind_eq_some.1 hx
    cases q with
    | ok o =>
      obtain ⟨ran, made, hcall⟩ := invoke_course hn hr hw hlasts hc
      obtain ⟨hcalled, hmade⟩ := hcall.returned o rfl
      obtain ⟨more, ran', made', rfl, hrest, hran', hkept', hmade'⟩ := ih (hw.evolves (hcall.course.along hr)) hx
      have later {e : HandleKey × ObjectId × Nat} (h : e ∈ w'.handles ∨ LostIn ran' e) :
          e ∈ w'.handles ∨ LostIn (ran ++ ran') e := h.imp id (LostIn.of_suffix ran)
      refine ⟨o.updates ++ more, ran ++ ran', made ++ made', List.append_assoc _ _ _, hcall.course.trans hrest, ?_,
        fun e he => ?_, fun e he => ?_⟩
      · rw [List.map_append, hcalled, hran']
        rfl
      · rcases hcall.kept e he with hheld | hlost
        · exact later (hkept' e hheld)
        · exact .inr (hlost.of_prefix ran')
      · rw [handleKeys_append]
        rcases List.mem_append.1 he with he | he
        · obtain ⟨hheld, hkey⟩ := hmade e he
          rw [value_of_undefined hc] at hkey
          exact ⟨List.mem_append_left _ hkey, later (hkept' e hheld)⟩
        · obtain ⟨hkey, hheld⟩ := hmade' e he
          exact ⟨List.mem_append_right _ hkey, later hheld⟩
    | error e =>
      rcases bind_eq_some.1 hx with ⟨_, w₂, -, hx⟩ | ⟨e, -, he⟩
      · cases hx
      · cases he

end Call

/-- The course of calls of which one failed. Native functions have run in order, that of the call that failed at most
once and those after it never, and no cell was changed but by them. Of nothing that was registered a handle is held any
more: the removal was sent, unless the script let go of the handle itself while a native function ran. -/
structure Undone (h : Host S) (before : List Call) (c : Call) (w w' : World S) (ran : List (Ran S))
    (made : List (HandleKey × ObjectId × Nat)) : Prop where
  course : Course h ran made w w'
  order : ran.map Ran.call = before ∨ ran.map Ran.call = before ++ [c]
  cells : Linked w.cells ran w'.cells
  gone : ∀ e ∈ made, e ∉ w'.handles
  sent : ∀ e ∈ made, Sent e w w' ∨ LostIn ran e

/-- **Calls of which one fails are undone.** -/
theorem calls_undone {h : Host S} (hn : ∀ a call words, NativeCode call (h.run a call words)) (hr : h.Runs Evolves)
    (hlasts : ∀ e, h.Runs (Lasts e)) {before : List Call} {c : Call} {result : Descriptor} {x : Error}
    {all : List (CellId × Value)} {w v v' w' : World S} (hw : w.Keyed)
    (hbefore : Call.invokeAll h before w = some (.ok all, v)) (hc : Call.invoke h c result v = some (.error x, v'))
    (hgo : LoopDispatch.letGo (Call.handleKeys all) v' = some (.ok (), w')) :
    ∃ ran made, Undone h before c w w' ran made := by
  obtain ⟨_, ran, made, rfl, hcourse, hran, -, hmade⟩ := Call.invokeAfter_course hn hr hlasts hw hbefore
  have hv := hcourse.along hr
  obtain ⟨ran', made', hcall⟩ := invoke_course hn hr (hw.evolves hv) hlasts hc
  have hv' : Evolves w v' := hv.trans (hcall.course.along hr)
  have hend : Evolves v' w' := Evolution.letGo _ hgo
  have hall : Course h (ran ++ ran') (made ++ made') w w' := by
    have h := (hcourse.trans hcall.course).trans (course_letGo hgo)
    rwa [List.append_nil, List.append_nil] at h
  have hleft : w'.handles = v'.handles.filter fun e => e.1 ∉ Call.handleKeys all := by
    obtain ⟨u, hgo', hu⟩ := LoopDispatch.letGo_apply (Call.handleKeys all) v'
    rw [hgo'] at hgo
    cases hgo
    exact hu
  refine ⟨_, _, hall, ?_, hall.linked hn, fun e he hstays => ?_, fun e he => ?_⟩
  · rw [List.map_append, hran]
    rcases hcall.once with h | h <;> rw [h]
    · exact .inl (List.append_nil _)
    · exact .inr rfl
  · rw [hleft, List.mem_filter] at hstays
    rcases List.mem_append.1 he with he | he
    · exact absurd (hmade e he).1 (by simpa using hstays.2)
    · exact (hcall.failed x rfl e he).1 hstays.1
  · rcases List.mem_append.1 he with he | he
    · obtain ⟨hkey, hheld | hlost⟩ := hmade e he
      · rcases hcall.kept e hheld with hheld' | hlost
        · exact .inl ((letGo_sent (hw.evolves hv') hheld' hkey hgo).trans hv' .refl fun _ ht => ht)
        · exact .inr (LostIn.of_suffix ran hlost)
      · exact .inr (hlost.of_prefix ran')
    · exact .inl ((hcall.failed x rfl e he).2.trans hv hend (Along.each Waiting.finalize _ hgo))

end NativeBridge
