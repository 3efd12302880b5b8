import NativeBridge.Proofs.Access.Holding
import NativeBridge.Proofs.Native.Scalars

/-!
Programs of the loop thread that install its state, tear it down and run work that holds it, nested in each other to any
depth. A body may return or raise an error, and a native function that releases an object in a teardown may be a program
of its own. The state is in use exactly while a body or a teardown is on the stack; there it is refused to everybody
else, and when the outermost of them has ended it can be had again.
-/

namespace NativeBridge.Access

open Eff

variable {S : Sides} {α β : Type}

/-! ### Programs -/

/-- What a program does besides. It may read and change anything but whether a state is installed or in use. -/
structure Work (S : Sides) (α : Type) where
  run : World S → α × World S
  thread : ∀ w, (run w).2.thread = w.thread
  inUse : ∀ w, (run w).2.inUse = w.inUse
  installed : ∀ w, (run w).2.state.isSome = w.state.isSome

inductive Program (S : Sides) : Type → Type 1 where
  | pure {α : Type} (a : α) : Program S α
  | throw {α : Type} (e : Error) : Program S α
  | work {α : Type} (x : Work S α) : Program S α
  | isInstalled : Program S Bool
  | install (s : LoopState) : Program S Unit
  /-- a teardown, and what the native functions do that it calls to release objects -/
  | teardown (releases : Address → Registers → Program S Unit) : Program S Unit
  /-- work that holds the state -/
  | holding {α : Type} (body : Program S α) : Program S α
  | attempt {α : Type} (p : Program S α) : Program S (Except Error α)
  | bind {α β : Type} (p : Program S α) (f : α → Program S β) : Program S β

/-- The host whose native functions are those of `releases`. An error of theirs does not reach who calls them. -/
def releasing (h : Host S) (releases : Address → Registers → Eff S Unit) : Host S :=
  { h with run := fun a _ words => do
      let _ ← attempt (releases a words)
      return {} }

/-- The run of a program. -/
def Program.run (h : Host S) {α : Type} : Program S α → Eff S α
  | .pure a => Pure.pure a
  | .throw e => MonadExcept.throw e
  | .work x => Eff.update x.run
  | .isInstalled => LoopState.isInstalled
  | .install s => LoopState.install s
  | .teardown releases => LoopState.teardown (releasing h fun a words => (releases a words).run h)
  | .holding body => LoopState.holding (body.run h)
  | .attempt p => Eff.attempt (p.run h)
  | .bind p f => p.run h >>= fun a => (f a).run h

/-- What is on the stack: a body of work that holds the state, or a teardown that lets go of what the state owns. -/
inductive Frame where
  | body | clear
  deriving DecidableEq

open Classical in
/-- The host whose function at `a` does not come back when it is called with `words` in the world `v`. -/
noncomputable def stalling (h : Host S) (a : Address) (words : Registers) (v : World S) : Host S :=
  { h with run := fun b call more w => if b = a ∧ more = words ∧ w = v then none else h.run b call more w }

lemma stalling_apply (h : Host S) (a : Address) (words : Registers) (v : World S) (call : CallCode S) :
    (stalling h a words v).run a call words v = none :=
  if_pos ⟨rfl, rfl, rfl⟩

lemma stalling_run {h : Host S} {a b : Address} {words more : Registers} {u v : World S} {call : CallCode S}
    (hne : ¬(b = a ∧ more = words ∧ u = v)) : (stalling h a words v).run b call more u = h.run b call more u :=
  if_neg hne

/-- When `p` is run in a world, with frames on the stack, its part `q` begins in the world `u` with the frames `inner`,
innermost first. -/
inductive Begins (h : Host S) {β : Type} (q : Program S β) (inner : List Frame) (u : World S) :
    ∀ {α : Type}, Program S α → List Frame → World S → Prop where
  | here : Begins h q inner u q inner u
  /-- The body begins in the world that work finds which holds the state. -/
  | body {α : Type} {body : Program S α} {stack : List Frame} {w v w' : World S}
      (hv : LoopState.holding get w = some (.ok v, w')) (hq : Begins h q inner u body (.body :: stack) v) :
      Begins h q inner u (.holding body) stack w
  /-- A native function begins in the world that the teardown calls it in: it would not end if the call did not. -/
  | release {releases : Address → Registers → Program S Unit} {stack : List Frame} {w v : World S} {a : Address}
      {words : Registers}
      (hv : LoopState.teardown (stalling (releasing h fun a words => (releases a words).run h) a words v) w = none)
      (hq : Begins h q inner u (releases a words) (.clear :: stack) v) :
      Begins h q inner u (.teardown releases) stack w
  | attempt {α : Type} {p : Program S α} {stack : List Frame} {w : World S} (hq : Begins h q inner u p stack w) :
      Begins h q inner u (.attempt p) stack w
  | first {α γ : Type} {p : Program S α} {f : α → Program S γ} {stack : List Frame} {w : World S}
      (hq : Begins h q inner u p stack w) : Begins h q inner u (.bind p f) stack w
  | second {α γ : Type} {p : Program S α} {f : α → Program S γ} {stack : List Frame} {w v : World S} {a : α}
      (hp : p.run h w = some (.ok a, v)) (hq : Begins h q inner u (f a) stack v) :
      Begins h q inner u (.bind p f) stack w

/-! ### Access to the state -/

/-- The effect raises an error of access to the state, and does nothing. -/
def Refused (x : Eff S α) (w : World S) : Prop := ∃ e : Error, e.kind = .stateAccess ∧ x w = some (.error e, w)

/-- A state is installed, and neither work nor a teardown nor another state can have its place. -/
structure Exclusive (w : World S) : Prop where
  installed : w.state.isSome
  holding {α : Type} (body : Eff S α) : Refused (LoopState.holding body) w
  teardown (h : Host S) : Refused (LoopState.teardown h) w
  install (s : LoopState) : Refused (LoopState.install s) w

/-- A state that is installed can be held and torn down, and one can be installed where there is none. -/
structure Accessible (h : Host S) (w : World S) : Prop where
  holding {α : Type} (body : Program S α) (hs : w.state.isSome) : ∃ r v,
    body.run h { w with inUse := true } = some (r, v) ∧ v.state.isSome ∧
      (Program.holding body).run h w = some (r, { v with inUse := false })
  teardown (releases : Address → Registers → Program S Unit) (hs : w.state.isSome) : ∃ v : World S,
    (Program.teardown releases).run h w = some (.ok (), { v with inUse := false, state := none })
  installed (s : LoopState) (hs : w.state.isSome) : Refused (LoopState.install s) w
  outside {α : Type} (body : Eff S α) (hs : w.state = none) : Refused (LoopState.holding body) w
  absent (h : Host S) (hs : w.state = none) : LoopState.teardown h w = some (.ok (), w)
  install (s : LoopState) (hs : w.state = none) : LoopState.install s w = some (.ok (), { w with state := some s })

/-- What there is to say of a world while these frames are on the stack. -/
structure Governed (h : Host S) (stack : List Frame) (w : World S) : Prop where
  inUse : w.inUse = true ↔ stack ≠ []
  isInstalled : LoopState.isInstalled w = some (.ok w.state.isSome, w)
  exclusive (hstack : stack ≠ []) : Exclusive w
  accessible (hstack : stack = []) : Accessible h w

/-- On the loop thread, with a state installed if it is in use. -/
structure Regular (w : World S) : Prop where
  thread : w.thread = .loop
  installed : w.inUse = true → w.state.isSome

lemma Regular.isInstalled {w : World S} (hw : Regular w) :
    (LoopState.isInstalled : Eff S Bool) w = some (.ok w.state.isSome, w) := by
  rw [LoopState.isInstalled_apply, hw.thread]
  rfl

lemma granted_iff {w : World S} :
    LoopState.refusal? w = none ↔ w.thread = .loop ∧ w.state.isSome ∧ w.inUse = false := by
  unfold LoopState.refusal?
  split_ifs <;> simp_all

lemma install_refused {w : World S} (hs : w.state.isSome) (s : LoopState) : Refused (LoopState.install s) w := by
  refine ⟨.alreadyInstalled, rfl, ?_⟩
  rw [LoopState.install, bind_ok (get_apply w), if_pos hs]
  rfl

lemma install_apply {w : World S} (hs : w.state = none) (s : LoopState) :
    LoopState.install s w = some (.ok (), { w with state := some s }) := by
  rw [LoopState.install, bind_ok (get_apply w), if_neg (by simp [hs])]
  rfl

lemma Regular.exclusive {w : World S} (hw : Regular w) (hu : w.inUse = true) : Exclusive w where
  installed := hw.installed hu
  holding body := by
    have hr : LoopState.refusal? w = some .reentrant := by
      simp [LoopState.refusal?, hw.thread, hw.installed hu, hu]
    exact ⟨_, rfl, LoopState.holding_of_refusal hr body⟩
  teardown h := ⟨_, rfl, LoopState.teardown_of_inUse hw.thread (hw.installed hu) hu h⟩
  install s := install_refused (hw.installed hu) s

/-! ### Teardown -/

/-- The effect succeeds while the state is in use, and leaves it so. -/
def Clears (x : Eff S α) : Prop :=
  ∀ ⦃w⦄, Regular w → w.inUse = true → ∃ a w', x w = some (.ok a, w') ∧ Regular w' ∧ w'.inUse = true

namespace Clears

lemma chains : Chains fun _ (x : Eff S _) => Clears x where
  pure a w hw hu := ⟨a, w, rfl, hw, hu⟩
  bind hx hf w hw hu := by
    obtain ⟨a, w₁, h₁, hw₁, hu₁⟩ := hx hw hu
    obtain ⟨b, w₂, h₂, hw₂, hu₂⟩ := hf a hw₁ hu₁
    exact ⟨b, w₂, (bind_ok h₁).trans h₂, hw₂, hu₂⟩

lemma modify {f : World S → World S} (ht : ∀ w, (f w).thread = w.thread) (hu : ∀ w, (f w).inUse = w.inUse)
    (hs : ∀ w, (f w).state.isSome = w.state.isSome) : Clears (modify f : Eff S PUnit) :=
  fun w hw hw' => ⟨_, f w, rfl, ⟨(ht w).trans hw.thread, fun _ => (hs w).symm ▸ hw.installed hw'⟩, (hu w).trans hw'⟩

lemma releaseRetained (r : Retained) : Clears (LoopState.releaseRetained r : Eff S Unit) := by
  intro w hw hu
  obtain ⟨w', hx, haside⟩ := Custody.releaseRetained_aside r w
  have hs : w'.state.isSome = w.state.isSome := by simpa [World.estate] using congrArg Option.isSome haside.estate
  exact ⟨_, w', hx, ⟨haside.thread.trans hw.thread, fun _ => hs.symm ▸ hw.installed hu⟩, haside.inUse.trans hu⟩

variable {h : Host S} (hrun : ∀ a words, Clears (h.run a (fun _ _ => Eff.stuck) words))

include hrun

lemma clear (s : LoopState) : Clears (LoopState.clear h s) := by
  have hfree (a : Address) : Clears (Memory.release a : Eff S Unit) :=
    modify (fun _ => rfl) (fun _ => rfl) fun _ => rfl
  have hupdate (f : LoopState → LoopState) : Clears (LoopState.update f : Eff S Unit) :=
    modify (fun _ => rfl) (fun _ => rfl) fun _ => Option.isSome_map
  exact chains.clear (chains.drop (chains.call? hrun) hfree) hupdate releaseRetained

/-- A teardown that begins where the state is free lets go of what it owns and removes it. -/
lemma teardown {w : World S} (hw : Regular w) (hu : w.inUse = false) (hs : w.state.isSome) :
    ∃ v, Regular v ∧ LoopState.teardown h w = some (.ok (), { v with inUse := false, state := none }) := by
  obtain ⟨s, hs⟩ := Option.isSome_iff_exists.1 hs
  obtain ⟨_, v, hv, hregular, -⟩ :=
    clear hrun s (w := { w with inUse := true }) ⟨hw.thread, fun _ => by simp [hs]⟩ rfl
  refine ⟨{ v with record := v.state.elim v.record fun s => s.releaseLibraries v.record },
    ⟨hregular.thread, hregular.installed⟩, ?_⟩
  rw [LoopState.teardown_of_free hw.thread hs hu, bind_ok hv]
  rfl

end Clears

/-! ### Runs -/

/-- From where the state is free or in use, the effect ends there, with a value or an error. -/
def Ends (x : Eff S α) : Prop :=
  ∀ ⦃w⦄, Regular w → ∃ r w', x w = some (r, w') ∧ Regular w' ∧ w'.inUse = w.inUse

namespace Ends

lemma update {f : World S → α × World S} (ht : ∀ w, (f w).2.thread = w.thread) (hu : ∀ w, (f w).2.inUse = w.inUse)
    (hs : ∀ w, (f w).2.state.isSome = w.state.isSome) : Ends (Eff.update f) :=
  fun w hw => ⟨_, _, rfl, ⟨(ht w).trans hw.thread, fun h => (hs w).symm ▸ hw.installed ((hu w).symm.trans h)⟩, hu w⟩

lemma attempt {x : Eff S α} (hx : Ends x) : Ends x.attempt := by
  intro w hw
  obtain ⟨r, w', h, hw', hu⟩ := hx hw
  exact ⟨.ok r, w', by rw [attempt_apply, h]; rfl, hw', hu⟩

lemma sequences : Sequences fun _ (x : Eff S _) => Ends x where
  pure a := fun w hw => ⟨.ok a, w, rfl, hw, rfl⟩
  throw e := fun w hw => ⟨.error e, w, rfl, hw, rfl⟩
  bind hx hf := by
    intro w hw
    obtain ⟨r, w₁, h₁, hw₁, hu₁⟩ := hx hw
    cases r with
    | error e => exact ⟨.error e, w₁, bind_error h₁, hw₁, hu₁⟩
    | ok a =>
      obtain ⟨r, w₂, h₂, hw₂, hu₂⟩ := hf a hw₁
      exact ⟨r, w₂, (bind_ok h₁).trans h₂, hw₂, hu₂.trans hu₁⟩

lemma install (s : LoopState) : Ends (LoopState.install s : Eff S Unit) := by
  intro w hw
  cases hs : w.state with
  | none => exact ⟨_, _, install_apply hs s, ⟨hw.thread, fun _ => rfl⟩, rfl⟩
  | some =>
    obtain ⟨e, -, he⟩ := install_refused (Option.isSome_of_eq_some hs) s
    exact ⟨_, _, he, hw, rfl⟩

/-- While the state is in use nobody else gets it, and when the body has ended it is free. -/
lemma holding {x : Eff S α} (hx : Ends x) : Ends (LoopState.holding x) := by
  intro w hw
  cases hr : LoopState.refusal? w with
  | some e => exact ⟨_, _, LoopState.holding_of_refusal hr x, hw, rfl⟩
  | none =>
    obtain ⟨-, hs, hu⟩ := granted_iff.1 hr
    obtain ⟨r, v, hv, hregular, -⟩ := hx (w := { w with inUse := true }) ⟨hw.thread, fun _ => hs⟩
    refine ⟨r, { v with inUse := false }, ?_, ⟨hregular.thread, fun h => by cases h⟩, hu.symm⟩
    rw [LoopState.holding_of_granted hr, hv]
    rfl

/-- What a native function does that releases an object does not disturb the teardown. -/
lemma releasing {h : Host S} {releases : Address → Registers → Eff S Unit} (hx : ∀ a words, Ends (releases a words))
    (a : Address) (call : CallCode S) (words : Registers) : Clears ((releasing h releases).run a call words) := by
  intro w hw hu
  obtain ⟨r, w', hr, hw', hu'⟩ := hx a words hw
  refine ⟨{}, w', ?_, hw', hu'.trans hu⟩
  exact attempt_bind_eq_some.2 ⟨r, w', hr, rfl⟩

lemma teardown {h : Host S} (hrun : ∀ a words, Clears (h.run a (fun _ _ => Eff.stuck) words)) :
    Ends (LoopState.teardown h) := by
  intro w hw
  by_cases hs : w.state.isSome
  · cases hu : w.inUse with
    | true => exact ⟨_, _, LoopState.teardown_of_inUse hw.thread hs hu h, hw, hu⟩
    | false =>
      obtain ⟨v, hv, hx⟩ := Clears.teardown hrun hw hu hs
      exact ⟨_, _, hx, ⟨hv.thread, fun h => by cases h⟩, rfl⟩
  · exact ⟨_, _, LoopState.teardown_of_absent (by simp [hs]) h, hw, rfl⟩

end Ends

/-- Every program ends, and leaves the state in use or free as it found it. -/
lemma Program.ends (h : Host S) (p : Program S α) : Ends (p.run h) := by
  induction p with
  | pure a => exact Ends.sequences.pure a
  | throw e => exact Ends.sequences.throw e
  | work x => exact .update x.thread x.inUse x.installed
  | isInstalled => exact fun w hw => ⟨_, w, hw.isInstalled, hw, rfl⟩
  | install s => exact .install s
  | teardown releases ih => exact .teardown fun a words => Ends.releasing ih a _ words
  | holding body ih => exact ih.holding
  | attempt p ih => exact ih.attempt
  | bind p f ih ihf => exact Ends.sequences.bind ih ihf

lemma Regular.accessible {w : World S} (h : Host S) (hw : Regular w) (hu : w.inUse = false) : Accessible h w where
  holding body hs := by
    have hr : LoopState.refusal? w = none := granted_iff.2 ⟨hw.thread, hs, hu⟩
    obtain ⟨r, v, hv, hregular, hinUse⟩ := body.ends h (w := { w with inUse := true }) ⟨hw.thread, fun _ => hs⟩
    refine ⟨r, v, hv, hregular.installed hinUse, ?_⟩
    rw [Program.run, LoopState.holding_of_granted hr, hv]
    rfl
  teardown releases hs := by
    have hends (a : Address) (words : Registers) : Ends ((releases a words).run h) := (releases a words).ends h
    obtain ⟨v, -, hx⟩ := Clears.teardown (fun a words => Ends.releasing hends a _ words) hw hu hs
    exact ⟨v, hx⟩
  installed s hs := install_refused hs s
  outside body hs := by
    have hr : LoopState.refusal? w = some .outsideLoop := by simp [LoopState.refusal?, hs]
    exact ⟨_, rfl, LoopState.holding_of_refusal hr body⟩
  absent h hs := LoopState.teardown_of_absent (by simp [hs]) h
  install s hs := install_apply hs s

lemma Regular.governed {w : World S} (h : Host S) {stack : List Frame} (hw : Regular w)
    (hu : w.inUse = true ↔ stack ≠ []) : Governed h stack w where
  inUse := hu
  isInstalled := hw.isInstalled
  exclusive hstack := hw.exclusive (hu.2 hstack)
  accessible hstack := hw.accessible h (by simpa [hstack] using hu)

/-- The world in which a native function is called in a teardown. -/
lemma called_while_held {h : Host S} {releases : Address → Registers → Eff S Unit} {w v : World S} {a : Address}
    {words : Registers} (hx : ∀ a words, Ends (releases a words)) (hw : Regular w)
    (hv : LoopState.teardown (stalling (releasing h releases) a words v) w = none) :
    w.inUse = false ∧ Regular v ∧ v.inUse = true := by
  refine ⟨?_, ?_⟩
  · by_contra hu
    have hheld : w.inUse = true := by simpa using hu
    rw [LoopState.teardown_of_inUse hw.thread (hw.installed hheld) hheld] at hv
    cases hv
  · by_contra hnot
    have hends : Ends (LoopState.teardown (stalling (releasing h releases) a words v)) := by
      refine .teardown fun b more u hu hheld => ?_
      have hne : ¬(b = a ∧ more = words ∧ u = v) := fun he => hnot (he.2.2 ▸ ⟨hu, hheld⟩)
      rw [stalling_run hne]
      exact Ends.releasing hx b _ more hu hheld
    obtain ⟨r, w', hx, -⟩ := hends hw
    rw [hv] at hx
    cases hx

/-- At most one body or teardown is on the stack, and the state is in use if there is one. -/
lemma Begins.regular {h : Host S} {p : Program S α} {q : Program S β} {inner stack : List Frame} {w u : World S}
    (hq : Begins h q inner u p stack w) (hw : Regular w) (hu : w.inUse = true ↔ stack ≠ []) (hl : stack.length ≤ 1) :
    Regular u ∧ (u.inUse = true ↔ inner ≠ []) ∧ inner.length ≤ 1 := by
  induction hq with
  | here => exact ⟨hw, hu, hl⟩
  | @body _ body stack w v w' hv _ ih =>
    cases hr : LoopState.refusal? w with
    | some e => cases (LoopState.holding_of_refusal hr _).symm.trans hv
    | none =>
      cases (LoopState.holding_of_granted hr _).symm.trans hv
      obtain ⟨-, hs, hfree⟩ := granted_iff.1 hr
      have hempty : stack = [] := by simpa [hfree] using hu
      subst hempty
      exact ih ⟨hw.thread, fun _ => hs⟩ (by simp) (by simp)
  | @release releases stack w v a words hv _ ih =>
    obtain ⟨hfree, hv, hheld⟩ := called_while_held (fun a words => (releases a words).ends h) hw hv
    have hempty : stack = [] := by simpa [hfree] using hu
    subst hempty
    exact ih hv (by simp [hheld]) (by simp)
  | attempt _ ih | first _ ih => exact ih hw hu hl
  | second hp _ ih =>
    obtain ⟨r, w', hr, hw', hu'⟩ := Program.ends h _ hw
    cases hp.symm.trans hr
    exact ih hw' (hu' ▸ hu) hl

/-- **The state is in use exactly while a body or a teardown is on the stack.** Wherever a part `q` of a program begins,
be it in bodies, in what is caught of them, or in the release of an object, and also where it ends, normally or with an
error: the state is in use if there is a frame on the stack, and then work that would hold it, a teardown and another
state are refused with nothing done; and if there is none, work holds a state that is installed and leaves it free. No
frame is ever on top of another. -/
theorem in_use_iff_on_stack (h : Host S) {p : Program S α} {q : Program S β} {stack : List Frame} {w u : World S}
    (ht : w.thread = .loop) (hu : w.inUse = false) (hq : Begins h q stack u p [] w) :
    stack.length ≤ 1 ∧ Governed h stack u ∧ ∃ r u', q.run h u = some (r, u') ∧ Governed h stack u' := by
  obtain ⟨hregular, hinUse, hl⟩ := hq.regular ⟨ht, fun h => by cases hu.symm.trans h⟩ (by simp [hu]) (by simp)
  obtain ⟨r, u', hr, hregular', hinUse'⟩ := q.ends h hregular
  exact ⟨hl, hregular.governed h hinUse, r, u', hr, hregular'.governed h (hinUse' ▸ hinUse)⟩

/-- An object is registered, and every function for native lifetimes is there. -/
def furnished : World ⟨Unit, Unit, Unit, Unit⟩ where
  native := ()
  side := ()
  state := some { lifecycle := ⟨fun _ => some 1, []⟩, registry := { entries := [(1, .object 7)], nextId := 2 } }

/-- The world in which a teardown of that state releases the object. -/
def furnishedInTeardown : World ⟨Unit, Unit, Unit, Unit⟩ :=
  { furnished with
    inUse := true
    state := some { lifecycle := ⟨fun _ => some 1, []⟩, registry := { nextId := 2 } } }

/-- Work that raises an error, and then a teardown. -/
def failThenTearDown (release : Program ⟨Unit, Unit, Unit, Unit⟩ Unit) : Program ⟨Unit, Unit, Unit, Unit⟩ Unit :=
  .bind (.attempt (.holding (.throw .embeddedNul : Program _ Unit))) fun _ => .teardown fun _ _ => release

/-- Tries to hold the state, and to tear it down. -/
def intrusion : Program ⟨Unit, Unit, Unit, Unit⟩ Unit :=
  .bind (.attempt (.holding (.pure ()))) fun _ => .teardown fun _ _ => .pure ()

/-- The release of an object is refused both. -/
theorem intrusion_refused_in_teardown :
    furnished.thread = .loop ∧ furnished.inUse = false ∧
      Begins emptyHost intrusion [.clear] furnishedInTeardown (failThenTearDown intrusion) [] furnished ∧
      Exclusive furnishedInTeardown ∧
      ((failThenTearDown intrusion).run emptyHost furnished).map (fun p => (p.2.inUse, p.2.state.isSome)) =
        some (false, false) := by
  have hcalled : LoopState.teardown (stalling (releasing emptyHost fun _ _ => intrusion.run emptyHost) 1 { ints := [7] }
      furnishedInTeardown) furnished = none := by
    rw [LoopState.teardown_of_free rfl rfl rfl]
    refine bind_none ((bind_ok (modify_apply _ _)).trans (bind_none (bind_none ?_)))
    exact bind_none (bind_none (stalling_apply ..))
  have hq : Begins emptyHost intrusion [.clear] furnishedInTeardown (failThenTearDown intrusion) [] furnished :=
    .second (v := furnished) (a := .error .embeddedNul) rfl (.release hcalled .here)
  exact ⟨rfl, rfl, hq, (in_use_iff_on_stack emptyHost rfl rfl hq).2.1.exclusive (by simp), by decide +kernel⟩

end NativeBridge.Access
