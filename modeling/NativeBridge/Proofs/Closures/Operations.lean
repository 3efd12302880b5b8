import NativeBridge.Proofs.Closures.Sound
import NativeBridge.Proofs.Handles
import NativeBridge.Proofs.Unwinding.Arguments

/-!
The operations of the bridge as steps. A call makes values, hands them over and releases each of them however it ends.
An entry point that runs once lets go of its closure whatever the script function did, and other code that native code
calls leaves closures to the script function. What native code and script functions do in between is taken to be steps.
-/

namespace NativeBridge

open Eff

variable {S : Sides}

/-- The value holds a closure, or code for one. -/
def NativeValue.isLive : NativeValue → Bool
  | owned _ (.code _) => true
  | trampoline _ data _ _ => data != 0
  | _ => false

lemma NativeValue.Plain.isLive {v : NativeValue} (hv : v.Plain) : v.isLive = false := by
  unfold NativeValue.isLive
  split
  · exact hv.elim
  · exact hv.elim
  · rfl

lemma NativeValue.handOver_ok (v : NativeValue) (w : World S) :
    ∃ w', (v.handOver : Eff S Unit) w = some (.ok (), w') ∧ (v.isLive = false → w' = w) := by
  rcases v.plain_or with hv | ⟨p, t, rfl⟩ | ⟨code, data, destroy, dataFirst, rfl⟩
  · refine ⟨w, ?_, fun _ => rfl⟩
    unfold NativeValue.handOver
    split
    · exact hv.elim
    · rfl
  · exact ⟨w, rfl, fun _ => rfl⟩
  · rw [NativeValue.handOver]
    by_cases hd : data = 0
    · rw [if_pos hd]
      exact ⟨w, rfl, fun _ => rfl⟩
    · rw [if_neg hd]
      exact ⟨_, rfl, fun hv => absurd (by simpa [NativeValue.isLive] using hv) hd⟩

namespace Spares

lemma release {v : NativeValue} (hv : v.isLive = false) : Along Spares (v.release : Eff S Unit) := by
  rcases v.plain_or with hplain | ⟨p, t, rfl⟩ | ⟨code, data, destroy, dataFirst, rfl⟩
  · intro w r w' hx
    obtain ⟨heap, hg, h⟩ := hplain.release w
    rw [h] at hx
    cases hx
    exact .of_memory hg.ge
  · cases hv
  · have hzero : data = 0 := by simpa [NativeValue.isLive] using hv
    rw [NativeValue.release, if_pos hzero]
    exact .pure _

lemma holding {α : Type} {x : Eff S α} (hx : Along Spares x) : Along Spares (LoopState.holding x) :=
  Along.holding (fun w b => inUse b w) hx

lemma unwinding {α : Type} {x : Eff S α} (hx : Along Spares x) : Along Spares (LoopDispatch.unwinding x) := by
  refine hx.unwinding fun key w r w' h => ?_
  rw [LoopDispatch.finalize_apply] at h
  cases h
  exact ⟨Nat.le_refl _, rfl, rfl, rfl⟩

end Spares

/-- The closure that native code lets go of by calling the entry point. -/
def Entry.spent (e : Entry) (words : Registers) : Option Address :=
  match e with
  | .asyncReady => some (words.ints.getD 2 0)
  | .destroy | .unref => some (words.ints.getD 0 0)
  | _ => none

namespace Closures

/-! ### Where steps lead -/

/-- Steps lead on, and on top of the values that were alive there are now these, handed over or not. -/
structure Leads (s : State S) (values : List NativeValue) (handed : Bool) (s' : State S) : Prop where
  values : ∃ lives : List Live, lives.map Live.value = values.filter NativeValue.isLive ∧
    (∀ x ∈ lives, x.handed = handed) ∧ s'.values = lives.reverse ++ s.values
  running : s'.running = s.running
  run : Run s s'

/-- Steps lead to the world, and end with the values that were alive and the callbacks that were running before. -/
def State.Returns (s : State S) (w : World S) : Prop :=
  ∃ s', s'.world = w ∧ s'.values = s.values ∧ s'.running = s.running ∧ Run s s'

/-- Steps lead to the world in the same way, and native code does not hold the closure any more. -/
def State.ReturnsWithout (s : State S) (a : Address) (w : World S) : Prop :=
  ∃ s', s'.world = w ∧ s'.values = s.values ∧ s'.running = s.running ∧ a ∉ s'.handed ∧ Run s s'

variable {s s' s'' : State S} {vs us : List NativeValue} {handed : Bool} {w w' : World S}

namespace Leads

lemma refl' (s : State S) (handed : Bool) : Leads s [] handed s := ⟨⟨[], rfl, by simp, rfl⟩, rfl, .refl⟩

lemma trans (h : Leads s vs handed s') (h' : Leads s' us handed s'') : Leads s (vs ++ us) handed s'' := by
  obtain ⟨lives, hvalue, hhanded, hvalues⟩ := h.values
  obtain ⟨more, hvalue', hhanded', hvalues'⟩ := h'.values
  refine ⟨⟨lives ++ more, ?_, ?_, ?_⟩, h'.running.trans h.running, h.run.trans h'.run⟩
  · rw [List.map_append, hvalue, hvalue', List.filter_append]
  · exact fun x hx => (List.mem_append.1 hx).elim (hhanded x) (hhanded' x)
  · rw [hvalues', hvalues, List.reverse_append, List.append_assoc]

lemma spares (h : Leads s vs handed s') (hw : Spares s'.world w) : Leads s vs handed { s' with world := w } :=
  ⟨h.values, h.running, h.run.tail (.other hw)⟩

lemma returns (h : Leads s vs handed s') (hx : s'.Returns w) : ∃ s'', s''.world = w ∧ Leads s vs handed s'' := by
  obtain ⟨s'', hw, hvalues, hrunning, hrun⟩ := hx
  exact ⟨s'', hw, hvalues ▸ h.values, hrunning.trans h.running, h.run.trans hrun⟩

end Leads

lemma State.Returns.of_leads (h : Leads s [] handed s') : s.Returns s'.world := by
  obtain ⟨lives, hvalue, -, hvalues⟩ := h.values
  obtain rfl := List.map_eq_nil_iff.1 hvalue
  exact ⟨s', rfl, hvalues, h.running, h.run⟩

lemma State.Returns.of_spares (hw : Spares s.world w) : s.Returns w :=
  ⟨{ s with world := w }, rfl, rfl, rfl, .single (.other hw)⟩

/-! ### Values -/

/-- The values that a conversion made. -/
def converted : Except Error NativeValue → List NativeValue
  | .ok v => [v]
  | .error _ => []

lemma makeCallback_leads (hp : s.world.Placed) (hstate : s.world.state.isSome) {function : Option FunctionId}
    {signature : Signature} {r : Except Error NativeValue}
    (hx : makeCallback function signature s.world = some (r, w)) :
    ∃ s', s'.world = w ∧ Leads s (converted r) false s' := by
  have made {v : NativeValue} (hv : v.isLive = true) (hx : makeCallback function signature s.world = some (.ok v, w)) :
      ∃ s', s'.world = w ∧ Leads s [v] false s' := by
    refine ⟨s.made signature v w, rfl, ⟨⟨[⟨v, s.world.heap.reserve.1, false⟩], ?_, ?_, rfl⟩, rfl, ?_⟩⟩
    · rw [List.filter_cons_of_pos hv]
      rfl
    · simp
    · exact .single (.make hstate hx)
  cases makeCallback_cases hp hx with
  | refused e hg => exact ⟨_, rfl, (Leads.refl' s false).spares (.of_memory hg)⟩
  | trampoline =>
    have hd : s.world.heap.reserve.1 ≠ 0 := (Nat.mul_pos (Nat.succ_pos _) (by decide)).ne'
    exact made (bne_iff_ne.2 hd) hx
  | code | kept => exact made rfl hx

/-- Values are released one after the other. -/
lemma Leads.release (h : Leads s vs handed s') {r : Except Error Unit}
    (hx : Eff.each NativeValue.release vs s'.world = some (r, w)) :
    r = .ok () ∧ ∃ s'', s''.world = w ∧ Leads s [] handed s'' := by
  induction vs generalizing s' with
  | nil =>
    cases hx
    exact ⟨rfl, s', rfl, h⟩
  | cons v vs ih =>
    obtain ⟨w₁, h₁⟩ := v.release_ok s'.world
    rw [Eff.each, bind_ok h₁] at hx
    obtain ⟨lives, hvalue, hhanded, hvalues⟩ := h.values
    cases hv : v.isLive with
    | false =>
      rw [List.filter_cons_of_neg (by simp [hv])] at hvalue
      have hleads : Leads s vs handed s' := ⟨⟨lives, hvalue, hhanded, hvalues⟩, h.running, h.run⟩
      exact ih (hleads.spares (Spares.release hv h₁)) hx
    | true =>
      rw [List.filter_cons_of_pos hv, List.map_eq_cons_iff] at hvalue
      obtain ⟨x, rest, rfl, rfl, hvalue⟩ := hvalue
      rw [List.reverse_cons, List.append_assoc, List.singleton_append] at hvalues
      have hstep : Step s' { s' with world := w₁, values := rest.reverse ++ s.values } := .release hvalues h₁
      have hleads : Leads s vs handed { s' with world := w₁, values := rest.reverse ++ s.values } :=
        ⟨⟨rest, hvalue, fun y hy => hhanded y (List.mem_cons_of_mem _ hy), rfl⟩, h.running, h.run.tail hstep⟩
      exact ih hleads hx

/-- Values are handed over one after the other: of those in `vs`, the ones that hold a closure are alive on top of the
values that were alive `before`. -/
lemma handOver_run {lives before : List Live} (hvalue : lives.map Live.value = vs.filter NativeValue.isLive)
    (hfirst : ∀ x ∈ lives, x.handed = false) (hvalues : s.values = lives.reverse ++ before) {r : Except Error Unit}
    (hx : Eff.each NativeValue.handOver vs s.world = some (r, w)) :
    r = .ok () ∧ ∃ s', s'.world = w ∧ s'.running = s.running ∧
      s'.values = (lives.map fun x => { x with handed := true }).reverse ++ before ∧ s.handed ⊆ s'.handed ∧
      (∀ x ∈ lives, x.isTrampoline → x.closure ∈ s'.handed) ∧ Run s s' := by
  induction vs generalizing s lives before with
  | nil =>
    cases hx
    obtain rfl := List.map_eq_nil_iff.1 hvalue
    exact ⟨rfl, s, rfl, rfl, hvalues, List.Subset.refl _, fun x hx => absurd hx List.not_mem_nil, .refl⟩
  | cons v vs ih =>
    obtain ⟨w₁, h₁, hsame⟩ := v.handOver_ok s.world
    rw [Eff.each, bind_ok h₁] at hx
    cases hv : v.isLive with
    | false =>
      rw [List.filter_cons_of_neg (by simp [hv])] at hvalue
      obtain rfl := hsame hv
      exact ih hvalue hfirst hvalues hx
    | true =>
      rw [List.filter_cons_of_pos hv, List.map_eq_cons_iff] at hvalue
      obtain ⟨x, rest, rfl, rfl, hvalue⟩ := hvalue
      rw [List.reverse_cons, List.append_assoc, List.singleton_append] at hvalues
      rw [List.forall_mem_cons] at hfirst
      let s₁ : State S := { s with
        world := w₁
        values := rest.reverse ++ { x with handed := true } :: before
        handed := if x.isTrampoline then x.closure :: s.handed else s.handed }
      have hstep : Step s s₁ := .handOver hvalues hfirst.1 h₁
      have hvalues₁ : s₁.values = rest.reverse ++ { x with handed := true } :: before := rfl
      obtain ⟨hr, s', hw, hrunning, hvalues', hsub, hgiven, hrun⟩ := ih (s := s₁) hvalue hfirst.2 hvalues₁ hx
      have hsub₁ : s.handed ⊆ s₁.handed := by
        change s.handed ⊆ if x.isTrampoline then x.closure :: s.handed else s.handed
        split
        · exact List.subset_cons_self _ _
        · exact List.Subset.refl _
      refine ⟨hr, s', hw, hrunning, ?_, List.Subset.trans hsub₁ hsub, fun y hy htramp => ?_, .head hstep hrun⟩
      · rw [hvalues', List.map_cons, List.reverse_cons, List.append_assoc, List.singleton_append]
      · rcases List.mem_cons.1 hy with rfl | hy
        · have hhanded : s₁.handed = y.closure :: s.handed := if_pos htramp
          exact hsub (hhanded ▸ List.mem_cons_self)
        · exact hgiven y hy htramp

/-- Everything was handed over: native code holds the closures of these values, none of which has run. -/
structure Given (s : State S) (given : List NativeValue) (s' : State S) : Prop extends Leads s given true s' where
  handed : ∀ code data destroy dataFirst, NativeValue.trampoline code data destroy dataFirst ∈ given → data ≠ 0 →
    data ∈ s'.handed ∧ data ∉ s'.running

lemma Leads.handOver (hs : s.Proper) (h : Leads s vs false s') {r : Except Error Unit}
    (hx : Eff.each NativeValue.handOver vs s'.world = some (r, w)) :
    r = .ok () ∧ ∃ s'', s''.world = w ∧ Given s vs s'' := by
  obtain ⟨lives, hvalue, hhanded, hvalues⟩ := h.values
  obtain ⟨hr, s'', hw, hrunning, hvalues', -, hgiven, hrun⟩ := handOver_run hvalue hhanded hvalues hx
  refine ⟨hr, s'', hw, ⟨⟨_, ?_, ?_, hvalues'⟩, hrunning.trans h.running, h.run.trans hrun⟩, ?_⟩
  · rw [List.map_map, ← hvalue]
    rfl
  · simp
  · intro code data destroy dataFirst hmem hdata
    have hs' := hs.run h.run
    have hlive : NativeValue.trampoline code data destroy dataFirst ∈ lives.map Live.value := by
      rw [hvalue]
      exact List.mem_filter.2 ⟨hmem, bne_iff_ne.2 hdata⟩
    obtain ⟨x, hx, hxv⟩ := List.mem_map.1 hlive
    have hxs : x ∈ s'.values := by
      rw [hvalues]
      exact List.mem_append_left _ (List.mem_reverse.2 hx)
    have htramp : x.isTrampoline = true := by rw [Live.isTrampoline, hxv]
    have hclosure : x.closure = data := by
      rcases hs'.sound.stands x hxs with ⟨_, _, _, _, hv, -⟩ | ⟨t, hv, -⟩
      · cases hxv.symm.trans hv
        rfl
      · cases hxv.symm.trans hv
    refine ⟨hclosure ▸ hgiven x hx htramp, fun h => ?_⟩
    rw [hrunning] at h
    exact hs'.orderly.unhanded x hxs (hhanded x hx) (hclosure ▸ hs'.orderly.runs data h)

section

variable {h : Host S} (hn : ∀ a call words, NativeCode call (h.run a call words))

include hn

/-- The conversion of an argument makes its value, or nothing. -/
lemma toNative_leads (hp : s.world.Placed) (hstate : s.world.state.isSome) {a : Arg} {r : Except Error NativeValue}
    (hx : toNative h a s.world = some (r, w)) : ∃ s', s'.world = w ∧ Leads s (converted r) false s' := by
  have plain {x : Eff S NativeValue} (hx : x s.world = some (r, w)) (hw : Along Spares x)
      (hplain : Gives NativeValue.Plain x) : ∃ s', s'.world = w ∧ Leads s (converted r) false s' := by
    have hleads := (Leads.refl' s false).spares (hw hx)
    refine ⟨{ s with world := w }, rfl, ⟨[], ?_, by simp, rfl⟩, rfl, hleads.run⟩
    cases r with
    | error e => rfl
    | ok v =>
      have hv := (hplain hx).isLive
      rw [converted, List.filter_cons_of_neg (by simp [hv])]
      rfl
  by_cases ha : a.type.isCallback
  · obtain ⟨type, v, optional⟩ := a
    cases type with
    | callback kind scope args result source outcome =>
      have hx : callbackToNative ⟨kind, scope, args, result, source, outcome⟩ v optional s.world = some (r, w) := hx
      rw [callbackToNative] at hx
      split at hx
      · -- null stands for no callback
        cases kind <;> cases hx <;> exact ⟨s, rfl, ⟨[], rfl, by simp, rfl⟩, rfl, .refl⟩
      · rcases ofExcept_bind_eq_some.1 hx with ⟨f, -, hx⟩ | ⟨e, -, rfl, rfl⟩
        · exact makeCallback_leads hp hstate hx
        · exact ⟨s, rfl, .refl' s false⟩
    | _ => exact ha.elim
  · have hwork : LoopWork h Set.univ False True (toNative h a) :=
      .toNative (fun h => absurd h ha) (fun _ => trivial) fun _ _ => trivial
    exact plain hx (Spares.work hn hwork) (Plain.toNative ha)

/-! ### Arguments -/

/-- The values of an argument that was made ready. -/
def prepared : Except Error (NativeValue × List AbiType) → List NativeValue
  | .ok p => [p.1]
  | .error _ => []

lemma prepareArg_leads (hp : s.world.Placed) (hstate : s.world.state.isSome) {symbol : Bytes} {index : Nat} {a : Arg}
    {r : Except Error (NativeValue × List AbiType)} (hx : Call.prepareArg h symbol index a s.world = some (r, w)) :
    ∃ s', s'.world = w ∧ Leads s (prepared r) false s' := by
  rcases Call.prepareArg_cases hx with ⟨e, rfl, h₁⟩ | ⟨v, type, rfl, -, h₁⟩ | ⟨v, w₁, e, -, h₁, h₂⟩
  · exact toNative_leads hn hp hstate h₁
  · exact toNative_leads hn hp hstate h₁
  · obtain ⟨s₁, rfl, hleads⟩ := toNative_leads hn hp hstate h₁
    obtain ⟨w₂, h₃⟩ := v.release_ok s₁.world
    rw [bind_ok h₃] at h₂
    cases h₂
    have hone : Eff.each NativeValue.release [v] s₁.world = some (.ok (), w) := by
      rw [Eff.each, bind_ok h₃]
      rfl
    exact (hleads.release hone).2

/-- The values of arguments that were made ready. -/
def preparedAll {α : Type} : Except Error (List NativeValue × α) → List NativeValue
  | .ok p => p.1
  | .error _ => []

/-- If one argument fails, the values of those before it are released. -/
lemma prepareArgs_leads (hs : s.Proper) {symbol : Bytes} {args : List Arg} {index : Nat} {done : List NativeValue}
    {types : List AbiType} (hleads : Leads s done false s') (hstate : s'.world.state.isSome)
    {r : Except Error (List NativeValue × List AbiType)}
    (hx : Call.prepareArgs h symbol index done types args s'.world = some (r, w)) :
    ∃ s'', s''.world = w ∧ Leads s (preparedAll r) false s'' := by
  induction args generalizing index done types s' with
  | nil =>
    cases hx
    exact ⟨s', rfl, hleads⟩
  | cons a rest ih =>
    obtain ⟨q, w₁, h₁, h₂⟩ := attempt_bind_eq_some.1 hx
    have hkept : Kept s'.world w₁ := Kept.work hn (.prepareArg trivial fun c _ => trivial) h₁
    obtain ⟨s₁, rfl, hleads₁⟩ := prepareArg_leads hn (hs.run hleads.run).placed hstate h₁
    have hboth := hleads.trans hleads₁
    cases q with
    | ok p =>
      obtain ⟨v, more⟩ := p
      exact ih hboth (hkept.state.trans hstate) h₂
    | error e =>
      rw [prepared, List.append_nil] at hboth
      rcases bind_eq_some.1 h₂ with ⟨_, w₂, h₃, h₄⟩ | ⟨e', h₃, -⟩
      · cases h₄
        exact (hboth.release h₃).2
      · cases (hboth.release h₃).1

/-- The values of a call that was made ready. -/
def preparedCall : Except Error PreparedCall → List NativeValue
  | .ok p => p.values
  | .error _ => []

lemma prepare_leads (hs : s.Proper) (hstate : s.world.state.isSome) {c : Call} {result : Descriptor}
    {r : Except Error PreparedCall} (hx : Call.prepare h c result s.world = some (r, w)) :
    ∃ s', s'.world = w ∧ Leads s (preparedCall r) false s' := by
  rcases ofExcept_bind_eq_some.1 hx with ⟨_, -, h₁⟩ | ⟨e, -, rfl, rfl⟩
  · have hsymbol : LoopWork h Set.univ False True (LoopState.symbol h c.library c.symbol) := .symbol _ _
    have hspares := Spares.work hn hsymbol
    rcases bind_eq_some.1 h₁ with ⟨function, w₁, h₂, h₃⟩ | ⟨e, h₂, rfl⟩
    · have hstart := (Leads.refl' s false).spares (hspares h₂)
      have hkept : Kept s.world w₁ := Kept.work hn hsymbol h₂
      have hstate₁ : w₁.state.isSome := hkept.state.trans hstate
      rcases bind_eq_some.1 h₃ with ⟨⟨values, types⟩, w₂, h₄, h₅⟩ | ⟨e, h₄, rfl⟩
      · obtain ⟨s₂, rfl, hleads⟩ := prepareArgs_leads hn hs hstart hstate₁ h₄
        rcases ht : result.abi with e | type
        · rw [ht] at h₅
          rcases bind_eq_some.1 h₅ with ⟨_, w₃, h₆, h₇⟩ | ⟨e', h₆, -⟩
          · cases h₇
            exact (hleads.release h₆).2
          · cases (hleads.release h₆).1
        · rw [ht] at h₅
          cases h₅
          exact ⟨s₂, rfl, hleads⟩
      · exact prepareArgs_leads hn hs hstart hstate₁ h₄
    · exact ⟨_, rfl, (Leads.refl' s false).spares (hspares h₂)⟩
  · exact ⟨s, rfl, .refl' s false⟩

/-! ### Calls -/

lemma holding_prepare_leads (hs : s.Proper) {c : Call} {result : Descriptor} {r : Except Error PreparedCall}
    (hx : LoopState.holding (Call.prepare h c result) s.world = some (r, w)) :
    ∃ s', s'.world = w ∧ Leads s (preparedCall r) false s' := by
  rcases LoopState.holding_eq_some hx with ⟨-, rfl, e, rfl⟩ | ⟨⟨-, hstate, -⟩, w₁, h₁, rfl⟩
  · exact ⟨s, rfl, .refl' s false⟩
  · have hstart := (Leads.refl' s false).spares (Spares.inUse true s.world)
    obtain ⟨s₁, rfl, hleads⟩ := prepare_leads hn (hs.run hstart.run) hstate h₁
    exact ⟨_, rfl, (hstart.trans hleads).spares (Spares.inUse false s₁.world)⟩

/-- In the call, what native code does with what it was given are steps. -/
def CallsBySteps (h : Host S) (c : Call) (result : Descriptor) (s : State S) : Prop :=
  ∀ p w t q u, LoopState.holding (Call.prepare h c result) s.world = some (.ok p, w) → Given s p.values t →
    h.run p.function (callCode h) (h.convention.pass p.types (p.values.flatMap NativeValue.slots)) t.world = some (q, u) →
    t.Returns u

/-- **A call ends with the values that were alive before**, whether it succeeds, or fails at an argument, in native code
or in reading back. -/
theorem call_returns (hs : s.Proper) {c : Call} {result : Descriptor} (hnative : CallsBySteps h c result s)
    {r : Except Error Outcome} (hx : Call.invoke h c result s.world = some (r, w)) : s.Returns w := by
  rcases bind_eq_some.1 hx with ⟨p, w₁, h₁, h₂⟩ | ⟨e, h₁, -⟩
  · obtain ⟨s₁, rfl, hleads⟩ := holding_prepare_leads hn hs h₁
    obtain ⟨q, w₂, hbody, hlast⟩ := attempt_bind_eq_some.1 h₂
    have hused : ∃ s₂, s₂.world = w₂ ∧ Leads s p.values true s₂ := by
      rcases bind_eq_some.1 hbody with ⟨_, w₃, h₃, h₄⟩ | ⟨e, h₃, -⟩
      · obtain ⟨-, s₃, rfl, hgiven⟩ := hleads.handOver hs h₃
        have hreturns {q : Except Error Returned} {u : World S} (hrun : h.run p.function (callCode h)
            (h.convention.pass p.types (p.values.flatMap NativeValue.slots)) s₃.world = some (q, u)) :=
          hgiven.toLeads.returns (hnative p _ s₃ q u h₁ hgiven hrun)
        rcases bind_eq_some.1 h₄ with ⟨r₁, w₄, h₅, h₆⟩ | ⟨e, h₅, -⟩
        · obtain ⟨s₄, rfl, hran⟩ := hreturns h₅
          have hread (buffer : Bytes) : LoopWork h Set.univ False True (Call.readBack h c result p.values buffer) :=
            .readBack (fun _ _ => trivial) result p.values buffer
          exact ⟨_, rfl, hran.spares (Spares.unwinding (Spares.holding (Spares.work hn (hread _))) h₆)⟩
        · exact hreturns h₅
      · cases (hleads.handOver hs h₃).1
    obtain ⟨s₂, rfl, hused⟩ := hused
    rcases bind_eq_some.1 hlast with ⟨_, w₃, h₃, h₄⟩ | ⟨e, h₃, -⟩
    · obtain ⟨-, s₃, rfl, hend⟩ := hused.release h₃
      rw [ofExcept_apply] at h₄
      cases h₄
      exact .of_leads hend
    · cases (hused.release h₃).1
  · obtain ⟨s₁, rfl, hleads⟩ := holding_prepare_leads hn hs h₁
    exact .of_leads hleads

/-! ### Function pointers -/

/-- When the closure is called, what its script function does are steps. -/
def RunsBySteps (h : Host S) (a : Address) (capture : Bool) (s : State S) : Prop :=
  ∀ c w args q u, (a, c) ∈ s.world.closures → Spares s.world w → c.call h args capture w = some (q, u) →
    State.Returns { s with world := w } u

/-- To call the code with these words is to let go of native code's reference to the closure. -/
def Spends (code : Address) (words : Registers) (a : Address) : Prop :=
  a ≠ 0 ∧ ∃ e, Entry.ofAddress? code = some e ∧ e.spent words = some a

variable {a : Address} {c : Closure} {args : Eff S (List Value)} {capture : Bool} {words : Registers}

omit hn in
lemma closureAt_bind {α : Type} {f : Closure → Eff S α} {r : Except Error α}
    (hx : (do f (← Trampoline.closureAt a)) s.world = some (r, w)) :
    ∃ c, (a, c) ∈ s.world.closures ∧ f c s.world = some (r, w) := by
  have hget : (Closure.get? a : Eff S (Option Closure)) s.world = some (.ok (s.world.closures.lookup a), s.world) := rfl
  rcases hl : s.world.closures.lookup a with _ | c
  · rw [hl] at hget
    rw [Trampoline.closureAt, bind_assoc, bind_ok hget] at hx
    cases hx
  · rw [hl] at hget
    rw [Trampoline.closureAt, bind_assoc, bind_ok hget] at hx
    exact ⟨c, mem_of_lookup hl, hx⟩

omit hn in
/-- Arguments are made ready, and the script function is called. -/
lemma script_returns (hargs : Along Spares args) (hc : (a, c) ∈ s.world.closures) (hscript : RunsBySteps h a capture s)
    {q : Except Error (Option Value)}
    (hx : (do let values ← args; c.call h values capture : Eff S (Option Value)) s.world = some (q, w)) :
    s.Returns w := by
  rcases bind_eq_some.1 hx with ⟨values, w₁, h₁, h₂⟩ | ⟨e, h₁, -⟩
  · have hstart := (Leads.refl' s false).spares (hargs h₁)
    obtain ⟨s₁, rfl, hleads⟩ := hstart.returns (hscript c w₁ values q w hc (hargs h₁) h₂)
    exact .of_leads hleads
  · exact .of_spares (hargs h₁)

omit hn in
lemma notify_returns (hargs : Along Spares args) (hc : (a, c) ∈ s.world.closures) (hscript : RunsBySteps h a false s)
    {r : Except Error Unit} (hx : Trampoline.notify h c args s.world = some (r, w)) : r = .ok () ∧ s.Returns w := by
  obtain ⟨q, w₁, hbody, hend⟩ := attempt_bind_eq_some.1 hx
  cases hend
  exact ⟨rfl, script_returns hargs hc hscript hbody⟩

omit hn in
lemma request_returns {α : Type} {fallback : α} {convert : Value → α} (hargs : Along Spares args)
    (hc : (a, c) ∈ s.world.closures) (hscript : RunsBySteps h a true s) {r : Except Error α}
    (hx : Trampoline.request h c fallback args convert s.world = some (r, w)) : s.Returns w := by
  obtain ⟨q, w₁, hbody, hend⟩ := attempt_bind_eq_some.1 hx
  have hend : w₁ = w := by
    split at hend <;> cases hend <;> rfl
  exact hend ▸ script_returns hargs hc hscript hbody

omit hn in
/-- A callback that runs once is no longer held when it has run. -/
lemma once_returns (hs : s.Proper) (ha : a ∈ s.handed) (hr : a ∉ s.running) (hc : (a, c) ∈ s.world.closures)
    (hargs : Along Spares args) (hscript : RunsBySteps h a false { s with running := a :: s.running })
    {r : Except Error Unit}
    (hx : (do Trampoline.notify h c args; Closure.unref a : Eff S Unit) s.world = some (r, w)) :
    r = .ok () ∧ s.ReturnsWithout a w := by
  let fired : State S := { s with running := a :: s.running }
  have hfire : Run s fired := .single (.fire ha hr)
  have hcfired : (a, c) ∈ fired.world.closures := hc
  rcases bind_eq_some.1 hx with ⟨_, w₁, h₁, h₂⟩ | ⟨e, h₁, -⟩
  · obtain ⟨-, t, rfl, hvalues, hrunning, hrun⟩ := notify_returns hargs hcfired hscript h₁
    obtain ⟨closures, happly, -⟩ := Closure.unref_apply a t.world
    let finished : State S := { t with
      world := { t.world with closures }
      handed := t.handed.erase a
      running := s.running }
    have hrunning : t.running = [] ++ a :: s.running := hrunning
    have hfinish : Step t finished := .finish hrunning happly
    rw [happly] at h₂
    cases h₂
    have hnodup := (hs.run (hfire.trans hrun)).orderly.handed
    exact ⟨rfl, finished, rfl, hvalues, rfl, hnodup.not_mem_erase, hfire.trans (hrun.tail hfinish)⟩
  · cases (notify_returns hargs hcfired hscript h₁).1

lemma convertArgs_spares (types : List (Option Descriptor)) (raw : List Trampoline.RawArg) :
    Along Spares (Trampoline.convertArgs h types raw) := by
  have htyped : LoopWork h Set.univ False True (Trampoline.convertTyped h raw types) := .convertTyped raw types
  exact .ite (.pure _) (Spares.unwinding (Spares.holding (Spares.work hn htyped)))

/-- **A callback that runs once runs and lets go**: called by native code that holds the closure, it ends without an
error whatever the script function did, and native code does not hold the closure any more. The same is true of the
function that lets go of a callback's data. -/
theorem callCode_lets_go (hs : s.Proper) {code : Address} (he : Spends code words a) (ha : a ∈ s.handed)
    (hr : a ∉ s.running) (hscript : RunsBySteps h a false { s with running := a :: s.running })
    {r : Except Error Returned} (hx : callCode h code words s.world = some (r, w)) :
    r = .ok {} ∧ s.ReturnsWithout a w := by
  obtain ⟨hzero, e, hcode, hspent⟩ := he
  have hx : Trampoline.enter h e words s.world = some (r, w) := by
    simpa only [callCode, hcode] using hx
  have finish {x : Eff S Unit} (hx : (do x; return {} : Eff S Returned) s.world = some (r, w))
      (hout : ∀ {q u}, x s.world = some (q, u) → q = .ok () ∧ s.ReturnsWithout a u) :
      r = .ok {} ∧ s.ReturnsWithout a w := by
    rcases bind_eq_some.1 hx with ⟨_, w₁, h₁, h₂⟩ | ⟨e, h₁, -⟩
    · cases h₂
      exact ⟨rfl, (hout h₁).2⟩
    · cases (hout h₁).1
  cases e with
  | asyncReady =>
    obtain rfl := Option.some.inj hspent
    refine finish hx fun {q u} hx => ?_
    rw [Trampoline.asyncReady, if_neg hzero] at hx
    obtain ⟨c, hc, hx⟩ := closureAt_bind hx
    exact once_returns hs ha hr hc (convertArgs_spares hn _ _) hscript hx
  | destroy =>
    obtain rfl := Option.some.inj hspent
    refine finish hx fun {q u} hx => ?_
    rw [Trampoline.destroy, if_neg hzero] at hx
    obtain ⟨c, hc, hx⟩ := closureAt_bind hx
    exact once_returns hs ha hr hc (.pure []) hscript hx
  | unref =>
    obtain rfl := Option.some.inj hspent
    refine finish hx fun {q u} hx => ?_
    obtain ⟨closures, happly, -⟩ := Closure.unref_apply (words.ints.getD 0 0) s.world
    rw [Trampoline.unref, if_neg hzero, happly] at hx
    cases hx
    let dropped : State S := { s with
      world := { s.world with closures }
      handed := s.handed.erase (words.ints.getD 0 0) }
    have hstep : Step s dropped := .unref ha hr (by rw [Trampoline.unref, if_neg hzero, happly])
    exact ⟨rfl, dropped, rfl, rfl, rfl, hs.orderly.handed.not_mem_erase, .single hstep⟩
  | _ => cases hspent

section

variable (hs : s.Proper) (hscript : ∀ a capture, RunsBySteps h a capture s)

include hs hscript

/-- Other entry points call the script function, and no more. -/
lemma enter_returns {e : Entry} (he : ∀ a, a ≠ 0 → e.spent words ≠ some a) {r : Except Error Returned}
    (hx : Trampoline.enter h e words s.world = some (r, w)) : s.Returns w := by
  have result {α : Type} {x : Eff S α} {f : α → Returned} (hx : (do return f (← x)) s.world = some (r, w))
      (hout : ∀ {q}, x s.world = some (q, w) → s.Returns w) : s.Returns w := by
    rcases bind_eq_some.1 hx with ⟨_, w₁, h₁, h₂⟩ | ⟨e, h₁, -⟩
    · cases h₂
      exact hout h₁
    · exact hout h₁
  have called {α : Type} {data : Address} {v : α} {f : Closure → Eff S α} {q : Except Error α}
      (hx : (if data = 0 then pure v else do f (← Trampoline.closureAt data)) s.world = some (q, w))
      (hout : ∀ c, (data, c) ∈ s.world.closures → f c s.world = some (q, w) → s.Returns w) : s.Returns w := by
    split at hx
    · cases hx
      exact .of_spares (.rfl' _)
    · obtain ⟨c, hc, hx⟩ := closureAt_bind hx
      exact hout c hc hx
  cases e with
  | drawFunc =>
    refine result hx fun hx => called hx fun c hc hx => ?_
    exact (notify_returns (convertArgs_spares hn _ _) hc (hscript _ _) hx).2
  | tickFunc | compareFunc =>
    refine result hx fun hx => called hx fun c hc hx => ?_
    exact request_returns (convertArgs_spares hn _ _) hc (hscript _ _) hx
  | sourceFunc =>
    refine result hx fun hx => called hx fun c hc hx => ?_
    exact request_returns (.pure []) hc (hscript _ _) hx
  | asyncReady | destroy =>
    -- with a closure as its data this would let go of it
    refine result hx fun hx => called hx fun c hc hx => ?_
    exact absurd rfl (he _ (hs.placed.pos _ (World.mem_entries hc)).ne')
  | unref =>
    have hzero : words.ints.getD 0 0 = 0 := by_contra fun hne => he _ hne rfl
    refine result hx fun hx => ?_
    rw [Trampoline.unref, if_pos hzero] at hx
    cases hx
    exact .of_spares (.rfl' _)

/-- Code that was made for a closure calls the script function, and converts what it returns. -/
lemma respond_returns {t : Address} {th : Thunk} (ht : (t, th) ∈ s.world.thunks) {args : List (Descriptor × Bytes)}
    {r : Except Error Bytes} (hx : Thunk.respond h th args s.world = some (r, w)) : s.Returns w := by
  obtain ⟨_, th', -, hthunks, hq, -⟩ := (hs.sound.account th.target).of_targets ⟨th, ht, rfl⟩
  obtain rfl := ((hthunks t th).1 ⟨ht, rfl⟩).2
  obtain ⟨q, w₁, hbody, hend⟩ := attempt_bind_eq_some.1 hx
  have hend : w₁ = w := by
    split at hend <;> cases hend <;> rfl
  subst hend
  have hargument (a : Descriptor × Bytes) : LoopWork h Set.univ False True (argumentFromMemory h a.2 a.1) :=
    .argumentFromMemory _ _
  have hread : Along Spares
      (LoopDispatch.unwinding (LoopState.holding (Eff.collect (fun a => argumentFromMemory h a.2 a.1) args))) :=
    Spares.unwinding (Spares.holding (.collect (fun a => Spares.work hn (hargument a)) args))
  rcases bind_eq_some.1 hbody with ⟨values, w₂, h₁, h₂⟩ | ⟨e, h₁, -⟩
  · have hspares := hread h₁
    have hstart := (Leads.refl' s false).spares hspares
    obtain ⟨c, hc, h₃⟩ := closureAt_bind (s := { s with world := w₂ }) h₂
    have hc : (th.target, c) ∈ s.world.closures := hspares.closures ▸ hc
    rcases bind_eq_some.1 h₃ with ⟨v, w₃, h₄, h₅⟩ | ⟨e, h₄, -⟩
    · obtain ⟨s₃, rfl, hleads⟩ := hstart.returns (hscript th.target true c w₂ values _ w₃ hc hspares h₄)
      generalize th.result = type at h₅ hq
      have hresult (value : Value) : LoopWork h Set.univ False True (toNative h { type, value, optional := true }) :=
        .toNative (fun h => absurd h hq) (fun _ => trivial) fun _ _ => trivial
      have hconvert (value : Value) := Spares.holding (Spares.work hn (hresult value))
      split at h₅
      · cases h₅
        exact .of_leads hleads
      · rcases bind_eq_some.1 h₅ with ⟨native, w₄, h₆, h₇⟩ | ⟨e, h₆, -⟩
        · cases h₇
          exact .of_leads (hleads.spares (hconvert _ h₆))
        · exact .of_leads (hleads.spares (hconvert _ h₆))
      · cases h₅
        exact .of_leads hleads
    · obtain ⟨s₃, rfl, hleads⟩ := hstart.returns (hscript th.target true c w₂ values _ w₁ hc hspares h₄)
      exact .of_leads hleads
  · exact .of_spares (hread h₁)

/-- **A callback that may run again leaves the holders to its script function**: whatever native code calls, unless it
lets go of a closure by it, ends with the values that were alive before. -/
theorem callCode_returns {code : Address} (hkeeps : ∀ a, ¬Spends code words a) {r : Except Error Returned}
    (hx : callCode h code words s.world = some (r, w)) : s.Returns w := by
  rcases hcode : Entry.ofAddress? code with _ | e
  · rw [callCode, hcode] at hx
    dsimp only at hx
    rw [bind_ok (get_apply s.world)] at hx
    cases hth : s.world.thunks.lookup code with
    | none =>
      rw [hth] at hx
      exact .of_spares ((hn code _ words).along (fun _ _ _ hg => .of_memory hg) (fun _ _ => .stuck) hx)
    | some th =>
      rw [hth] at hx
      rcases bind_eq_some.1 hx with ⟨buffer, w₁, h₁, h₂⟩ | ⟨e, h₁, -⟩
      · cases h₂
        exact respond_returns hn hs hscript (mem_of_lookup hth) h₁
      · exact respond_returns hn hs hscript (mem_of_lookup hth) h₁
  · have hx : Trampoline.enter h e words s.world = some (r, w) := by
      simpa only [callCode, hcode] using hx
    exact enter_returns hn hs hscript (fun a hne hspent => hkeeps a ⟨hne, e, hcode, hspent⟩) hx

end

end

end Closures

end NativeBridge
