import NativeBridge.Proofs.Access.Holding
import NativeBridge.Proofs.Calls.Readback
import NativeBridge.Proofs.Native.Strings
import NativeBridge.Proofs.Ownership.Needs
import NativeBridge.Proofs.Unwinding.Release

/-!
What can go wrong with a call when its native function has run. Results and references were settled when the arguments
were converted, so reading them back fails only for want of a function for native lifetimes, or at a pointer to items
that cannot be walked, unless the state that the results belong to is no longer there.
-/

namespace NativeBridge

open Eff

variable {S : Sides} {l : Lifecycle} {h : Host S}

lemma Scalar.read?_of_isScalar {type : Descriptor} (htype : type.isScalar) (memory : Bytes) :
    ∃ s, Scalar.read? type memory = some s := by
  cases type with
  | int | boolean => exact ⟨_, rfl⟩
  | float size =>
    by_cases hsize : size = 32
    · exact ⟨_, if_pos hsize⟩
    · exact ⟨_, if_neg hsize⟩
  | _ => cases htype

lemma readScalar_ok {type : Descriptor} (htype : type.isScalar) (memory : Bytes) :
    ∃ x, readScalar memory type = .ok x := by
  obtain ⟨s, hs⟩ := Scalar.read?_of_isScalar htype memory
  exact ⟨s.toValue type, by rw [readScalar, hs]⟩

lemma readReturn_ok {type : Descriptor} (htype : type.isScalar) (buffer : Bytes) :
    ∃ s, readReturn type buffer = .ok (.scalar s) := by
  obtain ⟨s, hs⟩ := Scalar.read?_of_isScalar htype buffer
  exact ⟨s, readReturn_of_read? hs⟩

/-- A reference that was converted refers to something elementary. -/
lemma refToNative_elementary {inner : Descriptor} {cell : CellId} {w w' : World S} {v : NativeValue}
    (hx : refToNative inner (.ref cell) w = some (.ok v, w')) : inner.isElementary := by
  cases inner with
  | null | undefined | array | callback | ref => cases hx
  | _ => rfl

/-- The result is an array, its pointer is not null, and its items cannot be walked. -/
def Call.Unreadable (result : Descriptor) (buffer : Bytes) (e : Error) : Prop :=
  ∃ q, readReturn result buffer = .ok (.raw q) ∧ q ≠ 0 ∧ Unwalkable result e

namespace Eff.RaisesOnly

variable (hn : ∀ a call words, NativeCode call (h.run a call words))

include hn

/-! ### References -/

lemma readRef (p : Address) (storage : Storage) {inner : Descriptor} (hinner : inner.isElementary) :
    RaisesOnly l l.Lacks (readRef h p storage inner) := by
  have hscalar (htype : inner.isScalar) :
      RaisesOnly l l.Lacks (do Eff.ofExcept (readScalar (← Memory.load p 8) inner) : Eff S Value) := by
    refine .bind (.bind .get fun _ => .pure _) fun memory => .ofExcept fun e he => ?_
    obtain ⟨x, hx⟩ := readScalar_ok htype memory
    rw [hx] at he
    cases he
  have hobject : RaisesOnly l l.Lacks (do
      NativeBridge.wrapObject h (← Memory.loadWord p) inner inner.isTransferred : Eff S Value) :=
    .bind (.bind .get fun _ => .pure _) fun written => wrapObject hn written _ _
  cases inner with
  | int | float | boolean => exact hscalar rfl
  | object | boxed | variant => exact hobject
  | string =>
    refine .bind (.bind .get fun _ => .pure _) fun written => ?_
    split
    · exact .ite (copyString written) (fromString hn written _ _)
    · exact fromString hn written _ _
  | _ => cases hinner

lemma readUpdate {a : Arg} {v : NativeValue}
    (ha : ∀ inner cell, a.type = .ref inner → a.value = .ref cell → inner.isElementary) :
    RaisesOnly l l.Lacks (Call.readUpdate h a v) := by
  unfold Call.readUpdate
  split
  · next inner cell htype hvalue =>
    have hread : RaisesOnly l l.Lacks (fromNative h v a.type) := by
      rw [htype]
      cases v with
      | owned p storage => exact readRef hn p storage (ha inner cell htype hvalue)
      | _ => exact .pure _
    refine .bind .get fun w => ?_
    split
    · exact .ite (.pure _) (.bind hread fun _ => .pure _)
    · exact .bind hread fun _ => .pure _
  · exact .pure none

/-! ### Results -/

lemma result {result : Descriptor} (hresult : Call.returnable result = .ok ()) (buffer : Bytes) :
    RaisesOnly l (fun e => l.Lacks e ∨ Call.Unreadable result buffer e)
      (do fromNative h (← Eff.ofExcept (readReturn result buffer)) result) := by
  have hreads : ∃ v, readReturn result buffer = .ok v ∧
      RaisesOnly l (fun e => l.Lacks e ∨ Call.Unreadable result buffer e) (fromNative h v result) := by
    have wraps (p : Address) (transfer : Bool) :
        RaisesOnly l (fun e => l.Lacks e ∨ Call.Unreadable result buffer e)
          (NativeBridge.wrapObject h p result transfer) :=
      (wrapObject hn p result transfer).imp fun _ => Or.inl
    have scalar (htype : result.isScalar) := readReturn_ok htype buffer
    cases result with
    | undefined | null => exact ⟨_, rfl, .pure _⟩
    | int | float | boolean =>
      obtain ⟨s, hs⟩ := scalar rfl
      exact ⟨_, hs, .pure _⟩
    | string borrowed => exact ⟨_, rfl, fromString hn _ borrowed _⟩
    | object | boxed | variant => exact ⟨_, rfl, wraps _ _⟩
    | array item kind borrowed =>
      refine ⟨_, rfl, (arrayFromPointer hn _ item kind borrowed _).imp fun e => Or.imp_right fun he => ?_⟩
      exact ⟨_, rfl, he⟩
    | callback | ref => cases hresult
  obtain ⟨v, hv, hfrom⟩ := hreads
  rw [hv]
  exact hfrom

lemma readBack {c : Call} {result : Descriptor} {values : List NativeValue}
    (hresult : Call.returnable result = .ok ())
    (hvalues : ∀ a ∈ c.args, ∀ inner cell, a.type = .ref inner → a.value = .ref cell → inner.isElementary)
    (buffer : Bytes) :
    RaisesOnly l (fun e => l.Lacks e ∨ Call.Unreadable result buffer e) (Call.readBack h c result values buffer) := by
  have hupdate : ∀ p ∈ c.args.zip values,
      RaisesOnly l (fun e => l.Lacks e ∨ Call.Unreadable result buffer e) (Call.readUpdate h p.1 p.2) :=
    fun p hp => (readUpdate hn (hvalues p.1 (List.of_mem_zip hp).1)).imp fun _ => Or.inl
  unfold Call.readBack
  rw [← bind_assoc]
  exact .bind (RaisesOnly.result hn hresult buffer) fun value => .bind (.collect hupdate) fun _ => .pure _

end Eff.RaisesOnly

namespace Call

variable {c : Call} {result : Descriptor} {w w₁ v w' : World S} {p : PreparedCall} {r : Returned} {e : Error}

/-- A call whose native function has returned raises only what reading back raises. -/
lemma invoke_error (hprepare : LoopState.holding (prepare h c result) w = some (.ok p, w₁))
    (hrun : runPrepared h p w₁ = some (.ok r, v)) (hx : invoke h c result w = some (.error e, w')) :
    ∃ u, LoopState.holding (readBack h c result p.values (h.convention.receive p.result r)) v = some (.error e, u) := by
  rw [invoke, bind_ok hprepare] at hx
  obtain ⟨q, w₂, hbody, hx⟩ := attempt_bind_eq_some.1 hx
  rw [← bind_assoc] at hbody
  change (runPrepared h p >>= _) w₁ = _ at hbody
  rw [bind_ok hrun] at hbody
  obtain ⟨w₃, hrelease⟩ := NativeValue.each_release_ok p.values w₂
  rw [bind_ok hrelease, ofExcept_apply] at hx
  cases hx
  rcases LoopDispatch.unwinding_eq_some.1 hbody with ⟨o, -, ho⟩ | ⟨e', u, hread, he, -⟩
  · cases ho
  · cases he
    exact ⟨u, hread⟩

/-- References among arguments that were converted refer to something elementary. -/
lemma prepare_elementary (hn : ∀ a call words, NativeCode call (h.run a call words))
    (hx : prepare h c result w = some (.ok p, w')) :
    ∀ a ∈ c.args, ∀ inner cell, a.type = .ref inner → a.value = .ref cell → inner.isElementary := by
  have helementary : List.Forall₂ (fun a _ =>
      (∀ inner cell, a.type = .ref inner → a.value = .ref cell → inner.isElementary) ∧ True) c.args p.values := by
    refine (prepare_values hn hx).imp fun a v ⟨u, u', _, hto⟩ => ⟨fun inner cell htype hvalue => ?_, trivial⟩
    obtain ⟨type, value, optional⟩ := a
    dsimp only at htype hvalue
    subst htype hvalue
    exact refToNative_elementary hto
  exact ((List.forall₂_and_left _ _).1 helementary).1

/-- **What a call raises when its native function has run.** Whatever native code left, the call raises an error after
that only if the state of the loop thread cannot be held any more, or a function for native lifetimes is needed that is
missing, or the result is an array whose pointer leads to items that cannot be walked. -/
theorem raises_after_run (hn : ∀ a call words, NativeCode call (h.run a call words))
    (hprepare : LoopState.holding (prepare h c result) w = some (.ok p, w₁))
    (hrun : runPrepared h p w₁ = some (.ok r, v)) (hx : invoke h c result w = some (.error e, w')) :
    LoopState.refusal? v = some e ∨ (∃ s, v.state = some s ∧ s.lifecycle.Lacks e) ∨
      Unreadable result (h.convention.receive p.result r) e := by
  obtain ⟨u, hread⟩ := invoke_error hprepare hrun hx
  rcases hrefusal : LoopState.refusal? v with _ | e'
  · obtain ⟨s, hs⟩ := Option.isSome_iff_exists.1 (LoopState.isSome_of_granted hrefusal)
    have hl : World.lifecycle? { v with inUse := true } = some s.lifecycle := lifecycle?_eq_some.2 ⟨s, hs, rfl⟩
    rw [LoopState.holding_of_granted hrefusal, Option.map_eq_some_iff] at hread
    obtain ⟨⟨q, u₁⟩, hback, hq⟩ := hread
    cases hq
    rcases LoopState.holding_eq_some hprepare with ⟨-, -, e', he⟩ | ⟨-, w₂, hprepared, -⟩
    · cases he
    obtain ⟨hreturnable, -⟩ := prepare_ok hprepared
    have hraises : RaisesOnly s.lifecycle
        (fun e => s.lifecycle.Lacks e ∨ Unreadable result (h.convention.receive p.result r) e)
        (readBack h c result p.values (h.convention.receive p.result r)) :=
      RaisesOnly.readBack hn hreturnable (prepare_elementary hn hprepared) _
    exact .inr (((hraises _ _ _ hl hback).1 e rfl).imp_left fun hlacks => ⟨s, hs, hlacks⟩)
  · rw [LoopState.holding_of_refusal hrefusal] at hread
    cases hread
    exact .inl rfl

/-- A function that gives an address. -/
def addressHost : Host ⟨Unit, Unit, Unit, Unit⟩ :=
  { emptyHost with
    loader := .ok
    symbol := fun _ _ => .ok 1
    run := fun _ _ _ => pure { int := 64 } }

/-- A call without arguments. -/
def bareCall : Call where
  library := [97]
  symbol := [98]
  args := []

/-- An array of integers that native code returns has no length. -/
theorem returned_integers_unreadable :
    ∃ p w₁ r v w',
      LoopState.holding (prepare addressHost bareCall (.array (.int 32 true) .array true)) bareWorld =
        some (.ok p, w₁) ∧
      runPrepared addressHost p w₁ = some (.ok r, v) ∧
      invoke addressHost bareCall (.array (.int 32 true) .array true) bareWorld =
        some (.error (.arrayWithoutLength "int32"), w') ∧
      Unreadable (.array (.int 32 true) .array true) (addressHost.convention.receive p.result r)
        (.arrayWithoutLength "int32") := by
  have hruns : ∃ p w₁ r v w',
      LoopState.holding (prepare addressHost bareCall (.array (.int 32 true) .array true)) bareWorld =
        some (.ok p, w₁) ∧
      runPrepared addressHost p w₁ = some (.ok r, v) ∧
      invoke addressHost bareCall (.array (.int 32 true) .array true) bareWorld =
        some (.error (.arrayWithoutLength "int32"), w') ∧ LoopState.refusal? v = none :=
    ⟨_, _, _, _, _, rfl, rfl, rfl, rfl⟩
  obtain ⟨p, w₁, r, v, w', hprepare, hrun, hx, hgranted⟩ := hruns
  refine ⟨p, w₁, r, v, w', hprepare, hrun, hx, ?_⟩
  rcases raises_after_run (fun _ _ _ => .pure _) hprepare hrun hx with hrefused | ⟨s, -, need, hneed, -⟩ | hunreadable
  · rw [hgranted] at hrefused
    cases hrefused
  · cases hneed
  · exact hunreadable

/-- A function that calls its callback, and a script function that tears down the state of the loop thread. -/
def tearingHost : Host ⟨Unit, Unit, Unit, Unit⟩ :=
  { emptyHost with
    loader := .ok
    symbol := fun _ _ => .ok 512
    run := fun _ call words => call (words.ints.getD 0 0) { ints := [words.ints.getD 1 0] }
    limit := 2
    script := fun _ _ => do
      LoopState.teardown emptyHost
      return .boolean false }

/-- A loop thread whose callbacks run at once. -/
def inlineThread : World ⟨Unit, Unit, Unit, Unit⟩ := { bareWorld with script := { channel := .inline } }

/-- A call with a script function as its argument. -/
def callWithSource : Call :=
  { bareCall with args := [{ type := .callback .sourceFunc .call none none none none, value := .callback (some 1) }] }

lemma callWithSource_returns :
    ((LoopState.holding (prepare tearingHost callWithSource (.int 32 true)) inlineThread).bind fun q =>
      q.1.toOption.bind fun p => (runPrepared tearingHost p q.2).map fun u => u.1.isOk) = some true := by
  decide +kernel

lemma callWithSource_fails :
    (invoke tearingHost callWithSource (.int 32 true) inlineThread).map
      (fun q => match q.1 with
        | .ok _ => none
        | .error e => some e) = some (some .outsideLoop) := by
  decide +kernel

/-- **A callback can take the state away.** The function has returned, its result is an integer, and no function for
native lifetimes is needed; the call raises an error all the same. -/
theorem state_torn_down_by_callback :
    (∀ a call words, NativeCode call (tearingHost.run a call words)) ∧
    ∃ p w₁ r v w',
      LoopState.holding (prepare tearingHost callWithSource (.int 32 true)) inlineThread = some (.ok p, w₁) ∧
      runPrepared tearingHost p w₁ = some (.ok r, v) ∧
      invoke tearingHost callWithSource (.int 32 true) inlineThread = some (.error .outsideLoop, w') ∧
      ¬((∃ s, v.state = some s ∧ s.lifecycle.Lacks .outsideLoop) ∨
        Unreadable (.int 32 true) (tearingHost.convention.receive p.result r) .outsideLoop) := by
  obtain ⟨⟨_ | p, w₁⟩, hprepare, hreturns⟩ := Option.bind_eq_some_iff.1 callWithSource_returns
  · cases hreturns
  obtain ⟨⟨_ | r, v⟩, hrun, hok⟩ := Option.map_eq_some_iff.1 hreturns
  · cases hok
  obtain ⟨⟨e | _, w'⟩, hinvoke, he⟩ := Option.map_eq_some_iff.1 callWithSource_fails
  · cases he
    refine ⟨fun _ _ _ => .call _ _, p, w₁, r, v, w', hprepare, hrun, hinvoke, ?_⟩
    rintro (⟨s, -, need, hneed, -⟩ | ⟨q, -, -, hwalk⟩)
    · cases hneed
    · cases hwalk
  · cases he

end Call

end NativeBridge
