import NativeBridge.Proofs.Closures.Operations

/-!
How long a closure lives. Counts and holders agree in every state that is reached, and addresses are not used twice, so
from the moment at which a closure was made its holders tell whether it is there.
-/

namespace NativeBridge.Closures

variable {S : Sides} {s₀ s s' s'' : State S} {a : Address}

/-! ### Since a closure was made -/

/-- Native code neither holds the closure nor is given it with any value. -/
def Bare (a : Address) (s : State S) : Prop := a ∉ s.handed ∧ ∀ x ∈ s.values, x.closure = a → x.isTrampoline = false

/-- What has stayed since a state with the address given out. -/
structure Since (a : Address) (s s' : State S) : Prop where
  old : a ≤ s'.world.heap.given * Heap.stride
  teardowns : s.teardowns ≤ s'.teardowns
  lasting : a ∈ s'.lasting ↔ a ∈ s.lasting ∧ s'.teardowns = s.teardowns
  bare : Bare a s → Bare a s'

lemma Since.rfl' (ha : a ≤ s.world.heap.given * Heap.stride) : Since a s s :=
  ⟨ha, le_rfl, (and_iff_left rfl).symm, id⟩

lemma Since.trans (h : Since a s s') (h' : Since a s' s'') : Since a s s'' where
  old := h'.old
  teardowns := h.teardowns.trans h'.teardowns
  lasting := by
    have hle := h.teardowns
    have hle' := h'.teardowns
    rw [h'.lasting, h.lasting, and_assoc]
    refine and_congr_right fun _ => ⟨fun ⟨he, he'⟩ => he'.trans he, fun he => ?_⟩
    omega
  bare := h'.bare ∘ h.bare

lemma Step.since (h : Step s s') (hp : s.world.Placed) (ha : a ≤ s.world.heap.given * Heap.stride) : Since a s s' := by
  have hold : a ≤ s'.world.heap.given * Heap.stride := ha.trans (Nat.mul_le_mul_right _ (h.placed hp).2)
  -- what is made from here on gets another address
  have hne : a ≠ s.world.heap.reserve.1 :=
    (ha.trans_lt (Nat.mul_lt_mul_of_pos_right (Nat.lt_succ_self _) (by decide))).ne
  have same {t : State S} (hl : t.lasting = s.lasting) (ht : t.teardowns = s.teardowns) :
      a ∈ t.lasting ↔ a ∈ s.lasting ∧ t.teardowns = s.teardowns := by
    rw [hl, and_iff_left ht]
  cases h with
  | other | refuse | fire => exact ⟨hold, le_rfl, same rfl rfl, id⟩
  | @make function signature v w hstate hx =>
    refine ⟨hold, le_rfl, ?_, fun hb => ⟨hb.1, fun x hx hxa => ?_⟩⟩
    · rw [State.made]
      split
      · rw [List.mem_append, List.mem_singleton, or_iff_left hne, and_iff_left rfl]
      · rw [and_iff_left rfl]
    · rcases List.mem_cons.1 hx with rfl | hx
      · exact absurd hxa.symm hne
      · exact hb.2 x hx hxa
  | @handOver before after x w hv hfirst hx =>
    refine ⟨hold, le_rfl, same rfl rfl, fun hb => ⟨fun h => ?_, fun y hy hya => ?_⟩⟩
    · change a ∈ (if x.isTrampoline then x.closure :: s.handed else s.handed) at h
      split at h
      next htramp =>
        have hmem : x ∈ s.values := hv ▸ List.mem_append_cons_self
        rcases List.mem_cons.1 h with rfl | h
        · exact absurd htramp (by rw [hb.2 x hmem rfl]; decide)
        · exact hb.1 h
      next => exact hb.1 h
    · obtain ⟨z, hz, hvalue, hclosure⟩ := values_handed hv y hy
      rw [Live.isTrampoline, ← hvalue]
      exact hb.2 z hz (hclosure.trans hya)
  | release hv =>
    exact ⟨hold, le_rfl, same rfl rfl, fun hb => ⟨hb.1, fun x hx => hb.2 x ((values_released hv).subset hx)⟩⟩
  | finish | unref =>
    exact ⟨hold, le_rfl, same rfl rfl, fun hb => ⟨fun h => hb.1 (List.mem_of_mem_erase h), hb.2⟩⟩
  | teardown =>
    refine ⟨hold, Nat.le_succ _, ?_, id⟩
    simp

lemma Run.since (hr : Run s s') (hs : s.Proper) (ha : a ≤ s.world.heap.given * Heap.stride) : Since a s s' := by
  induction hr with
  | refl => exact .rfl' ha
  | tail hr h ih => exact ih.trans (h.since (hs.run hr).placed ih.old)

section

variable {function : Option FunctionId} {signature : Signature} {v : NativeValue} {w : World S}

lemma bare_made (hp : s.world.Placed) (hs : Sound s.world.kept s)
    (hx : makeCallback function signature s.world = some (.ok v, w)) (hk : signature.kind = .closure) :
    Bare s.world.heap.reserve.1 (s.made signature v w) := by
  have hheld := State.holders_eq_zero.1 (hs.unused hp).2.2
  refine ⟨fun h => hheld (.inr (.inl h)), fun x hmem hxd => ?_⟩
  rcases List.mem_cons.1 hmem with rfl | hmem
  · cases makeCallback_cases hp hx with
    | trampoline hne => exact absurd hk hne
    | code | kept => rfl
  · exact (hheld (.inl ⟨x, hmem, hxd⟩)).elim

/-- Whether a closure is there is told by its holders, from when it was made. -/
lemma present_since_made (hs : s.Proper) (hstate : s.world.state.isSome)
    (hx : makeCallback function signature s.world = some (.ok v, w)) (hr : Run (s.made signature v w) s') :
    (signature.kind ≠ .closure → ((∃ c, (s.world.heap.reserve.1, c) ∈ s'.world.closures) ↔
      s'.Held s.world.heap.reserve.1 ∨ s.world.heap.reserve.1 ∈ s'.handed)) ∧
    (signature.kind = .closure → ((∃ c, (s.world.heap.reserve.1, c) ∈ s'.world.closures) ↔
      s'.Held s.world.heap.reserve.1 ∨ signature.scope = .forever ∧ s'.teardowns = s.teardowns)) := by
  have hmade : Step s (s.made signature v w) := .make hstate hx
  have hs₁ := hs.step hmade
  have hheld := State.holders_eq_zero.1 (hs.sound.unused hs.placed).2.2
  have hnow : (s.made signature v w).Held s.world.heap.reserve.1 := ⟨_, List.mem_cons_self, rfl⟩
  obtain ⟨c, hc⟩ := (hs₁.sound.account _).present_iff.2 (State.holders_pos.2 (.inl hnow))
  have hold := hs₁.placed.given _ (World.mem_entries hc)
  have hsince := hr.since hs₁ hold
  have hlasting : s.world.heap.reserve.1 ∈ (s.made signature v w).lasting ↔ signature.Lasts := by
    rw [State.made]
    split
    next hl => simp [hl]
    next hl => exact iff_of_false (fun h => hheld (.inr (.inr h))) hl
  have hteardowns : (s.made signature v w).teardowns = s.teardowns := rfl
  have hpresent := ((hs₁.run hr).sound.account s.world.heap.reserve.1).present_iff
  rw [State.holders_pos, hsince.lasting, hlasting, hteardowns] at hpresent
  refine ⟨fun hk => ?_, fun hk => ?_⟩
  · rw [hpresent, ← or_assoc, or_iff_left]
    exact fun h => hk h.1.1
  · -- native code has no reference to the closure of a bare function pointer, and is never given one
    have hbare := (hsince.bare (bare_made hs.placed hs.sound hx hk)).1
    rw [hpresent, or_iff_right hbare, Signature.Lasts, and_iff_right hk]

end

/-! ### What the loop state keeps -/

/-- What lasts are the closures of the code that the loop state keeps. -/
lemma State.Proper.lasting_iff (hs : s.Proper) : a ∈ s.lasting ↔ ∃ t ∈ s.world.kept, Targets s.world t a := by
  have key {kept lasting : List Address} (h : List.Forall₂ (Targets s.world) kept lasting) :
      a ∈ lasting ↔ ∃ t ∈ kept, Targets s.world t a := by
    induction h with
    | nil => simp
    | @cons t b _ _ ht _ ih =>
      have hb : Targets s.world t a ↔ a = b := by
        constructor
        · rintro ⟨th, hmem, rfl⟩
          obtain ⟨th', hmem', rfl⟩ := ht
          rw [eq_of_keys hs.placed.thunks_nodup hmem hmem']
        · rintro rfl
          exact ht
      rw [List.mem_cons, List.exists_mem_cons_iff, hb, ih]
  exact key hs.sound.kept

lemma State.Proper.refs_eq (hs : s.Proper) {c : Closure} (hc : (a, c) ∈ s.world.closures)
    (hk : c.signature.kind ≠ .closure) :
    c.refs = (if s.Held a then 1 else 0) + if a ∈ s.handed then 1 else 0 := by
  obtain ⟨c', hc', -, -, hr, hl⟩ := (hs.sound.account a).of_entry (.inr ⟨c, hc, hk⟩)
  rw [(hc' c).1 hc, hr, State.holders, hs.orderly.values.count, hs.orderly.handed.count, List.count_eq_zero.2 hl,
    Nat.add_zero, if_congr State.held_iff rfl rfl]

/-! ### Main result -/

/-- **A closure lives as long as it is held.** Let a state be reached by any history of calls, callbacks and notices in
which native code runs a callback that runs once at most once, and lets go of what it was handed at most once and after
the last use. A closure with an entry point has one reference of its value, as long as that is alive, and one of native
code, from when it was handed over until its callback has run or native code let go of it. A closure is there if and
only if one of these holds it, or the loop state keeps code for it. From when it was made, that comes to this: one with
an entry point goes exactly when its value is gone and native code has let go; one of a bare function pointer goes with
its value, or with scope `forever` at the next teardown if that is later.

The operations keep to that history. A call ends with the values that were alive before it, however it ends, and so does
what native code calls. Where that is an entry point that runs once, or the one that lets go, it ends without an error
and with native code's reference, whatever the script function did. -/
theorem closures_live_while_held (h₀ : s₀.Opening) (hr : Run s₀ s) :
    (∀ a c, (a, c) ∈ s.world.closures → c.signature.kind ≠ .closure →
      c.refs = (if s.Held a then 1 else 0) + if a ∈ s.handed then 1 else 0) ∧
    (∀ a, (∃ c, (a, c) ∈ s.world.closures) ↔
      s.Held a ∨ a ∈ s.handed ∨ ∃ t ∈ s.world.kept, Targets s.world t a) ∧
    (∀ function signature v w, s.world.state.isSome → makeCallback function signature s.world = some (.ok v, w) →
      ∀ s', Run (s.made signature v w) s' →
        (signature.kind ≠ .closure → ((∃ c, (s.world.heap.reserve.1, c) ∈ s'.world.closures) ↔
          s'.Held s.world.heap.reserve.1 ∨ s.world.heap.reserve.1 ∈ s'.handed)) ∧
        (signature.kind = .closure → ((∃ c, (s.world.heap.reserve.1, c) ∈ s'.world.closures) ↔
          s'.Held s.world.heap.reserve.1 ∨ signature.scope = .forever ∧ s'.teardowns = s.teardowns))) ∧
    ∀ h : Host S, (∀ a call words, NativeCode call (h.run a call words)) →
      (∀ c result r w, CallsBySteps h c result s → Call.invoke h c result s.world = some (r, w) → s.Returns w) ∧
      (∀ code words r w, (∀ a, ¬Spends code words a) → (∀ a capture, RunsBySteps h a capture s) →
        callCode h code words s.world = some (r, w) → s.Returns w) ∧
      ∀ code words a r w, Spends code words a → a ∈ s.handed → a ∉ s.running →
        RunsBySteps h a false { s with running := a :: s.running } → callCode h code words s.world = some (r, w) →
        r = .ok {} ∧ s.ReturnsWithout a w := by
  have hs : s.Proper := h₀.proper.run hr
  refine ⟨fun a c hc hk => hs.refs_eq hc hk, fun a => ?_, fun function signature v w hstate hx s' hr' => ?_,
    fun h hn => ⟨fun c result r w hnative hx => ?_, fun code words r w hkeeps hscript hx => ?_, ?_⟩⟩
  · rw [(hs.sound.account a).present_iff, State.holders_pos, hs.lasting_iff]
  · exact present_since_made hs hstate hx hr'
  · exact call_returns hn hs hnative hx
  · exact callCode_returns hn hs hscript hkeeps hx
  · exact fun code words a r w hspends ha hidle hscript hx => callCode_lets_go hn hs hspends ha hidle hscript hx

/-! #### A callback that is still running when its call has ended -/

/-- Nothing stands on the other sides. -/
abbrev bareSides : Sides := ⟨Unit, Unit, Unit, Unit⟩

/-- A loop state is installed, and nothing was made yet. -/
def emptyState : State bareSides where
  world := { World.opening () () .none with state := some { lifecycle := ⟨fun _ => none, []⟩ } }
  values := []
  handed := []
  running := []
  lasting := []
  teardowns := 0

lemma emptyState_opening : emptyState.Opening := ⟨rfl, rfl, rfl, rfl, rfl, rfl, rfl⟩

/-- A function that runs once. -/
def once : Signature := ⟨.asyncReady, .call, none, none, none, none⟩

/-- The value of a callback that runs once; its closure is the first address that is given out. -/
def onceValue : NativeValue := .trampoline Entry.asyncReady.address Heap.stride none false

/-- The world with so many references to the closure. -/
def onceWorld (refs : Nat) : World bareSides :=
  { emptyState.world with
    heap := emptyState.world.heap.reserve.2
    closures := [(Heap.stride, ⟨some 0, once, refs, some 0⟩)] }

/-- Native code runs the callback that it was handed, and its value is alive or not. -/
def runningState (refs : Nat) (values : List Live) : State bareSides :=
  { emptyState with world := onceWorld refs, values, handed := [Heap.stride], running := [Heap.stride] }

/-- The callback has run. -/
def ranState : State bareSides := { emptyState with world := { onceWorld 1 with closures := [] } }

lemma run_held : Run emptyState (runningState 2 [⟨onceValue, Heap.stride, true⟩]) := by
  have hx : makeCallback (some 0) once emptyState.world = some (.ok onceValue, onceWorld 1) := rfl
  have hmake : Step emptyState (emptyState.made once onceValue (onceWorld 1)) := .make rfl hx
  have hvalues : (emptyState.made once onceValue (onceWorld 1)).values =
      [] ++ ⟨onceValue, Heap.stride, false⟩ :: [] := rfl
  have hgive : Step (emptyState.made once onceValue (onceWorld 1))
      { runningState 2 [⟨onceValue, Heap.stride, true⟩] with running := [] } := .handOver hvalues rfl rfl
  exact .tail (.tail (.single hmake) hgive) (.fire List.mem_cons_self List.not_mem_nil)

lemma run_released : Run emptyState (runningState 1 []) := by
  have hvalues : (runningState 2 [⟨onceValue, Heap.stride, true⟩]).values =
      [] ++ ⟨onceValue, Heap.stride, true⟩ :: [] := rfl
  have hrelease : Step (runningState 2 [⟨onceValue, Heap.stride, true⟩]) (runningState 1 []) := .release hvalues rfl
  exact run_held.tail hrelease

lemma run_ran : Run emptyState ranState := by
  have hrunning : (runningState 1 []).running = [] ++ Heap.stride :: [] := rfl
  have hlast : (Closure.unref Heap.stride : Eff bareSides Unit) (onceWorld 1) = some (.ok (), ranState.world) := rfl
  have hfinish : Step (runningState 1 []) ranState := .finish hrunning hlast
  exact run_released.tail hfinish

/-- Native code that leaves a callback for later. -/
def idleHost : Host bareSides where
  loader := .ok
  symbol := fun _ _ => .ok 512
  anySymbol := fun _ => none
  run := fun _ _ _ => pure {}
  limit := 0
  script := fun _ _ => Eff.stuck
  answer := fun _ => Eff.stuck
  scriptTurn := Eff.stuck
  loopTurn := Eff.stuck

/-- A call with a callback that runs once. -/
def subscribe : Call where
  library := [97]
  symbol := [98]
  args := [{ type := .callback .asyncReady .call none none none none, value := .callback (some 0) }]

/-- A callback that is running is there with two references, with one when its value is gone, and no more when it has
run; a call of its kind leaves no value. -/
theorem closure_of_running_callback :
    (∀ c, (Heap.stride, c) ∈ (runningState 2 [⟨onceValue, Heap.stride, true⟩]).world.closures → c.refs = 2) ∧
      (∀ c, (Heap.stride, c) ∈ (runningState 1 []).world.closures → c.refs = 1) ∧
      (¬∃ c, (Heap.stride, c) ∈ ranState.world.closures) ∧
      ∃ r w, Call.invoke idleHost subscribe .undefined emptyState.world = some (r, w) ∧ emptyState.Returns w := by
  have kind {n : Nat} {c : Closure} (hc : (Heap.stride, c) ∈ (onceWorld n).closures) : c.signature.kind ≠ .closure := by
    cases List.mem_singleton.1 hc
    show CallbackKind.asyncReady ≠ CallbackKind.closure
    decide
  refine ⟨fun c hc => ?_, fun c hc => ?_, fun hgone => ?_, ?_⟩
  · exact (closures_live_while_held emptyState_opening run_held).1 _ c hc (kind hc)
  · exact (closures_live_while_held emptyState_opening run_released).1 _ c hc (kind hc)
  · rcases ((closures_live_while_held emptyState_opening run_ran).2.1 _).1 hgone with ⟨x, hx, -⟩ | hmem | ⟨t, ht, -⟩
    · cases hx
    · cases hmem
    · cases ht
  · have hends : (Call.invoke idleHost subscribe .undefined emptyState.world).isSome := rfl
    have hidle : CallsBySteps idleHost subscribe .undefined emptyState := by
      intro p w t q u _ _ hrun
      cases hrun
      exact ⟨t, rfl, rfl, rfl, .refl⟩
    obtain ⟨⟨r, w⟩, hx⟩ := Option.isSome_iff_exists.1 hends
    refine ⟨r, w, hx, ?_⟩
    exact ((closures_live_while_held emptyState_opening .refl).2.2.2 idleHost fun _ _ _ => .pure _).1 _ _ r w hidle hx

end NativeBridge.Closures
