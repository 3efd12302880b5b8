import NativeBridge.Proofs.Unwinding.Conversion

/-!
The arguments of a call, in order. One that fails leaves nothing of its own, and those before it are let go of: what
lasts of them, references and copies that native code was granted and code that the loop state keeps, is left behind.
-/

namespace NativeBridge

open Eff

variable {S : Sides}

/-! ### One argument -/

namespace Call

lemma makeCallback_slotCount (function : Option FunctionId) (s : Signature) :
    Gives (fun v => v.slotCount = s.kind.slotCount) (makeCallback function s : Eff S NativeValue) := by
  unfold makeCallback
  refine .bind fun w => .guard (.guard (.bind fun closure => ?_))
  cases hk : s.kind with
  | closure => exact .bind fun _ => .ite (.bind fun _ => .bind fun _ => .pure rfl) (.pure rfl)
  | _ => exact .pure rfl

lemma callbackToNative_slotCount (s : Signature) (v : Value) (optional : Bool) :
    Gives (fun v => v.slotCount = s.kind.slotCount) (callbackToNative s v optional : Eff S NativeValue) := by
  refine .ite ?_ (.bind fun f => makeCallback_slotCount f s)
  cases hk : s.kind <;> exact .pure rfl

/-- A value occupies the slots that native code expects for its argument. -/
lemma toNative_slotCount (h : Host S) (a : Arg) :
    Gives (fun v => v.slotCount = expectedSlots a.type) (toNative h a) := by
  have plain (ha : ¬a.type.isCallback) : Gives (fun v => v.slotCount = 1) (toNative h a) :=
    (Plain.toNative ha).imp fun _ => NativeValue.Plain.slotCount
  obtain ⟨type, v, optional⟩ := a
  cases type with
  | callback kind => exact callbackToNative_slotCount _ v optional
  | _ => exact plain id

lemma abi_of_lasting {h : Host S} {a : Arg} {w : World S} {e : Error} (he : a.type.abi = .error e) :
    a.lasting h w = [] := by
  refine Arg.lasting_eq_nil ?_ h w
  cases ht : a.type <;> rw [ht] at he <;> first | rfl | cases he

section

variable {h : Host S} {symbol : Bytes} {index : Nat} {a : Arg} {w w' : World S}

/-- An argument fails in its conversion, or is let go of because its type has no slot. -/
lemma prepareArg_cases {r : Except Error (NativeValue × List AbiType)}
    (hx : prepareArg h symbol index a w = some (r, w')) :
    (∃ e, r = .error e ∧ toNative h a w = some (.error e, w')) ∨
      (∃ v type, r = .ok (v, List.replicate (expectedSlots a.type) type) ∧ a.type.abi = .ok type ∧
        toNative h a w = some (.ok v, w')) ∨
        ∃ v w₁ e, a.type.abi = .error e ∧ toNative h a w = some (.ok v, w₁) ∧
          (do v.release; throw e : Eff S (NativeValue × List AbiType)) w₁ = some (r, w') := by
  rcases bind_eq_some.1 hx with ⟨v, w₁, h₁, h₂⟩ | ⟨e, h₁, rfl⟩
  · have hs : v.slotCount = expectedSlots a.type := toNative_slotCount h a h₁
    simp only [hs, ne_eq, not_true_eq_false] at h₂
    cases ht : a.type.abi with
    | ok type =>
      rw [ht, bind_ok (a := .ok (List.replicate (expectedSlots a.type) type)) rfl] at h₂
      cases h₂
      exact .inr (.inl ⟨v, type, rfl, rfl, h₁⟩)
    | error e =>
      rw [ht, bind_ok (a := .error e) rfl] at h₂
      exact .inr (.inr ⟨v, w₁, e, rfl, h₁, h₂⟩)
  · exact .inl ⟨e, rfl, h₁⟩

end

/-! ### What is left -/

/-- What lasts of arguments that are converted in order, up to the first that fails. -/
def lastingArgs (h : Host S) (symbol : Bytes) (index : Nat) : List Arg → World S → List Lasting
  | [], _ => []
  | a :: rest, w =>
    match prepareArg h symbol index a w with
    | some (.ok _, w₁) => a.lasting h w ++ lastingArgs h symbol (index + 1) rest w₁
    | _ => []

/-- What is left of the counts, of closures and of what the state keeps, when everything else is as it was. -/
structure Leaves (c : Counts S) (left : List Lasting) (w w' : World S) : Prop where
  counts : c.Adds left w.native w'.native
  closures : w'.liveClosures = w.liveClosures + left.count .code
  registry : w'.state.map LoopState.registry = w.state.map LoopState.registry
  retained : w'.state.map (fun s => s.retained.length) = w.state.map fun s => s.retained.length + left.count .code

namespace Leaves

lemma rfl' (c : Counts S) (w : World S) : Leaves c [] w w := ⟨.rfl' c _, rfl, rfl, rfl⟩

variable {c : Counts S} {left : List Lasting} {w w₁ w' : World S}

lemma of_grows {made : Made} (hg : Grows c left made w w₁) {s : LoopState} (hs : w.state = some s)
    (hc : w'.liveClosures = w.liveClosures + left.count .code) (hn : w'.native = w₁.native)
    (hw : w'.state = w₁.state) : Leaves c left w w' := by
  obtain ⟨s', hs', -, hreg, hret⟩ := hg.state s hs
  exact ⟨hn ▸ hg.counts, hc, by simp [hw, hs', hs, hreg], by simp [hw, hs', hs, hret]⟩

lemma of_silent (hg : Silent c w w') {s : LoopState} (hs : w.state = some s) : Leaves c [] w w' :=
  of_grows hg hs (by simp [World.liveClosures, hg.closures]) rfl rfl

lemma after_silent (hl : Leaves c left w₁ w') (hg : Silent c w w₁) {s : LoopState} (hs : w.state = some s) :
    Leaves c left w w' := by
  have h := of_silent hg hs
  refine ⟨h.counts.trans hl.counts, by rw [hl.closures, h.closures]; rfl, hl.registry.trans h.registry, ?_⟩
  obtain ⟨s₁, hs₁, -, -, hret⟩ := hg.state s hs
  simp [hl.retained, hs₁, hs, hret]

end Leaves

section

variable {h : Host S} (hh : h.Within Evolves) (hn : ∀ a call words, NativeCode call (h.run a call words)) {c : Counts S}
  {w w' : World S}

include hh hn

/-- An argument that fails leaves nothing. -/
lemma prepareArg_grows (hw : w.Placed) {s : LoopState} (hs : w.state = some s) (hc : c.Lawful h s.lifecycle)
    {symbol : Bytes} {index : Nat} {a : Arg} {r : Except Error (NativeValue × List AbiType)}
    (hx : prepareArg h symbol index a w = some (r, w')) :
    (∃ e, r = .error e) ∧ Silent c w w' ∨
      ∃ v types made, r = .ok (v, types) ∧ v.Holds made ((a.lasting h w).count .code) ∧
        Grows c (a.lasting h w) made w w' := by
  rcases prepareArg_cases hx with ⟨e, rfl, h₁⟩ | ⟨v, type, rfl, -, h₁⟩ | ⟨v, w₁, e, ha, h₁, h₂⟩
  · exact .inl ⟨⟨e, rfl⟩, toNative_converts hn hw hs hc h₁⟩
  · obtain ⟨made, hv, hg⟩ := toNative_converts hn hw hs hc h₁
    exact .inr ⟨v, _, made, rfl, hv, hg⟩
  · obtain ⟨made, hv, hg⟩ := toNative_converts hn hw hs hc h₁
    have hw₁ : w₁.Placed := hw.evolves (Evolution.toNative hh.quiet a h₁)
    rw [abi_of_lasting ha] at hv hg
    obtain ⟨heap, C, K, hgiven, hC, hK, -, -, hr⟩ := hv.release (B := []) (U := []) (by simpa using hg.closures)
      (by simpa using hg.thunks) hw₁.closures_nodup hw₁.thunks_nodup
    rw [bind_ok hr] at h₂
    cases h₂
    refine .inl ⟨⟨e, rfl⟩, hgiven ▸ hg.given, ?_, ?_, hg.counts, hg.state⟩
    · simp [List.length_eq_zero_iff.1 hC]
    · simp [List.length_eq_zero_iff.1 hK]

end

/-! ### Arguments in order -/

/-- Values that were made in order, with what lasts of them: what they hold was added to the world, and nothing else. -/
def Prepared (c : Counts S) (left : List Lasting) (values : List NativeValue) (w w' : World S) : Prop :=
  ∃ made, NativeValue.HoldAll values made (left.count .code) ∧ Grows c left made w w'

namespace Prepared

variable {c : Counts S} {left : List Lasting} {values : List NativeValue} {w w₁ w₂ : World S}

lemma nil (c : Counts S) (w : World S) : Prepared c [] [] w w := ⟨{}, .nil, refl w⟩

lemma silent (h : Prepared c left values w w₁) (hs : Silent c w₁ w₂) : Prepared c left values w w₂ := by
  obtain ⟨made, hv, hg⟩ := h
  exact ⟨made, hv, by simpa [Made.append] using hg.trans hs⟩

lemma snoc (h : Prepared c left values w w₁) {v : NativeValue} {more : List Lasting} {made : Made}
    (hv : v.Holds made (more.count .code)) (hg : Grows c more made w₁ w₂) :
    Prepared c (left ++ more) (values ++ [v]) w w₂ := by
  obtain ⟨m, hm, hg₁⟩ := h
  exact ⟨m.append made, by rw [List.count_append]; exact hm.snoc hv, hg₁.trans hg⟩

/-- The release of all values leaves what lasts of them. -/
lemma release (h : Prepared c left values w w₁) (hw : w₁.Placed) {s : LoopState} (hs : w.state = some s) :
    ∃ w₂, Eff.each NativeValue.release values w₁ = some (.ok (), w₂) ∧ Leaves c left w w₂ := by
  obtain ⟨made, hm, hg⟩ := h
  obtain ⟨heap, C, K, hC, hr⟩ := hm.release hg.closures hg.thunks hw.closures_nodup hw.thunks_nodup
  exact ⟨_, hr, .of_grows hg hs (by simp [World.liveClosures, hC]) rfl rfl⟩

end Prepared

section

variable {h : Host S} (hh : h.Within Evolves) (hn : ∀ a call words, NativeCode call (h.run a call words)) {c : Counts S}
  {w w' : World S}

include hh hn

/-- The values that are ready when an argument fails are let go of, and what lasts of them is left. -/
lemma prepareArgs_prepared {w₀ : World S} {s : LoopState} (hs : w₀.state = some s) (hc : c.Lawful h s.lifecycle)
    {symbol : Bytes} (args : List Arg) {index : Nat} {done : List NativeValue} {types : List AbiType}
    {left : List Lasting} (hp : Prepared c left done w₀ w) (hw : w.Placed)
    {r : Except Error (List NativeValue × List AbiType)}
    (hx : prepareArgs h symbol index done types args w = some (r, w')) :
    (∃ e, r = .error e) ∧ Leaves c (left ++ lastingArgs h symbol index args w) w₀ w' ∨
      ∃ values types', r = .ok (values, types') ∧ w'.Placed ∧
        Prepared c (left ++ lastingArgs h symbol index args w) values w₀ w' := by
  induction args generalizing index done types left w with
  | nil =>
    cases hx
    exact .inr ⟨done, types, rfl, hw, by simpa [lastingArgs] using hp⟩
  | cons a rest ih =>
    obtain ⟨s₁, hs₁, hl, -⟩ := hp.choose_spec.2.state s hs
    obtain ⟨r₁, w₁, ha, h₂⟩ := attempt_bind_eq_some.1 hx
    have hw₁ : w₁.Placed := hw.evolves (Evolution.work hh.quiet (.prepareArg trivial fun _ _ => trivial) ha)
    rcases prepareArg_grows hh hn hw hs₁ (hl ▸ hc) ha with ⟨⟨e, rfl⟩, hsilent⟩ | ⟨v, more, made, rfl, hv, hg⟩
    · have hnone : lastingArgs h symbol index (a :: rest) w = [] := by rw [lastingArgs, ha]
      obtain ⟨w₂, hr, hleft⟩ := (hp.silent hsilent).release hw₁ hs
      dsimp only at h₂
      rw [bind_ok hr] at h₂
      cases h₂
      exact .inl ⟨⟨e, rfl⟩, by rwa [hnone, List.append_nil]⟩
    · have hmore : lastingArgs h symbol index (a :: rest) w =
          a.lasting h w ++ lastingArgs h symbol (index + 1) rest w₁ := by rw [lastingArgs, ha]
      rw [hmore, ← List.append_assoc]
      exact ih (hp.snoc hv hg) hw₁ h₂

end

end Call

end NativeBridge
