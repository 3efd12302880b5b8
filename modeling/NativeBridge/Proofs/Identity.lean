import Mathlib
import NativeBridge.Proofs.Evolution.Host

/-!
What a handle stands for. As long as the bridge is not started again a handle resolves to the object it was made for or
to nothing. Each start counts identities from one, so afterwards it may resolve to a later object of the same number.
-/

namespace NativeBridge

open Eff

variable {S : Sides}

/-! ### The registry -/

/-- A change leaves every entry of the registry as it is, removes it, or registers a new object under the next
identity; only with a start the identities begin anew. -/
lemma Change.registry {w w' : World S} (hc : Change w w') {s' : LoopState} (hs' : w'.state = some s') :
    (w.state = none ∧ w'.generation = w.generation + 1 ∧ s'.registry = {}) ∨
      ∃ s, w.state = some s ∧ w'.generation = w.generation ∧ s.registry.nextId ≤ s'.registry.nextId ∧
        ∀ e ∈ s'.registry.entries, e ∈ s.registry.entries ∨
          e.1 = s.registry.nextId ∧ s.registry.nextId < s'.registry.nextId ∧
            LoopState.wrap e.2 w = some (.ok ⟨e.1, some w.minted⟩, w') := by
  cases hc with
  | start t h ht =>
    cases hs'
    exact .inl ⟨h, rfl, ht⟩
  | uninstall => cases hs'
  | keep s t h ht =>
    cases hs'
    exact .inr ⟨s, h, rfl, ht ▸ le_rfl, fun e he => .inl (ht ▸ he)⟩
  | wrap s h o =>
    cases hs'
    refine .inr ⟨s, h, rfl, Nat.le_succ _, fun e he => ?_⟩
    rcases List.mem_append.1 he with he | he
    · exact .inl he
    · obtain rfl := List.mem_singleton.1 he
      exact .inr ⟨rfl, Nat.lt_succ_self _, LoopState.wrap_of_some h o⟩
  | take s h id =>
    cases hs'
    exact .inr ⟨s, h, rfl, le_rfl, fun e he => .inl (List.mem_of_mem_filter he)⟩
  | clear s h =>
    cases hs'
    exact .inr ⟨s, h, rfl, le_rfl, fun e he => absurd he List.not_mem_nil⟩
  | _ => exact .inr ⟨s', hs', rfl, le_rfl, fun e he => .inl he⟩

/-- Identities in the registry lie below the next one. -/
def World.Numbered (w : World S) : Prop :=
  ∀ s, w.state = some s → ∀ e ∈ s.registry.entries, e.1 < s.registry.nextId

lemma World.Numbered.step {w w' : World S} (hw : w.Numbered) (hc : Change w w') : w'.Numbered := by
  intro s' hs' e he
  rcases hc.registry hs' with ⟨-, -, hr⟩ | ⟨s, hs, -, hle, hentry⟩
  · rw [hr] at he
    exact absurd he List.not_mem_nil
  · rcases hentry e he with h | ⟨h, hlt, -⟩
    · exact (hw s hs e h).trans_le hle
    · exact h ▸ hlt

lemma World.Reached.numbered {w : World S} (hw : w.Reached) : w.Numbered :=
  hw.invariant (fun _ _ _ _ hs => by cases hs) World.Numbered.step

/-! ### One run of the bridge -/

/-- In the run of the bridge in which an object was given an identity, nothing else has it. -/
structure Standing (o : Wrapper) (id : ObjectId) (run : Nat) (w : World S) : Prop where
  run_le : run ≤ w.generation
  used : ∀ s, w.generation = run → w.state = some s → id < s.registry.nextId
  own : ∀ s x, w.generation = run → w.state = some s → (id, x) ∈ s.registry.entries → x = o

lemma Standing.step {o : Wrapper} {id : ObjectId} {run : Nat} {w w' : World S} (hw : Standing o id run w)
    (hc : Change w w') : Standing o id run w' := by
  have hgen : run ≤ w'.generation := by
    cases hc <;> first | exact hw.run_le | exact hw.run_le.trans (Nat.le_succ _)
  refine ⟨hgen, fun s' hg hs' => ?_, fun s' x hg hs' hx => ?_⟩
  · rcases hc.registry hs' with ⟨-, h, -⟩ | ⟨s, hs, h, hle, -⟩
    · have := hw.run_le
      omega
    · exact (hw.used s (h ▸ hg) hs).trans_le hle
  · rcases hc.registry hs' with ⟨-, h, -⟩ | ⟨s, hs, h, -, hentry⟩
    · have := hw.run_le
      omega
    · rcases hentry _ hx with hx | ⟨hid, -, -⟩
      · exact hw.own s x (h ▸ hg) hs hx
      · exact absurd hid (hw.used s (h ▸ hg) hs).ne

lemma Standing.evolves {o : Wrapper} {id : ObjectId} {run : Nat} {w w' : World S} (hw : Standing o id run w)
    (h : Evolves w w') : Standing o id run w' := by
  induction h with
  | refl => exact hw
  | tail _ hc ih => exact ih.step hc

lemma standing_of_wrap {u w₀ : World S} {o : Wrapper} {v : Handle} (hu : u.Numbered)
    (hv : LoopState.wrap o u = some (.ok v, w₀)) : Standing o v.id w₀.generation w₀ := by
  obtain ⟨s, hs, rfl, rfl⟩ := LoopState.wrap_ok hv
  refine ⟨le_rfl, fun t _ ht => ?_, fun t x _ ht hx => ?_⟩
  · cases ht
    exact Nat.lt_succ_self _
  · cases ht
    rcases List.mem_append.1 hx with hx | hx
    · exact absurd (hu s hs _ hx) (lt_irrefl _)
    · cases List.mem_singleton.1 hx
      rfl

/-! ### Later runs -/

/-- A registered object of another run than that of a world before was registered since. -/
lemma registered_since {w₀ w : World S} (hw : Evolves w₀ w) (hrun : w.generation ≠ w₀.generation) {s : LoopState}
    (hs : w.state = some s) {e : ObjectId × Wrapper} (he : e ∈ s.registry.entries) :
    ∃ u k w₁, Evolves w₀ u ∧ LoopState.wrap e.2 u = some (.ok ⟨e.1, some k⟩, w₁) ∧ Evolves w₁ w ∧
      w₁.generation = w.generation := by
  induction hw generalizing s with
  | refl => exact absurd rfl hrun
  | @tail w w' hw hc ih =>
    rcases hc.registry hs with ⟨-, -, hr⟩ | ⟨t, ht, hg, -, hentry⟩
    · rw [hr] at he
      exact absurd he List.not_mem_nil
    · rcases hentry e he with he | ⟨-, -, hwrap⟩
      · obtain ⟨u, k, w₁, h₁, h₂, h₃, h₄⟩ := ih (hg ▸ hrun) ht he
        exact ⟨u, k, w₁, h₁, h₂, h₃.tail hc, h₄.trans hg.symm⟩
      · exact ⟨w, w.minted, w', hw, hwrap, .refl, rfl⟩

lemma mem_of_find? {r : Registry} {id : ObjectId} {o : Wrapper} (h : r.find? id = some o) : (id, o) ∈ r.entries := by
  obtain ⟨l₁, l₂, h, -⟩ := List.lookup_eq_some_iff.1 h
  simp [h]

lemma request_of_none {Native Script : Type} (h : Host (Bridge.sides Native Script))
    {w : World (Bridge.sides Native Script)} (hs : w.state = none) (r : Bridge.Request) :
    Bridge.request h r w = some (.error .notRunning, w) := by
  simp [Bridge.request, Bridge.isRunning, bind_apply, map_apply, if_apply, Except.map, hs]

/-- **A handle keeps to its object until the bridge is started again.** Everything that a script and the threads of a
bridge do leads from a world to later ones. In the run of the bridge that made the handle it resolves to the object that
it was made for, or is refused as released; without a bridge every request is refused. In another run it resolves to
nothing but an object that this run registered under the same number. -/
theorem resolves_to_own_object_until_restart {Native Script : Type} {h : Host (Bridge.sides Native Script)}
    (hh : h.Tied) {u w₀ w : World (Bridge.sides Native Script)} {o : Wrapper} {v : Handle} (hu : u.Reached)
    (hv : LoopState.wrap o u = some (.ok v, w₀)) (hw : Evolves w₀ w) :
    (∀ {α : Type} {x : Eff (Bridge.sides Native Script) α}, ScriptCode h x → ∀ r w', x w = some (r, w') →
      Evolves w₀ w') ∧
    (∀ j r w', Bridge.answer h j w = some (r, w') → Evolves w₀ w') ∧
    (w.state = none → ∀ r, Bridge.request h r w = some (.error .notRunning, w)) ∧
    (w.state.isSome → w.generation = w₀.generation →
      resolveObject (some v) w = some (.ok o.pointer, w) ∨
        resolveObject (some v) w = some (.error (.released v.id), w)) ∧
    (w.state.isSome → w.generation ≠ w₀.generation →
      resolveObject (some v) w = some (.error (.released v.id), w) ∨
        ∃ other k u' w₁, Evolves w₀ u' ∧ LoopState.wrap other u' = some (.ok ⟨v.id, some k⟩, w₁) ∧ Evolves w₁ w ∧
          w₁.generation = w.generation ∧ resolveObject (some v) w = some (.ok other.pointer, w)) := by
  refine ⟨fun hx r w' hr => hw.trans (hx.along hh.evolves hr),
    fun j r w' hr => hw.trans (Evolution.answer (Evolution.runs hh.evolves) j hr), fun hs r => request_of_none h hs r, ?_, ?_⟩
  · intro hsome hrun
    obtain ⟨s, hs⟩ := Option.isSome_iff_exists.1 hsome
    rw [resolveObject_of_some hs]
    rcases hf : s.registry.find? v.id with _ | x
    · exact .inr rfl
    · have hstanding := (standing_of_wrap hu.numbered hv).evolves hw
      rw [hstanding.own s x hrun hs (mem_of_find? hf)]
      exact .inl rfl
  · intro hsome hrun
    obtain ⟨s, hs⟩ := Option.isSome_iff_exists.1 hsome
    rw [resolveObject_of_some hs]
    rcases hf : s.registry.find? v.id with _ | x
    · exact .inl rfl
    · obtain ⟨u', k, w₁, h₁, h₂, h₃, h₄⟩ := registered_since hw hrun hs (mem_of_find? hf)
      exact .inr ⟨x, k, u', w₁, h₁, h₂, h₃, h₄, rfl⟩

/-- Native libraries in which nothing is defined, and a script without functions, to a depth of crossings. -/
def silentHost : Nat → Host (Bridge.sides Unit Unit)
  | 0 =>
    { loader := fun _ => .error [], symbol := fun _ _ => .error [], anySymbol := fun _ => none, run := fun _ _ _ => stuck
      limit := 0, script := fun _ _ => stuck, answer := fun _ => stuck, scriptTurn := stuck, loopTurn := stuck }
  | depth + 1 =>
    { loader := fun _ => .error [], symbol := fun _ _ => .error [], anySymbol := fun _ => none, run := fun _ _ _ => stuck
      limit := 4, script := fun _ _ => stuck, answer := Bridge.answer (silentHost depth), scriptTurn := pure ()
      loopTurn := do let _ ← LoopDispatch.poll (silentHost depth) }

lemma silentHost_tied (depth : Nat) : (silentHost depth).Tied := by
  induction depth with
  | zero => exact .ground (fun _ _ _ => .stuck) (fun _ _ => rfl) (fun _ => rfl) rfl rfl
  | succ depth ih =>
    exact .crossing ih (fun _ _ _ => .stuck) (fun _ _ => .stuck) (fun _ => rfl) (.pure ())
      (.bind (.step LoopStep.poll) fun _ => .pure ())

/-- A first run of a bridge in which nothing is registered yet. -/
def firstRun : World (Bridge.sides Unit Unit) :=
  { World.opening () () .none with generation := 1, state := some { lifecycle := ⟨fun _ => none, []⟩ } }

/-- The run with a boxed value registered. -/
def boxedRun : World (Bridge.sides Unit Unit) :=
  { firstRun with
    state := some { lifecycle := ⟨fun _ => none, []⟩, registry := (Registry.add {} (.boxed 64 0 .none)).2 }
    handles := [(0, 1, 1)]
    minted := 1 }

theorem own_object_beside_another :
    ∃ k w, firstRun.Reached ∧ LoopState.wrap (.boxed 64 0 .none) firstRun = some (.ok ⟨1, some 0⟩, boxedRun) ∧
      LoopState.wrap (.object 128) boxedRun = some (.ok k, w) ∧ Evolves boxedRun w ∧ k.id ≠ 1 ∧
      (resolveObject (some ⟨1, some 0⟩) w = some (.ok 64, w) ∨
        resolveObject (some ⟨1, some 0⟩) w = some (.error (.released 1), w)) := by
  have hu : firstRun.Reached := ⟨(), (), .none, .single (.start _ _ rfl rfl)⟩
  have hv : LoopState.wrap (.boxed 64 0 .none) firstRun = some (.ok ⟨1, some 0⟩, boxedRun) :=
    LoopState.wrap_of_some (w := firstRun) rfl _
  have hk := LoopState.wrap_of_some (w := boxedRun) rfl (.object 128)
  have hw : Evolves boxedRun _ := Evolution.wrap (.object 128) hk
  have h := (resolves_to_own_object_until_restart (silentHost_tied 2) hu hv hw).2.2.2.1 rfl rfl
  exact ⟨_, _, hu, hv, hk, hw, by decide, h⟩

/-- No library and no function for any role. -/
def noLifecycle : LifecycleConfig := { libraries := [], symbol := fun _ => "" }

/-- Registers an object, and asks for its address before a restart and after it. -/
def askAcrossRestart : Eff (Bridge.sides Unit Unit) (Address × Address) := do
  let h := silentHost 2
  Bridge.start h noLifecycle
  let object ← Bridge.alloc h 8 "Point" none
  let before ← Bridge.address h object
  Bridge.stop h
  Bridge.start h noLifecycle
  let _ ← Bridge.alloc h 8 "Point" none
  return (before, ← Bridge.address h object)

/-- **After a restart a handle can stand for another object.** -/
theorem other_address_after_restart :
    (askAcrossRestart (.opening () () .none)).map Prod.fst = some (.ok (Heap.stride, 2 * Heap.stride)) := by
  cbv

end NativeBridge
