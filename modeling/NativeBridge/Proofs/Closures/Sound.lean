import NativeBridge.Proofs.Calls.Kept
import NativeBridge.Proofs.Closures.Holders
import NativeBridge.Proofs.Unwinding.Conversion

/-!
Every step keeps counts and holders together, and so does every run from where nothing was made yet.
-/

namespace NativeBridge

open Eff

variable {S : Sides}

/-! ### Work that leaves closures alone -/

namespace Spares

lemma wrap (o : Wrapper) : Along Spares (LoopState.wrap o : Eff S Handle) := by
  rintro w (e | k) w' hx
  · obtain rfl := LoopState.wrap_error hx
    exact .rfl' _
  · obtain ⟨s, hs, -, rfl⟩ := LoopState.wrap_ok hx
    exact ⟨Nat.le_refl _, rfl, rfl, by simp [World.kept, hs]⟩

/-- Work that makes and releases no values. -/
lemma work {h : Host S} (hn : ∀ a call words, NativeCode call (h.run a call words)) {cells : Set CellId} {α : Type}
    {x : Eff S α} (hx : LoopWork h cells False True x) : Along Spares x := by
  refine hx.along (fun _ a words => ?_) (fun _ => wrap) False.elim False.elim
  exact (hn a _ words).along (fun _ _ _ hg => .of_memory hg) fun _ _ => .stuck

end Spares

lemma Disposes.kept {w w' : World S} (h : Disposes w w') : w'.kept = w.kept := by
  obtain ⟨_, _, _, rfl⟩ := h
  rfl

namespace Closures

variable {kept kept' : List Address} {s s' : State S} {a : Address}

/-! ### Values that are made -/

section

variable {signature : Signature} {v : NativeValue} {w : World S} {c : Closure}

lemma State.holders_made (b : Address) : (s.made signature v w).holders b =
    s.holders b + if b = s.world.heap.reserve.1 then (if signature.Lasts then 2 else 1) else 0 := by
  by_cases hl : signature.Lasts <;> by_cases hb : s.world.heap.reserve.1 = b <;>
    simp [State.holders, State.made, hl, hb, eq_comm (a := b)] <;> omega

lemma sameBut_made (hclosures : w.closures = s.world.closures ++ [(s.world.heap.reserve.1, c)])
    (hthunks : ∀ t th, th.target ≠ s.world.heap.reserve.1 → ((t, th) ∈ w.thunks ↔ (t, th) ∈ s.world.thunks)) :
    SameBut s.world.heap.reserve.1 s (s.made signature v w) where
  closures b hb c' := by
    change (b, c') ∈ w.closures ↔ _
    rw [hclosures]
    simp [hb]
  thunks := hthunks
  holders b hb := by rw [State.holders_made, if_neg hb, Nat.add_zero]
  handed _ _ hb := hb
  lasting b hb h := by
    rw [State.made] at h
    split at h
    · rcases List.mem_append.1 h with h | h
      · exact h
      · exact absurd (List.mem_singleton.1 h) hb
    · exact h
  values x hx hne := by
    rcases List.mem_cons.1 hx with rfl | hx
    · exact absurd rfl hne
    · exact ⟨x, hx, rfl, rfl⟩

/-- Where nothing was given out yet, there is nothing. -/
lemma Sound.unused (hs : Sound kept s) (hp : s.world.Placed) : (∀ c, (s.world.heap.reserve.1, c) ∉ s.world.closures) ∧
    (∀ t, ¬Targets s.world t s.world.heap.reserve.1) ∧ s.holders s.world.heap.reserve.1 = 0 := by
  have hnone : ∀ c, (s.world.heap.reserve.1, c) ∉ s.world.closures := fun c hmem =>
    (hp.lt_reserve (World.mem_entries hmem)).ne rfl
  refine ⟨hnone, ?_⟩
  cases hs.account s.world.heap.reserve.1 with
  | free _ ht hn => exact ⟨ht, hn⟩
  | entry hmem | code hmem => exact absurd ((hmem _).2 rfl) (hnone _)

lemma eq_of_made (hzero : s.holders s.world.heap.reserve.1 = 0) {x : Live} (hx : x ∈ (s.made signature v w).values)
    (hxd : x.closure = s.world.heap.reserve.1) : x = ⟨v, s.world.heap.reserve.1, false⟩ := by
  rcases List.mem_cons.1 hx with rfl | hx
  · rfl
  · exact (State.holders_eq_zero.1 hzero (.inl ⟨x, hx, hxd⟩)).elim

/-- A closure is made together with code for it. -/
lemma Sound.make_code (hs : Sound kept s) (hp : s.world.Placed) {t : Address} {th : Thunk}
    (hclosures : w.closures = s.world.closures ++ [(s.world.heap.reserve.1, c)])
    (hthunks : w.thunks = s.world.thunks ++ [(t, th)]) (hq : ¬th.result.isCallback)
    (hk : c.signature.kind = .closure) (hr : c.refs = 1)
    (htarget : th.target = s.world.heap.reserve.1) (ho : th.owners = if signature.Lasts then 2 else 1)
    (hscope : signature.Lasts → c.signature.scope = .forever)
    (hkept : kept' = if signature.Lasts then kept ++ [t] else kept) :
    Sound kept' (s.made signature (.owned t (.code t)) w) := by
  obtain ⟨hnone, hno, hzero⟩ := hs.unused hp
  have hheld := State.holders_eq_zero.1 hzero
  have hholders : (s.made signature (.owned t (.code t)) w).holders s.world.heap.reserve.1 = th.owners := by
    rw [State.holders_made, hzero, if_pos rfl, Nat.zero_add, ho]
  have hsame : SameBut s.world.heap.reserve.1 s (s.made signature (.owned t (.code t)) w) := by
    refine sameBut_made hclosures fun u th' hne => ?_
    rw [hthunks, List.mem_append, List.mem_singleton, or_iff_left]
    rintro ⟨rfl, rfl⟩
    exact hne htarget
  have hcode (u : Address) (th' : Thunk) :
      (u, th') ∈ w.thunks ∧ th'.target = s.world.heap.reserve.1 ↔ u = t ∧ th' = th := by
    rw [hthunks, List.mem_append, List.mem_singleton, Prod.mk.injEq]
    constructor
    · rintro ⟨hu | hu, htarget'⟩
      · exact absurd ⟨th', hu, htarget'⟩ (hno u)
      · exact hu
    · rintro ⟨rfl, rfl⟩
      exact ⟨.inr ⟨rfl, rfl⟩, htarget⟩
  have hstands : Targets w t s.world.heap.reserve.1 := ⟨th, (hcode t th).2 ⟨rfl, rfl⟩⟩
  have haccount : Account (s.made signature (.owned t (.code t)) w) s.world.heap.reserve.1 := by
    refine .code (c := c) (fun c' => ?_) hcode hq hk hr hholders.symm ?_ (fun h => hheld (.inr (.inl h))) fun h => ?_
    · change (_, c') ∈ w.closures ↔ _
      rw [hclosures]
      simp [hnone]
    · rw [hholders, ho]
      split <;> decide
    · by_cases hl : signature.Lasts
      · exact hscope hl
      · rw [State.made, if_neg hl] at h
        exact (hheld (.inr (.inr h))).elim
  refine hsame.sound hs haccount (fun x hx hxd => ?_) ?_
  · obtain rfl := eq_of_made hzero hx hxd
    exact .inr ⟨t, rfl, hstands⟩
  · have hold : List.Forall₂ (Targets w) kept s.lasting := hsame.targets_all (fun h => hheld (.inr (.inr h))) hs.kept
    rw [hkept, State.made]
    split
    · exact List.rel_append hold (.cons hstands .nil)
    · exact hold

/-- What is made of a function is held by its value, and if it lasts by the loop state. -/
lemma Sound.make (hs : Sound s.world.kept s) (hp : s.world.Placed) (hstate : s.world.state.isSome)
    (hx : Callback signature s.world (.ok v) w) : Sound w.kept (s.made signature v w) := by
  cases hx with
  | @trampoline c hk hc hr code destroy dataFirst =>
    obtain ⟨hnone, hno, hzero⟩ := hs.unused hp
    have hl : ¬signature.Lasts := fun h => hk h.1
    have hheld := State.holders_eq_zero.1 hzero
    have hholders (v : NativeValue) (w : World S) : (s.made signature v w).holders s.world.heap.reserve.1 = 1 := by
      rw [State.holders_made, hzero, if_pos rfl, if_neg hl]
    have hmem (c' : Closure) :
        (s.world.heap.reserve.1, c') ∈ s.world.closures ++ [(s.world.heap.reserve.1, c)] ↔ c' = c := by
      simp [hnone]
    refine SameBut.sound (sameBut_made (c := c) rfl fun _ _ _ => Iff.rfl) hs ?_ (fun x hx hxd => ?_) ?_
    · refine .entry hmem hno (hc ▸ hk) (by rw [hholders, hr]) (by rw [hholders]; decide) ?_
      rw [State.made, if_neg hl]
      exact fun h => hheld (.inr (.inr h))
    · obtain rfl := eq_of_made hzero hx hxd
      have hd : s.world.heap.reserve.1 ≠ 0 := (Nat.mul_pos (Nat.succ_pos _) (by decide)).ne'
      exact .inl ⟨code, destroy, dataFirst, c, rfl, hd, (hmem c).2 rfl, hc ▸ hk⟩
    · rw [State.made, if_neg hl]
      exact hs.kept
  | code hk hscope hc hr ht ho hq =>
    have hl : ¬signature.Lasts := fun h => hscope h.2
    exact hs.make_code hp rfl rfl hq (hc ▸ hk) hr ht (ho.trans (if_neg hl).symm) (fun h => absurd h hl) (if_neg hl).symm
  | kept hk hscope hc hr ht ho hq =>
    have hl : signature.Lasts := ⟨hk, hscope⟩
    obtain ⟨st, hst⟩ := Option.isSome_iff_exists.1 hstate
    refine hs.make_code hp rfl rfl hq (hc ▸ hk) hr ht (ho.trans (if_pos hl).symm) (fun h => hc ▸ h.2) ?_
    rw [if_pos hl]
    simp [World.kept, hst, Retained.thunk?]

end

/-! ### The teardown -/

/-- What is kept is let go of in order. -/
lemma Sound.releases {L : List Retained} (hs : Sound (L.filterMap Retained.thunk?) s) (hp : s.world.Placed)
    (hl : s.lasting.Nodup) {r : Except Error Unit} {w : World S}
    (hx : Eff.each LoopState.releaseRetained L s.world = some (r, w)) :
    Sound [] { s with world := w, lasting := [] } := by
  induction L generalizing s with
  | nil =>
    cases hx
    obtain ⟨w, values, handed, running, lasting, teardowns⟩ := s
    obtain rfl : lasting = [] := List.forall₂_nil_left_iff.1 hs.kept
    exact hs
  | cons k rest ih =>
    cases k with
    | resource n => exact ih hs hp hl hx
    | thunk t =>
      obtain ⟨w₁, h₁⟩ := Thunk.disown_ok t s.world
      rw [Eff.each, LoopState.releaseRetained, bind_ok h₁] at hx
      -- the first code that is kept is that of the first closure that lasts
      have hkept : List.Forall₂ (Targets s.world) (t :: rest.filterMap Retained.thunk?) s.lasting := hs.kept
      cases hlast : s.lasting with
      | nil =>
        rw [hlast] at hkept
        cases hkept
      | cons a l =>
        rw [hlast] at hkept hl
        obtain ⟨ht, hrest⟩ := List.forall₂_cons.1 hkept
        have hgo : LetsGo a s { s with world := w₁, lasting := l } := by
          refine ⟨fun b => ?_, List.Subset.refl _, ?_, List.Subset.refl _⟩
          · simp only [State.holders, hlast, List.count_cons, beq_iff_eq, eq_comm (a := a), Nat.add_assoc]
          · rw [hlast]
            exact List.subset_cons_self a l
        have hp₁ : w₁.Placed := hp.evolves (Evolution.disownThunk t h₁)
        exact ih (s := { s with world := w₁, lasting := l }) (hs.disown hp hgo ht h₁ hrest) hp₁
          (List.nodup_cons.1 hl).2 hx

/-- A teardown lets go of what is kept, after work that leaves closures alone. -/
lemma teardown_cases {h : Host S} (hn : ∀ a call words, NativeCode call (h.run a call words)) {w w' : World S}
    {st : LoopState} (hthread : w.thread = .loop) (hst : w.state = some st)
    (hx : LoopState.teardown h w = some (.ok (), w')) :
    ∃ u v : World S, w.heap.given ≤ u.heap.given ∧ u.closures = w.closures ∧ u.thunks = w.thunks ∧
      Eff.each LoopState.releaseRetained st.retained u = some (.ok (), v) ∧ v.heap.given ≤ w'.heap.given ∧
      w'.closures = v.closures ∧ w'.thunks = v.thunks ∧ w'.state = none := by
  by_cases hu : w.inUse = true
  · rw [LoopState.teardown_of_inUse hthread (Option.isSome_of_eq_some hst) hu h] at hx
    cases hx
  rw [LoopState.teardown_of_free hthread hst (by simpa using hu) h] at hx
  rcases bind_eq_some.1 hx with ⟨_, w₄, hclear, hlast⟩ | ⟨e, -, he⟩
  · cases hlast
    -- the wrappers are dropped before anything that is kept
    have hclear : (do
        LoopState.update fun s => { s with registry := st.registry.clear.2 }
        Eff.each (Wrapper.drop h st.lifecycle) st.registry.clear.1
        LoopState.update fun s => { s with retained := [] }
        Eff.each LoopState.releaseRetained st.retained
        LoopState.update fun s => { s with workGuard := false }) { w with inUse := true } = some (.ok (), w₄) := hclear
    rw [LoopState.update, bind_ok (modify_apply _ _)] at hclear
    rcases bind_eq_some.1 hclear with ⟨_, w₁, h₁, hclear⟩ | ⟨e, -, he⟩
    · rw [LoopState.update, bind_ok (modify_apply _ _)] at hclear
      rcases bind_eq_some.1 hclear with ⟨_, w₃, h₃, h₄⟩ | ⟨e, -, he⟩
      · cases h₄
        have hdrop (o : Wrapper) : LoopWork h ∅ False True (o.drop h st.lifecycle) := .drop st.lifecycle o
        have hdrops : Spares _ w₁ := Along.each (fun o => Spares.work hn (hdrop o)) _ h₁
        refine ⟨_, w₃, ?_, ?_, ?_, h₃, le_rfl, rfl, rfl, rfl⟩
        · exact hdrops.given
        · exact hdrops.closures
        · exact hdrops.thunks
      · cases he
    · cases he
  · cases he

/-! ### Steps -/

/-- Counts tell the holders, and each holder holds a closure once. -/
structure State.Proper (s : State S) : Prop where
  placed : s.world.Placed
  sound : Sound s.world.kept s
  orderly : Orderly s

lemma Placed.of_same {w w' : World S} (hw : w.Placed) (hg : w.heap.given ≤ w'.heap.given)
    (hc : w'.closures = w.closures) (ht : w'.thunks = w.thunks) : w'.Placed := by
  refine hw.shrink ?_ hg
  rw [World.entries, World.entries, hc, ht]

/-- Addresses that were given out are not given out again. -/
lemma Step.placed (h : Step s s') (hp : s.world.Placed) :
    s'.world.Placed ∧ s.world.heap.given ≤ s'.world.heap.given := by
  have evolved {w : World S} (he : Evolves s.world w) : w.Placed ∧ s.world.heap.given ≤ w.heap.given :=
    ⟨hp.evolves he, given_le_of_evolves he⟩
  cases h with
  | other hw => exact ⟨Placed.of_same hp hw.given hw.closures hw.thunks, hw.given⟩
  | make _ hx | refuse hx => exact evolved (Evolution.makeCallback _ _ hx)
  | handOver _ _ hx => exact evolved (Evolution.handOver _ hx)
  | release _ hx => exact evolved (Evolution.releaseValue _ hx)
  | fire => exact ⟨hp, le_rfl⟩
  | finish _ hx => exact evolved (Evolution.unrefClosure _ hx)
  | unref _ _ hx => exact evolved (Along.ite (.pure _) (Evolution.unrefClosure _) hx)
  | teardown hn hthread hstate hx =>
    obtain ⟨st, hst⟩ := Option.isSome_iff_exists.1 hstate
    obtain ⟨u, v, hg, hc, ht, hreleases, hg', hc', ht', -⟩ := teardown_cases hn hthread hst hx
    have he : Evolves u v := Along.each Evolution.releaseRetained _ hreleases
    have hu := Placed.of_same hp hg hc ht
    exact ⟨Placed.of_same (hu.evolves he) hg' hc' ht', hg.trans ((given_le_of_evolves he).trans hg')⟩

/-! #### Holders -/

section

variable {before after : List Live} {x : Live} {w : World S}

lemma values_released (hv : s.values = before ++ x :: after) : (before ++ after).Sublist s.values := by
  rw [hv]
  exact (List.Sublist.refl before).append (List.sublist_cons_self x after)

lemma letsGo_value (hv : s.values = before ++ x :: after) :
    LetsGo x.closure s { s with world := w, values := before ++ after } := by
  refine ⟨fun b => ?_, List.Subset.refl _, List.Subset.refl _, fun y hy => ?_⟩
  · simp only [State.holders, hv, List.map_append, List.map_cons, List.count_append, List.count_cons, beq_iff_eq,
      eq_comm (a := x.closure)]
    omega
  · exact (values_released hv).subset hy

lemma letsGo_handed (ha : a ∈ s.handed) (running : List Address) :
    LetsGo a s { s with world := w, handed := s.handed.erase a, running } := by
  refine ⟨fun b => ?_, List.erase_subset, List.Subset.refl _, List.Subset.refl _⟩
  have hcount := (List.perm_cons_erase ha).count_eq b
  rw [List.count_cons] at hcount
  simp only [State.holders, hcount, beq_iff_eq, eq_comm (a := a)]
  omega

lemma keys_handed (hv : s.values = before ++ x :: after) :
    (before ++ { x with handed := true } :: after).map Live.closure = s.values.map Live.closure := by
  rw [hv, List.map_append, List.map_append, List.map_cons, List.map_cons]

lemma values_handed (hv : s.values = before ++ x :: after) :
    ∀ y ∈ before ++ { x with handed := true } :: after, ∃ z ∈ s.values, z.value = y.value ∧ z.closure = y.closure := by
  intro y hy
  rw [hv]
  rcases List.mem_append.1 hy with hy | hy
  · exact ⟨y, List.mem_append_left _ hy, rfl, rfl⟩
  · rcases List.mem_cons.1 hy with rfl | hy
    · exact ⟨x, List.mem_append_right _ List.mem_cons_self, rfl, rfl⟩
    · exact ⟨y, List.mem_append_right _ (List.mem_cons_of_mem _ hy), rfl, rfl⟩

/-- A value goes with its hold on the closure. -/
lemma Sound.release (hs : Sound kept s) (hp : s.world.Placed) (hv : s.values = before ++ x :: after)
    (hx : x.value.release s.world = some (.ok (), w)) :
    Sound kept { s with world := w, values := before ++ after } := by
  have hgo := letsGo_value (w := w) hv
  have hmem : x ∈ s.values := hv ▸ List.mem_append_cons_self
  rcases hs.stands x hmem with ⟨code, destroy, first, c, hvalue, hzero, hc, hk⟩ | ⟨t, hvalue, ht⟩
  · rw [hvalue, NativeValue.release, if_neg hzero] at hx
    exact hs.unref hgo (.inr ⟨c, hc, hk⟩) hx rfl
  · rw [hvalue] at hx
    exact hs.disown hp hgo ht hx hs.kept

/-- Native code is given a reference of its own to a closure with an entry point, and nothing of code. -/
lemma Sound.handOver (hs : Sound kept s) (hv : s.values = before ++ x :: after)
    (hx : x.value.handOver s.world = some (.ok (), w)) :
    Sound kept { s with
      world := w
      values := before ++ { x with handed := true } :: after
      handed := if x.isTrampoline then x.closure :: s.handed else s.handed } := by
  have hmem : x ∈ s.values := hv ▸ List.mem_append_cons_self
  have hkeys := keys_handed hv
  have hvalues := values_handed hv
  rcases hs.stands x hmem with ⟨code, destroy, first, c, hvalue, hzero, hc, hk⟩ | ⟨t, hvalue, ht⟩
  · have htramp : x.isTrampoline = true := by rw [Live.isTrampoline, hvalue]
    rw [hvalue, NativeValue.handOver, if_neg hzero] at hx
    refine hs.ref hc hk hx (fun b => ?_) rfl (if_pos htramp) hvalues
    simp only [State.holders, hkeys, if_pos htramp, List.count_cons, beq_iff_eq, eq_comm (a := x.closure)]
    omega
  · have htramp : x.isTrampoline = false := by rw [Live.isTrampoline, hvalue]
    rw [hvalue] at hx
    cases hx
    simp only [htramp, Bool.false_eq_true, if_false]
    refine hs.of_same rfl rfl (fun b => ?_) (List.Subset.refl _) rfl hvalues
    simp only [State.holders, hkeys]

end

lemma Step.sound (h : Step s s') (hs : s.Proper) : Sound s'.world.kept s' := by
  obtain ⟨hp, hs, ho⟩ := hs
  cases h with
  | other hw =>
    rw [hw.kept]
    exact hs.of_world hw.closures hw.thunks
  | make hstate hx => exact hs.make hp hstate (makeCallback_cases hp hx)
  | refuse hx =>
    cases makeCallback_cases hp hx with
    | refused => exact hs.of_world rfl rfl
  | handOver hv _ hx =>
    rw [(Disposes.handOver _ hx).kept]
    exact hs.handOver hv hx
  | release hv hx =>
    rw [(Disposes.release _ hx).kept]
    exact hs.release hp hv hx
  | fire => exact hs.of_same rfl rfl (fun _ => rfl) (List.Subset.refl _) rfl fun x hx => ⟨x, hx, rfl, rfl⟩
  | @finish before after a w hr hx =>
    have ha : a ∈ s.handed := ho.runs a (hr ▸ List.mem_append_cons_self)
    rw [(Disposes.unref a hx).kept]
    exact hs.unref (letsGo_handed ha _) (.inl ha) hx rfl
  | @unref a w ha _ hx =>
    have hzero : a ≠ 0 := by
      obtain ⟨c, hc, -⟩ := (hs.account a).of_entry (.inl ha)
      exact (hp.pos a (World.mem_entries ((hc c).2 rfl))).ne'
    rw [Trampoline.unref, if_neg hzero] at hx
    rw [(Disposes.unref a hx).kept]
    exact hs.unref (letsGo_handed ha _) (.inl ha) hx rfl
  | @teardown h w hn hthread hstate hx =>
    obtain ⟨st, hst⟩ := Option.isSome_iff_exists.1 hstate
    obtain ⟨u, v, hg, hc, ht, hreleases, -, hc', ht', hnone⟩ := teardown_cases hn hthread hst hx
    have hkept : s.world.kept = st.retained.filterMap Retained.thunk? := by rw [World.kept, hst]; rfl
    have hkept' : w.kept = [] := by rw [World.kept, hnone]; rfl
    have hu : Sound (st.retained.filterMap Retained.thunk?) { s with world := u } := hkept ▸ hs.of_world hc ht
    have hv := hu.releases (Placed.of_same hp hg hc ht) ho.lasting hreleases
    rw [hkept']
    exact hv.of_same hc' ht' (fun _ => rfl) (List.Subset.refl _) rfl fun x hx => ⟨x, hx, rfl, rfl⟩

/-! #### Order -/

namespace Orderly

variable {signature : Signature} {v : NativeValue} {w : World S}

/-- A closure that a value is made with has no holder before. -/
lemma make (ho : Orderly s) (hzero : s.holders s.world.heap.reserve.1 = 0) : Orderly (s.made signature v w) := by
  have hheld := State.holders_eq_zero.1 hzero
  refine ⟨?_, ho.handed, ?_, fun x hx hfirst => ?_, ho.running, ho.runs⟩
  · exact List.nodup_cons.2 ⟨fun h => hheld (.inl (State.held_iff.2 h)), ho.values⟩
  · rw [State.made]
    split
    · refine List.nodup_append.2 ⟨ho.lasting, List.nodup_singleton _, fun b hb d hd => ?_⟩
      rintro rfl
      obtain rfl := List.mem_singleton.1 hd
      exact hheld (.inr (.inr hb))
    · exact ho.lasting
  · rcases List.mem_cons.1 hx with rfl | hx
    · exact fun h => hheld (.inr (.inl h))
    · exact ho.unhanded x hx hfirst

/-- The value that is handed over is marked, and no other has its closure. -/
lemma handOver (ho : Orderly s) {before after : List Live} {x : Live} (hv : s.values = before ++ x :: after)
    (hfirst : x.handed = false) :
    Orderly { s with
      world := w
      values := before ++ { x with handed := true } :: after
      handed := if x.isTrampoline then x.closure :: s.handed else s.handed } := by
  have hnodup := ho.values
  rw [hv, List.map_append, List.map_cons, List.nodup_middle, List.nodup_cons, ← List.map_append] at hnodup
  have hmem : x ∈ s.values := hv ▸ List.mem_append_cons_self
  have hsub : s.handed ⊆ if x.isTrampoline then x.closure :: s.handed else s.handed := by
    split
    · exact List.subset_cons_self _ _
    · exact List.Subset.refl _
  refine ⟨?_, ?_, ho.lasting, fun y hy hyfirst h => ?_, ho.running, fun b hb => hsub (ho.runs b hb)⟩
  · rw [keys_handed hv]
    exact ho.values
  · change (if x.isTrampoline then x.closure :: s.handed else s.handed).Nodup
    split
    · exact List.nodup_cons.2 ⟨ho.unhanded x hmem hfirst, ho.handed⟩
    · exact ho.handed
  · have hold : y ∈ before ++ after := by
      rcases List.mem_append.1 hy with hy | hy
      · exact List.mem_append_left _ hy
      · rcases List.mem_cons.1 hy with rfl | hy
        · cases hyfirst
        · exact List.mem_append_right _ hy
    have hyv : y ∈ s.values := (values_released hv).subset hold
    have hne : y.closure ≠ x.closure := fun he => hnodup.1 (he ▸ List.mem_map_of_mem hold)
    refine ho.unhanded y hyv hyfirst ?_
    split at h
    · exact (List.mem_cons.1 h).resolve_left hne
    · exact h

/-- What native code lets go of does not run from then on. -/
lemma letGo (ho : Orderly s) {running : List Address} (hnodup : running.Nodup)
    (hr : ∀ b ∈ running, b ∈ s.running ∧ b ≠ a) :
    Orderly { s with world := w, handed := s.handed.erase a, running } := by
  refine ⟨ho.values, ho.handed.erase a, ho.lasting, fun x hx hfirst h => ?_, hnodup, fun b hb => ?_⟩
  · exact ho.unhanded x hx hfirst (List.mem_of_mem_erase h)
  · exact (List.mem_erase_of_ne (hr b hb).2).2 (ho.runs b (hr b hb).1)

end Orderly

lemma Step.orderly (h : Step s s') (hs : s.Proper) : Orderly s' := by
  obtain ⟨hp, hs, ho⟩ := hs
  cases h with
  | other | refuse => exact ⟨ho.values, ho.handed, ho.lasting, ho.unhanded, ho.running, ho.runs⟩
  | make => exact ho.make (hs.unused hp).2.2
  | handOver hv hfirst => exact ho.handOver hv hfirst
  | release hv hx =>
    have hsub := values_released hv
    exact ⟨ho.values.sublist (hsub.map _), ho.handed, ho.lasting, fun y hy => ho.unhanded y (hsub.subset hy),
      ho.running, ho.runs⟩
  | fire ha hr =>
    exact ⟨ho.values, ho.handed, ho.lasting, ho.unhanded, List.nodup_cons.2 ⟨hr, ho.running⟩,
      List.forall_mem_cons.2 ⟨ha, ho.runs⟩⟩
  | @finish before after a w hr =>
    have hnodup := hr ▸ ho.running
    rw [List.nodup_middle, List.nodup_cons] at hnodup
    refine ho.letGo hnodup.2 fun b hb => ⟨?_, fun hba => hnodup.1 (hba ▸ hb)⟩
    rw [hr]
    exact ((List.Sublist.refl before).append (List.sublist_cons_self a after)).subset hb
  | unref ha hr => exact ho.letGo ho.running fun b hb => ⟨hb, fun hba => hr (hba ▸ hb)⟩
  | teardown => exact ⟨ho.values, ho.handed, List.nodup_nil, ho.unhanded, ho.running, ho.runs⟩

/-! ### Runs -/

lemma State.Proper.step (hs : s.Proper) (h : Step s s') : s'.Proper :=
  ⟨(h.placed hs.placed).1, h.sound hs, h.orderly hs⟩

lemma State.Proper.run (hs : s.Proper) (hr : Run s s') : s'.Proper := by
  induction hr with
  | refl => exact hs
  | tail _ h ih => exact ih.step h

lemma State.Opening.proper (h : s.Opening) : s.Proper := by
  have hentries : s.world.entries = [] := by rw [World.entries, h.closures, h.thunks]; rfl
  have hnone {P : Address → Prop} : ∀ a ∈ s.world.entries, P a := by simp [hentries]
  refine ⟨⟨hnone, hnone, by simp [hentries]⟩, ⟨fun a => .free ?_ ?_ ?_, ?_, ?_⟩, ?_, ?_, ?_, ?_, ?_, ?_⟩
  · simp [h.closures]
  · rintro t ⟨th, hmem, -⟩
    rw [h.thunks] at hmem
    cases hmem
  · simp [State.holders, h.values, h.handed, h.lasting]
  · simp [h.values]
  · rw [h.kept, h.lasting]
    exact .nil
  · simp [h.values]
  · simp [h.handed]
  · simp [h.lasting]
  · simp [h.values]
  · simp [h.running]
  · simp [h.running]

end Closures

end NativeBridge
