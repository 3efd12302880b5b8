import NativeBridge.Proofs.Library.Accounts

/-!
What caches and lifecycles own stays with them until they release it: whatever else happens, none of it is closed.
-/

namespace NativeBridge.Library.Openings

open State

variable {s s' : State} {k : Keeper} {p q : Place} {n : Nat} {h : Handle}

/-! ### The handles of a keeper -/

/-- What is so of the handles of a keeper in each phase: what it has moved away and what it has released owns nothing,
and in its end it has released all. -/
def Kept (s : State) (k : Keeper) : Option Phase → Prop
  | none => ∀ p, p.keeper? = some k → s.handles p = none
  | some (.alive left) => ∀ p ∈ left, p.keeper? = some k ∧ s.handles p = some none
  | some (.releasing rest) => ∀ p, p.keeper? = some k → p ∉ rest → s.owned p = none
  | some .ending => ∀ p, p.keeper? = some k → s.owned p = none

lemma Kept.congr {phase : Option Phase} (hk : Kept s k phase)
    (h : ∀ p, p.keeper? = some k → s'.handles p = s.handles p) : Kept s' k phase := by
  have howned (p : Place) (hp : p.keeper? = some k) : s'.owned p = s.owned p := congrArg number? (h p hp)
  match phase, hk with
  | none, hk => exact fun p hp => (h p hp).trans (hk p hp)
  | some (.alive left), hk => exact fun p hp => ⟨(hk p hp).1, (h p (hk p hp).1).trans (hk p hp).2⟩
  | some (.releasing rest), hk => exact fun p hp hrest => (howned p hp).trans (hk p hp hrest)
  | some .ending, hk => exact fun p hp => (howned p hp).trans (hk p hp)

/-- The handles of every keeper are as its phase says. -/
structure Orderly (s : State) : Prop where
  kept {k : Keeper} {phase : Option Phase} (hk : s.keepers k = phase) : Kept s k phase

namespace Orderly

/-- Handles in variables change. -/
lemma of_vars (ho : Orderly s) (hk : s'.keepers = s.keepers)
    (hh : ∀ p k, p.keeper? = some k → s'.handles p = s.handles p) : Orderly s' :=
  ⟨fun {k _} hphase => (ho.kept (hk ▸ hphase)).congr fun p => hh p k⟩

/-- One keeper does something. -/
lemma of_keeper (ho : Orderly s) {phase : Option Phase} (hphase : s'.keepers k = phase) (hself : Kept s' k phase)
    (hk : ∀ l, l ≠ k → s'.keepers l = s.keepers l)
    (hh : ∀ p, p.keeper? ≠ some k → s'.handles p = s.handles p) : Orderly s' := by
  refine ⟨fun {l phase'} hphase' => ?_⟩
  by_cases hl : l = k
  · rwa [← hphase', hl, hphase]
  · rw [hk l hl] at hphase'
    refine (ho.kept hphase').congr fun p hp => hh p ?_
    rw [hp]
    exact fun heq => hl (Option.some.inj heq)

variable {left rest : List Place} {b i c j : Nat}

lemma keep (ho : Orderly s) (hk : s.keepers k = some (.alive left)) (hn : s.handles (.kept k b i) = none) (m : Nat) :
    Orderly (put (.kept k b i) (some h.move.1) (put (.var m) (some h.move.2) s)) := by
  have hvar : Orderly (s.put (.var m) (some h.move.2)) :=
    ho.of_vars rfl fun p l hp => handles_put_of_ne (p.ne_var hp m) _ s
  refine hvar.of_keeper (k := k) hk (fun p hp => ?_) (fun _ _ => rfl)
    fun p hp => handles_put_of_ne (p.ne_kept hp b i) _ _
  obtain ⟨hkeeper, hmoved⟩ := ho.kept hk p hp
  have hne : p ≠ .kept k b i := by
    rintro rfl
    simp [hn] at hmoved
  exact ⟨hkeeper, by rw [handles_put_of_ne hne, handles_put_of_ne (p.ne_var hkeeper m), hmoved]⟩

lemma relocate (ho : Orderly s) (hk : s.keepers k = some (.alive left)) (hn : s.handles (.kept k b i) = none)
    (hm : s.handles (.kept k c j) = some h) :
    Orderly (enter k (some (.alive (.kept k c j :: left)))
      (put (.kept k b i) (some h.move.1) (put (.kept k c j) (some h.move.2) s))) := by
  refine ho.of_keeper (k := k) keepers_enter_self (fun p hp => ?_) (fun l hl => keepers_enter_of_ne hl _ _)
    fun p hp => (handles_put_of_ne (p.ne_kept hp b i) _ _).trans (handles_put_of_ne (p.ne_kept hp c j) _ _)
  have hold : p.keeper? = some k ∧ (s.put (.kept k c j) (some none)).handles p = some none ∧ p ≠ .kept k b i := by
    by_cases hpc : p = .kept k c j
    · subst hpc
      refine ⟨rfl, handles_put_self, fun heq => ?_⟩
      rw [heq, hn] at hm
      cases hm
    · obtain ⟨hkeeper, hmoved⟩ := ho.kept hk p ((List.mem_cons.1 hp).resolve_left hpc)
      rw [handles_put_of_ne hpc]
      refine ⟨hkeeper, hmoved, ?_⟩
      rintro rfl
      simp [hn] at hmoved
  obtain ⟨hkeeper, hmoved, hne⟩ := hold
  exact ⟨hkeeper, (handles_put_of_ne hne _ _).trans hmoved⟩

lemma discard (ho : Orderly s) (hk : s.keepers k = some (.alive left)) (r : Record) :
    Orderly { enter k (some (.alive (left.filter (· ≠ .kept k b i)))) (put (.kept k b i) none s) with
      record := r } := by
  refine ho.of_keeper (k := k) keepers_enter_self (fun p hp => ?_) (fun l hl => keepers_enter_of_ne hl _ _)
    fun p hp => handles_put_of_ne (p.ne_kept hp b i) _ _
  obtain ⟨hp, hne⟩ := List.mem_filter.1 hp
  obtain ⟨hkeeper, hmoved⟩ := ho.kept hk p hp
  exact ⟨hkeeper, (handles_put_of_ne (of_decide_eq_true hne) _ _).trans hmoved⟩

lemma letGo (ho : Orderly s) (hk : s.keepers k = some (.releasing (.kept k b i :: rest))) (r : Record) :
    Orderly { enter k (some (.releasing rest)) (put (.kept k b i) (some none) s) with record := r } :=
  ho.of_keeper (k := k) keepers_enter_self
    (fun p hp hrest => owned_put_eq_none (s := s) rfl fun hne => ho.kept hk p hp (by simp [hne, hrest]))
    (fun l hl => keepers_enter_of_ne hl _ _) fun p hp => handles_put_of_ne (p.ne_kept hp b i) _ _

lemma clear (ho : Orderly s) (hk : s.keepers k = some .ending) (r : Record) :
    Orderly { put (.kept k b i) none s with record := r } :=
  ho.of_keeper (k := k) hk (fun p hp => owned_put_eq_none (s := s) rfl fun _ => ho.kept hk p hp) (fun _ _ => rfl)
    fun p hp => handles_put_of_ne (p.ne_kept hp b i) _ _

/-- A keeper comes to another phase. -/
lemma enter (ho : Orderly s) {phase : Option Phase} (hk : Kept s k phase) : Orderly (s.enter k phase) :=
  ho.of_keeper (k := k) keepers_enter_self (hk.congr fun _ _ => rfl) (fun _ hl => keepers_enter_of_ne hl _ _)
    fun _ _ => rfl

lemma step (ho : Orderly s) (hs : Step s s') : Orderly s' := by
  cases hs with
  | make | load | unload | release | destroy =>
    exact ho.of_vars rfl fun p k hp => handles_put_of_ne (p.ne_var hp _) _ _
  | moveNew | assign =>
    exact ho.of_vars rfl fun p k hp =>
      (handles_put_of_ne (p.ne_var hp _) _ _).trans (handles_put_of_ne (p.ne_var hp _) _ _)
  | assignSelf => exact ho
  | keep hk hn => exact ho.keep hk hn _
  | relocate hk hn hm => exact ho.relocate hk hn hm
  | discard hk => exact ho.discard hk _
  | letGo hk => exact ho.letGo hk _
  | clear hk => exact ho.clear hk _
  | found hk => exact ho.enter fun p hp => absurd hp List.not_mem_nil
  | begin hk hrest =>
    refine ho.enter fun p hp hp' => owned_of_absent ?_
    by_contra habsent
    exact hp' ((hrest p).2 ⟨hp, Option.isSome_iff_ne_none.2 habsent⟩)
  | released hk => exact ho.enter fun p hp => ho.kept hk p hp List.not_mem_nil
  | gone hk hall =>
    refine ho.enter fun p hp => ?_
    obtain ⟨b, i, rfl⟩ := Place.exists_kept hp
    exact hall b i

lemma run (ho : Orderly s) (h : Run s s') : Orderly s' := by
  induction h with
  | refl => exact ho
  | tail _ hs ih => exact ih.step hs

end Orderly

/-! ### The openings of a keeper -/

lemma mem_released_release {r : Record} (hn : h.map Opening.number = some n) : n ∈ (Handle.release h r).released := by
  cases h with
  | none => cases hn
  | some o =>
    cases hn
    exact List.mem_append_right _ (List.mem_singleton_self _)

/-- An opening is owned by a handle of a keeper. -/
def KeptBy (s : State) (k : Keeper) (n : Nat) : Prop := ∃ p, p.keeper? = some k ∧ s.owned p = some n

namespace KeptBy

/-- What a keeper has stays with it until it releases it. -/
lemma step (hk : KeptBy s k n) (ho : Orderly s) (hs : Step s s') : KeptBy s' k n ∨ n ∈ s'.record.released := by
  obtain ⟨p, hp, hn⟩ := hk
  -- a place whose handle owns nothing is another one, so that most steps leave this handle alone
  have hother {q : Place} (hq : s.owned q = none) : p ≠ q := by
    rintro rfl
    simp [hq] at hn
  cases hs with
  | make | load | unload | release | destroy =>
    exact .inl ⟨p, hp, (owned_put_of_ne (p.ne_var hp _) _ s).trans hn⟩
  | @moveNew m m' | @assign m m' =>
    exact .inl ⟨p, hp, (owned_put_of_ne (p.ne_var hp m) _ _).trans ((owned_put_of_ne (p.ne_var hp m') _ s).trans hn)⟩
  | assignSelf | found | begin | released | gone => exact .inl ⟨p, hp, hn⟩
  | @keep _ _ m _ _ _ _ hnew =>
    exact .inl ⟨p, hp, (owned_put_of_ne (hother (owned_of_absent hnew)) _ _).trans
      ((owned_put_of_ne (p.ne_var hp m) _ s).trans hn)⟩
  | @relocate l left b i c j h hk hnew hm =>
    -- the opening has gone to the new handle if it was the old one that owned it
    have howned := owned_put_move (.kept l b i) hm
    by_cases hpc : p = .kept l c j
    · subst hpc
      exact .inl ⟨.kept l b i, hp, (congrFun howned _).trans ((Function.update_self ..).trans hn)⟩
    · refine .inl ⟨p, hp, (congrFun howned p).trans ?_⟩
      rw [Function.update_of_ne (hother (owned_of_absent hnew)), Function.update_of_ne hpc, hn]
  | @discard l left b i h hk hleft =>
    have hmoved := ho.kept hk _ hleft
    exact .inl ⟨p, hp, (owned_put_of_ne (hother (owned_of_some hmoved.2)) _ s).trans hn⟩
  | @letGo l rest b i h hk hm =>
    by_cases hpb : p = .kept l b i
    · rw [hpb, owned_of_some hm] at hn
      exact .inr (mem_released_release hn)
    · exact .inl ⟨p, hp, (owned_put_of_ne hpb _ s).trans hn⟩
  | @clear l b i h hk hm =>
    have hended := ho.kept hk (.kept l b i) rfl
    exact .inl ⟨p, hp, (owned_put_of_ne (hother hended) _ s).trans hn⟩

lemma run (hk : KeptBy s k n) (ho : Orderly s) (h : Run s s') : KeptBy s' k n ∨ n ∈ s'.record.released := by
  induction h with
  | refl => exact .inl hk
  | tail h hs ih =>
    rcases ih with hk | hn
    · exact hk.step (ho.run h) hs
    · exact .inr (hs.continues.released.subset hn)

/-- A keeper that has an opening is there. -/
lemma present (hk : KeptBy s k n) (ho : Orderly s) : s.keepers k ≠ none := by
  obtain ⟨p, hp, hn⟩ := hk
  intro hnone
  rw [owned_of_absent (ho.kept hnone p hp)] at hn
  cases hn

end KeptBy

end NativeBridge.Library.Openings
