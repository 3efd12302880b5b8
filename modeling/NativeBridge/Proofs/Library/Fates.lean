import NativeBridge.Proofs.Library.Operations

/-!
What becomes of an opening, whatever is done with the handles: one handle owns it, or it was closed once, or it was
released and is never closed. Caches and lifecycles release what they have.
-/

namespace NativeBridge.Library.Openings

open State

variable {s s' : State} {k : Keeper} {ps : List Place} {os : List Opening} {n : Nat} {p : Place}

/-! ### Three fates -/

namespace State

/-- One handle owns the opening, which was neither closed nor released. -/
structure HasOwner (s : State) (n : Nat) : Prop where
  owner : ∃! p, s.owned p = some n
  closed : n ∉ s.record.closed
  released : n ∉ s.record.released

/-- The opening was closed once, and no handle owns it. -/
structure WasClosed (s : State) (n : Nat) : Prop where
  owner (p : Place) : s.owned p ≠ some n
  closed : s.record.closed.count n = 1
  released : n ∉ s.record.released

/-- The opening was released once, and no handle owns it. -/
structure WasReleased (s : State) (n : Nat) : Prop where
  owner (p : Place) : s.owned p ≠ some n
  closed : n ∉ s.record.closed
  released : s.record.released.count n = 1

/-- What can become of an opening. No two of it can be so at once. -/
def HasFate (s : State) (n : Nat) : Prop := s.HasOwner n ∨ s.WasClosed n ∨ s.WasReleased n

lemma WasClosed.mem (h : s.WasClosed n) : n ∈ s.record.closed := List.count_pos_iff.1 (h.closed ▸ Nat.one_pos)

lemma WasReleased.mem (h : s.WasReleased n) : n ∈ s.record.released := List.count_pos_iff.1 (h.released ▸ Nat.one_pos)

end State

namespace Accounted

variable (ha : Accounted s.owned s.record)

include ha

lemma hasOwner (hp : s.owned p = some n) : s.HasOwner n :=
  have hended := List.mem_append.not.1 (ha.notMem hp)
  ⟨⟨p, hp, fun _ hq => ha.unique hq hp⟩, (not_or.1 hended).1, (not_or.1 hended).2⟩

lemma wasClosed (hn : n ∈ s.record.closed) : s.WasClosed n :=
  have hnodup := List.nodup_append.1 ha.nodup
  ⟨fun _ hp => ha.notMem hp (List.mem_append_left _ hn), List.count_eq_one_of_mem hnodup.1 hn,
    fun hn' => hnodup.2.2 n hn n hn' rfl⟩

lemma wasReleased (hn : n ∈ s.record.released) : s.WasReleased n :=
  have hnodup := List.nodup_append.1 ha.nodup
  ⟨fun _ hp => ha.notMem hp (List.mem_append_right _ hn), fun hn' => hnodup.2.2 n hn' n hn rfl,
    List.count_eq_one_of_mem hnodup.2.1 hn⟩

lemma lt_opened_iff : n < s.record.opened ↔ s.HasFate n := by
  rw [ha.opened, ended, List.mem_append]
  constructor
  · rintro ((hn | hn) | ⟨p, hp⟩)
    · exact .inr (.inl (ha.wasClosed hn))
    · exact .inr (.inr (ha.wasReleased hn))
    · exact .inl (ha.hasOwner hp)
  · rintro (hn | hn | hn)
    · exact .inr hn.owner.exists
    · exact .inl (.inl hn.mem)
    · exact .inl (.inr hn.mem)

end Accounted

/-! ### Caches and lifecycles -/

lemma Keeps.keptBy (hs : Keeps s k ps os) {o : Opening} (ho : o ∈ os) : KeptBy s k o.number := by
  have hmem : some (some o) ∈ ps.map s.handles := by
    rw [hs.handles]
    exact List.mem_map_of_mem ho
  obtain ⟨p, hp, hhandle⟩ := List.mem_map.1 hmem
  exact ⟨p, ((hs.mem p).1 hp).1, owned_of_some hhandle⟩

/-- The libraries that a cache has opened. -/
def openings (c : Cache) : List Opening := c.entries.map Prod.snd

/-- The end of a keeper with these openings: it releases them, and closes none. -/
def Ends (s : State) (k : Keeper) (os : List Opening) (r : Record) : Prop :=
  ∃ s', Work k s s' ∧ s'.record = r ∧ s'.keepers k = none ∧ r.closed = s.record.closed ∧
    ∀ o ∈ os, s'.WasReleased o.number

/-- What caches and lifecycles do is made of steps. -/
structure Served (s : State) : Prop where
  get {i v b j : Nat} {ps : List Place} {loader : Loader} {name : Bytes} {c c' : Cache}
    {answer : Except Error Opening} {r' : Record} (hs : Keeps s (.cache i) ps (openings c))
    (hv : s.handles (.var v) = none) (hn : .kept (.cache i) b j ∉ ps)
    (hx : Cache.get loader name c s.record = (answer, c', r')) :
    ∃ s' ps', Work (.cache i) s s' ∧ s'.record = r' ∧ Keeps s' (.cache i) ps' (openings c')
  symbol {i v b j : Nat} {ps : List Place} {loader : Loader} {symbols : Symbols} {library name : Bytes} {c c' : Cache}
    {answer : Except Error Nat} {r' : Record} (hs : Keeps s (.cache i) ps (openings c))
    (hv : s.handles (.var v) = none) (hn : .kept (.cache i) b j ∉ ps)
    (hx : Cache.symbol loader symbols library name c s.record = (answer, c', r')) :
    ∃ s' ps', Work (.cache i) s s' ∧ s'.record = r' ∧ Keeps s' (.cache i) ps' (openings c')
  cacheEnd {i : Nat} {ps : List Place} {c : Cache} (hs : Keeps s (.cache i) ps (openings c)) :
    Ends s (.cache i) (openings c) (c.destroy s.record)
  resolve {i v : Nat} {S : Sides} {h : Host S} {config : LifecycleConfig} {w w' : World S} {l : Lifecycle}
    (hk : s.keepers (.lifecycle i) = none) (hv : s.handles (.var v) = none) (hw : w.record = s.record)
    (hx : Lifecycle.resolve h config w = some (.ok l, w')) :
    ∃ s' ps, Work (.lifecycle i) s s' ∧ s'.record = w'.record ∧ Keeps s' (.lifecycle i) ps l.libraries
  lifecycleEnd {i : Nat} {ps : List Place} {S : Sides} {l : Lifecycle} {w w' : World S}
    (hs : Keeps s (.lifecycle i) ps l.libraries) (hw : w.record = s.record)
    (hx : Lifecycle.destroy l w = some (.ok (), w')) : Ends s (.lifecycle i) l.libraries w'.record
  /-- handles go to other memory of their keeper -/
  relocate {k : Keeper} {ps qs : List Place} {os : List Opening} (hs : Keeps s k ps os)
    (hlength : qs.length = ps.length) (hqs : ∀ q ∈ qs, q.keeper? = some k ∧ q ∉ ps) (hnodup : qs.Nodup) :
    ∃ s', Work k s s' ∧ s'.record = s.record ∧ Keeps s' k qs os

lemma ends_of_keeps (ha : Accounted s.owned s.record) (hs : Keeps s k ps os) :
    Ends s k os (releaseAll os s.record) := by
  obtain ⟨s', hwork, hrecord, hgone⟩ := end_run hs
  refine ⟨s', hwork, hrecord, hgone, by rw [releaseAll_eq], fun o hmem => ?_⟩
  refine (hwork.run.accounted ha).wasReleased ?_
  rw [hrecord, releaseAll_eq]
  exact List.mem_append_right _ (List.mem_map_of_mem hmem)

lemma served (ha : Accounted s.owned s.record) (ho : Orderly s) : Served s where
  get hs hv hn hx := get_run hs hv hn hx
  symbol hs hv hn hx := symbol_run hs hv hn hx
  cacheEnd hs := ends_of_keeps ha hs
  resolve hk hv hw hx := resolve_run ho _ hk hv hw hx
  lifecycleEnd {_ _ _ l w _} hs hw hx := by
    cases hx
    change Ends s _ l.libraries (releaseAll l.libraries w.record)
    rw [hw]
    exact ends_of_keeps ha hs
  relocate hs hlength hqs hnodup := relocateAll_run [] hs hlength hqs hnodup

/-! ### Runs -/

lemma accounted_start : Accounted (State.owned {}) {} where
  opened n := by simp [ended, State.owned, number?]
  nodup := List.nodup_nil
  notMem hp := by cases hp
  unique hp := by cases hp

lemma orderly_start : Orderly {} where
  kept hk := by
    cases hk
    exact fun _ _ => rfl

lemma load_ok {x x' : Handle} {loader : Loader} {path : Bytes} {r r' : Record}
    (hx : Handle.load loader path x r = (.ok (), x', r')) :
    ∃ o, x' = some o ∧ o.number = r.opened ∧ r'.opened = r.opened + 1 := by
  have hopened : (Handle.unload x r).opened = r.opened := by cases x <;> rfl
  rcases load_cases hx with ⟨library, -, rfl, rfl⟩ | ⟨reason, herror, -, -⟩
  · exact ⟨_, rfl, hopened, congrArg (· + 1) hopened⟩
  · cases herror

/-- **Every opening has one owner, or was closed once, or was released.** Let handles be made, loaded, moved, assigned,
unloaded, released and destroyed, in any order, and let caches and lifecycles take some of them over. Each opening that
there was so far has one of three fates. An opening by a load that succeeds is a new one, and has a fate from then on.
What was closed is closed no second time, and what was released is never closed. An opening that a cache or a lifecycle
has stays with it, or is released. The requests to caches and lifecycles and their ends are such runs, and an end
releases all that they have. -/
theorem owned_or_closed_once_or_released (h : Run {} s) :
    (∀ n, n < s.record.opened ↔ s.HasFate n) ∧
      (∀ {v : Nat} {x x' : Handle} {loader : Loader} {path : Bytes} {r : Record}, s.handles (.var v) = some x →
        Handle.load loader path x s.record = (.ok (), x', r) →
        ∃ o, x' = some o ∧ o.number = s.record.opened ∧
          ∀ s', Run { s.put (.var v) (some x') with record := r } s' → s'.HasFate o.number) ∧
      (∀ s' n, Run s s' → (s.WasClosed n → s'.WasClosed n) ∧ (s.WasReleased n → s'.WasReleased n)) ∧
      (∀ s' k n, Run s s' → KeptBy s k n →
        s'.keepers k ≠ none ∧ KeptBy s' k n ∧ s'.HasOwner n ∨ s'.WasReleased n) ∧
      Served s := by
  have ha : Accounted s.owned s.record := Run.accounted h accounted_start
  have ho : Orderly s := orderly_start.run h
  refine ⟨fun n => ha.lt_opened_iff, fun {v x x' loader path r} hv hx => ?_, fun s' n hrun => ?_,
    fun s' k n hrun hk => ?_, served ha ho⟩
  · have hstep : Step s _ := .load hv hx
    obtain ⟨o, rfl, hnumber, hopened⟩ := load_ok hx
    refine ⟨o, rfl, hnumber, fun s' hrun => ?_⟩
    have ha' : Accounted s'.owned s'.record := Run.accounted (hrun.head hstep) ha
    refine ha'.lt_opened_iff.1 (Nat.lt_of_lt_of_le ?_ (Run.continues hrun).opened)
    rw [hnumber, hopened]
    exact Nat.lt_succ_self _
  · have ha' := Run.accounted hrun ha
    have hmore := Run.continues hrun
    exact ⟨fun hn => ha'.wasClosed (hmore.closed.subset hn.mem),
      fun hn => ha'.wasReleased (hmore.released.subset hn.mem)⟩
  · have ha' := Run.accounted hrun ha
    rcases hk.run ho hrun with hkept | hn
    · exact .inl ⟨hkept.present (ho.run hrun), hkept, hkept.elim fun _ hp => ha'.hasOwner hp.2⟩
    · exact .inr (ha'.wasReleased hn)

/-- Of four openings the first was closed when its handle loaded another library, which has moved to another handle
since; the third was released, and a cache has the fourth and releases it at its end. -/
theorem fates_of_four_openings :
    ∃ s s', Run {} s ∧ Run s s' ∧ s.record.opened = 4 ∧ s.WasClosed 0 ∧ s.HasOwner 1 ∧ s.WasReleased 2 ∧
      KeptBy s (.cache 0) 3 ∧ s'.keepers (.cache 0) = none ∧ s'.WasClosed 0 ∧ s'.WasReleased 3 := by
  let found : Loader := fun path => .ok path
  obtain ⟨s₁, h₁, hfirst, hfree, hkeepers, hrecord₁⟩ : ∃ s, Run {} s ∧ s.handles (.var 0) = some none ∧
      s.handles (.var 2) = none ∧ s.keepers (.cache 0) = none ∧ s.record = { opened := 2, closed := [0] } := by
    have hmade := (Relation.ReflTransGen.refl (r := Step) (a := {})).tail (.make (n := 0) rfl)
    have hload : Handle.load found [97] none {} = (.ok (), some ⟨0, [97]⟩, { opened := 1 }) := rfl
    have hloaded := hmade.tail (.load (n := 0) rfl hload)
    have hreload : Handle.load found [98] (some ⟨0, [97]⟩) { opened := 1 } =
        (.ok (), some ⟨1, [98]⟩, { opened := 2, closed := [0] }) := rfl
    have hreplaced := hloaded.tail (.load (n := 0) rfl hreload)
    exact ⟨_, hreplaced.tail (.moveNew (n := 1) (m := 0) rfl rfl), rfl, rfl, rfl, rfl⟩
  obtain ⟨s₂, h₂, hfree, hkeepers, hrecord₂⟩ : ∃ s, Run {} s ∧ s.handles (.var 2) = none ∧
      s.keepers (.cache 0) = none ∧ s.record = { opened := 3, closed := [0], released := [2] } := by
    have hload : Handle.load found [99] none s₁.record =
        (.ok (), some ⟨2, [99]⟩, { opened := 3, closed := [0] }) := by
      rw [hrecord₁]
      rfl
    have hloaded := h₁.tail (.load hfirst hload)
    exact ⟨_, hloaded.tail (.release (n := 0) rfl), hfree, hkeepers, rfl⟩
  have h₃ := h₂.tail (.found hkeepers)
  have hget : Cache.get found [100] {} (s₂.enter (.cache 0) (some (.alive []))).record =
      (.ok ⟨3, [100]⟩, { entries := [([100], ⟨3, [100]⟩)] }, { opened := 4, closed := [0], released := [2] }) := by
    rw [record_enter, hrecord₂]
    rfl
  obtain ⟨-, -, -, -, hserved⟩ := owned_or_closed_once_or_released h₃
  obtain ⟨s, ps, hwork, hrecord, hkeeps⟩ := hserved.get (b := 0) (j := 0) (keeps_found (orderly_start.run h₂) hkeepers)
    hfree List.not_mem_nil hget
  obtain ⟨hfate, -, hlater, hkept, hserved⟩ := owned_or_closed_once_or_released (h₃.trans hwork.run)
  have hopen (n : Nat) (hn : n < 4) : s.HasFate n := (hfate n).1 (by rwa [hrecord])
  have hclosed : s.WasClosed 0 :=
    ((hopen 0 (by decide)).resolve_left fun hn => hn.closed (by simp [hrecord])).resolve_right
      fun hn => hn.closed (by simp [hrecord])
  have howner : s.HasOwner 1 := (hopen 1 (by decide)).resolve_right fun hn =>
    hn.elim (fun hn => absurd hn.mem (by simp [hrecord])) fun hn => absurd hn.mem (by simp [hrecord])
  have hreleased : s.WasReleased 2 :=
    ((hopen 2 (by decide)).resolve_left fun hn => hn.released (by simp [hrecord])).resolve_left
      fun hn => hn.released (by simp [hrecord])
  have hthird : KeptBy s (.cache 0) 3 := hkeeps.keptBy (o := ⟨3, [100]⟩) (List.mem_singleton_self _)
  obtain ⟨s', hend, -, hgone, -, -⟩ := hserved.cacheEnd hkeeps
  exact ⟨s, s', h₃.trans hwork.run, hend.run, congrArg Record.opened hrecord, hclosed, howner, hreleased, hthird, hgone,
    (hlater s' 0 hend.run).1 hclosed, (hkept s' _ 3 hend.run hthird).resolve_left fun hn => hn.1 hgone⟩

end NativeBridge.Library.Openings
