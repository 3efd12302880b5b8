import NativeBridge.Proofs.Custody.Sound

/-!
Why objects are in the registry. While the loop runs, an identity is there for a handle, or for a removal that is sent
or under way, and for one of them only; and a removal that begins finds its object.
-/

namespace NativeBridge.Custody

open Eff

variable {S : Sides} {w w' : World S} {h : Host S} {l : Lifecycle} {s s' s₀ : State S}

namespace State

/-! ### Why an object is in the registry -/

/-- While the loop runs, an identity is in the registry for a handle, or for a removal. -/
def Tallied (s : State S) : Prop :=
  s.world.loop.stopped = false →
    (s.world.registered.map Prod.fst).Perm (s.world.live ++ (s.world.queued ++ s.amid))

lemma Tallied.of_eq (ht : s.Tallied) (hs : s'.world.loop.stopped = s.world.loop.stopped)
    (hr : s'.world.registered = s.world.registered) (hl : s'.world.live = s.world.live)
    (hq : s'.world.queued = s.world.queued) (ha : s'.amid = s.amid) : s'.Tallied := by
  intro ho
  rw [hr, hl, hq, ha]
  exact ht (hs ▸ ho)

lemma Tallied.of_stopped (hs : s.world.loop.stopped) : s.Tallied := fun ho => by cases hs.symm.trans ho

lemma Tallied.aside (ht : s.Tallied) (hw : Aside s.world w) (hs : s'.world = w) (ha : s'.amid = s.amid) :
    s'.Tallied := by
  refine ht.of_eq (hs ▸ hw.stopped) ?_ ?_ ?_ ha
  · rw [hs, World.registered, hw.estate, World.registered]
  · rw [hs, World.live, hw.handles, hw.generation, World.live]
  · rw [hs, World.queued, hw.pending, World.queued]

/-- A handle goes out of those that scripts hold. -/
lemma live_lose {key : HandleKey} {id : ObjectId} {generation : Nat} (hk : (w.handles.map Prod.fst).Nodup)
    (hlook : w.handles.lookup key = some (id, generation)) :
    w.live.Perm ((if generation = w.generation then [id] else []) ++
      World.live { w with handles := w.handles.filter (·.1 != key) }) := by
  have hperm := (((perm_of_lookup hk hlook).filter fun e => e.2.2 = w.generation).map fun e => e.2.1)
  by_cases hg : generation = w.generation
  · rw [if_pos hg]
    rwa [List.filter_cons_of_pos (by simpa using hg)] at hperm
  · rw [if_neg hg]
    rwa [List.filter_cons_of_neg (by simpa using hg)] at hperm

lemma Tallied.lose (ht : s.Tallied) (hk : s.Keyed) {key : HandleKey} {id : ObjectId}
    (hx : LoopDispatch.lose key s.world = some (.ok (some id), w)) :
    Tallied { s with world := w, leaving := id :: s.leaving } := by
  rcases lose_eq hx with ⟨-, hr, -⟩ | ⟨k, generation, hlook, hr, rfl⟩
  · cases hr
  · split at hr
    · next hg =>
      cases hr
      have hlive := live_lose hk.keys hlook
      rw [if_pos hg.1, List.singleton_append] at hlive
      intro ho
      refine ((ht ho).trans (hlive.append_right _)).trans ?_
      exact List.perm_middle.symm.trans (List.perm_middle.symm.append_left _)
    · cases hr

/-- A handle that nobody is told of was made in an earlier run, as long as the loop runs. -/
lemma Tallied.lapse (ht : s.Tallied) (hk : s.Keyed) (hh : s.Held) {key : HandleKey} {r : Option ObjectId}
    (hx : LoopDispatch.lose key s.world = some (.ok r, w)) (hr : r = none ∨ s.world.loop.stopped) :
    Tallied { s with world := w } := by
  rcases lose_eq hx with ⟨-, -, rfl⟩ | ⟨k, generation, hlook, hr', rfl⟩
  · exact ht
  · intro ho
    have hlive := live_lose hk.keys hlook
    have hearlier : generation ≠ s.world.generation := by
      rintro rfl
      have halive : s.world.loopAlive s.world.generation := by simp [World.loopAlive, (hh.standing ho).2]
      rw [if_pos ⟨rfl, halive⟩] at hr'
      rcases hr with rfl | hstop
      · cases hr'
      · cases hstop.symm.trans ho
    rw [if_neg hearlier, List.nil_append] at hlive
    exact (ht ho).trans (hlive.append_right _)

lemma Tallied.queue (ht : s.Tallied) {id : ObjectId} (hid : id ∈ s.leaving)
    (hx : LoopDispatch.accept (.remove id) s.world = some (.ok (), w)) :
    Tallied { s with world := w, leaving := s.leaving.erase id } := by
  obtain ⟨q, rfl, hpending, hstop, -⟩ := LoopDispatch.accept_eq hx
  intro ho
  have hqueued : q.pending.filterMap Task.removal? = s.world.queued ++ [id] := by
    rw [hpending, List.filterMap_append]
    rfl
  refine (ht (hstop ▸ ho)).trans (List.Perm.append_left _ ?_)
  show (s.world.queued ++ s.amid).Perm (q.pending.filterMap Task.removal? ++ _)
  rw [hqueued, List.append_assoc, List.singleton_append]
  exact ((List.perm_cons_erase hid).append_right _).append_left _

lemma Tallied.serve (ht : s.Tallied) {t : Task S.Job} (hx : LoopDispatch.take s.world = some (.ok (some t), w)) :
    Tallied { s with world := w, loop := .of t :: s.loop } := by
  obtain ⟨rest, hpending, rfl⟩ := LoopDispatch.take_some hx
  intro ho
  have htally := ht ho
  rw [World.queued, hpending] at htally
  cases t with
  | remove id =>
    refine htally.trans (List.Perm.append_left _ ?_)
    exact List.perm_middle.symm.trans (List.perm_middle.symm.append_left _)
  | _ => exact htally

lemma Tallied.wrap (ht : s.Tallied) {o : Wrapper} {k : Handle} (hx : LoopState.wrap o s.world = some (.ok k, w)) :
    Tallied { s with world := w, wrapped := (k.id, o) :: s.wrapped } := by
  obtain ⟨st, hs, -, rfl⟩ := LoopState.wrap_ok hx
  intro ho
  have htally := ht ho
  rw [registered_of_state hs] at htally
  show ((st.registry.entries ++ [(st.registry.nextId, o)]).map Prod.fst).Perm
    (((s.world.handles ++ [(s.world.minted, st.registry.nextId, s.world.generation)]).filter fun e =>
      e.2.2 = s.world.generation).map (fun e => e.2.1) ++ (s.world.queued ++ s.amid))
  rw [List.map_append, List.filter_append, List.map_append, List.filter_cons_of_pos (by simp)]
  refine (List.perm_append_singleton _ _).trans ((htally.cons _).trans ?_)
  rw [List.append_assoc]
  exact List.perm_middle.symm

lemma Tallied.unregister (ht : s.Tallied) (hk : s.Kept l) {rest : List Frame} {id : ObjectId} {o : Wrapper}
    {lifecycle : Lifecycle} (hs : s.loop = .removing id :: rest)
    (hx : LoopState.unregister id s.world = some (.ok (some o, lifecycle), w)) :
    Tallied { s with world := w, loop := .releasing [(id, o)] :: rest } := by
  rcases unregister_eq hx with ⟨-, -, e, he⟩ | ⟨st, hstate, -, hr, rfl⟩
  · cases he
  · intro ho
    have hkeys := hk.registered_nodup
    have htally := ht ho
    have hamid : s.amid = s.leaving ++ id :: rest.filterMap Frame.removing? := by rw [amid, hs]; rfl
    rw [registered_of_state hstate] at hkeys htally
    simp only [Except.ok.injEq, Prod.mk.injEq] at hr
    have hperm := (perm_of_lookup hkeys hr.1.symm).map Prod.fst
    rw [hamid] at htally
    refine List.Perm.cons_inv (hperm.symm.trans (htally.trans ?_))
    refine (List.Perm.append_left _ ?_).trans List.perm_middle
    exact (List.perm_middle.append_left _).trans List.perm_middle

/-- While the loop runs, a removal finds its object. -/
lemma Tallied.not_miss (ht : s.Tallied) (hh : s.Held) {rest : List Frame} {id : ObjectId}
    {r : Except Error (Option Wrapper × Lifecycle)} (hs : s.loop = .removing id :: rest)
    (hx : LoopState.unregister id s.world = some (r, w)) (hr : ∀ o lifecycle, r ≠ .ok (some o, lifecycle)) :
    s.world.loop.stopped := by
  by_contra hstop
  have ho := Bool.eq_false_iff.2 hstop
  obtain ⟨hinstalled, -⟩ := hh.standing ho
  have hstate : s.world.state.isSome := by simpa [World.estate] using hinstalled
  rcases unregister_eq hx with ⟨hrefused, -⟩ | ⟨st, hs', -, rfl, -⟩
  · exact hrefused ⟨hh.thread, hstate, (hh.idle_of_cons hs trivial).1⟩
  · have hid : id ∈ s.world.registered.map Prod.fst := by
      refine (ht ho).mem_iff.2 (List.mem_append_right _ (List.mem_append_right _ (List.mem_append_right _ ?_)))
      rw [hs]
      exact List.mem_cons_self
    rw [registered_of_state hs'] at hid
    obtain ⟨e, he, heq⟩ := List.mem_map.1 hid
    rcases hf : st.registry.find? id with _ | o
    · simpa [heq] using List.lookup_eq_none_iff.1 hf e he
    · exact hr o st.lifecycle (by rw [hf])

lemma Tallied.step (ht : s.Tallied) (hk : s.Kept l) (hd : s.Keyed) (hh : s.Held) (hl : Silent h l)
    (hs : Step h l s s') : s'.Tallied := by
  cases hs with
  | aside hw => exact ht.aside hw rfl rfl
  | send t hnone hx =>
    obtain ⟨q, rfl, hpending, hstop, -⟩ := LoopDispatch.accept_eq hx
    refine ht.of_eq hstop rfl rfl ?_ rfl
    show q.pending.filterMap Task.removal? = _
    rw [hpending, List.filterMap_append, List.filterMap_cons_none hnone, List.filterMap_nil, List.append_nil,
      World.queued]
  | lose hx _ => exact ht.lose hd hx
  | lapse hx hr => exact ht.lapse hd hh hx hr
  | queue hid hx => exact ht.queue hid hx
  | serve _ hx => exact ht.serve hx
  | done hs => exact ht.of_eq rfl rfl rfl rfl (by rw [amid, amid, hs]; rfl)
  | hold => exact ht.of_eq rfl rfl rfl rfl rfl
  | wrap _ hx => exact ht.wrap hx
  | letGo hs => exact ht.of_eq rfl rfl rfl rfl (by rw [amid, amid, hs]; rfl)
  | unregister hs hx => exact ht.unregister hk hs hx
  | miss hs hx hr =>
    have hstop := ht.not_miss hh hs hx hr
    rcases unregister_eq hx with ⟨-, rfl, -⟩ | ⟨_, -, -, -, rfl⟩ <;> exact .of_stopped hstop
  | release hs hx => exact ht.aside (drop_aside hl hx) rfl (by rw [amid, amid, hs]; rfl)
  | released hs => exact ht.of_eq rfl rfl rfl rfl (by rw [amid, amid, hs]; rfl)
  | close hx =>
    cases hx
    exact .of_stopped rfl
  | sweep hstop hx =>
    obtain ⟨q, replies, rfl, hq⟩ := sweep_eq hx
    exact .of_stopped (hq.trans hstop)
  | clear _ hstop => exact .of_stopped hstop
  | uninstall hs => exact .of_stopped (hh.tearing (by rw [hs]; exact List.mem_cons_self)).2.2

/-! ### Runs -/

structure Sound (l : Lifecycle) (s : State S) : Prop where
  kept : s.Kept l
  held : s.Held
  keyed : s.Keyed
  tallied : s.Tallied

lemma Sound.run (hs : s.Sound l) (hl : Silent h l) (hr : Run h l s s') : s'.Sound l := by
  induction hr with
  | refl => exact hs
  | tail _ hstep ih =>
    exact ⟨ih.kept.step ih.held hl hstep, ih.held.step hl hstep, ih.keyed.step hl hstep,
      ih.tallied.step ih.kept ih.keyed ih.held hl hstep⟩

lemma Opening.sound (h₀ : s.Opening l) : s.Sound l := by
  have hregistered : s.world.registered = [] := by rw [World.registered, h₀.estate]; rfl
  have hremoved : s.removed = [] := by rw [removed, h₀.loop]; rfl
  have hamid : s.amid = [] := by rw [amid, h₀.leaving, h₀.loop]; rfl
  refine ⟨⟨?_, ?_, fun e he => ?_, fun e _ => ?_, fun _ => hremoved⟩,
    ⟨h₀.thread, fun hu => ?_, fun hmem => ?_, fun _ => ?_⟩, ⟨h₀.keys, h₀.minted⟩, fun _ => ?_⟩
  · rw [h₀.wrapped, hregistered, hremoved, h₀.released]
    exact .nil
  · rw [h₀.wrapped]
    exact List.nodup_nil
  · rw [h₀.estate] at he
    cases he
    rfl
  · simp [h₀.wrapped]
  · rw [h₀.inUse] at hu
    cases hu
  · rw [h₀.loop] at hmem
    cases hmem
  · exact ⟨by rw [h₀.estate]; rfl, h₀.owned⟩
  · rw [hregistered, h₀.live, h₀.queued, hamid]
    exact .nil

end State

end NativeBridge.Custody
