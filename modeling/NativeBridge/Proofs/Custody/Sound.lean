import NativeBridge.Proofs.Custody.Machine
import NativeBridge.Proofs.Exchange.Outcome
import NativeBridge.Proofs.Table
import NativeBridge.Proofs.Teardown

/-!
Where the objects of a loop thread are. What was wrapped is in the registry, on its way out of it, or released. Work
that holds the state, removals and a teardown do not meet, and the state is there as long as the loop runs.
-/

namespace NativeBridge.Custody

open Eff

variable {S : Sides} {w w' : World S} {h : Host S} {l : Lifecycle} {s s' s₀ : State S}

/-! ### The effects of the steps -/

lemma sweep_eq (hx : LoopDispatch.sweep w = some (.ok (), w')) :
    ∃ q replies, w' = { w with loop := q, replies } ∧ q.stopped = w.loop.stopped := by
  rw [LoopDispatch.sweep, modify_apply, Exchange.abandonAll_eq] at hx
  cases hx
  exact ⟨_, _, rfl, rfl⟩

lemma lose_eq {key : HandleKey} {r : Option ObjectId} (hx : LoopDispatch.lose key w = some (.ok r, w')) :
    (w.handles.lookup key = none ∧ r = none ∧ w' = w) ∨
      ∃ id generation, w.handles.lookup key = some (id, generation) ∧
        r = (if generation = w.generation ∧ w.loopAlive generation then some id else none) ∧
        w' = { w with handles := w.handles.filter (·.1 != key) } := by
  rcases hk : w.handles.lookup key with _ | ⟨id, generation⟩
  · simp only [LoopDispatch.lose, hk, update_apply, Option.some.injEq, Prod.mk.injEq, Except.ok.injEq] at hx
    obtain ⟨rfl, rfl⟩ := hx
    exact .inl ⟨rfl, rfl, rfl⟩
  · simp only [LoopDispatch.lose, hk, update_apply, Option.some.injEq, Prod.mk.injEq, Except.ok.injEq] at hx
    obtain ⟨rfl, rfl⟩ := hx
    exact .inr ⟨id, generation, rfl, rfl, rfl⟩

lemma unregister_eq {id : ObjectId} {r : Except Error (Option Wrapper × Lifecycle)}
    (hx : LoopState.unregister id w = some (r, w')) :
    (¬(w.thread = .loop ∧ w.state.isSome ∧ w.inUse = false) ∧ w' = w ∧ ∃ e, r = .error e) ∨
      ∃ st, w.state = some st ∧ w.inUse = false ∧ r = .ok (st.registry.find? id, st.lifecycle) ∧
        w' = { w with inUse := false, state := some { st with registry := (st.registry.take id).2 } } := by
  rcases LoopState.holding_eq_some hx with hrefused | ⟨⟨-, hstate, hu⟩, w₁, hwork, rfl⟩
  · exact .inl hrefused
  · obtain ⟨st, hs⟩ := Option.isSome_iff_exists.1 hstate
    have hcurrent : (LoopState.current : Eff S LoopState) { w with inUse := true } =
        some (.ok st, { w with inUse := true }) := LoopState.current_of_some hs
    rw [bind_ok hcurrent] at hwork
    simp only [Registry.take, LoopState.update, bind_apply, modify_apply, pure_apply, Option.bind_some, hs,
      Option.map_some, Option.some.injEq, Prod.mk.injEq] at hwork
    obtain ⟨rfl, rfl⟩ := hwork
    exact .inr ⟨st, hs, hu, rfl, rfl⟩

/-! ### What leaves objects alone -/

instance : IsPreorder (World S) Aside where
  refl _ := ⟨rfl, rfl, fun _ => rfl, rfl, rfl, rfl, rfl, rfl, rfl⟩
  trans _ _ _ h g :=
    ⟨g.pending.trans h.pending, g.stopped.trans h.stopped,
      fun ho => (g.owned (h.stopped.trans ho)).trans (h.owned ho), g.generation.trans h.generation,
      g.estate.trans h.estate, g.inUse.trans h.inUse, g.thread.trans h.thread, g.handles.trans h.handles,
      g.minted.trans h.minted⟩

lemma call?_silent (hl : Silent h l) (role : LifecycleRole) (words : List Nat) (w : World S) :
    ∃ r w', l.call? h role words w = some (.ok r, w') ∧ Aside w w' := by
  rcases hb : l.bound role with _ | a
  · exact ⟨none, w, Lifecycle.call?_of_none hb w, refl w⟩
  · obtain ⟨r, w', hx, haside⟩ := hl role a hb words w
    exact ⟨some r.int, w', Lifecycle.call?_of_run hb hx, haside⟩

/-- Effects that succeed and leave objects alone do so one after the other. -/
lemma chains_aside : Chains fun _ (x : Eff S _) => ∀ w, ∃ a w', x w = some (.ok a, w') ∧ Aside w w' where
  pure a w := ⟨a, w, rfl, refl w⟩
  bind hx hf w := by
    obtain ⟨a, w₁, h₁, haside₁⟩ := hx w
    obtain ⟨b, w₂, h₂, haside₂⟩ := hf a w₁
    exact ⟨b, w₂, (bind_ok h₁).trans h₂, IsTrans.trans _ _ _ haside₁ haside₂⟩

/-- An object is released, and nothing else happens to objects. -/
lemma drop_silent (hl : Silent h l) (o : Wrapper) (w : World S) :
    ∃ w', o.drop h l w = some (.ok (), w') ∧ Aside w w' := by
  have hfree (a : Address) (w : World S) : ∃ u w', (Memory.release a : Eff S Unit) w = some (.ok u, w') ∧ Aside w w' :=
    ⟨(), _, rfl, rfl, rfl, fun _ => rfl, rfl, rfl, rfl, rfl, rfl, rfl⟩
  obtain ⟨_, w', hx, haside⟩ := chains_aside.drop (call?_silent hl) hfree o w
  exact ⟨w', hx, haside⟩

lemma drop_aside (hl : Silent h l) {o : Wrapper} {r : Except Error Unit} (hx : o.drop h l w = some (r, w')) :
    Aside w w' := by
  obtain ⟨w₁, h₁, haside⟩ := drop_silent hl o w
  cases h₁.symm.trans hx
  exact haside

namespace State

/-! ### Objects -/

/-- What was wrapped is in the registry, on its way out of it, or released. -/
structure Kept (l : Lifecycle) (s : State S) : Prop where
  objects : s.wrapped.Perm (s.world.registered ++ (s.removed ++ s.released))
  ids : (s.wrapped.map Prod.fst).Nodup
  lifecycle : ∀ e ∈ s.world.estate, e.2 = l
  numbered : ∀ e ∈ s.world.estate, ∀ o ∈ s.wrapped, o.1 < e.1.nextId
  vacant : s.world.estate = none → s.removed = []

lemma Kept.of_eq (hk : s.Kept l) (he : s'.world.estate = s.world.estate) (ho : s'.removed = s.removed)
    (hr : s'.released = s.released) (hw : s'.wrapped = s.wrapped) : s'.Kept l := by
  refine ⟨?_, hw ▸ hk.ids, he ▸ hk.lifecycle, he ▸ hw ▸ hk.numbered, he ▸ ho ▸ hk.vacant⟩
  rw [hw, ho, hr, World.registered, he]
  exact hk.objects

/-- The identities in the registry are distinct. -/
lemma Kept.registered_nodup (hk : s.Kept l) : (s.world.registered.map Prod.fst).Nodup := by
  have hids := (hk.objects.map Prod.fst).nodup_iff.1 hk.ids
  rw [List.map_append] at hids
  exact (List.nodup_append.1 hids).1

lemma estate_of_state {st : LoopState} (hs : w.state = some st) : w.estate = some (st.registry, st.lifecycle) := by
  rw [World.estate, hs]
  rfl

lemma registered_of_state {st : LoopState} (hs : w.state = some st) : w.registered = st.registry.entries := by
  rw [World.registered, estate_of_state hs]
  rfl

lemma Kept.lifecycle_eq (hk : s.Kept l) {st : LoopState} (hs : s.world.state = some st) : st.lifecycle = l :=
  hk.lifecycle (st.registry, st.lifecycle) (estate_of_state hs)

lemma Kept.wrap (hk : s.Kept l) {o : Wrapper} {k : Handle} (hx : LoopState.wrap o s.world = some (.ok k, w)) :
    Kept l { s with world := w, wrapped := (k.id, o) :: s.wrapped } := by
  obtain ⟨st, hs, rfl, rfl⟩ := LoopState.wrap_ok hx
  have he := estate_of_state hs
  refine ⟨?_, ?_, fun e hmem => ?_, fun e hmem => ?_, fun hnone => (nomatch hnone)⟩
  · have hobjects := hk.objects
    rw [registered_of_state hs] at hobjects
    show ((st.registry.nextId, o) :: s.wrapped).Perm
      (st.registry.entries ++ [(st.registry.nextId, o)] ++ (s.removed ++ s.released))
    rw [List.append_assoc, List.singleton_append]
    exact (hobjects.cons _).trans List.perm_middle.symm
  · refine List.nodup_cons.2 ⟨fun hmem => ?_, hk.ids⟩
    obtain ⟨e, hmem, heq⟩ := List.mem_map.1 hmem
    exact (hk.numbered _ he e hmem).ne heq
  · cases hmem
    exact hk.lifecycle_eq hs
  · cases hmem
    refine List.forall_mem_cons.2 ⟨Nat.lt_succ_self _, fun e hmem => ?_⟩
    exact Nat.lt_succ_of_lt (hk.numbered _ he e hmem)

lemma Kept.unregister (hk : s.Kept l) {rest : List Frame} {id : ObjectId} {o : Wrapper} {lifecycle : Lifecycle}
    (hs : s.loop = .removing id :: rest)
    (hx : LoopState.unregister id s.world = some (.ok (some o, lifecycle), w)) :
    Kept l { s with world := w, loop := .releasing [(id, o)] :: rest } := by
  rcases unregister_eq hx with ⟨-, -, e, he⟩ | ⟨st, hstate, -, hr, rfl⟩
  · cases he
  · have he := estate_of_state hstate
    have hkeys := hk.registered_nodup
    have hobjects := hk.objects
    rw [registered_of_state hstate] at hkeys hobjects
    simp only [Except.ok.injEq, Prod.mk.injEq] at hr
    have hperm := perm_of_lookup hkeys hr.1.symm
    refine ⟨?_, hk.ids, fun e hmem => ?_, fun e hmem => ?_, fun hnone => (nomatch hnone)⟩
    · have hremoved : s.removed = rest.flatMap Frame.objects := by rw [removed, hs]; rfl
      rw [hremoved] at hobjects
      exact hobjects.trans ((hperm.append_right _).trans List.perm_middle.symm)
    · cases hmem
      exact hk.lifecycle_eq hstate
    · cases hmem
      exact hk.numbered (st.registry, st.lifecycle) he

/-- A removal that finds nothing takes nothing. -/
lemma Kept.miss (hk : s.Kept l) {rest : List Frame} {id : ObjectId} {r : Except Error (Option Wrapper × Lifecycle)}
    (hs : s.loop = .removing id :: rest) (hx : LoopState.unregister id s.world = some (r, w))
    (hr : ∀ o lifecycle, r ≠ .ok (some o, lifecycle)) : Kept l { s with world := w, loop := rest } := by
  have hremoved : removed { s with world := w, loop := rest } = s.removed := by rw [removed, removed, hs]; rfl
  rcases unregister_eq hx with ⟨-, rfl, -⟩ | ⟨st, hstate, -, rfl, rfl⟩
  · exact hk.of_eq rfl hremoved rfl rfl
  · refine hk.of_eq ?_ hremoved rfl rfl
    have hnone : st.registry.find? id = none := by
      rcases hf : st.registry.find? id with _ | o
      · rfl
      · exact absurd (by rw [hf]) (hr o st.lifecycle)
    simp only [World.estate, hstate, Registry.take, filter_of_lookup_eq_none hnone]

lemma Kept.release (hk : s.Kept l) (hl : Silent h l) {rest : List Frame} {e : ObjectId × Wrapper}
    {es : List (ObjectId × Wrapper)} (hs : s.loop = .releasing (e :: es) :: rest)
    (hx : e.2.drop h l s.world = some (.ok (), w)) :
    Kept l { s with world := w, loop := .releasing es :: rest, released := e :: s.released } := by
  have he := (drop_aside hl hx).estate
  have hremoved : s.removed = e :: (es ++ rest.flatMap Frame.objects) := by rw [removed, hs]; rfl
  refine ⟨?_, hk.ids, he ▸ hk.lifecycle, he ▸ hk.numbered, fun hnone => ?_⟩
  · have hobjects := hk.objects
    rw [hremoved] at hobjects
    rw [World.registered, he]
    exact hobjects.trans (List.perm_middle.symm.append_left _)
  · cases hremoved.symm.trans (hk.vacant (he ▸ hnone))

lemma Kept.clear (hk : s.Kept l) {st : LoopState} (hs : s.loop = []) (hstate : s.world.state = some st) :
    Kept l { s with
      world := { s.world with inUse := true, state := some { st with registry := st.registry.clear.2 } }
      loop := [.releasing st.registry.entries, .tearing] } := by
  have he := estate_of_state hstate
  refine ⟨?_, hk.ids, fun e hmem => ?_, fun e hmem => ?_, fun hnone => (nomatch hnone)⟩
  · have hobjects := hk.objects
    rw [registered_of_state hstate, removed, hs] at hobjects
    simpa [World.registered, World.estate, Registry.clear, removed, Frame.objects] using hobjects
  · cases hmem
    exact hk.lifecycle_eq hstate
  · cases hmem
    exact hk.numbered (st.registry, st.lifecycle) he

/-! ### The loop thread -/

end State

/-- What the loop thread is at when it neither holds the state nor releases objects. -/
def Frame.Plain : Frame → Prop
  | task | removing _ => True
  | _ => False

namespace State

/-- Who holds the state, and that it is installed as long as the loop runs. -/
structure Held (s : State S) : Prop where
  thread : s.world.thread = .loop
  used : s.world.inUse → s.loop.head? = some .holding ∨ .tearing ∈ s.loop
  tearing : .tearing ∈ s.loop → (s.loop = [.tearing] ∨ ∃ es, s.loop = [.releasing es, .tearing]) ∧
    s.world.registered = [] ∧ s.world.loop.stopped
  standing : s.world.loop.stopped = false → s.world.estate.isSome ∧ s.world.loopOwned

lemma Held.idle (hh : s.Held) (hf : ∀ f ∈ s.loop.head?, f.Plain) : s.world.inUse = false ∧ .tearing ∉ s.loop := by
  have hnot : Frame.tearing ∉ s.loop := fun hmem => by
    rcases (hh.tearing hmem).1 with hs | ⟨es, hs⟩ <;> exact hf _ (by rw [hs]; rfl)
  refine ⟨Bool.eq_false_iff.2 fun hu => ?_, hnot⟩
  rcases hh.used hu with hs | hmem
  · exact hf _ hs
  · exact hnot hmem

lemma Held.idle_of_free (hh : s.Held) (hf : s.Free) : s.world.inUse = false ∧ .tearing ∉ s.loop :=
  hh.idle fun f hmem => hf f hmem ▸ trivial

lemma Held.idle_of_cons (hh : s.Held) {f : Frame} {rest : List Frame} (hs : s.loop = f :: rest) (hf : f.Plain) :
    s.world.inUse = false ∧ .tearing ∉ rest := by
  have hidle := hh.idle fun g hmem => by
    rw [hs] at hmem
    cases hmem
    exact hf
  exact ⟨hidle.1, fun hmem => hidle.2 (hs ▸ List.mem_cons_of_mem _ hmem)⟩

/-- No teardown is under way below work that holds the state. -/
lemma Held.not_tearing_of_holding (hh : s.Held) {rest : List Frame} (hs : s.loop = .holding :: rest) :
    .tearing ∉ s.loop := fun hmem => by
  rcases (hh.tearing hmem).1 with h | ⟨es, h⟩ <;> cases hs.symm.trans h

/-- Below objects that are released there is a teardown, or no more than was before the removal. -/
lemma Held.rest_of_releasing (hh : s.Held) {rest : List Frame} {es : List (ObjectId × Wrapper)}
    (hs : s.loop = .releasing es :: rest) :
    (s.world.inUse → .tearing ∈ rest) ∧ (.tearing ∈ rest → rest = [.tearing]) := by
  have hrest (hmem : .tearing ∈ s.loop) : rest = [.tearing] := by
    rcases (hh.tearing hmem).1 with h | ⟨es, h⟩ <;> cases hs.symm.trans h
    rfl
  refine ⟨fun hu => ?_, fun hmem => hrest (hs ▸ List.mem_cons_of_mem _ hmem)⟩
  rcases hh.used hu with h | hmem
  · rw [hs] at h
    cases h
  · rw [hrest hmem]
    exact List.mem_singleton_self _

lemma Held.aside (hh : s.Held) (hw : Aside s.world w) : Held { s with world := w } := by
  refine ⟨hw.thread.trans hh.thread, fun hu => hh.used (hw.inUse ▸ hu), fun hmem => ?_, fun ho => ?_⟩
  · obtain ⟨hs, hr, hstop⟩ := hh.tearing hmem
    exact ⟨hs, by rw [World.registered, hw.estate]; exact hr, hw.stopped ▸ hstop⟩
  · have ho : s.world.loop.stopped = false := hw.stopped ▸ ho
    exact ⟨hw.estate ▸ (hh.standing ho).1, hw.owned ho ▸ (hh.standing ho).2⟩

/-- The queue changes, and whether the loop is stopped does not. -/
lemma Held.requeue (hh : s.Held) {q : LoopQueue (Task S.Job)} {leaving : List ObjectId}
    (hq : q.stopped = s.world.loop.stopped) : Held { s with world := { s.world with loop := q }, leaving } :=
  ⟨hh.thread, hh.used, fun hmem => (hh.tearing hmem).imp_right (.imp_right hq.trans), fun ho => hh.standing (hq ▸ ho)⟩

/-- Nobody holds the state, and no teardown is under way. -/
lemma Held.of_idle (ht : s.world.thread = .loop) (hu : s.world.inUse = false) (hn : .tearing ∉ s.loop)
    (hs : s.world.loop.stopped = false → s.world.estate.isSome ∧ s.world.loopOwned) : s.Held :=
  ⟨ht, fun hu' => absurd hu' (Bool.eq_false_iff.1 hu), fun hmem => absurd hmem hn, hs⟩

lemma Held.serve (hh : s.Held) {t : Task S.Job} (hf : s.Free)
    (hx : LoopDispatch.take s.world = some (.ok (some t), w)) :
    Held { s with world := w, loop := .of t :: s.loop } := by
  obtain ⟨rest, -, rfl⟩ := LoopDispatch.take_some hx
  obtain ⟨hu, hnot⟩ := hh.idle_of_free hf
  refine .of_idle hh.thread hu (fun hmem => ?_) hh.standing
  rcases List.mem_cons.1 hmem with hmem | hmem
  · cases t <;> cases hmem
  · exact hnot hmem

/-- A removal leaves nobody with the state, whether it has taken an object or not. -/
lemma Held.unregister (hh : s.Held) {rest loop : List Frame} {id : ObjectId}
    {r : Except Error (Option Wrapper × Lifecycle)} (hs : s.loop = .removing id :: rest)
    (hx : LoopState.unregister id s.world = some (r, w)) (hn : .tearing ∉ rest → .tearing ∉ loop) :
    Held { s with world := w, loop } := by
  obtain ⟨hu, hnot⟩ := hh.idle_of_cons hs trivial
  rcases unregister_eq hx with ⟨-, rfl, -⟩ | ⟨st, -, -, -, rfl⟩
  · exact .of_idle hh.thread hu (hn hnot) hh.standing
  · exact .of_idle hh.thread rfl (hn hnot) fun ho => ⟨rfl, (hh.standing ho).2⟩

lemma Held.release (hh : s.Held) (hw : Aside s.world w) {rest : List Frame} {e : ObjectId × Wrapper}
    {es released : List (ObjectId × Wrapper)} (hs : s.loop = .releasing (e :: es) :: rest) :
    Held { s with world := w, loop := .releasing es :: rest, released } := by
  obtain ⟨hused, hrest⟩ := hh.rest_of_releasing hs
  have hh' := hh.aside hw
  refine ⟨hh'.thread, fun hu => .inr (List.mem_cons_of_mem _ (hused (hw.inUse ▸ hu))), fun hmem => ?_, hh'.standing⟩
  rcases List.mem_cons.1 hmem with hmem | hmem
  · cases hmem
  · have htearing := hh'.tearing (hs ▸ List.mem_cons_of_mem _ hmem)
    exact ⟨.inr ⟨_, by rw [hrest hmem]⟩, htearing.2⟩

lemma Held.step (hh : s.Held) (hl : Silent h l) (hs : Step h l s s') : s'.Held := by
  cases hs with
  | aside hw => exact hh.aside hw
  | send _ _ hx =>
    obtain ⟨q, rfl, -, hq, -⟩ := LoopDispatch.accept_eq hx
    exact hh.requeue hq
  | queue _ hx =>
    obtain ⟨q, rfl, -, hq, -⟩ := LoopDispatch.accept_eq hx
    exact hh.requeue hq
  | lose hx _ =>
    rcases lose_eq hx with ⟨-, -, rfl⟩ | ⟨_, _, -, -, rfl⟩ <;> exact ⟨hh.thread, hh.used, hh.tearing, hh.standing⟩
  | lapse hx _ =>
    rcases lose_eq hx with ⟨-, -, rfl⟩ | ⟨_, _, -, -, rfl⟩ <;> exact ⟨hh.thread, hh.used, hh.tearing, hh.standing⟩
  | serve hf hx => exact hh.serve hf hx
  | done hs =>
    obtain ⟨hu, hnot⟩ := hh.idle_of_cons hs trivial
    exact .of_idle hh.thread hu hnot hh.standing
  | hold hf =>
    obtain ⟨-, hnot⟩ := hh.idle_of_free hf
    refine ⟨hh.thread, fun _ => .inl rfl, fun hmem => ?_, hh.standing⟩
    rcases List.mem_cons.1 hmem with hmem | hmem
    · cases hmem
    · exact absurd hmem hnot
  | wrap hs hx =>
    obtain ⟨st, hstate, -, rfl⟩ := LoopState.wrap_ok hx
    exact ⟨hh.thread, hh.used, fun hmem => absurd hmem (hh.not_tearing_of_holding hs),
      fun ho => ⟨rfl, (hh.standing ho).2⟩⟩
  | letGo hs =>
    have hnot := hh.not_tearing_of_holding hs
    rw [hs] at hnot
    exact .of_idle hh.thread rfl (fun hmem => hnot (List.mem_cons_of_mem _ hmem)) hh.standing
  | unregister hs hx => exact hh.unregister hs hx fun hnot hmem => hnot (by simpa using hmem)
  | miss hs hx _ => exact hh.unregister hs hx id
  | release hs hx => exact hh.release (drop_aside hl hx) hs
  | released hs =>
    obtain ⟨hused, hrest⟩ := hh.rest_of_releasing hs
    refine ⟨hh.thread, fun hu => .inr (hused hu), fun hmem => ?_, hh.standing⟩
    exact ⟨.inl (hrest hmem), (hh.tearing (hs ▸ List.mem_cons_of_mem _ hmem)).2⟩
  | close hx =>
    cases hx
    exact ⟨hh.thread, hh.used, fun hmem => (hh.tearing hmem).imp_right (.imp_right fun _ => rfl),
      fun ho => (nomatch ho)⟩
  | sweep hstop hx =>
    obtain ⟨q, replies, rfl, hq⟩ := sweep_eq hx
    exact ⟨hh.thread, hh.used, fun hmem => (hh.tearing hmem).imp_right (.imp_right hq.trans),
      fun ho => hh.standing (hq ▸ ho)⟩
  | clear hs hstop hstate _ =>
    refine ⟨hh.thread, fun _ => .inr (by simp), fun _ => ⟨.inr ⟨_, rfl⟩, rfl, hstop⟩, fun ho => ?_⟩
    cases hstop.symm.trans ho
  | uninstall hs =>
    obtain ⟨hshape, -, hstop⟩ := hh.tearing (by rw [hs]; exact List.mem_cons_self)
    refine .of_idle hh.thread rfl (fun hmem => ?_) fun ho => ?_
    · rcases hshape with hshape | ⟨es, hshape⟩ <;> cases hs.symm.trans hshape
      cases hmem
    · cases hstop.symm.trans ho

lemma Kept.step (hk : s.Kept l) (hh : s.Held) (hl : Silent h l) (hs : Step h l s s') : s'.Kept l := by
  cases hs with
  | aside hw => exact hk.of_eq hw.estate rfl rfl rfl
  | send _ _ hx =>
    obtain ⟨q, rfl, -⟩ := LoopDispatch.accept_eq hx
    exact hk.of_eq rfl rfl rfl rfl
  | queue _ hx =>
    obtain ⟨q, rfl, -⟩ := LoopDispatch.accept_eq hx
    exact hk.of_eq rfl rfl rfl rfl
  | lose hx _ =>
    rcases lose_eq hx with ⟨-, -, rfl⟩ | ⟨_, _, -, -, rfl⟩ <;> exact hk.of_eq rfl rfl rfl rfl
  | lapse hx _ =>
    rcases lose_eq hx with ⟨-, -, rfl⟩ | ⟨_, _, -, -, rfl⟩ <;> exact hk.of_eq rfl rfl rfl rfl
  | @serve w t _ hx =>
    obtain ⟨rest, -, rfl⟩ := LoopDispatch.take_some hx
    exact hk.of_eq rfl (by cases t <;> rfl) rfl rfl
  | done hs => exact hk.of_eq rfl (by rw [removed, removed, hs]; rfl) rfl rfl
  | hold => exact hk.of_eq rfl rfl rfl rfl
  | wrap _ hx => exact hk.wrap hx
  | letGo hs => exact hk.of_eq rfl (by rw [removed, removed, hs]; rfl) rfl rfl
  | unregister hs hx => exact hk.unregister hs hx
  | miss hs hx hr => exact hk.miss hs hx hr
  | release hs hx => exact hk.release hl hs hx
  | released hs => exact hk.of_eq rfl (by rw [removed, removed, hs]; rfl) rfl rfl
  | close hx =>
    cases hx
    exact hk.of_eq rfl rfl rfl rfl
  | sweep _ hx =>
    obtain ⟨q, replies, rfl, -⟩ := sweep_eq hx
    exact hk.of_eq rfl rfl rfl rfl
  | clear hs _ hstate _ => exact hk.clear hs hstate
  | uninstall hs =>
    obtain ⟨hshape, hnone, -⟩ := hh.tearing (by rw [hs]; exact List.mem_cons_self)
    refine ⟨?_, hk.ids, fun e hmem => (nomatch hmem), fun e hmem => (nomatch hmem), fun _ => ?_⟩
    · have hobjects := hk.objects
      rw [hnone, removed, hs] at hobjects
      exact hobjects
    · rcases hshape with hshape | ⟨es, hshape⟩ <;> cases hs.symm.trans hshape
      rfl

/-! ### Handles -/

/-- No two handles have one key, and keys that are still to be given are not in use. -/
structure Keyed (s : State S) : Prop where
  keys : (s.world.handles.map Prod.fst).Nodup
  minted : ∀ e ∈ s.world.handles, e.1 < s.world.minted

lemma Keyed.of_eq (hk : s.Keyed) (hh : s'.world.handles = s.world.handles) (hm : s'.world.minted = s.world.minted) :
    s'.Keyed :=
  ⟨hh ▸ hk.keys, hh ▸ hm ▸ hk.minted⟩

lemma Keyed.lose (hk : s.Keyed) {key : HandleKey} {r : Option ObjectId} {leaving : List ObjectId}
    (hx : LoopDispatch.lose key s.world = some (.ok r, w)) : Keyed { s with world := w, leaving } := by
  rcases lose_eq hx with ⟨-, -, rfl⟩ | ⟨_, _, -, -, rfl⟩
  · exact hk.of_eq rfl rfl
  · exact ⟨hk.keys.sublist (List.filter_sublist.map _), fun e he => hk.minted e (List.mem_of_mem_filter he)⟩

lemma Keyed.step (hk : s.Keyed) (hl : Silent h l) (hs : Step h l s s') : s'.Keyed := by
  cases hs with
  | aside hw => exact hk.of_eq hw.handles hw.minted
  | send _ _ hx =>
    obtain ⟨q, rfl, -⟩ := LoopDispatch.accept_eq hx
    exact hk.of_eq rfl rfl
  | queue _ hx =>
    obtain ⟨q, rfl, -⟩ := LoopDispatch.accept_eq hx
    exact hk.of_eq rfl rfl
  | lose hx _ => exact hk.lose hx
  | lapse hx _ => exact hk.lose hx
  | serve _ hx =>
    obtain ⟨rest, -, rfl⟩ := LoopDispatch.take_some hx
    exact hk.of_eq rfl rfl
  | wrap _ hx =>
    obtain ⟨st, -, -, rfl⟩ := LoopState.wrap_ok hx
    refine ⟨?_, fun e he => ?_⟩
    · show ((s.world.handles ++ [(s.world.minted, _)]).map Prod.fst).Nodup
      rw [List.map_append, List.nodup_append]
      refine ⟨hk.keys, List.nodup_singleton _, fun key hkey new hnew => ?_⟩
      obtain ⟨e, he, rfl⟩ := List.mem_map.1 hkey
      rw [List.mem_singleton.1 hnew]
      exact (hk.minted e he).ne
    · rcases List.mem_append.1 he with he | he
      · exact Nat.lt_succ_of_lt (hk.minted e he)
      · rw [List.mem_singleton.1 he]
        exact Nat.lt_succ_self _
  | unregister _ hx =>
    rcases unregister_eq hx with ⟨-, rfl, -⟩ | ⟨_, -, -, -, rfl⟩ <;> exact hk.of_eq rfl rfl
  | miss _ hx _ =>
    rcases unregister_eq hx with ⟨-, rfl, -⟩ | ⟨_, -, -, -, rfl⟩ <;> exact hk.of_eq rfl rfl
  | release _ hx => exact hk.of_eq (drop_aside hl hx).handles (drop_aside hl hx).minted
  | close hx =>
    cases hx
    exact hk.of_eq rfl rfl
  | sweep _ hx =>
    obtain ⟨q, replies, rfl, -⟩ := sweep_eq hx
    exact hk.of_eq rfl rfl
  | _ => exact hk.of_eq rfl rfl

end State

end NativeBridge.Custody
