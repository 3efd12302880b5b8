import NativeBridge.Proofs.Threads.Waits

/-!
The order in which the two threads are nested in each other. A wait of the scripting thread stands above the calls that
were running when it began, and the loop thread serves its request above its own waits for those calls.
-/

namespace NativeBridge.Threads

open Eff Bridge

variable {Native Script : Type} {s s' : State Native Script}

/-! ### Replies and calls beneath each other -/

namespace ScriptFrame

/-- The reply that a wait looks for. -/
def reply? : ScriptFrame → Option PromiseId
  | waiting id _ | draining id _ => some id
  | _ => none

/-- The request of a wait. -/
def request? : ScriptFrame → Option Request
  | entered j | waiting _ j | draining _ j | leaving j _ => some j
  | _ => none

/-- The replies that are waited for, each with the calls that run beneath the wait. -/
def pledged : List ScriptFrame → List (PromiseId × List PromiseId)
  | [] => []
  | f :: rest => (f.reply?.map fun id => (id, rest.filterMap call?)).toList ++ pledged rest

end ScriptFrame

namespace LoopFrame

/-- Neither takes tasks nor runs one, and is not the last. -/
def plain : LoopFrame → Bool
  | batch | task _ | teardown => false
  | _ => true

/-- The promise of a request that is served. -/
def reply? : LoopFrame → Option PromiseId
  | task (.request id _) => some id
  | _ => none

/-- The calls that are waited for, the innermost first. -/
def awaited (loop : List LoopFrame) : List PromiseId := (loop.filterMap wait?).map Prod.fst

/-- The requests that are served, each with the calls that are waited for beneath it. -/
def begun : List LoopFrame → List (PromiseId × List PromiseId)
  | [] => []
  | f :: rest => (f.reply?.map fun id => (id, awaited rest)).toList ++ begun rest

end LoopFrame

/-- A request is served above the waits for all calls that its own wait is above of. -/
def State.InOrder (s : State Native Script) : Prop :=
  ∀ p ∈ ScriptFrame.pledged s.script, ∀ q ∈ LoopFrame.begun s.loop, p.1 = q.1 → p.2 ⊆ q.2

/-- What is read off a stack grows with it where a frame on top takes nothing away. -/
lemma subset_of_suffix {α β : Type} {F : List α → List β} (hF : ∀ a rest, F rest ⊆ F (a :: rest)) {k l : List α}
    (h : k <:+ l) : F k ⊆ F l := by
  induction l with
  | nil => rw [List.suffix_nil.1 h]; exact List.Subset.refl _
  | cons a rest ih =>
    rcases List.suffix_cons_iff.1 h with rfl | h
    · exact List.Subset.refl _
    · exact List.Subset.trans (ih h) (hF a rest)

lemma ScriptFrame.pledged_of_suffix {k l : List ScriptFrame} (h : k <:+ l) :
    ScriptFrame.pledged k ⊆ ScriptFrame.pledged l := subset_of_suffix (fun _ _ => List.subset_append_right _ _) h

/-- The calls beneath a wait run on the scripting thread. -/
lemma ScriptFrame.subset_of_pledged {script : List ScriptFrame} {p : PromiseId × List PromiseId}
    (hp : p ∈ ScriptFrame.pledged script) : p.2 ⊆ script.filterMap ScriptFrame.call? := by
  induction script with
  | nil => cases hp
  | cons f rest ih =>
    have hrest : rest.filterMap ScriptFrame.call? ⊆ (f :: rest).filterMap ScriptFrame.call? :=
      ((List.sublist_cons_self f rest).filterMap _).subset
    rcases List.mem_append.1 hp with hp | hp
    · cases hf : f.reply? with
      | none => rw [hf] at hp; cases hp
      | some id =>
        rw [hf] at hp
        rw [List.mem_singleton.1 hp]
        exact hrest
    · exact List.Subset.trans (ih hp) hrest

lemma LoopFrame.begun_of_suffix {k l : List LoopFrame} (h : k <:+ l) : LoopFrame.begun k ⊆ LoopFrame.begun l :=
  subset_of_suffix (fun _ _ => List.subset_append_right _ _) h

/-- The calls beneath a request are waited for. -/
lemma LoopFrame.subset_of_begun {loop : List LoopFrame} {q : PromiseId × List PromiseId}
    (hq : q ∈ LoopFrame.begun loop) : q.2 ⊆ LoopFrame.awaited loop := by
  induction loop with
  | nil => cases hq
  | cons f rest ih =>
    have hrest : LoopFrame.awaited rest ⊆ LoopFrame.awaited (f :: rest) :=
      (((List.sublist_cons_self f rest).filterMap _).map _).subset
    rcases List.mem_append.1 hq with hq | hq
    · cases hf : f.reply? with
      | none => rw [hf] at hq; cases hq
      | some id =>
        rw [hf] at hq
        rw [List.mem_singleton.1 hq]
        exact hrest
    · exact List.Subset.trans (ih hq) hrest

lemma LoopFrame.mem_of_begun {loop : List LoopFrame} {q : PromiseId × List PromiseId}
    (hq : q ∈ LoopFrame.begun loop) : ∃ j, .task (.request q.1 j) ∈ loop := by
  induction loop with
  | nil => cases hq
  | cons f rest ih =>
    rcases List.mem_append.1 hq with hq | hq
    · cases f with
      | task t =>
        cases t with
        | request id j =>
          rw [List.mem_singleton.1 hq]
          exact ⟨j, List.mem_cons_self⟩
        | _ => cases hq
      | _ => cases hq
    · obtain ⟨j, hj⟩ := ih hq
      exact ⟨j, List.mem_cons_of_mem _ hj⟩

lemma LoopFrame.begun_of_mem {loop : List LoopFrame} {id : PromiseId} {j : Request}
    (h : .task (.request id j) ∈ loop) : ∃ q ∈ LoopFrame.begun loop, q.1 = id := by
  induction loop with
  | nil => cases h
  | cons f rest ih =>
    rcases List.mem_cons.1 h with rfl | h
    · exact ⟨_, List.mem_append_left _ List.mem_cons_self, rfl⟩
    · obtain ⟨q, hq, hid⟩ := ih h
      exact ⟨q, List.mem_append_right _ hq, hid⟩

/-- Replies that are waited for were waited for before, or one is newly promised. -/
lemma ScriptStep.pledged (h : ScriptStep s s') :
    ScriptFrame.pledged s'.script ⊆ ScriptFrame.pledged s.script ∨
      ∃ calls, ScriptFrame.pledged s'.script = (s.world.replies.made, calls) :: ScriptFrame.pledged s.script := by
  have same {script : List ScriptFrame} (h : ScriptFrame.pledged script = ScriptFrame.pledged s.script) :
      ScriptFrame.pledged script ⊆ ScriptFrame.pledged s.script := fun _ hp => h ▸ hp
  have pop {f : ScriptFrame} {rest : List ScriptFrame} (hs : s.script = f :: rest) :
      ScriptFrame.pledged rest ⊆ ScriptFrame.pledged s.script :=
    ScriptFrame.pledged_of_suffix (hs ▸ List.suffix_cons f rest)
  cases h with
  | work | drop | enter | poll | take => exact .inl (same rfl)
  | send hs hx =>
    rcases bind_eq_some.1 hx with ⟨id', w₁, h₁, h₂⟩ | ⟨e, h₁, -⟩
    · cases h₁
      cases h₂
      exact .inr ⟨_, by rw [hs]; rfl⟩
    · cases h₁
  | miss hs | drained hs => exact .inl (same (by rw [hs]; rfl))
  | reply hs | refusal hs | polled hs | answer hs | join hs =>
    have hrest := pop hs
    exact .inl hrest
  | leave hs =>
    have hrest := pop hs
    refine .inl ?_
    dsimp only
    split <;> exact hrest
  | wake =>
    refine .inl ?_
    dsimp only
    split <;> exact same rfl

/-- What becomes of the stack of the loop thread: its innermost frame goes, or gives way to one in which neither tasks
are taken nor tasks run, or a batch, a task or the teardown begins. -/
lemma LoopStep.stack (h : LoopStep s s') :
    s'.loop <:+ s.loop ∨ (∃ f rest, s'.loop = f :: rest ∧ rest <:+ s.loop ∧ f.plain) ∨ s'.loop = [.batch] ∨
      (∃ task, s'.loop = .task task :: s.loop ∧ task ∈ s.world.loop.pending) ∨
      s'.loop = [.teardown] ∧ s.world.loop.stopped := by
  have pop {f : LoopFrame} {rest : List LoopFrame} (hs : s.loop = f :: rest) : rest <:+ s.loop :=
    hs ▸ List.suffix_cons f rest
  cases h with
  | work => exact .inl List.suffix_rfl
  | begin => exact .inr (.inr (.inl rfl))
  | handle => exact .inr (.inl ⟨_, _, rfl, List.nil_suffix, rfl⟩)
  | handled hs | batched hs | ended hs => exact .inl List.nil_suffix
  | serve hs hf hx =>
    obtain ⟨_, hp, -⟩ := LoopDispatch.take_some hx
    exact .inr (.inr (.inr (.inl ⟨_, rfl, hp ▸ List.mem_cons_self⟩)))
  | served hs | miss hs | announce hs => exact .inr (.inl ⟨_, _, rfl, pop hs, rfl⟩)
  | done hs | finish hs | stop hs | result hs => exact .inl (pop hs)
  | fire h =>
    cases h
    exact .inr (.inl ⟨_, _, rfl, List.suffix_rfl, rfl⟩)
  | queue h =>
    cases h with
    | mk hs => exact .inr (.inl ⟨_, _, rfl, pop hs, by split <;> rfl⟩)
  | leave hs he hstop => exact .inr (.inr (.inr (.inr ⟨rfl, hstop⟩)))

/-- Requests that are served were served before, or one begins above all that the loop thread is at. -/
lemma LoopStep.begun (h : LoopStep s s') :
    LoopFrame.begun s'.loop ⊆ LoopFrame.begun s.loop ∨
      ∃ id, LoopFrame.begun s'.loop = (id, LoopFrame.awaited s.loop) :: LoopFrame.begun s.loop := by
  rcases h.stack with hs | ⟨f, rest, hs, hrest, hf⟩ | hs | ⟨task, hs, -⟩ | ⟨hs, -⟩
  · exact .inl (LoopFrame.begun_of_suffix hs)
  · have hbegun : LoopFrame.begun (f :: rest) = LoopFrame.begun rest := by
      cases f <;> first | rfl | cases hf
    rw [hs, hbegun]
    exact .inl (LoopFrame.begun_of_suffix hrest)
  · rw [hs]
    exact .inl (List.nil_subset _)
  · rw [hs]
    cases task with
    | request id j => exact .inr ⟨id, rfl⟩
    | _ => exact .inl (List.Subset.refl _)
  · rw [hs]
    exact .inl (List.nil_subset _)

/-- The order holds at each step: a call beneath a wait is unanswered, and then the loop thread waits for it beneath
whatever it begins. -/
lemma State.InOrder.step (ho : s.InOrder) (hsound : s.Sound) (he : s.Exchanges) (h : Step s s') : s'.InOrder := by
  rcases h with h | h
  · rw [State.InOrder, h.loop]
    rcases h.pledged with hp | ⟨calls, hp⟩
    · exact fun p hpm => ho p (hp hpm)
    · rw [hp]
      refine List.forall_mem_cons.2 ⟨fun q hq heq => ?_, ho⟩
      obtain ⟨j, hj⟩ := LoopFrame.mem_of_begun hq
      exact absurd (he.lt_made hj) (heq ▸ lt_irrefl _)
  · rw [State.InOrder, h.script]
    rcases h.begun with hq | ⟨id, hq⟩
    · exact fun p hp q hqm => ho p hp q (hq hqm)
    · rw [hq]
      refine fun p hp => List.forall_mem_cons.2 ⟨fun _ c hc => ?_, ho p hp⟩
      have hcalling : c ∈ s.calls.calling := ScriptFrame.subset_of_pledged hp hc
      exact hsound.calls.waited c ((hsound.calls.unanswered c).2 (.inr hcalling))

end NativeBridge.Threads
