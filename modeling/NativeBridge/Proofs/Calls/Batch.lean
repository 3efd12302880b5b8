import Mathlib
import NativeBridge.Proofs.Calls.Readback
import NativeBridge.Proofs.Calls.Request

/-!
A batch of calls against the same calls made one by one. A batch stores what its calls gave in their cells at its end,
while separate calls store it at once. No call sees the difference, as long as no two calls share a cell.
-/

namespace NativeBridge

open Eff

variable {Native Script : Type}

/-- The cells after values were stored in them. -/
def storeAll (updates : List (CellId × Value)) (cells : List Value) : List Value :=
  updates.foldl (fun cells u => cells.set u.1 u.2) cells

lemma storeAll_append (first second : List (CellId × Value)) (cells : List Value) :
    storeAll (first ++ second) cells = storeAll second (storeAll first cells) := List.foldl_append

/-- Stores leave the other cells alone. -/
lemma getD_storeAll {updates : List (CellId × Value)} {c : CellId} (hc : c ∉ updates.map Prod.fst)
    (cells : List Value) : (storeAll updates cells).getD c .undefined = cells.getD c .undefined := by
  induction updates generalizing cells with
  | nil => rfl
  | cons u rest ih =>
    rw [List.map_cons, List.mem_cons, not_or] at hc
    refine (ih hc.2 _).trans ?_
    rw [List.getD_eq_getElem?_getD, List.getD_eq_getElem?_getD, List.getElem?_set_ne (Ne.symm hc.1)]

lemma applyUpdates_apply {S : Sides} (updates : List (CellId × Value)) (w : World S) :
    Call.applyUpdates updates w = some (.ok (), { w with cells := storeAll updates w.cells }) := by
  induction updates generalizing w with
  | nil => rfl
  | cons u rest ih =>
    have hset : (Cell.set u.1 u.2 : Eff S Unit) w = some (.ok (), { w with cells := w.cells.set u.1 u.2 }) := rfl
    rw [Call.applyUpdates, Eff.each, bind_ok hset]
    exact ih _

namespace Call

/-- What is read back of a call goes to cells of its references. -/
lemma readUpdate_cell {S : Sides} (h : Host S) (a : Arg) (v : NativeValue) :
    Gives (fun update => ∀ u, update = some u → a.cell? = some u.1) (readUpdate h a v) := by
  obtain ⟨type, value, optional⟩ := a
  unfold readUpdate
  split
  next inner c htype hvalue =>
    dsimp only at htype hvalue
    subst htype hvalue
    have hupdate : Gives (fun update => ∀ u, update = some u → Arg.cell? ⟨.ref inner, .ref c, optional⟩ = some u.1)
        (do return some (c, ← fromNative h v (.ref inner))) := by
      refine .bind fun x => .pure fun u hu => ?_
      cases hu
      rfl
    refine .bind fun w => ?_
    split
    · exact .ite (.pure fun u hu => by cases hu) hupdate
    · exact hupdate
  next => exact .pure fun u hu => by cases hu

lemma updates_cells {S : Sides} {h : Host S} {c : Call} {result : Descriptor} {w w' : World S} {o : Outcome}
    (hx : invoke h c result w = some (.ok o, w')) : ∀ u ∈ o.updates, u.1 ∈ c.cells := by
  intro u hu
  obtain ⟨p, w₁, r, w₂, w₃, -, -, hread, -⟩ := invoke_ok hx
  rcases LoopState.holding_eq_some hread with ⟨-, -, e, he⟩ | ⟨-, w₄, hread', -⟩
  · cases he
  obtain ⟨results, hupdates, hlen, hitems⟩ := readBack_ok hread'
  rw [hupdates, List.mem_filterMap] at hu
  obtain ⟨update, hmem, rfl⟩ := hu
  obtain ⟨i, hi, hget⟩ := List.getElem_of_mem hmem
  have hzip : i < (c.args.zip p.values).length := hlen ▸ hi
  rw [List.length_zip, lt_min_iff] at hzip
  obtain ⟨update', u₁, u₂, hupdate, -, hone⟩ := hitems i c.args[i] p.values[i] (List.getElem?_eq_getElem hzip.1)
    (List.getElem?_eq_getElem hzip.2)
  rw [List.getElem?_eq_getElem hi, hget] at hupdate
  cases hupdate
  exact List.mem_filterMap.2 ⟨c.args[i], List.getElem_mem hzip.1, readUpdate_cell h _ _ hone u rfl⟩

/-- Where calls succeed, each of them does. -/
lemma invokeAfter_cons_ok {S : Sides} {h : Host S} {updates all : List (CellId × Value)} {c : Call} {rest : List Call}
    {w w' : World S} :
    invokeAfter h updates (c :: rest) w = some (.ok all, w') ↔
      (invoke h c .undefined >>= fun o => invokeAfter h (updates ++ o.updates) rest) w = some (.ok all, w') := by
  rw [invokeAfter, attempt_bind_eq_some, bind_eq_some]
  constructor
  · rintro ⟨_ | o, w₁, hx, h⟩
    · rcases bind_eq_some.1 h with ⟨_, w₂, -, h⟩ | ⟨e, -, he⟩
      · cases h
      · cases he
    · exact .inl ⟨o, w₁, hx, h⟩
  · rintro (⟨o, w₁, hx, h⟩ | ⟨e, -, he⟩)
    · exact ⟨.ok o, w₁, hx, h⟩
    · cases he

end Call

/-! ### Runs that succeed alike -/

/-- Two runs succeed alike: where one of them ends with a value so does the other, and then the values and the worlds
are related. -/
structure SucceedAlike {S : Sides} {α β : Type} (R : α → World S → β → World S → Prop)
    (p : Option (Except Error α × World S)) (q : Option (Except Error β × World S)) : Prop where
  first : ∀ {a w}, p = some (.ok a, w) → ∃ b u, q = some (.ok b, u) ∧ R a w b u
  second : ∀ {b u}, q = some (.ok b, u) → ∃ a w, p = some (.ok a, w) ∧ R a w b u

namespace SucceedAlike

variable {S : Sides} {α β γ δ : Type} {R : α → World S → β → World S → Prop}

lemma of_ok {a : α} {b : β} {w u : World S} (h : R a w b u) : SucceedAlike R (some (.ok a, w)) (some (.ok b, u)) where
  first hp := by
    cases hp
    exact ⟨b, u, rfl, h⟩
  second hq := by
    cases hq
    exact ⟨a, w, rfl, h⟩

lemma bind {R' : γ → World S → δ → World S → Prop} {x : Eff S α} {y : Eff S β} {f : α → Eff S γ} {g : β → Eff S δ}
    {w u : World S} (hx : SucceedAlike R (x w) (y u))
    (hf : ∀ a w' b u', R a w' b u' → SucceedAlike R' (f a w') (g b u')) :
    SucceedAlike R' ((x >>= f) w) ((y >>= g) u) where
  first h := by
    rcases bind_eq_some.1 h with ⟨a, w₁, h₁, h₂⟩ | ⟨e, -, he⟩
    · obtain ⟨b, u₁, hy, hr⟩ := hx.first h₁
      rw [bind_ok hy]
      exact (hf _ _ _ _ hr).first h₂
    · cases he
  second h := by
    rcases bind_eq_some.1 h with ⟨b, u₁, h₁, h₂⟩ | ⟨e, -, he⟩
    · obtain ⟨a, w₁, hx, hr⟩ := hx.second h₁
      rw [bind_ok hx]
      exact (hf _ _ _ _ hr).second h₂
    · cases he

lemma of_iff {p p' : Option (Except Error α × World S)} {q : Option (Except Error β × World S)}
    (h : ∀ {a w}, p' = some (.ok a, w) ↔ p = some (.ok a, w)) (hp : SucceedAlike R p q) : SucceedAlike R p' q where
  first hx := hp.first (h.1 hx)
  second hy := by
    obtain ⟨a, w, hx, hr⟩ := hp.second hy
    exact ⟨a, w, h.2 hx, hr⟩

end SucceedAlike

/-! ### Between a batch and separate calls -/

/-- A bridge whose loop thread serves requests by one host while the scripting thread waits at another. -/
structure Serves (h inner base : Host (Bridge.sides Native Script)) : Prop where
  waits : 2 ≤ h.limit
  drains : 2 ≤ inner.limit
  turn : h.loopTurn = LoopDispatch.turn inner
  answer : ∀ j, inner.answer j = Bridge.answer base j
  /-- removals run the same native code as calls -/
  native : inner.run = base.run

/-- Between two calls: the world in the middle of the batch, and the world in which the calls so far were made one by
one. What they gave is still to be stored in the one and is stored in the other, and that is all the difference. -/
structure Pends (updates : List (CellId × Value)) (w u : World (Bridge.sides Native Script)) : Prop where
  same : u = { w with loop := u.loop, replies := u.replies, cells := u.cells, thread := u.thread }
  idle : u.Idle
  thread : w.thread = .loop
  stopped : w.loop.stopped = false
  posted : w.loop.posted = 0
  cells : u.cells = storeAll updates w.cells

section

variable {h inner base : Host (Bridge.sides Native Script)} {c : Call} {calls : List Call}
  {updates : List (CellId × Value)} {w u : World (Bridge.sides Native Script)}

lemma Pends.serving (hp : Pends updates w u) :
    u.serving = w.aside u.serving.loop u.serving.replies u.cells := by
  rw [World.serving, hp.same, World.aside]
  simp only [hp.thread]

instance : IsPreorder (World (Bridge.sides Native Script)) fun _ _ => True where
  refl _ := trivial
  trans _ _ _ _ _ := trivial

/-- What the loop thread does keeps to what promises are made for. -/
lemma Serves.honours (hs : Serves h inner base) (hb : base.Transforms) (n : Nat) :
    (∀ j, Along (Honours (fun _ _ => True) (fun _ _ _ _ => True) n) (inner.answer j)) ∧
      ∀ fuel, Along (Honours (fun _ _ => True) (fun _ _ _ _ => True) n) (LoopDispatch.drain inner fuel) := by
  let _ := Honours.permits (n := n) (S := Bridge.sides Native Script) (A := fun _ _ _ _ => True)
    (E := fun _ _ => True) fun _ => trivial
  have hrun (a : Address) (call : CallCode (Bridge.sides Native Script)) (words : Registers) :
      Along (Honours (fun _ _ => True) (fun _ _ _ _ => True) n) (base.run a call words) := by
    intro w r w' hx
    obtain ⟨f, hf⟩ := hb a words
    rw [hf, Option.map_eq_some_iff] at hx
    obtain ⟨p, -, hp⟩ := hx
    cases hp
    exact .of_same trivial (fun _ => List.Sublist.refl _) rfl
  have hanswer (j : Bridge.Request) :
      Along (Honours (fun _ _ => True) (fun _ _ _ _ => True) n) (inner.answer j) := by
    rw [hs.answer]
    exact Evolution.answer ⟨fun a => hrun a _, fun a => hrun a _⟩ j
  refine ⟨hanswer, Honours.drain (fun _ => trivial) (fun j w r w' hx => ⟨hanswer j hx, trivial⟩) ?_⟩
  exact Evolution.removeObject (hs.native ▸ fun a => hrun a _)

lemma isRunning_of_idle (hw : w.Idle) :
    (Bridge.isRunning : Eff (Bridge.sides Native Script) Bool) w = some (.ok true, w) := by
  rw [Bridge.isRunning, bind_ok (get_apply w), hw.installed]
  rfl

lemma Serves.request (hs : Serves h inner base) {j : Bridge.Request} (hw : w.Idle) {r : Except Error Bridge.Reply}
    (hx : Bridge.answer base j w.serving = some (r, u)) (hu : Kept w.serving u) :
    Bridge.request h j w = some (r, w.served u r) := by
  rw [Bridge.request, bind_ok (isRunning_of_idle hw)]
  exact LoopRequest.send_served hw hs.waits hs.drains hs.turn (hs.answer j ▸ hx) hu

lemma Serves.request_answers (hs : Serves h inner base) (hb : base.Transforms) {j : Bridge.Request} (hw : w.Idle)
    {r : Except Error Bridge.Reply} (hx : Bridge.request h j w = some (r, u)) :
    ∃ v, Bridge.answer base j w.serving = some (r, v) := by
  rw [Bridge.request, bind_ok (isRunning_of_idle hw)] at hx
  obtain ⟨hanswer, hdrain⟩ := hs.honours hb (w.replies.made + 1)
  rw [← hs.answer]
  exact LoopRequest.send_answers hw (fun _ => trivial) hs.waits hs.turn hdrain (hanswer j) hx

lemma invoke_kept (hb : base.Transforms) {o : Outcome} (hx : Call.invoke base c .undefined w = some (.ok o, u)) :
    Kept w u :=
  (BlindlyGives.invoke hb (fun k (_ : k ∈ c.cells) => Set.mem_univ k) .undefined).kept hx

/-- A call made on its own ends with a value where the loop thread's work on it does, and stores at once what that gave
for its cells. -/
lemma Serves.call_ok (hs : Serves h inner base) (hb : base.Transforms) (hw : w.Idle) {v : Value} :
    Bridge.call h c .undefined w = some (.ok v, u) ↔
      ∃ o w', Call.invoke base c .undefined w.serving = some (.ok o, w') ∧ v = o.value ∧
        u = { w.served w' (.ok (.outcome o)) with cells := storeAll o.updates w'.cells } := by
  have hforward {o : Outcome} {w' : World (Bridge.sides Native Script)}
      (hx : Call.invoke base c .undefined w.serving = some (.ok o, w')) :
      Bridge.request h (.call c .undefined) w = some (.ok (.outcome o), w.served w' (.ok (.outcome o))) :=
    hs.request hw (bind_ok hx) (invoke_kept hb hx)
  constructor
  · intro hx
    rcases bind_eq_some.1 hx with ⟨reply, w₁, hrequest, hx⟩ | ⟨e, -, he⟩
    · obtain ⟨w', hanswer⟩ := hs.request_answers hb hw hrequest
      rcases bind_eq_some.1 hanswer with ⟨o, w₂, hinvoke, hreply⟩ | ⟨e, -, he⟩
      · cases hreply
        rw [hforward hinvoke] at hrequest
        cases hrequest
        dsimp only at hx
        rw [bind_ok (applyUpdates_apply _ _)] at hx
        cases hx
        exact ⟨o, _, hinvoke, rfl, rfl⟩
      · cases he
    · cases he
  · rintro ⟨o, w', hx, rfl, rfl⟩
    rw [Bridge.call, bind_ok (hforward hx)]
    dsimp only
    rw [bind_ok (applyUpdates_apply _ _)]
    rfl

/-- The next call succeeds in the batch where it succeeds on its own, and there is no difference but what it gave. -/
lemma Pends.call (hs : Serves h inner base) (hb : base.Transforms) (hp : Pends updates w u)
    (hc : ∀ k ∈ c.cells, k ∉ updates.map Prod.fst) :
    SucceedAlike (fun o w' _ u' => (∀ p ∈ o.updates, p.1 ∈ c.cells) ∧ Pends (updates ++ o.updates) w' u' ∧
      u'.thread = u.thread) (Call.invoke base c .undefined w) (Bridge.call h c .undefined u) := by
  have hblind : BlindlyGives {k | k ∈ c.cells} (Call.invoke base c .undefined) :=
    BlindlyGives.invoke hb (fun k hk => hk) _
  have hfits : Fits {k | k ∈ c.cells} w u.serving.loop u.cells := by
    refine ⟨hp.idle.stopped.trans hp.stopped.symm, hp.idle.posted.trans hp.posted.symm, fun k hk => ?_⟩
    rw [hp.cells, getD_storeAll (hc k hk), World.cell]
  have hrelated {o : Outcome} {w' : World (Bridge.sides Native Script)}
      (hx : Call.invoke base c .undefined w = some (.ok o, w')) :
      (∀ p ∈ o.updates, p.1 ∈ c.cells) ∧ Pends (updates ++ o.updates) w' { u.served
        (w'.aside u.serving.loop u.serving.replies u.cells) (.ok (.outcome o)) with
          cells := storeAll o.updates u.cells } := by
    have hkept : Kept w w' := hblind.kept hx
    have hserving : Kept u.serving (w'.aside u.serving.loop u.serving.replies u.cells) := by
      rw [hp.serving]
      exact ⟨rfl, rfl, hkept.script, rfl, hkept.thread, hkept.state, hkept.handles⟩
    obtain ⟨hpending, harmed, hposted, hstopped, hreplies, hscript, hinstalled⟩ :=
      hp.idle.served hserving (.ok (.outcome o))
    refine ⟨Call.updates_cells hx, ?_⟩
    refine ⟨rfl, ⟨hpending, harmed, hposted, hstopped, hreplies, hscript, hinstalled⟩, hkept.thread.trans hp.thread,
      hkept.loop ▸ hp.stopped, hkept.loop ▸ hp.posted, ?_⟩
    rw [storeAll_append, hkept.cells, ← hp.cells]
  constructor
  · intro o w' hx
    obtain ⟨hcells, hpends⟩ := hrelated hx
    have hserved := (hblind.aside u.serving.replies hfits).2 ⟨w', hx, rfl⟩
    rw [← hp.serving] at hserved
    exact ⟨o.value, _, (hs.call_ok hb hp.idle).2 ⟨o, _, hserved, rfl, rfl⟩, hcells, hpends, rfl⟩
  · intro v u' hx
    obtain ⟨o, w₁, hserved, rfl, rfl⟩ := (hs.call_ok hb hp.idle).1 hx
    rw [hp.serving] at hserved
    obtain ⟨w', hinvoke, rfl⟩ := (hblind.aside u.serving.replies hfits).1 hserved
    obtain ⟨hcells, hpends⟩ := hrelated hinvoke
    exact ⟨o, w', hinvoke, hcells, hpends, rfl⟩

/-- The calls made one by one for their effect; the first error ends them. -/
def oneByOne (h : Host (Bridge.sides Native Script)) : List Call → Eff (Bridge.sides Native Script) Unit :=
  Eff.each fun c => do let _ ← Bridge.call h c .undefined

/-- Calls that share no cell succeed in the batch where they succeed one by one. -/
lemma Pends.all (hs : Serves h inner base) (hb : base.Transforms) (hp : Pends updates w u)
    (hfresh : ∀ k ∈ calls.flatMap Call.cells, k ∉ updates.map Prod.fst) (hnodup : (calls.flatMap Call.cells).Nodup) :
    SucceedAlike (fun all w' _ u' => Pends all w' u' ∧ u'.thread = u.thread)
      (Call.invokeAfter base updates calls w) (oneByOne h calls u) := by
  induction calls generalizing updates w u with
  | nil => exact .of_ok ⟨hp, rfl⟩
  | cons c rest ih =>
    rw [List.flatMap_cons, List.forall_mem_append] at hfresh
    rw [List.flatMap_cons, List.nodup_append] at hnodup
    refine .of_iff Call.invokeAfter_cons_ok ?_
    rw [oneByOne, Eff.each, bind_assoc]
    refine (hp.call hs hb hfresh.1).bind fun o w₁ _ u₁ hcall => ?_
    obtain ⟨hcells, hp₁, hthread⟩ := hcall
    rw [bind_ok (pure_apply () u₁), ← hthread]
    refine ih hp₁ (fun k hk hmem => ?_) hnodup.2.1
    rw [List.map_append, List.mem_append] at hmem
    rcases hmem with hmem | hmem
    · exact hfresh.2 k hk hmem
    · obtain ⟨p, hpo, rfl⟩ := List.mem_map.1 hmem
      exact hnodup.2.2 _ (hcells p hpo) _ hk rfl

lemma invokeAfter_kept (hb : base.Transforms) {all : List (CellId × Value)}
    (hx : Call.invokeAfter base updates calls w = some (.ok all, u)) : Kept w u := by
  induction calls generalizing updates w with
  | nil =>
    cases hx
    exact refl _
  | cons c rest ih =>
    rcases bind_eq_some.1 (Call.invokeAfter_cons_ok.1 hx) with ⟨o, w₁, h₁, h₂⟩ | ⟨e, -, he⟩
    · exact IsTrans.trans _ _ _ (invoke_kept hb h₁) (ih h₂)
    · cases he

/-- A batch succeeds where its calls succeed one by one. What is left then differs in nothing but the counts of tasks
and the replies that were sent. -/
lemma batch_succeeds_as_calls (hs : Serves h inner base) (hb : base.Transforms) (hw : w.Idle)
    (hnodup : (calls.flatMap Call.cells).Nodup) :
    SucceedAlike (fun _ w' _ u' => u' = { w' with loop := u'.loop, replies := u'.replies })
      (Bridge.batch h calls w) (oneByOne h calls w) := by
  rcases hempty : calls with _ | ⟨c, rest⟩
  · exact .of_ok rfl
  rw [← hempty]
  have hpends : Pends [] w.serving w := ⟨rfl, hw, rfl, hw.stopped, hw.posted, rfl⟩
  have hall := hpends.all hs hb (fun k _ => List.not_mem_nil) hnodup
  have hsome : ¬calls.isEmpty = true := by simp [hempty]
  have hforward {all : List (CellId × Value)} {w' : World (Bridge.sides Native Script)}
      (hx : Call.invokeAll base calls w.serving = some (.ok all, w')) :
      Bridge.batch h calls w =
        some (.ok (), { w.served w' (.ok (.updates all)) with cells := storeAll all w'.cells }) := by
    have hrequest := hs.request (j := .batch calls) hw (bind_ok hx) (invokeAfter_kept hb hx)
    rw [Bridge.batch, if_neg hsome, bind_ok hrequest]
    exact applyUpdates_apply _ _
  have hrelated {all : List (CellId × Value)} (w' u' : World (Bridge.sides Native Script)) (hp : Pends all w' u')
      (hthread : u'.thread = w.thread) : u' =
        { w.served w' (.ok (.updates all)) with
          cells := storeAll all w'.cells, loop := u'.loop, replies := u'.replies } := by
    rw [hp.same, hp.cells, hthread]
    rfl
  constructor
  · intro _ w₁ hx
    rw [Bridge.batch, if_neg hsome] at hx
    rcases bind_eq_some.1 hx with ⟨reply, w₂, hrequest, -⟩ | ⟨e, -, he⟩
    · obtain ⟨w', hanswer⟩ := hs.request_answers hb hw hrequest
      rcases bind_eq_some.1 hanswer with ⟨all, w', hinvoke, hreply⟩ | ⟨e, -, he⟩
      · obtain ⟨_, u', hones, hp, hthread⟩ := hall.first hinvoke
        have hbatch := hforward hinvoke
        rw [Bridge.batch, if_neg hsome] at hbatch
        rw [hbatch] at hx
        cases hx
        exact ⟨(), u', hones, hrelated w' u' hp hthread⟩
      · cases he
    · cases he
  · intro _ u' hones
    obtain ⟨all, w', hinvoke, hp, hthread⟩ := hall.second hones
    exact ⟨(), _, hforward hinvoke, hrelated w' u' hp hthread⟩

/-- **A batch is its calls made one by one.** Native functions are transformers of native memory, no two references of
the calls share a cell, and nothing waits on either thread. Then the batch succeeds if and only if the calls made one by
one do, and leaves the same behind: native state and memory, what the loop thread holds with its registry and the next
identity, and the contents of all cells. Only the counts of tasks and the record of replies differ. -/
theorem batch_agrees_with_single_calls (hs : Serves h inner base) (hb : base.Transforms) (hw : w.Idle)
    (hnodup : (calls.flatMap Call.cells).Nodup) :
    ((∃ w', Bridge.batch h calls w = some (.ok (), w')) ↔ ∃ u', oneByOne h calls w = some (.ok (), u')) ∧
      ∀ w' u', Bridge.batch h calls w = some (.ok (), w') → oneByOne h calls w = some (.ok (), u') →
        u' = { w' with loop := u'.loop, replies := u'.replies } := by
  have hends := batch_succeeds_as_calls hs hb hw hnodup
  refine ⟨⟨fun ⟨w', hw'⟩ => ?_, fun ⟨u', hu'⟩ => ?_⟩, fun w' u' hw' hu' => ?_⟩
  · obtain ⟨_, u', hu', -⟩ := hends.first hw'
    exact ⟨u', hu'⟩
  · obtain ⟨_, w', hw', -⟩ := hends.second hu'
    exact ⟨w', hw'⟩
  · obtain ⟨_, u₁, hu₁, hsame⟩ := hends.first hw'
    rw [hu₁] at hu'
    cases hu'
    exact hsame

end

/-! ### Two calls -/

/-- A function at 512 that writes the address 64 through its argument and counts its calls. -/
def tickingHost : Host (Bridge.sides Nat Unit) where
  loader := .ok
  symbol := fun _ _ => .ok 512
  anySymbol := fun _ => none
  run := fun a _ words => Eff.update fun w =>
    if a = 512 then
      ({}, { w with native := w.native + 1, heap := w.heap.store (words.ints.getD 0 0) (Bytes.ofNatLE 8 64) })
    else ({}, w)
  limit := 2
  script := fun _ _ => stuck
  answer := fun _ => stuck
  scriptTurn := stuck
  loopTurn := stuck

lemma tickingHost_transforms : tickingHost.Transforms := by
  intro a words
  by_cases ha : a = 512
  · refine ⟨fun n heap => some ({}, n + 1, heap.store (words.ints.getD 0 0) (Bytes.ofNatLE 8 64)), fun call w => ?_⟩
    simp [tickingHost, ha]
  · refine ⟨fun n heap => some ({}, n, heap), fun call w => ?_⟩
    simp [tickingHost, ha]

/-- The loop thread of a bridge with that function. -/
def tickingLoop : Host (Bridge.sides Nat Unit) := { tickingHost with answer := Bridge.answer tickingHost }

/-- The scripting thread of that bridge. -/
def tickingScript : Host (Bridge.sides Nat Unit) := { tickingHost with loopTurn := LoopDispatch.turn tickingLoop }

lemma tickingScript_serves : Serves tickingScript tickingLoop tickingHost :=
  ⟨Nat.le_refl 2, Nat.le_refl 2, rfl, fun _ => rfl, rfl⟩

/-- A bridge that has started, with two cells. -/
def tickingRun : World (Bridge.sides Nat Unit) :=
  { World.opening (S := Bridge.sides Nat Unit) 0 () .none with
    generation := 1, state := some { lifecycle := { bound := fun _ => none, libraries := [] } }
    cells := [.null, .null] }

/-- A call that has a string written to a cell. -/
def tick (cell : CellId) : Call where
  library := [97]
  symbol := [98]
  args := [{ type := .ref (.string true), value := .ref cell }]

theorem two_calls_in_batch :
    ∃ w' u', Bridge.batch tickingScript [tick 0, tick 1] tickingRun = some (.ok (), w') ∧
      oneByOne tickingScript [tick 0, tick 1] tickingRun = some (.ok (), u') ∧ w'.native = 2 ∧
        w'.cells = [.string [], .string []] ∧ u' = { w' with loop := u'.loop, replies := u'.replies } := by
  have hidle : tickingRun.Idle := ⟨rfl, rfl, rfl, rfl, (fun e he => by cases he), rfl, rfl⟩
  have hnodup : ([tick 0, tick 1].flatMap Call.cells).Nodup := by decide
  obtain ⟨hiff, hsame⟩ :=
    batch_agrees_with_single_calls tickingScript_serves tickingHost_transforms hidle hnodup
  have hruns : (Bridge.batch tickingScript [tick 0, tick 1] tickingRun).map
      (fun p => (p.1.toOption.isSome, p.2.native, p.2.cells)) = some (true, 2, [.string [], .string []]) := by
    cbv
  obtain ⟨⟨e | ⟨⟩, w'⟩, hw', hp⟩ := Option.map_eq_some_iff.1 hruns
  · cases hp
  · obtain ⟨u', hu'⟩ := hiff.1 ⟨w', hw'⟩
    have hcells : (w'.native, w'.cells) = (2, [.string [], .string []]) := congrArg Prod.snd hp
    exact ⟨w', u', hw', hu', congrArg Prod.fst hcells, congrArg Prod.snd hcells, hsame w' u' hw' hu'⟩

end NativeBridge
