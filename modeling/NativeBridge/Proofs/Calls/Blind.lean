import NativeBridge.Proofs.Calls.Kept
import NativeBridge.Proofs.Handles

/-!
What a call cannot tell. Native functions that are transformers of native memory call nothing back, so a call looks into
no queue and no cells but those of its references: it does the same with other ones, and leaves them as they are. Only
where a call fails it sends the removals of what it has made.
-/

namespace NativeBridge

open Eff

variable {S : Sides} {α β : Type}

/-- The world with another queue of tasks, other replies and other cells. -/
def World.aside (w : World S) (loop : LoopQueue (Task S.Job)) (replies : Promises (Except Error S.Reply))
    (cells : List Value) : World S :=
  { w with loop, replies, cells }

/-- The queue and the cells look the same to work on these cells. -/
structure Fits (seen : Set CellId) (w : World S) (loop : LoopQueue (Task S.Job)) (cells : List Value) : Prop where
  stopped : loop.stopped = w.loop.stopped
  posted : loop.posted = w.loop.posted
  cell : ∀ c ∈ seen, cells.getD c .undefined = w.cell c

lemma Fits.kept {seen : Set CellId} {w w' : World S} {loop : LoopQueue (Task S.Job)} {cells : List Value}
    (h : Fits seen w loop cells) (hw : Kept w w') : Fits seen w' loop cells where
  stopped := hw.loop ▸ h.stopped
  posted := hw.loop ▸ h.posted
  cell c hc := by rw [World.cell, hw.cells]; exact h.cell c hc

/-- An effect that leaves queues, replies and cells alone, and does the same with other ones that fit. -/
structure Blind (seen : Set CellId) (x : Eff S α) : Prop where
  kept : Along Kept x
  aside : ∀ {w : World S} {loop : LoopQueue (Task S.Job)} (replies : Promises (Except Error S.Reply))
    {cells : List Value}, Fits seen w loop cells →
      x (w.aside loop replies cells) = (x w).map fun p => (p.1, p.2.aside loop replies cells)

namespace Blind

variable {seen : Set CellId}

lemma pure (a : α) : Blind seen (pure a : Eff S α) := ⟨.pure a, fun _ _ _ => rfl⟩

lemma throw (e : Error) : Blind seen (throw e : Eff S α) := ⟨.throw e, fun _ _ _ => rfl⟩

lemma bind {x : Eff S α} {f : α → Eff S β} (hx : Blind seen x) (hf : ∀ a, Blind seen (f a)) :
    Blind seen (x >>= f) where
  kept := hx.kept.bind fun a => (hf a).kept
  aside {w loop} replies {cells} hw := by
    rw [bind_apply, bind_apply, hx.aside replies hw]
    rcases h : x w with _ | ⟨_ | a, w₁⟩
    · rfl
    · rfl
    · exact (hf a).aside replies (hw.kept (hx.kept h))

lemma sequences : Sequences fun _ (x : Eff S _) => Blind seen x where
  pure := pure
  throw := throw
  bind := bind

lemma ofExcept (r : Except Error α) : Blind seen (Eff.ofExcept r : Eff S α) := sequences.ofExcept r

lemma attempt {x : Eff S α} (hx : Blind seen x) : Blind seen x.attempt where
  kept := hx.kept.attempt
  aside {w loop} replies {cells} hw := by
    rw [attempt_apply, attempt_apply, hx.aside replies hw]
    rcases x w with _ | ⟨r, w₁⟩ <;> rfl

lemma andFinally {x : Eff S α} {last : Eff S Unit} (hx : Blind seen x) (hl : Blind seen last) :
    Blind seen (x.andFinally last) :=
  hx.attempt.bind fun r => hl.bind fun _ => ofExcept r

lemma ite {c : Prop} [Decidable c] {x y : Eff S α} (hx : Blind seen x) (hy : Blind seen y) :
    Blind seen (if c then x else y) := by
  split
  · exact hx
  · exact hy

lemma guard {c : Prop} [Decidable c] {e : Error} {f : PUnit → Eff S α} (hf : Blind seen (f ⟨⟩)) :
    Blind seen (if c then (MonadExcept.throw e : Eff S PUnit) >>= f else f ⟨⟩) :=
  sequences.guard hf

lemma each {f : β → Eff S Unit} (hf : ∀ b, Blind seen (f b)) (bs : List β) : Blind seen (Eff.each f bs) :=
  sequences.each hf bs

lemma update {f : World S → α × World S} (hk : ∀ w, Kept w (f w).2)
    (ha : ∀ w loop replies cells, f (w.aside loop replies cells) = ((f w).1, (f w).2.aside loop replies cells)) :
    Blind seen (Eff.update f) where
  kept := .update hk
  aside {w loop} replies {cells} _ := by
    rw [update_apply, update_apply, ha]
    rfl

lemma modify {f : World S → World S} (hk : ∀ w, Kept w (f w))
    (ha : ∀ w loop replies cells, f (w.aside loop replies cells) = (f w).aside loop replies cells) :
    Blind seen (modify f : Eff S PUnit) where
  kept := .modify hk
  aside {w loop} replies {cells} _ := by
    rw [modify_apply, modify_apply, ha]
    rfl

/-- What follows a look at the world may depend on what fits. -/
lemma look {f : World S → Eff S α} (hf : ∀ w, Blind seen (f w))
    (ha : ∀ w loop replies cells, Fits seen w loop cells → f (w.aside loop replies cells) = f w) :
    Blind seen (get >>= f) where
  kept := .bind .get fun w => (hf w).kept
  aside {w loop} replies {cells} hw := by
    rw [bind_ok (get_apply _), bind_ok (get_apply w), ha w loop replies cells hw]
    exact (hf w).aside replies hw

/-! ### The loop state -/

lemma current : Blind seen (LoopState.current : Eff S LoopState) := by
  refine .look (fun w => ?_) fun _ _ _ _ _ => rfl
  split
  · exact .pure _
  · exact .throw _

lemma change (f : LoopState → LoopState) : Blind seen (LoopState.update f : Eff S Unit) :=
  .modify (fun _ => .of_same rfl rfl rfl rfl rfl Option.isSome_map rfl) fun _ _ _ _ => rfl

lemma library (h : Host S) (name : Bytes) : Blind seen (LoopState.library h name) :=
  .bind .current fun _ => .look (fun _ => .bind (.modify (fun _ => .of_same rfl rfl rfl rfl rfl rfl rfl)
    fun _ _ _ _ => rfl) fun _ => .bind (change _) fun _ => .ofExcept _) fun _ _ _ _ _ => rfl

lemma symbol (h : Host S) (name symbol : Bytes) : Blind seen (LoopState.symbol h name symbol) :=
  .bind .current fun _ => .look (fun _ => .bind (.modify (fun _ => .of_same rfl rfl rfl rfl rfl rfl rfl)
    fun _ _ _ _ => rfl) fun _ => .bind (change _) fun _ => .ofExcept _) fun _ _ _ _ _ => rfl

lemma wrap (o : Wrapper) : Blind seen (LoopState.wrap o : Eff S Handle) :=
  .bind .current fun _ => .bind (change _) fun _ =>
    .update (fun _ => ⟨rfl, rfl, rfl, rfl, rfl, rfl, List.subset_append_left _ _⟩) fun _ _ _ _ => rfl

lemma holding {x : Eff S α} (hx : Blind seen x) : Blind seen (LoopState.holding x) := by
  refine .bind (.look (fun w => .pure _) fun _ _ _ _ _ => rfl) fun _ => ?_
  refine .guard (.look (fun w => .guard ?_) fun _ _ _ _ _ => rfl)
  refine .bind (.modify (fun _ => .of_same rfl rfl rfl rfl rfl rfl rfl) fun _ _ _ _ => rfl) fun _ => hx.andFinally ?_
  exact .modify (fun _ => .of_same rfl rfl rfl rfl rfl rfl rfl) fun _ _ _ _ => rfl

/-! ### Memory, closures and code -/

lemma free (a : Address) : Blind seen (Memory.release a : Eff S Unit) :=
  .modify (fun _ => .of_same rfl rfl rfl rfl rfl rfl rfl) fun _ _ _ _ => rfl

lemma reserve : Blind seen (Memory.reserve : Eff S Address) :=
  .update (fun _ => .of_same rfl rfl rfl rfl rfl rfl rfl) fun _ _ _ _ => rfl

lemma ref (a : Address) : Blind seen (Closure.ref a : Eff S Unit) :=
  .modify (fun _ => .of_same rfl rfl rfl rfl rfl rfl rfl) fun _ _ _ _ => rfl

lemma unref (a : Address) : Blind seen (Closure.unref a : Eff S Unit) :=
  .modify (fun _ => .of_same rfl rfl rfl rfl rfl rfl rfl) fun _ _ _ _ => rfl

lemma disown (a : Address) : Blind seen (Thunk.disown a : Eff S Unit) := by
  refine .look (fun w => ?_) fun _ _ _ _ _ => rfl
  split
  · exact .pure _
  · refine .ite (.bind ?_ fun _ => unref _) ?_ <;>
      exact .modify (fun _ => .of_same rfl rfl rfl rfl rfl rfl rfl) fun _ _ _ _ => rfl

lemma values : ComposesValues fun _ (x : Eff S _) => Blind seen x where
  toSequences := sequences
  free := free
  ref := ref
  unref := unref
  disown := disown
  code _ := .bind reserve fun _ => .bind (.modify (fun _ => .of_same rfl rfl rfl rfl rfl rfl rfl) fun _ _ _ _ => rfl)
    fun _ => .pure _

lemma release (v : NativeValue) : Blind seen (v.release : Eff S Unit) := values.release v

lemma handOver (v : NativeValue) : Blind seen (v.handOver : Eff S Unit) := values.handOver v

/-- A callback is refused where the loop is gone or stopped, which is to be seen from any queue that fits. -/
lemma makeCallback (function : Option FunctionId) (s : Signature) :
    Blind seen (makeCallback function s : Eff S NativeValue) := by
  refine .look (fun w => .guard (.guard ?_)) fun w loop replies cells hw => ?_
  · refine .bind (.bind reserve fun _ => .bind ?_ fun _ => .pure _) fun closure => ?_
    · exact .modify (fun _ => .of_same rfl rfl rfl rfl rfl rfl rfl) fun _ _ _ _ => rfl
    · split
      · refine .bind (values.makeThunk _ _) fun thunk =>
          .ite (.bind ?_ fun _ => .bind (change _) fun _ => .pure _) (.pure _)
        exact .modify (fun _ => .of_same rfl rfl rfl rfl rfl rfl rfl) fun _ _ _ _ => rfl
      · exact .pure _
  · have halive : (w.aside loop replies cells).loopAlive w.generation = w.loopAlive w.generation := by
      simp only [World.loopAlive, World.aside, hw.posted]
    simp only [World.aside, hw.stopped] at halive ⊢
    rw [halive]

end Blind

/-! ### Calls -/

/-- Native functions are deterministic transformers of native memory, which may not end. They call nothing back. -/
def Host.Transforms (h : Host S) : Prop :=
  ∀ a words, ∃ f : S.Native → Heap → Option (Returned × S.Native × Heap), ∀ call w,
    h.run a call words w =
      (f w.native w.heap).map fun r => (.ok r.1, { w with native := r.2.1, heap := r.2.2 })

namespace Blind

variable {seen : Set CellId} {h : Host S} (hh : h.Transforms)

include hh

lemma run (a : Address) (call : CallCode S) (words : Registers) : Blind seen (h.run a call words) := by
  obtain ⟨f, hf⟩ := hh a words
  constructor
  · intro w r w' hx
    rw [hf, Option.map_eq_some_iff] at hx
    obtain ⟨p, -, hp⟩ := hx
    cases hp
    exact .of_same rfl rfl rfl rfl rfl rfl rfl
  · intro w loop replies cells _
    rw [hf, hf, Option.map_map]
    rfl

/-- Work on arguments and results is blind. -/
lemma work {makes calls : Prop} {x : Eff S α} (hx : LoopWork h seen makes calls x) : Blind seen x := by
  induction hx with
  | pure a => exact .pure a
  | throw e => exact .throw e
  | memory f _ => exact .update (fun _ => .of_same rfl rfl rfl rfl rfl rfl rfl) fun _ _ _ _ => rfl
  | quiet _ a words => exact run hh a _ words
  | current => exact .current
  | library name => exact .library h name
  | symbol name symbol => exact .symbol h name symbol
  | wrap _ o => exact .wrap o
  | look _ hs ih => exact .look ih fun w loop replies cells hw => hs _ _ rfl fun c hc => hw.cell c hc
  | callback _ f s => exact .makeCallback f s
  | release _ v => exact .release v
  | attempt _ ih => exact ih.attempt
  | bind _ _ ihx ihf => exact ihx.bind ihf

end Blind

/-- What a call gives is blind to all but its own cells: where the effect ends with a value, it leaves queues, replies
and cells alone, and it ends with that value where they are other ones that fit, and only there. -/
structure BlindlyGives (seen : Set CellId) (x : Eff S α) : Prop where
  kept : ∀ {w a w'}, x w = some (.ok a, w') → Kept w w'
  aside : ∀ {w : World S} {loop : LoopQueue (Task S.Job)} (replies : Promises (Except Error S.Reply))
    {cells : List Value}, Fits seen w loop cells → ∀ {a v},
      x (w.aside loop replies cells) = some (.ok a, v) ↔
        ∃ w', x w = some (.ok a, w') ∧ v = w'.aside loop replies cells

namespace BlindlyGives

variable {seen : Set CellId}

lemma of_blind {x : Eff S α} (hx : Blind seen x) : BlindlyGives seen x where
  kept h := hx.kept h
  aside {w loop} replies {cells} hw a v := by
    rw [hx.aside replies hw]
    rcases x w with _ | ⟨r, w'⟩
    · simp
    · simp [eq_comm]

lemma bind {x : Eff S α} {f : α → Eff S β} (hx : BlindlyGives seen x) (hf : ∀ a, BlindlyGives seen (f a)) :
    BlindlyGives seen (x >>= f) where
  kept h := by
    rcases bind_eq_some.1 h with ⟨a, w₁, h₁, h₂⟩ | ⟨e, -, he⟩
    · exact IsTrans.trans _ _ _ (hx.kept h₁) ((hf a).kept h₂)
    · cases he
  aside {w loop} replies {cells} hw b v := by
    constructor
    · intro h
      rcases bind_eq_some.1 h with ⟨a, w₁, h₁, h₂⟩ | ⟨e, -, he⟩
      · obtain ⟨u, hu, rfl⟩ := (hx.aside replies hw).1 h₁
        obtain ⟨u', hu', rfl⟩ := ((hf a).aside replies (hw.kept (hx.kept hu))).1 h₂
        exact ⟨u', (bind_ok hu).trans hu', rfl⟩
      · cases he
    · rintro ⟨w', h, rfl⟩
      rcases bind_eq_some.1 h with ⟨a, w₁, h₁, h₂⟩ | ⟨e, -, he⟩
      · rw [bind_ok ((hx.aside replies hw).2 ⟨w₁, h₁, rfl⟩)]
        exact ((hf a).aside replies (hw.kept (hx.kept h₁))).2 ⟨w', h₂, rfl⟩
      · cases he

/-- The value of an effect that something is run after is the value of the effect. -/
lemma andFinally_eq_some {x : Eff S α} {last : Eff S Unit} {w w' : World S} {a : α} :
    x.andFinally last w = some (.ok a, w') ↔ (do let a ← x; last; return a : Eff S α) w = some (.ok a, w') := by
  rw [Eff.andFinally, attempt_bind_eq_some, bind_eq_some]
  constructor
  · rintro ⟨q, w₁, hx, h⟩
    rcases bind_eq_some.1 h with ⟨_, w₂, h₁, h₂⟩ | ⟨e, -, he⟩
    · rw [ofExcept_apply] at h₂
      cases h₂
      exact .inl ⟨a, w₁, hx, (bind_ok h₁).trans rfl⟩
    · cases he
  · rintro (⟨b, w₁, hx, h⟩ | ⟨e, -, he⟩)
    · rcases bind_eq_some.1 h with ⟨_, w₂, h₁, h₂⟩ | ⟨e, -, he⟩
      · cases h₂
        exact ⟨.ok a, w₁, hx, (bind_ok h₁).trans rfl⟩
      · cases he
    · cases he

lemma of_eq {x y : Eff S α} (hx : BlindlyGives seen x)
    (h : ∀ {w a w'}, y w = some (.ok a, w') ↔ x w = some (.ok a, w')) : BlindlyGives seen y where
  kept hy := hx.kept (h.1 hy)
  aside replies _ hw a v := by simpa only [h] using hx.aside replies hw (a := a) (v := v)

lemma andFinally {x : Eff S α} {last : Eff S Unit} (hx : BlindlyGives seen x) (hl : Blind seen last) :
    BlindlyGives seen (x.andFinally last) :=
  (hx.bind fun a => (of_blind hl).bind fun _ => of_blind (.pure a)).of_eq andFinally_eq_some

lemma unwinding {x : Eff S α} (hx : Blind seen x) : BlindlyGives seen (LoopDispatch.unwinding x) :=
  (of_blind hx).of_eq LoopDispatch.unwinding_ok

/-- **A call that succeeds is blind to all but its own cells.** -/
theorem invoke {h : Host S} (hh : h.Transforms) {c : Call} (hc : ∀ k ∈ c.cells, k ∈ seen) (result : Descriptor) :
    BlindlyGives seen (Call.invoke h c result) := by
  have hread (values : List NativeValue) (buffer : Bytes) :
      LoopWork h seen True True (Call.readBack h c result values buffer) :=
    .readBack hc result values buffer
  refine .bind (of_blind (.holding (Blind.work hh (.prepare trivial hc result)))) fun p =>
    .andFinally ?_ (.each .release _)
  exact .bind (of_blind (.each .handOver _)) fun _ => .bind (of_blind (Blind.run hh _ _ _)) fun r =>
    unwinding (.holding (Blind.work hh (hread _ _)))

end BlindlyGives

end NativeBridge
