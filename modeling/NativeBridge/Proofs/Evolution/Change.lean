import Mathlib.Data.List.Nodup
import Mathlib.Data.Nat.Basic
import Mathlib.Logic.Relation
import Mathlib.Order.Basic
import NativeBridge.LoopState
import NativeBridge.Proofs.Effect

/-!
What one step can do to a world. Everything that the bridge, the script and native code do is made of these changes,
so what each of them preserves holds in every world that is reached.
-/

namespace NativeBridge

variable {S : Sides}

inductive Change : World S → World S → Prop where
  /-- memory; addresses that were given out are not given out again -/
  | memory (w : World S) (heap : Heap) (h : w.heap.given ≤ heap.given) : Change w { w with heap }
  | native (w : World S) (native : S.Native) : Change w { w with native }
  | side (w : World S) (side : S.Script) : Change w { w with side }
  | cells (w : World S) (cells : List Value) : Change w { w with cells }
  /-- what is queued and owed between the threads -/
  | queues (w : World S) (loop : LoopQueue (Task S.Job)) (replies : Promises (Except Error S.Reply))
      (script : ScriptQueue) : Change w { w with loop, replies, script }
  | flags (w : World S) (loopOwned inUse : Bool) (thread : Thread) (record : Library.Record) :
      Change w { w with loopOwned, inUse, thread, record }
  | closure (w : World S) (c : Closure) :
      Change w { w with heap := w.heap.reserve.2, closures := w.closures ++ [(w.heap.reserve.1, c)] }
  /-- counts change, and closures go -/
  | closures (w : World S) (closures : List (Address × Closure))
      (h : (closures.map Prod.fst).Sublist (w.closures.map Prod.fst)) : Change w { w with closures }
  | thunk (w : World S) (t : Thunk) :
      Change w { w with heap := w.heap.reserve.2, thunks := w.thunks ++ [(w.heap.reserve.1, t)] }
  | thunks (w : World S) (thunks : List (Address × Thunk))
      (h : (thunks.map Prod.fst).Sublist (w.thunks.map Prod.fst)) : Change w { w with thunks }
  /-- a run of the bridge begins, with nothing registered -/
  | start (w : World S) (s : LoopState) (h : w.state = none) (hs : s.registry = {}) :
      Change w { w with generation := w.generation + 1, state := some s }
  | uninstall (w : World S) : Change w { w with state := none }
  /-- the state keeps its registry -/
  | keep (w : World S) (s t : LoopState) (h : w.state = some s) (ht : t.registry = s.registry) :
      Change w { w with state := some t }
  /-- an object is registered and its handle is given to the script -/
  | wrap (w : World S) (s : LoopState) (h : w.state = some s) (o : Wrapper) :
      Change w { w with
        state := some { s with registry := (s.registry.add o).2 }
        handles := w.handles ++ [(w.minted, s.registry.nextId, w.generation)]
        minted := w.minted + 1 }
  | take (w : World S) (s : LoopState) (h : w.state = some s) (id : ObjectId) :
      Change w { w with state := some { s with registry := (s.registry.take id).2 } }
  | clear (w : World S) (s : LoopState) (h : w.state = some s) :
      Change w { w with state := some { s with registry := s.registry.clear.2 } }
  /-- a script lets go of handles -/
  | handles (w : World S) (handles : List (HandleKey × ObjectId × Nat)) (h : handles.Sublist w.handles) :
      Change w { w with handles }

/-- One world comes of another by changes. -/
abbrev Evolves : World S → World S → Prop := Relation.ReflTransGen Change

lemma Change.given_le {w w' : World S} (h : Change w w') : w.heap.given ≤ w'.heap.given := by
  cases h with
  | memory _ hg => exact hg
  | closure | thunk => exact Nat.le_succ _
  | _ => exact le_rfl

lemma given_le_of_evolves {w w' : World S} (h : Evolves w w') : w.heap.given ≤ w'.heap.given := by
  induction h with
  | refl => exact le_rfl
  | tail _ hc ih => exact ih.trans hc.given_le

/-- A world in which nothing has happened yet. -/
def World.opening (native : S.Native) (side : S.Script) (channel : Channel) : World S :=
  { native, side, script := { channel } }

/-- A world that comes of one in which nothing has happened yet. -/
def World.Reached (w : World S) : Prop := ∃ native side channel, Evolves (opening native side channel) w

namespace World.Reached

/-- What holds at the opening and is preserved by every change holds in every world that is reached. -/
lemma invariant {P : World S → Prop} (h0 : ∀ native side channel, P (opening native side channel))
    (hstep : ∀ {w w'}, P w → Change w w' → P w') {w : World S} (hw : w.Reached) : P w := by
  obtain ⟨n, s, c, hr⟩ := hw
  induction hr with
  | refl => exact h0 n s c
  | tail _ hc ih => exact hstep ih hc

end World.Reached

/-! ### Addresses -/

namespace World

/-- The addresses that closures and code lie at. -/
def entries (w : World S) : List Address := w.closures.map Prod.fst ++ w.thunks.map Prod.fst

lemma mem_entries {w : World S} {a : Address} {c : Closure} (h : (a, c) ∈ w.closures) : a ∈ w.entries :=
  List.mem_append_left _ (List.mem_map.2 ⟨_, h, rfl⟩)

/-- Closures and code lie at addresses of their own, which memory has given out. -/
structure Placed (w : World S) : Prop where
  given : ∀ a ∈ w.entries, a ≤ w.heap.given * Heap.stride
  pos : ∀ a ∈ w.entries, 0 < a
  nodup : w.entries.Nodup

lemma Placed.closures_nodup {w : World S} (hw : w.Placed) : (w.closures.map Prod.fst).Nodup := hw.nodup.of_append_left

lemma Placed.thunks_nodup {w : World S} (hw : w.Placed) : (w.thunks.map Prod.fst).Nodup := hw.nodup.of_append_right

lemma Placed.shrink {w w' : World S} (hw : w.Placed) (hs : w'.entries.Sublist w.entries)
    (hg : w.heap.given ≤ w'.heap.given) : w'.Placed where
  given a ha := (hw.given a (hs.subset ha)).trans (Nat.mul_le_mul_right _ hg)
  pos a ha := hw.pos a (hs.subset ha)
  nodup := hw.nodup.sublist hs

lemma Placed.lt_reserve {w : World S} (hw : w.Placed) {a : Address} (ha : a ∈ w.entries) : a < w.heap.reserve.1 :=
  (hw.given a ha).trans_lt (Nat.mul_lt_mul_of_pos_right (Nat.lt_succ_self _) (by decide))

lemma Placed.add {w w' : World S} (hw : w.Placed) (hp : w'.entries.Perm (w.heap.reserve.1 :: w.entries))
    (hg : w'.heap = w.heap.reserve.2) : w'.Placed := by
  have hgiven : w'.heap.given * Heap.stride = w.heap.reserve.1 := by rw [hg]; rfl
  refine ⟨fun a ha => ?_, fun a ha => ?_, ?_⟩
  · rw [hgiven]
    rcases List.mem_cons.1 (hp.subset ha) with rfl | ha
    · exact le_rfl
    · exact (hw.lt_reserve ha).le
  · rcases List.mem_cons.1 (hp.subset ha) with rfl | ha
    · exact Nat.mul_pos (Nat.succ_pos _) (by decide)
    · exact hw.pos a ha
  · rw [hp.nodup_iff, List.nodup_cons]
    exact ⟨fun ha => (hw.lt_reserve ha).ne rfl, hw.nodup⟩

lemma Placed.step {w w' : World S} (hw : w.Placed) (hc : Change w w') : w'.Placed := by
  cases hc with
  | closure c =>
    refine hw.add ?_ rfl
    simp [entries]
  | thunk t =>
    refine hw.add ?_ rfl
    simp [entries, ← List.append_assoc]
  | closures cs h => exact hw.shrink (h.append_right _) le_rfl
  | thunks ts h => exact hw.shrink (h.append_left _) le_rfl
  | memory heap h => exact hw.shrink (List.Sublist.refl _) h
  | _ => exact hw.shrink (List.Sublist.refl _) le_rfl

lemma Placed.evolves {w w' : World S} (hw : w.Placed) (h : Evolves w w') : w'.Placed := by
  induction h with
  | refl => exact hw
  | tail _ hc ih => exact ih.step hc

theorem Reached.placed {w : World S} (hw : w.Reached) : w.Placed :=
  hw.invariant (fun _ _ _ => ⟨by simp [entries, opening], by simp [entries, opening], by simp [entries, opening]⟩)
    Placed.step

end World

end NativeBridge
