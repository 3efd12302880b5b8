import NativeBridge.Proofs.Calls.Kept
import NativeBridge.Proofs.Calls.Wrapping
import NativeBridge.Proofs.Ownership.Shelf

/-!
What taking up a pointer from native code comes to: what is handed over with it, which functions of the lifecycle are
called, and which wrappers are registered. Where the native side keeps a log of such calls, each piece of work has one
uptake, and the uptakes of work in a row add up.
-/

namespace NativeBridge

open Eff

variable {S : Sides}

/-! ### What is asked of a lifecycle -/

/-- The function only tells something about what it is given. -/
def LifecycleRole.isQuery : LifecycleRole → Bool
  | objectIsFloating | typeFromName => true
  | _ => false

/-- A call of the function of a role, and its answer. -/
structure Asked where
  role : LifecycleRole
  words : List Nat
  answer : Nat

namespace Asked

/-- What is to be given back since. -/
def acquired : Asked → List Duty
  | ⟨.objectRef, [p], _⟩ => [.reference p]
  | ⟨.variantRef, [p], _⟩ | ⟨.variantRefSink, [p], _⟩ => [.share p]
  | ⟨.boxedCopy, [type, _], copy⟩ => [.struct type copy]
  | _ => []

/-- What is given back. A container goes with its nodes, and an array of strings with the strings. -/
def released : Asked → List Duty
  | ⟨.objectUnref, [p], _⟩ => [.reference p]
  | ⟨.variantUnref, [p], _⟩ => [.share p]
  | ⟨.boxedFree, [type, p], _⟩ => [.struct type p]
  | ⟨.free, [p], _⟩ | ⟨.strfreev, [p], _⟩ | ⟨.listFree, [p], _⟩ | ⟨.slistFree, [p], _⟩ => [.memory p]
  | _ => []

end Asked

/-- What native code hands over, what is asked of the lifecycle for it, and the wrappers that are registered. -/
structure Uptake where
  handed : List Duty := []
  asked : List Asked := []
  entered : List Wrapper := []

namespace Uptake

instance : Append Uptake where
  append e e' := ⟨e.handed ++ e'.handed, e.asked ++ e'.asked, e.entered ++ e'.entered⟩

variable {e e' : Uptake}

lemma append_def (e e' : Uptake) :
    e ++ e' = ⟨e.handed ++ e'.handed, e.asked ++ e'.asked, e.entered ++ e'.entered⟩ := rfl

@[simp] lemma nothing_append (e : Uptake) : ({} : Uptake) ++ e = e := rfl

@[simp] lemma append_nothing (e : Uptake) : e ++ ({} : Uptake) = e := by
  simp [append_def]

/-- Whatever was handed over or acquired is held by a wrapper that was registered, or was given back, and nothing else
is: nothing leaks, and nothing is given back twice. -/
def Balanced (e : Uptake) : Prop :=
  ∀ d : Duty, d.pointer ≠ 0 →
    e.handed.count d + (e.asked.flatMap Asked.acquired).count d =
      (Shelf.duties e.entered).count d + (e.asked.flatMap Asked.released).count d

lemma balanced_nothing : Balanced {} := fun _ _ => rfl

lemma Balanced.append (h : e.Balanced) (h' : e'.Balanced) : (e ++ e').Balanced := fun d hd => by
  have hsum := h d hd
  have hsum' := h' d hd
  simp only [append_def, Shelf.duties_append, List.flatMap_append, List.count_append]
  omega

/-- What was handed over or acquired is what the wrapper that is registered owes. -/
lemma balanced_entered {handed : List Duty} {asked : List Asked} {o : Wrapper} {d : Duty}
    (hd : handed ++ asked.flatMap Asked.acquired = [d]) (hr : asked.flatMap Asked.released = [])
    (ho : o.duty? = if d.pointer = 0 then none else some d) : Balanced ⟨handed, asked, [o]⟩ := by
  intro d' hd'
  rw [← List.count_append, hd, hr, Shelf.duties_singleton, ho]
  by_cases hp : d.pointer = 0
  · have hne : d' ∉ [d] := by
      rintro hm
      cases List.mem_singleton.1 hm
      exact hd' hp
    simp [hp, List.count_eq_zero.2 hne]
  · simp [hp]

/-- Memory that was handed over is given back. -/
lemma balanced_memory {p : Address} {q : Asked} (ha : q.acquired = []) (hr : q.released = [.memory p]) :
    Balanced ⟨[.memory p], [q], []⟩ := by
  intro d _
  simp [ha, hr, Shelf.duties]

end Uptake

/-! ### Logs -/

/-- The calls of functions that a log has: address, words and answer. -/
abbrev CallLog := List (Address × List Nat × Nat)

/-- A call as it stands in a log. -/
def Lifecycle.logged (l : Lifecycle) (q : Asked) : Address × List Nat × Nat :=
  ((l.bound q.role).getD 0, q.words, q.answer)

/-- Every role has a function. Those through which something changes hands are logged as they return, and those that
only tell something leave the log alone, as do the functions that register types. -/
structure Lifecycle.Logs (h : Host S) (l : Lifecycle) (log : S.Native → CallLog) : Prop where
  bound : ∀ role, l.bound role ≠ none
  logs : ∀ role a, ¬role.isQuery → l.bound role = some a → ∀ words (w : World S) r w',
    h.run a (fun _ _ => stuck) { ints := words } w = some (.ok r, w') →
      log w'.native = log w.native ++ [(a, words, r.int)]
  tells : ∀ role a, role.isQuery → l.bound role = some a → ∀ words (w : World S) r w',
    h.run a (fun _ _ => stuck) { ints := words } w = some (r, w') → log w'.native = log w.native
  types : ∀ inner library a,
    h.symbol library (Bytes.untilNul (Library.typeFunction (.ofString inner))) = .ok a → ∀ (w : World S) r w',
      h.run a (fun _ _ => stuck) {} w = some (r, w') → log w'.native = log w.native

/-- The wrappers that are registered. -/
def World.wrappers (w : World S) : List Wrapper :=
  (w.state.map fun s => s.registry.entries.map Prod.snd).getD []

/-- The functions that are in use for native lifetimes. -/
def World.lifecycle? (w : World S) : Option Lifecycle := w.state.map LoopState.lifecycle

/-- What has come of the uptake of pointers: the calls stand in the log, the wrappers are registered, and cells and
lifecycle are as they were. -/
structure Gains (l : Lifecycle) (log : S.Native → CallLog) (e : Uptake) (w w' : World S) : Prop where
  asked : log w'.native = log w.native ++ e.asked.map l.logged
  entered : w'.wrappers = w.wrappers ++ e.entered
  cells : w'.cells = w.cells
  lifecycle : w'.lifecycle? = w.lifecycle?

namespace Gains

variable {h : Host S} {l : Lifecycle} {log : S.Native → CallLog} {e e' : Uptake} {u v w w' : World S}

lemma trans (hg : Gains l log e u v) (hg' : Gains l log e' v w) : Gains l log (e ++ e') u w where
  asked := by rw [hg'.asked, hg.asked, Uptake.append_def, List.map_append, List.append_assoc]
  entered := by rw [hg'.entered, hg.entered, Uptake.append_def, List.append_assoc]
  cells := hg'.cells.trans hg.cells
  lifecycle := hg'.lifecycle.trans hg.lifecycle

/-- Nothing was taken up. -/
lemma of_same (hn : log w'.native = log w.native) (hs : w'.wrappers = w.wrappers) (hc : w'.cells = w.cells)
    (hl : w'.lifecycle? = w.lifecycle?) : Gains l log {} w w' :=
  ⟨hn.trans (List.append_nil _).symm, hs.trans (List.append_nil _).symm, hc, hl⟩

lemma nothing (w : World S) : Gains l log {} w w := of_same rfl rfl rfl rfl

instance : Housekeeping (Gains (S := S) l log {}) where
  refl := nothing
  trans _ _ _ := trans
  memory _ _ _ := of_same rfl rfl rfl rfl
  record _ _ := of_same rfl rfl rfl rfl
  libraries w _ := by
    refine of_same rfl ?_ rfl ?_
    · simp [World.wrappers, Function.comp_def]
    · simp [World.lifecycle?, Function.comp_def]

lemma of_disposes (hd : Disposes w w') : Gains l log {} w w' := by
  obtain ⟨_, _, _, rfl⟩ := hd
  exact of_same rfl rfl rfl rfl

/-- What is handed over shows nowhere. -/
lemma handed (hg : Gains l log e w w') (handed : List Duty) : Gains l log { e with handed } w w' :=
  ⟨hg.asked, hg.entered, hg.cells, hg.lifecycle⟩

end Gains

/-- Items that are worked on in a row: each has a result and an uptake in the world in which its turn comes. -/
inductive InTurn {α β : Type} (l : Lifecycle) (log : S.Native → CallLog)
    (step : World S → β → α → Uptake → Prop) : List β → List α → Uptake → World S → World S → Prop where
  | nil (w : World S) : InTurn l log step [] [] {} w w
  | cons {b : β} {a : α} {bs : List β} {as : List α} {e e' : Uptake} {w v w' : World S} (one : step w b a e)
      (gains : Gains l log e w v) (rest : InTurn l log step bs as e' v w') :
      InTurn l log step (b :: bs) (a :: as) (e ++ e') w w'

namespace InTurn

variable {α β : Type} {l : Lifecycle} {log : S.Native → CallLog} {step : World S → β → α → Uptake → Prop}
  {bs : List β} {as : List α} {e : Uptake} {w w' : World S}

lemma gains (hs : InTurn l log step bs as e w w') : Gains l log e w w' := by
  induction hs with
  | nil w => exact .nothing w
  | cons _ hg _ ih => exact hg.trans ih

lemma balanced (hb : ∀ w b a e, step w b a e → e.Balanced) (hs : InTurn l log step bs as e w w') :
    e.Balanced := by
  induction hs with
  | nil => exact Uptake.balanced_nothing
  | cons one _ _ ih => exact (hb _ _ _ _ one).append ih

/-- A collection is work on items in a row, with the same lifecycle and the same cells throughout. -/
lemma of_collect {f : β → Eff S α}
    (hf : ∀ b ∈ bs, ∀ (a : α) (u u' : World S), u.lifecycle? = w.lifecycle? → u.cells = w.cells →
      f b u = some (.ok a, u') → ∃ e, step u b a e ∧ Gains l log e u u')
    (hx : Eff.collect f bs w = some (.ok as, w')) : ∃ e, InTurn l log step bs as e w w' := by
  induction bs generalizing as w with
  | nil =>
    cases hx
    exact ⟨{}, .nil _⟩
  | cons b rest ih =>
    obtain ⟨a, v, hone, hx⟩ := bind_eq_ok.1 hx
    obtain ⟨more, v', hrest, hx⟩ := bind_eq_ok.1 hx
    cases hx
    obtain ⟨e, he, hg⟩ := hf b List.mem_cons_self a w v rfl rfl hone
    have hf' (b) (hb : b ∈ rest) (a : α) (u u' : World S) (hl : u.lifecycle? = v.lifecycle?)
        (hc : u.cells = v.cells) := hf b (List.mem_cons_of_mem _ hb) a u u' (hl.trans hg.lifecycle) (hc.trans hg.cells)
    obtain ⟨e', he'⟩ := ih hf' hrest
    exact ⟨e ++ e', .cons he hg he'⟩

end InTurn

/-! ### Functions of a lifecycle -/

section

variable {h : Host S} {l : Lifecycle} {log : S.Native → CallLog} {role : LifecycleRole} {words : List Nat}
  {w w' : World S}

lemma lifecycle?_eq_some : w.lifecycle? = some l ↔ ∃ s, w.state = some s ∧ s.lifecycle = l := by
  simp [World.lifecycle?]

lemma currentLifecycle_of (hw : w.lifecycle? = some l) :
    (LoopState.currentLifecycle : Eff S Lifecycle) w = some (.ok l, w) := by
  obtain ⟨s, hs, rfl⟩ := lifecycle?_eq_some.1 hw
  exact LoopState.currentLifecycle_of_some hs

lemma wrap_gains {o : Wrapper} {k : Handle} (hw : w.lifecycle? = some l)
    (hx : LoopState.wrap o w = some (.ok k, w')) : Gains l log { entered := [o] } w w' := by
  obtain ⟨s, hs, rfl⟩ := lifecycle?_eq_some.1 hw
  rw [LoopState.wrap_of_some hs] at hx
  cases hx
  refine ⟨(List.append_nil _).symm, ?_, rfl, ?_⟩
  · simp [World.wrappers, hs, Registry.add]
  · simp [World.lifecycle?, hs]

variable (hn : ∀ a call words, NativeCode call (h.run a call words)) (hl : l.Logs h log)

include hn

/-- Native code that is not logged takes nothing up. -/
lemma run_gains_nothing {a : Address} {words : Registers} {r : Except Error Returned}
    (hx : h.run a (fun _ _ => stuck) words w = some (r, w')) (hlog : log w'.native = log w.native) :
    Gains l log {} w w' := by
  obtain ⟨-, native, heap, -, rfl⟩ := (hn a _ words).outside hx
  exact .of_same hlog rfl rfl rfl

include hl

lemma call?_gains {r : Option Nat} (hx : l.call? h role words w = some (.ok r, w')) (hrole : ¬role.isQuery) :
    ∃ answer, r = some answer ∧ Gains l log { asked := [⟨role, words, answer⟩] } w w' := by
  rcases Lifecycle.call?_cases hx with ⟨hb, -, -⟩ | ⟨a, q, ha, hrun, hr⟩
  · exact absurd hb (hl.bound role)
  obtain ⟨⟨q, rfl⟩, native, heap, -, rfl⟩ := (hn a _ _).outside hrun
  cases hr
  have hlog := hl.logs role a hrole ha words w q _ hrun
  exact ⟨q.int, rfl, by rw [hlog]; simp [Lifecycle.logged, ha], (List.append_nil _).symm, rfl, rfl⟩

lemma require_gains {need : LifecycleNeed} {r : Nat} (hx : l.require h role need words w = some (.ok r, w'))
    (hrole : ¬role.isQuery) : Gains l log { asked := [⟨role, words, r⟩] } w w' := by
  obtain ⟨q, v, hcall, hx⟩ := bind_eq_ok.1 hx
  obtain ⟨answer, rfl, hg⟩ := call?_gains hn hl hcall hrole
  cases hx
  exact hg

lemma query_gains (hrole : role.isQuery) (words : List Nat) : Along (Gains l log {}) (l.call? h role words) := by
  intro w r w' hx
  rcases Lifecycle.call?_cases hx with ⟨hb, -, -⟩ | ⟨a, q, ha, hrun, -⟩
  · exact absurd hb (hl.bound role)
  · exact run_gains_nothing hn hrun (hl.tells role a hrole ha words w q w' hrun)

lemma boxedTypeId_gains (hw : w.lifecycle? = some l) {inner : String} {lib : Option String}
    {r : Except Error TypeId} (hx : boxedTypeId h inner lib w = some (r, w')) : Gains l log {} w w' := by
  refine Housekeeping.boxedTypeId (fun s hs words => ?_) (fun library a ha w r w' hrun => ?_) hx
  · obtain ⟨t, ht, rfl⟩ := lifecycle?_eq_some.1 hw
    obtain rfl : t = s := Option.some.inj (ht.symm.trans hs)
    exact query_gains hn hl rfl words
  · exact run_gains_nothing hn hrun (hl.types inner library a ha w r w' hrun)

lemma objectIsFloating_gains (p : Address) : Along (Gains l log {}) (l.objectIsFloating h p) :=
  .bind (query_gains hn hl rfl [p]) fun _ => .pure _

lemma objectRefSink_gains {p r : Address} (hx : l.objectRefSink h p w = some (.ok r, w')) :
    ∃ answer, Gains l log { asked := [⟨.objectRefSink, [p], answer⟩] } w w' := by
  obtain ⟨_, v, hcall, hx⟩ := bind_eq_ok.1 hx
  obtain ⟨answer, rfl, hg⟩ := call?_gains hn hl hcall (by decide)
  cases hx
  exact ⟨answer, hg⟩

lemma variantRefSink_gains {p r : Address} (hx : l.variantRefSink h p w = some (.ok r, w')) :
    ∃ answer, Gains l log { asked := [⟨.variantRefSink, [p], answer⟩] } w w' := by
  obtain ⟨_, v, hcall, hx⟩ := bind_eq_ok.1 hx
  obtain ⟨answer, rfl, hg⟩ := call?_gains hn hl hcall (by decide)
  cases hx
  exact ⟨_, hg⟩

lemma free_gains {p : Address} (hx : l.free h p w = some (.ok (), w')) :
    ∃ answer, Gains l log ⟨[.memory p], [⟨.free, [p], answer⟩], []⟩ w w' := by
  obtain ⟨_, v, hcall, hx⟩ := bind_eq_ok.1 hx
  obtain ⟨answer, rfl, hg⟩ := call?_gains hn hl hcall (by decide)
  cases hx
  exact ⟨answer, hg.handed _⟩

lemma strfreev_gains {p : Address} (hp : p ≠ 0) (hx : l.strfreev h p w = some (.ok (), w')) :
    ∃ answer, Gains l log ⟨[.memory p], [⟨.strfreev, [p], answer⟩], []⟩ w w' := by
  rw [Lifecycle.strfreev, if_neg hp] at hx
  obtain ⟨_, v, hcall, hx⟩ := bind_eq_ok.1 hx
  obtain ⟨answer, rfl, hg⟩ := call?_gains hn hl hcall (by decide)
  cases hx
  exact ⟨answer, hg.handed _⟩

lemma listFree_gains {p : Address} (hx : l.listFree h p w = some (.ok (), w')) :
    ∃ answer, Gains l log ⟨[.memory p], [⟨.listFree, [p], answer⟩], []⟩ w w' := by
  obtain ⟨answer, v, hcall, hx⟩ := bind_eq_ok.1 hx
  cases hx
  exact ⟨answer, (require_gains hn hl hcall (by decide)).handed _⟩

lemma slistFree_gains {p : Address} (hx : l.slistFree h p w = some (.ok (), w')) :
    ∃ answer, Gains l log ⟨[.memory p], [⟨.slistFree, [p], answer⟩], []⟩ w w' := by
  obtain ⟨answer, v, hcall, hx⟩ := bind_eq_ok.1 hx
  cases hx
  exact ⟨answer, (require_gains hn hl hcall (by decide)).handed _⟩

end

end NativeBridge
