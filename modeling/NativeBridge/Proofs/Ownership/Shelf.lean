import Mathlib.Data.List.Count
import Mathlib.Data.List.Nodup
import NativeBridge.Proofs.Ownership.Duty
import NativeBridge.Proofs.Table

/-!
Wrappers that are made, moved, registered and destroyed in any order. At every point what was acquired, adopted and
allocated is what was given back and what the wrappers still hold.
-/

namespace NativeBridge

open Eff

variable {S : Sides}

/-! ### Operations -/

/-- Wrappers in variables and in a registry. Beside them stands what was adopted and what was allocated so far. -/
structure Shelf where
  held : List Wrapper := []
  registry : Registry := {}
  adopted : List Duty := []
  allotted : List Address := []

namespace Shelf

inductive Op where
  /-- a new variable -/
  | make (src : Source)
  /-- a new variable is moved from one that there is -/
  | move (i : Nat)
  | assign (target source : Nat)
  /-- a variable is moved into the registry -/
  | add (i : Nat)
  /-- an entry of the registry is moved into a new variable -/
  | take (id : ObjectId)
  | remove (id : ObjectId)
  | clear
  | destroy (i : Nat)

/-- An operation; one on a variable or an entry that is not there does nothing. -/
def perform (h : Host S) (l : Lifecycle) (s : Shelf) : Op → Eff S Shelf
  | .make src => do
    let o ← src.wrap h l
    return { s with
      held := s.held ++ [o], adopted := src.adopted ++ s.adopted, allotted := src.allotted o ++ s.allotted }
  | .move i =>
    match s.held[i]? with
    | some o => return { s with held := s.held.set i o.emptied ++ [o] }
    | none => return s
  | .assign i j =>
    if i = j then return s
    else
      match s.held[i]?, s.held[j]? with
      | some target, some source => do
        let (target, source) ← Wrapper.moveInto h l target source
        return { s with held := (s.held.set i target).set j source }
      | _, _ => return s
  | .add i =>
    match s.held[i]? with
    | some o => return { s with held := s.held.set i o.emptied, registry := (s.registry.add o).2 }
    | none => return s
  | .take id =>
    match s.registry.take id with
    | (some o, registry) => return { s with held := s.held ++ [o], registry }
    | (none, registry) => return { s with registry }
  | .remove id =>
    match s.registry.take id with
    | (some o, registry) => do
      o.drop h l
      return { s with registry }
    | (none, registry) => return { s with registry }
  | .clear => do
    Eff.each (Wrapper.drop h l) s.registry.clear.1
    return { s with registry := s.registry.clear.2 }
  | .destroy i =>
    match s.held[i]? with
    | some o => do
      o.drop h l
      return { s with held := s.held.eraseIdx i }
    | none => return s

def performAll (h : Host S) (l : Lifecycle) : List Op → Shelf → Eff S Shelf
  | [], s => pure s
  | op :: rest, s => do performAll h l rest (← perform h l s op)

/-- All wrappers that there are. -/
def wrappers (s : Shelf) : List Wrapper := s.held ++ s.registry.entries.map Prod.snd

def duties (ws : List Wrapper) : List Duty := ws.filterMap Wrapper.duty?

/-! ### What operations leave -/

section

variable {h : Host S} {l : Lifecycle} {ledger : S.Native → Ledger} {s : Shelf} {i j : Nat} {id : ObjectId}
  {o target source : Wrapper}

lemma perform_move (ho : s.held[i]? = some o) (w : World S) :
    perform h l s (.move i) w = some (.ok { s with held := s.held.set i o.emptied ++ [o] }, w) := by
  simp [perform, ho]

/-- The target of an assignment lets go of what it held. -/
lemma perform_assign (hk : l.Keeps h ledger) (hij : i ≠ j) (hi : s.held[i]? = some target)
    (hj : s.held[j]? = some source) (w : World S) : ∃ w',
      perform h l s (.assign i j) w =
        some (.ok { s with held := (s.held.set i source).set j source.emptied }, w') ∧
      ledger w'.native = target.duty?.toList.foldl Ledger.release (ledger w.native) := by
  obtain ⟨w', hx, hg⟩ := target.drop_releases hk w
  have hmove : Wrapper.moveInto h l target source w = some (.ok (source, source.emptied), w') := bind_ok hx
  refine ⟨w', ?_, hg⟩
  simp only [perform, if_neg hij, hi, hj]
  exact bind_ok hmove

lemma perform_add (ho : s.held[i]? = some o) (w : World S) :
    perform h l s (.add i) w = some (.ok { s with
      held := s.held.set i o.emptied
      registry := ⟨s.registry.entries ++ [(s.registry.nextId, o)], s.registry.nextId + 1⟩ }, w) := by
  simp [perform, ho, Registry.add]

lemma perform_take (ho : s.registry.find? id = some o) (w : World S) :
    perform h l s (.take id) w = some (.ok { s with
      held := s.held ++ [o]
      registry := { s.registry with entries := s.registry.entries.filter (·.1 != id) } }, w) := by
  simp [perform, Registry.take, ho]

lemma perform_remove (hk : l.Keeps h ledger) (ho : s.registry.find? id = some o) (w : World S) : ∃ w',
    perform h l s (.remove id) w = some (.ok { s with
      registry := { s.registry with entries := s.registry.entries.filter (·.1 != id) } }, w') ∧
    ledger w'.native = o.duty?.toList.foldl Ledger.release (ledger w.native) := by
  obtain ⟨w', hx, hg⟩ := o.drop_releases hk w
  refine ⟨w', ?_, hg⟩
  simp only [perform, Registry.take, ho]
  exact bind_ok hx

lemma perform_destroy (hk : l.Keeps h ledger) (ho : s.held[i]? = some o) (w : World S) : ∃ w',
    perform h l s (.destroy i) w = some (.ok { s with held := s.held.eraseIdx i }, w') ∧
    ledger w'.native = o.duty?.toList.foldl Ledger.release (ledger w.native) := by
  obtain ⟨w', hx, hg⟩ := o.drop_releases hk w
  refine ⟨w', ?_, hg⟩
  simp only [perform, ho]
  exact bind_ok hx

end

/-- What operations on a shelf do to its variables and its registry. A variable that is moved from holds nothing then,
and what it held is where it was moved to; what was there before is given back. -/
structure Moves (h : Host S) (l : Lifecycle) (ledger : S.Native → Ledger) (s : Shelf) (w : World S) : Prop where
  made : ∀ src, ∃ o w', src.Holds o ∧ perform h l s (.make src) w = some (.ok { s with
    held := s.held ++ [o], adopted := src.adopted ++ s.adopted, allotted := src.allotted o ++ s.allotted }, w')
  moved : ∀ i o, s.held[i]? = some o → ∃ e : Wrapper, e.pointer = 0 ∧ e.duty? = none ∧
    perform h l s (.move i) w = some (.ok { s with held := s.held.set i e ++ [o] }, w)
  assigned : ∀ i j target source, i ≠ j → s.held[i]? = some target → s.held[j]? = some source →
    ∃ (e : Wrapper) (w' : World S), e.pointer = 0 ∧ e.duty? = none ∧
      perform h l s (.assign i j) w = some (.ok { s with held := (s.held.set i source).set j e }, w') ∧
      ledger w'.native = target.duty?.toList.foldl Ledger.release (ledger w.native)
  itself : ∀ i, perform h l s (.assign i i) w = some (.ok s, w)
  added : ∀ i o, s.held[i]? = some o → ∃ e : Wrapper, e.pointer = 0 ∧ e.duty? = none ∧
    perform h l s (.add i) w = some (.ok { s with
      held := s.held.set i e
      registry := ⟨s.registry.entries ++ [(s.registry.nextId, o)], s.registry.nextId + 1⟩ }, w)
  taken : ∀ id o, s.registry.find? id = some o → perform h l s (.take id) w = some (.ok { s with
    held := s.held ++ [o]
    registry := { s.registry with entries := s.registry.entries.filter (·.1 != id) } }, w)
  removed : ∀ id o, s.registry.find? id = some o → ∃ w', perform h l s (.remove id) w = some (.ok { s with
      registry := { s.registry with entries := s.registry.entries.filter (·.1 != id) } }, w') ∧
    ledger w'.native = o.duty?.toList.foldl Ledger.release (ledger w.native)
  destroyed : ∀ i o, s.held[i]? = some o → ∃ w',
    perform h l s (.destroy i) w = some (.ok { s with held := s.held.eraseIdx i }, w') ∧
    ledger w'.native = o.duty?.toList.foldl Ledger.release (ledger w.native)

lemma performs_moves {h : Host S} {l : Lifecycle} {ledger : S.Native → Ledger} (hk : l.Keeps h ledger) (s : Shelf)
    (w : World S) : Moves h l ledger s w where
  made src := by
    obtain ⟨o, w', hx, -, hholds⟩ := Source.wrap_fair hk src w
    exact ⟨o, w', hholds, bind_ok hx⟩
  moved _ o ho := ⟨o.emptied, o.pointer_emptied, o.duty?_emptied, perform_move ho w⟩
  assigned i j target source hij hi hj := by
    obtain ⟨w', hx, hg⟩ := perform_assign hk hij hi hj w
    exact ⟨source.emptied, w', source.pointer_emptied, source.duty?_emptied, hx, hg⟩
  itself _ := by simp [perform]
  added _ o ho := ⟨o.emptied, o.pointer_emptied, o.duty?_emptied, perform_add ho w⟩
  taken _ _ ho := perform_take ho w
  removed _ _ ho := perform_remove hk ho w
  destroyed _ _ ho := perform_destroy hk ho w

/-! ### Duties in lists of wrappers -/

section

variable {P : Duty → Bool} {ws : List Wrapper} {i : Nat} {o : Wrapper}

lemma duties_append (ws vs : List Wrapper) : duties (ws ++ vs) = duties ws ++ duties vs := List.filterMap_append

lemma countP_duties_cons (o : Wrapper) (ws : List Wrapper) :
    (duties (o :: ws)).countP P = o.duty?.toList.countP P + (duties ws).countP P := by
  cases ho : o.duty? with
  | none => simp [duties, ho]
  | some d => simp [duties, ho, List.countP_cons, Nat.add_comm]

lemma duties_singleton (o : Wrapper) : duties [o] = o.duty?.toList := by
  cases ho : o.duty? <;> simp [duties, ho]

lemma countP_duties_set (h : ws[i]? = some o) (o' : Wrapper) :
    (duties (ws.set i o')).countP P + o.duty?.toList.countP P =
      (duties ws).countP P + o'.duty?.toList.countP P := by
  induction ws generalizing i with
  | nil => cases h
  | cons v ws ih =>
    cases i with
    | zero =>
      cases h
      simp only [List.set_cons_zero, countP_duties_cons]
      omega
    | succ i =>
      have hrest := ih h
      simp only [List.set_cons_succ, countP_duties_cons]
      omega

lemma countP_duties_eraseIdx (h : ws[i]? = some o) :
    (duties (ws.eraseIdx i)).countP P + o.duty?.toList.countP P = (duties ws).countP P := by
  induction ws generalizing i with
  | nil => cases h
  | cons v ws ih =>
    cases i with
    | zero =>
      cases h
      simp only [List.eraseIdx_cons_zero, countP_duties_cons]
      omega
    | succ i =>
      have hrest := ih h
      simp only [List.eraseIdx_cons_succ, countP_duties_cons]
      omega

/-- An entry that is taken out of a registry. -/
lemma countP_duties_take {r : Registry} (hr : (r.entries.map Prod.fst).Nodup) (id : ObjectId) :
    (duties ((r.take id).2.entries.map Prod.snd)).countP P +
        ((r.take id).1.bind Wrapper.duty?).toList.countP P =
      (duties (r.entries.map Prod.snd)).countP P := by
  simp only [Registry.take]
  rcases hf : r.find? id with _ | o
  · rw [filter_of_lookup_eq_none hf]
    rfl
  · have hperm := (((perm_of_lookup hr hf).map Prod.snd).filterMap Wrapper.duty?).countP_eq P
    have hcons := countP_duties_cons (P := P) o ((r.entries.filter (·.1 != id)).map Prod.snd)
    rw [Option.bind_some, Nat.add_comm, ← hcons]
    exact hperm.symm

end

/-! ### The balance -/

/-- The duties of wrappers are what was acquired, adopted and allocated and has not been given back. -/
structure Balanced (g : Ledger) (s : Shelf) : Prop where
  balance : ∀ P : Duty → Bool, (∀ d, P d → d.pointer ≠ 0) →
    g.acquired.countP P + s.adopted.countP P + (s.allotted.map Duty.memory).countP P =
      g.released.countP P + (duties s.wrappers).countP P
  native : ∀ d ∈ g.acquired ++ s.adopted, d.Native
  released : ∀ d ∈ g.released, d.pointer ≠ 0
  keys : (s.registry.entries.map Prod.fst).Nodup
  numbered : ∀ e ∈ s.registry.entries, e.1 < s.registry.nextId

section

variable {h : Host S} {l : Lifecycle} {ledger : S.Native → Ledger} {g : Ledger} {s s' : Shelf} {w : World S}

lemma countP_wrappers (s : Shelf) (P : Duty → Bool) : (duties s.wrappers).countP P =
    (duties s.held).countP P + (duties (s.registry.entries.map Prod.snd)).countP P := by
  rw [wrappers, duties_append, List.countP_append]

/-- Wrappers that are only moved. -/
lemma Balanced.moved (hb : Balanced g s) (ha : s'.adopted = s.adopted) (hm : s'.allotted = s.allotted)
    (hd : ∀ P, (duties s'.wrappers).countP P = (duties s.wrappers).countP P)
    (hk : (s'.registry.entries.map Prod.fst).Nodup) (hn : ∀ e ∈ s'.registry.entries, e.1 < s'.registry.nextId) :
    Balanced g s' :=
  ⟨fun P hP => by rw [ha, hm, hd]; exact hb.balance P hP, ha ▸ hb.native, hb.released, hk, hn⟩

/-- Wrappers that go with what they owe. -/
lemma Balanced.dropped (hb : Balanced g s) {ws : List Wrapper} (ha : s'.adopted = s.adopted)
    (hm : s'.allotted = s.allotted)
    (hd : ∀ P, (duties s'.wrappers).countP P + (duties ws).countP P = (duties s.wrappers).countP P)
    (hk : (s'.registry.entries.map Prod.fst).Nodup) (hn : ∀ e ∈ s'.registry.entries, e.1 < s'.registry.nextId) :
    Balanced ((duties ws).foldl Ledger.release g) s' := by
  obtain ⟨hacquired, hreleased⟩ := g.foldl_release (duties ws)
  refine ⟨fun P hP => ?_, by rw [hacquired, ha]; exact hb.native, fun d hdr => ?_, hk, hn⟩
  · have hbalance := hb.balance P hP
    have hduties := hd P
    rw [hacquired, hreleased, ha, hm, List.countP_append, List.countP_reverse]
    omega
  · rw [hreleased, List.mem_append, List.mem_reverse] at hdr
    rcases hdr with hdr | hdr
    · obtain ⟨o, -, ho⟩ := List.mem_filterMap.1 hdr
      obtain ⟨hpointer, hne⟩ := Wrapper.pointer_of_duty? ho
      exact hpointer ▸ hne
    · exact hb.released d hdr

/-- Wrappers that go one after the other. -/
lemma each_drop (hk : l.Keeps h ledger) (ws : List Wrapper) (w : World S) :
    ∃ w', Eff.each (Wrapper.drop h l) ws w = some (.ok (), w') ∧
      ledger w'.native = (duties ws).foldl Ledger.release (ledger w.native) := by
  induction ws generalizing w with
  | nil => exact ⟨w, rfl, rfl⟩
  | cons o ws ih =>
    obtain ⟨w₁, h₁, hg₁⟩ := o.drop_releases hk w
    obtain ⟨w₂, h₂, hg₂⟩ := ih w₁
    refine ⟨w₂, (bind_ok h₁).trans h₂, ?_⟩
    rw [hg₂, hg₁]
    cases ho : o.duty? <;> simp [duties, ho]

lemma make_balanced (hk : l.Keeps h ledger) (hb : Balanced (ledger w.native) s) (src : Source) :
    ∃ s' w', perform h l s (.make src) w = some (.ok s', w') ∧ Balanced (ledger w'.native) s' := by
  obtain ⟨o, w', hx, hfair, -⟩ := Source.wrap_fair hk src w
  refine ⟨_, w', bind_ok hx, fun P hP => ?_, fun d hd => ?_, hfair.released ▸ hb.released, hb.keys, hb.numbered⟩
  · obtain ⟨new, hnew, -, hcount⟩ := hfair.acquired
    have hbalance := hb.balance P hP
    have hcount := hcount P hP
    rw [countP_wrappers] at hbalance ⊢
    rw [hnew, hfair.released, duties_append, duties_singleton, List.map_append]
    simp only [List.countP_append]
    omega
  · obtain ⟨new, hnew, hnative, -⟩ := hfair.acquired
    rw [hnew, List.mem_append, List.mem_append, List.mem_append] at hd
    rcases hd with (hd | hd) | hd | hd
    · exact hnative d hd
    · exact hb.native d (List.mem_append_left _ hd)
    · cases src <;> simp only [Source.adopted, List.mem_singleton, List.not_mem_nil] at hd
      · exact hd ▸ trivial
      · exact hd ▸ trivial
      · split at hd
        next ht => exact List.mem_singleton.1 hd ▸ ht
        next => cases hd
    · exact hb.native d (List.mem_append_right _ hd)

/-- A wrapper that is moved from one variable into another place. -/
lemma countP_emptied {P : Duty → Bool} {i : Nat} {o : Wrapper} (ho : s.held[i]? = some o) :
    (duties (s.held.set i o.emptied)).countP P + o.duty?.toList.countP P = (duties s.held).countP P := by
  have hset := countP_duties_set (P := P) ho o.emptied
  rw [o.duty?_emptied] at hset
  exact hset

lemma move_balanced (hb : Balanced (ledger w.native) s) (i : Nat) :
    ∃ s' w', perform h l s (.move i) w = some (.ok s', w') ∧ Balanced (ledger w'.native) s' := by
  cases ho : s.held[i]? with
  | none => exact ⟨s, w, by simp [perform, ho], hb⟩
  | some o =>
    refine ⟨_, w, perform_move ho w, hb.moved rfl rfl (fun P => ?_) hb.keys hb.numbered⟩
    have hemptied := countP_emptied (P := P) ho
    rw [countP_wrappers, countP_wrappers, duties_append, duties_singleton, List.countP_append]
    dsimp only
    omega

lemma add_balanced (hb : Balanced (ledger w.native) s) (i : Nat) :
    ∃ s' w', perform h l s (.add i) w = some (.ok s', w') ∧ Balanced (ledger w'.native) s' := by
  cases ho : s.held[i]? with
  | none => exact ⟨s, w, by simp [perform, ho], hb⟩
  | some o =>
    refine ⟨_, w, perform_add ho w, hb.moved rfl rfl (fun P => ?_) ?_ ?_⟩
    · have hemptied := countP_emptied (P := P) ho
      rw [countP_wrappers, countP_wrappers, List.map_append, duties_append, List.countP_append]
      simp only [List.map_cons, List.map_nil, duties_singleton]
      omega
    · simp only [List.map_append, List.map_cons, List.map_nil]
      refine List.nodup_append.2 ⟨hb.keys, List.nodup_singleton _, fun id hid new hnew => ?_⟩
      obtain ⟨e, he, rfl⟩ := List.mem_map.1 hid
      rw [List.mem_singleton.1 hnew]
      exact Nat.ne_of_lt (hb.numbered e he)
    · intro e he
      rcases List.mem_append.1 he with he | he
      · exact Nat.lt_succ_of_lt (hb.numbered e he)
      · rw [List.mem_singleton.1 he]
        exact Nat.lt_succ_self _

lemma assign_balanced (hk : l.Keeps h ledger) (hb : Balanced (ledger w.native) s) (i j : Nat) :
    ∃ s' w', perform h l s (.assign i j) w = some (.ok s', w') ∧ Balanced (ledger w'.native) s' := by
  by_cases hij : i = j
  · exact ⟨s, w, by simp [perform, hij], hb⟩
  · cases hi : s.held[i]? with
    | none => exact ⟨s, w, by simp [perform, hij, hi], hb⟩
    | some target =>
      cases hj : s.held[j]? with
      | none => exact ⟨s, w, by simp [perform, hij, hi, hj], hb⟩
      | some source =>
        obtain ⟨w', hx, hg⟩ := perform_assign hk hij hi hj w
        refine ⟨_, w', hx, ?_⟩
        rw [hg, ← duties_singleton]
        refine hb.dropped rfl rfl (fun P => ?_) hb.keys hb.numbered
        have hkept : (s.held.set i source)[j]? = some source := by rw [List.getElem?_set_ne hij, hj]
        have hset := countP_duties_set (P := P) hi source
        have hemptied := countP_duties_set (P := P) hkept source.emptied
        rw [source.duty?_emptied] at hemptied
        rw [countP_wrappers, countP_wrappers, duties_singleton]
        simp only [Option.toList_none, List.countP_nil] at hemptied
        dsimp only
        omega

/-- An entry leaves the registry. -/
lemma Balanced.taken (hb : Balanced g s) (id : ObjectId) :
    ((s.registry.take id).2.entries.map Prod.fst).Nodup ∧
      ∀ e ∈ (s.registry.take id).2.entries, e.1 < (s.registry.take id).2.nextId :=
  ⟨hb.keys.sublist (List.filter_sublist.map _), fun e he => hb.numbered e (List.mem_of_mem_filter he)⟩

/-- Where there is no such entry, what is left of the registry owes as much. -/
lemma Balanced.untaken (hb : Balanced g s) {id : ObjectId} {registry : Registry}
    (ht : s.registry.take id = (none, registry)) : Balanced g { s with registry } := by
  obtain ⟨hkeys, hnumbered⟩ := hb.taken id
  rw [ht] at hkeys hnumbered
  refine hb.moved rfl rfl (fun P => ?_) hkeys hnumbered
  have htake := countP_duties_take (P := P) hb.keys id
  rw [ht] at htake
  rw [countP_wrappers, countP_wrappers]
  simpa using htake

lemma take_balanced (hb : Balanced (ledger w.native) s) (id : ObjectId) :
    ∃ s' w', perform h l s (.take id) w = some (.ok s', w') ∧ Balanced (ledger w'.native) s' := by
  obtain ⟨hkeys, hnumbered⟩ := hb.taken id
  have htake (P : Duty → Bool) := countP_duties_take (P := P) hb.keys id
  cases ho : s.registry.find? id with
  | none => exact ⟨{ s with registry := (s.registry.take id).2 }, w, by simp [perform, Registry.take, ho],
      hb.untaken (by rw [Registry.take, ho])⟩
  | some o =>
    refine ⟨_, w, perform_take ho w, hb.moved rfl rfl (fun P => ?_) hkeys hnumbered⟩
    have htake := htake P
    rw [countP_wrappers, countP_wrappers, duties_append, duties_singleton, List.countP_append]
    simp only [Registry.take, ho, Option.bind_some] at htake
    dsimp only
    omega

lemma remove_balanced (hk : l.Keeps h ledger) (hb : Balanced (ledger w.native) s) (id : ObjectId) :
    ∃ s' w', perform h l s (.remove id) w = some (.ok s', w') ∧ Balanced (ledger w'.native) s' := by
  obtain ⟨hkeys, hnumbered⟩ := hb.taken id
  have htake (P : Duty → Bool) := countP_duties_take (P := P) hb.keys id
  cases ho : s.registry.find? id with
  | none => exact ⟨{ s with registry := (s.registry.take id).2 }, w, by simp [perform, Registry.take, ho],
      hb.untaken (by rw [Registry.take, ho])⟩
  | some o =>
    obtain ⟨w', hx, hg⟩ := perform_remove hk ho w
    refine ⟨_, w', hx, ?_⟩
    rw [hg, ← duties_singleton]
    refine hb.dropped rfl rfl (fun P => ?_) hkeys hnumbered
    have htake := htake P
    rw [countP_wrappers, countP_wrappers, duties_singleton]
    simp only [Registry.take, ho, Option.bind_some] at htake
    dsimp only
    omega

lemma clear_balanced (hk : l.Keeps h ledger) (hb : Balanced (ledger w.native) s) :
    ∃ s' w', perform h l s .clear w = some (.ok s', w') ∧ Balanced (ledger w'.native) s' := by
  obtain ⟨w', hx, hg⟩ := each_drop hk s.registry.clear.1 w
  refine ⟨{ s with registry := s.registry.clear.2 }, w', bind_ok hx, ?_⟩
  rw [hg]
  refine hb.dropped rfl rfl (fun P => ?_) List.nodup_nil (fun e he => absurd he List.not_mem_nil)
  rw [countP_wrappers, countP_wrappers]
  rfl

lemma destroy_balanced (hk : l.Keeps h ledger) (hb : Balanced (ledger w.native) s) (i : Nat) :
    ∃ s' w', perform h l s (.destroy i) w = some (.ok s', w') ∧ Balanced (ledger w'.native) s' := by
  cases ho : s.held[i]? with
  | none => exact ⟨s, w, by simp [perform, ho], hb⟩
  | some o =>
    obtain ⟨w', hx, hg⟩ := perform_destroy hk ho w
    refine ⟨_, w', hx, ?_⟩
    rw [hg, ← duties_singleton]
    refine hb.dropped rfl rfl (fun P => ?_) hb.keys hb.numbered
    have herase := countP_duties_eraseIdx (P := P) ho
    rw [countP_wrappers, countP_wrappers, duties_singleton]
    dsimp only
    omega

lemma perform_balanced (hk : l.Keeps h ledger) (hb : Balanced (ledger w.native) s) (op : Op) :
    ∃ s' w', perform h l s op w = some (.ok s', w') ∧ Balanced (ledger w'.native) s' := by
  cases op with
  | make src => exact make_balanced hk hb src
  | move i => exact move_balanced hb i
  | assign i j => exact assign_balanced hk hb i j
  | add i => exact add_balanced hb i
  | take id => exact take_balanced hb id
  | remove id => exact remove_balanced hk hb id
  | clear => exact clear_balanced hk hb
  | destroy i => exact destroy_balanced hk hb i

lemma performAll_balanced (hk : l.Keeps h ledger) (ops : List Op) (hb : Balanced (ledger w.native) s) :
    ∃ s' w', performAll h l ops s w = some (.ok s', w') ∧ Balanced (ledger w'.native) s' := by
  induction ops generalizing s w with
  | nil => exact ⟨s, w, rfl, hb⟩
  | cons op ops ih =>
    obtain ⟨s₁, w₁, h₁, hb₁⟩ := perform_balanced hk hb op
    obtain ⟨s₂, w₂, h₂, hb₂⟩ := ih hb₁
    exact ⟨s₂, w₂, (bind_ok h₁).trans h₂, hb₂⟩

end

/-! ### The balance of every pointer -/

/-- The wrapper holds the pointer, and has to give something back for it. -/
def owes (p : Address) (o : Wrapper) : Bool := o.pointer == p && o.duty?.isSome

lemma countP_owes (p : Address) (ws : List Wrapper) :
    ws.countP (owes p) = (duties ws).countP (·.pointer == p) := by
  induction ws with
  | nil => rfl
  | cons o ws ih =>
    rw [List.countP_cons, countP_duties_cons, ih, Nat.add_comm]
    congr 1
    cases ho : o.duty? with
    | none => simp [owes, ho]
    | some d => simp [owes, ho, (Wrapper.pointer_of_duty? ho).1]

section

variable {g : Ledger} {s : Shelf}

lemma Balanced.pointer (hb : Balanced g s) {p : Address} (hp : p ≠ 0) :
    g.acquired.countP (·.pointer == p) + s.adopted.countP (·.pointer == p) + s.allotted.count p =
      g.released.countP (·.pointer == p) + s.wrappers.countP (owes p) := by
  have hbalance := hb.balance (·.pointer == p) fun d hd => (beq_iff_eq.1 hd).symm ▸ hp
  rw [List.countP_map] at hbalance
  rw [countP_owes]
  exact hbalance

/-- What was given back was had before. -/
lemma Balanced.count_released (hb : Balanced g s) (d : Duty) :
    g.released.count d ≤ (g.acquired ++ s.adopted).count d + (s.allotted.map Duty.memory).count d := by
  by_cases hd : d.pointer = 0
  · have hnone : d ∉ g.released := fun hmem => hb.released d hmem hd
    rw [List.count_eq_zero_of_not_mem hnone]
    exact Nat.zero_le _
  · have hbalance := hb.balance (· == d) fun d' hd' => (beq_iff_eq.1 hd').symm ▸ hd
    rw [List.count_append]
    simp only [List.count]
    omega

lemma Balanced.structs (hb : Balanced g s) (type : TypeId) (p : Address) :
    g.released.count (.struct type p) ≤ (g.acquired ++ s.adopted).count (.struct type p) ∧
      (.struct type p ∈ g.released → type ≠ 0) := by
  have hcount := hb.count_released (.struct type p)
  have hmemory : (s.allotted.map Duty.memory).count (.struct type p) = 0 :=
    List.count_eq_zero_of_not_mem fun hmem => by simp at hmem
  rw [hmemory, Nat.add_zero] at hcount
  refine ⟨hcount, fun hmem => hb.native (.struct type p) (List.count_pos_iff.1 ?_)⟩
  exact Nat.lt_of_lt_of_le (List.count_pos_iff.2 hmem) hcount

lemma Balanced.memory (hb : Balanced g s) (p : Address) : g.released.count (.memory p) ≤ s.allotted.count p := by
  have hcount := hb.count_released (.memory p)
  have hnone : (g.acquired ++ s.adopted).count (.memory p) = 0 :=
    List.count_eq_zero_of_not_mem fun hmem => hb.native _ hmem
  rw [hnone, Nat.zero_add, List.count_map_of_injective _ _ fun _ _ => Duty.memory.inj] at hcount
  exact hcount

end

/-- **What the wrappers owe.** Whatever is done with wrappers ends. Afterwards, for every pointer, what was acquired,
adopted and allocated is what was given back and what the wrappers still have to give back. A struct is freed no more
often than it was copied or adopted under its type, which is known, and memory no more often than it was allocated. A
variable that is moved, assigned or put into the registry leaves what it held there and holds nothing itself; the target
of an assignment gives back what it held, and a variable that is assigned to itself stays as it is. A struct that is not
to be released is not freed. -/
theorem duties_balance {h : Host S} {l : Lifecycle} {ledger : S.Native → Ledger} (hk : l.Keeps h ledger) {w : World S}
    (ha : (ledger w.native).acquired = []) (hr : (ledger w.native).released = []) (ops : List Op) :
    (∃ s w', performAll h l ops {} w = some (.ok s, w') ∧
      (∀ p ≠ 0, (ledger w'.native).acquired.countP (·.pointer == p) + s.adopted.countP (·.pointer == p) +
          s.allotted.count p =
        (ledger w'.native).released.countP (·.pointer == p) + s.wrappers.countP (owes p)) ∧
      (∀ type p, (ledger w'.native).released.count (.struct type p) ≤
          ((ledger w'.native).acquired ++ s.adopted).count (.struct type p) ∧
        (.struct type p ∈ (ledger w'.native).released → type ≠ 0)) ∧
      ∀ p, (ledger w'.native).released.count (.memory p) ≤ s.allotted.count p) ∧
    (∀ s (w : World S), Moves h l ledger s w) ∧
      ∀ p type (w : World S), (Wrapper.boxed p type .none).drop h l w = some (.ok (), w) := by
  have hstart : Balanced (ledger w.native) {} := by
    refine ⟨fun P _ => ?_, ?_, ?_, List.nodup_nil, fun e he => absurd he List.not_mem_nil⟩
    · rw [ha, hr]
      rfl
    · rw [ha]
      exact fun d hd => absurd hd List.not_mem_nil
    · rw [hr]
      exact fun d hd => absurd hd List.not_mem_nil
  obtain ⟨s, w', hx, hb⟩ := performAll_balanced hk ops hstart
  refine ⟨⟨s, w', hx, fun p hp => hb.pointer hp, hb.structs, hb.memory⟩, performs_moves hk, fun p type w => ?_⟩
  rw [Wrapper.drop]
  split <;> rfl

/-! ### Native functions that keep a ledger -/

/-- What the function of a role does. -/
def serve : LifecycleRole → List Nat → Ledger → Nat × Ledger
  | .objectRef, [p], g => (p, g.acquire (.reference p))
  | .objectUnref, [p], g => (0, g.release (.reference p))
  | .objectRefSink, [p], g => (p, g.sink p)
  | .objectIsFloating, [p], g => (if p ∈ g.floating then 1 else 0, g)
  | .variantRef, [p], g => (p, g.acquire (.share p))
  | .variantRefSink, [p], g => (p, g.acquire (.share p))
  | .variantUnref, [p], g => (0, g.release (.share p))
  | .boxedCopy, [type, p], g => (p + 1024, g.acquire (.struct type (p + 1024)))
  | .boxedFree, [type, p], g => (0, g.release (.struct type p))
  | .free, [p], g => (0, g.release (.memory p))
  | .alloc0, [_], g => (4096, g)
  | _, _, g => (0, g)

/-- The function of each role is at its number. -/
def ledgerHost : Host ⟨Ledger, Unit, Unit, Unit⟩ where
  loader := .ok
  symbol := fun _ _ => .error []
  anySymbol := fun _ => none
  run := fun a _ words =>
    match LifecycleRole.all[a]? with
    | some role => Eff.update fun w =>
      let (r, native) := serve role words.ints w.native
      ({ int := r }, { w with native })
    | none => stuck
  limit := 0
  script := fun _ _ => stuck
  answer := fun _ => stuck
  scriptTurn := stuck
  loopTurn := stuck

def ledgerLifecycle : Lifecycle where
  bound := fun role => some (LifecycleRole.all.idxOf role)
  libraries := []

lemma ledgerHost_run (role : LifecycleRole) (words : List Nat) (w : World ⟨Ledger, Unit, Unit, Unit⟩) :
    ledgerHost.run (LifecycleRole.all.idxOf role) (fun _ _ => stuck) { ints := words } w =
      some (.ok { int := (serve role words w.native).1 }, { w with native := (serve role words w.native).2 }) := by
  cases role <;> rfl

lemma ledgerLifecycle_keeps : ledgerLifecycle.Keeps ledgerHost id := by
  have records {role : LifecycleRole} {words : List Nat} {change : Nat → Ledger → Ledger}
      (hs : ∀ g, (serve role words g).2 = change (serve role words g).1 g) :
      Lifecycle.Records ledgerHost ledgerLifecycle id role words change := by
    intro a ha w
    cases ha
    exact ⟨_, _, ledgerHost_run role words w, hs w.native⟩
  refine ⟨fun _ _ => Option.some_ne_none _, fun _ => records fun _ => rfl, fun _ => records fun _ => rfl,
    fun _ => records fun _ => rfl, ?_,
    fun _ => records fun _ => rfl, fun _ => records fun _ => rfl, fun _ => records fun _ => rfl,
    fun _ _ => records fun _ => rfl, fun _ _ => records fun _ => rfl, fun _ => records fun _ => rfl,
    fun _ => records fun _ => rfl⟩
  intro a ha p w
  cases ha
  refine ⟨_, _, ledgerHost_run .objectIsFloating [p] w, rfl, ?_⟩
  by_cases hp : p ∈ w.native.floating
  · simp only [serve, if_pos hp]
    exact iff_of_true (by decide) hp
  · simp only [serve, if_neg hp]
    exact iff_of_false (by decide) hp

/-- Of two references to an object one is given back as its wrapper is assigned to. What is assigned leaves its
variable. -/
theorem duties_balance_of_object :
    (∃ s w', performAll ledgerHost ledgerLifecycle
        [.make (.objectNone 64), .make (.objectFull 64), .make (.boxedNone 80 5), .move 0, .add 3, .assign 1 2] {}
        { native := {}, side := () } = some (.ok s, w') ∧
      w'.native.released.countP (·.pointer == 64) + s.wrappers.countP (owes 64) = 2) ∧
    ∃ (e : Wrapper) (w' : World ⟨Ledger, Unit, Unit, Unit⟩), e.pointer = 0 ∧ e.duty? = none ∧
      perform ledgerHost ledgerLifecycle { held := [.object 64, .object 80] } (.assign 0 1)
        { native := {}, side := () } = some (.ok { held := [.object 80, e] }, w') ∧
      w'.native.released = [.reference 64] := by
  obtain ⟨⟨s, w', hx, hpointer, -⟩, hmoves, -⟩ := duties_balance (w := { native := {}, side := () })
    ledgerLifecycle_keeps rfl rfl
    [.make (.objectNone 64), .make (.objectFull 64), .make (.boxedNone 80 5), .move 0, .add 3, .assign 1 2]
  refine ⟨⟨s, w', hx, (hpointer 64 (by decide)).symm.trans ?_⟩, ?_⟩
  · have hmade : (performAll ledgerHost ledgerLifecycle
        [.make (.objectNone 64), .make (.objectFull 64), .make (.boxedNone 80 5), .move 0, .add 3, .assign 1 2] {}
        { native := {}, side := () }).map (fun r =>
          (r.2.native.acquired.countP (·.pointer == 64), r.1.toOption.map fun s =>
            s.adopted.countP (·.pointer == 64) + s.allotted.count 64)) = some (1, some 1) := by
      decide
    rw [hx] at hmade
    simp only [Option.map_some, Except.toOption, Option.some.injEq, Prod.mk.injEq] at hmade
    obtain ⟨hacquired, hadopted⟩ := hmade
    dsimp only [id]
    omega
  · obtain ⟨e, w', hpointer, hduty, hx, hreleased⟩ :=
      (hmoves { held := [.object 64, .object 80] } { native := {}, side := () }).assigned 0 1 (.object 64) (.object 80)
        (by decide) rfl rfl
    exact ⟨e, w', hpointer, hduty, hx, congrArg Ledger.released hreleased⟩

end Shelf

end NativeBridge
