import NativeBridge.Native.Lifetime
import NativeBridge.Proofs.Library.Keepers
import NativeBridge.Proofs.Library.Requests

/-!
What caches and lifecycles do is made of steps: an opening that is found goes from a variable to its keeper, and the end
of a keeper releases what it has.
-/

namespace NativeBridge.Library.Openings

open State

variable {s s' : State} {k : Keeper} {p q : Place} {ps qs : List Place} {os : List Opening} {v : Nat}

/-! ### Work for one keeper -/

/-- A run after which all is as before, but for one keeper and its handles. -/
structure Work (k : Keeper) (s s' : State) : Prop where
  run : Run s s'
  handles : ∀ p, p.keeper? ≠ some k → s'.handles p = s.handles p
  keepers : ∀ l, l ≠ k → s'.keepers l = s.keepers l

namespace Work

lemma refl (k : Keeper) (s : State) : Work k s s := ⟨.refl, fun _ _ => rfl, fun _ _ => rfl⟩

lemma trans {s₁ s₂ s₃ : State} (h : Work k s₁ s₂) (h' : Work k s₂ s₃) : Work k s₁ s₃ :=
  ⟨h.run.trans h'.run, fun p hp => (h'.handles p hp).trans (h.handles p hp),
    fun l hl => (h'.keepers l hl).trans (h.keepers l hl)⟩

lemma of_enter {phase : Option Phase} (hs : Step s (s.enter k phase)) : Work k s (s.enter k phase) :=
  ⟨.single hs, fun _ _ => rfl, fun _ hl => keepers_enter_of_ne hl _ _⟩

lemma absent (h : Work k s s') (hv : s.handles (.var v) = none) : s'.handles (.var v) = none :=
  (h.handles (.var v) (by simp [Place.keeper?])).trans hv

end Work

/-- A keeper has openings in handles at these places, in order, and no other handles. -/
structure Keeps (s : State) (k : Keeper) (ps : List Place) (os : List Opening) : Prop where
  alive : s.keepers k = some (.alive [])
  nodup : ps.Nodup
  mem (p : Place) : p ∈ ps ↔ p.keeper? = some k ∧ (s.handles p).isSome
  handles : ps.map s.handles = os.map fun o => some (some o)

lemma Keeps.absent (hk : Keeps s k ps os) (hp : p.keeper? = some k) (hps : p ∉ ps) : s.handles p = none := by
  by_contra habsent
  exact hps ((hk.mem p).2 ⟨hp, Option.isSome_iff_ne_none.2 habsent⟩)

/-- A new keeper has nothing. -/
lemma keeps_found (ho : Orderly s) (hk : s.keepers k = none) : Keeps (s.enter k (some (.alive []))) k [] [] := by
  refine ⟨keepers_enter_self, List.nodup_nil, fun p => ?_, rfl⟩
  rw [handles_enter]
  simp only [List.not_mem_nil, false_iff, not_and]
  intro hp
  rw [ho.kept hk p hp]
  exact Bool.false_ne_true

/-! ### Opening one of several libraries -/

/-- A handle that did not open a library is destroyed, and another one is made for the next alternative. -/
lemma openFirst_run (hv : s.handles (.var v) = none) (loader : Loader) (paths : List Bytes) :
    Run s { s.put (.var v) ((openFirst loader s.record paths).1.toOption.map some) with
      record := (openFirst loader s.record paths).2 } := by
  -- a failure leaves the state as it was, so the induction needs no other state
  induction paths with
  | nil =>
    change Run s (s.put (.var v) none)
    rw [put_of_eq hv]
  | cons path rest ih =>
    have hmake : Step s (s.put (.var v) (some none)) := .make hv
    cases hpath : loader path with
    | ok library =>
      rw [openFirst_cons_of_ok hpath]
      have hload : Handle.load loader path none s.record =
          (.ok (), some ⟨s.record.opened, library⟩, { s.record with opened := s.record.opened + 1 }) := by
        simp only [Handle.load, Handle.unload, hpath]
      refine (Relation.ReflTransGen.single hmake).tail ?_
      have hstep := Step.load (s := s.put (.var v) (some none)) handles_put_self hload
      rwa [put_put] at hstep
    | error reason =>
      rw [openFirst_cons_of_error hpath]
      have hload : Handle.load loader path none s.record = (.error reason, none, s.record) := by
        simp only [Handle.load, Handle.unload, hpath]
      have hstep := Step.load (s := s.put (.var v) (some none)) handles_put_self hload
      rw [put_put] at hstep
      have hdestroy : Step (s.put (.var v) (some none)) s := by
        have hstep := Step.destroy (s := s.put (.var v) (some none)) handles_put_self
        rw [put_put, put_of_eq hv] at hstep
        exact hstep
      have hopen : (openFirst loader s.record rest).1.toOption =
          ((openFirst loader s.record rest).1.mapError (reason :: ·)).toOption := by
        cases (openFirst loader s.record rest).1 <;> rfl
      rw [← hopen]
      exact ((Relation.ReflTransGen.single hmake).tail hstep |>.tail hdestroy).trans ih

/-- A keeper takes over an opening from a variable, which is destroyed. -/
lemma keep_run (hk : s.keepers k = some (.alive [])) (hv : s.handles (.var v) = none) {b i : Nat}
    (hn : s.handles (.kept k b i) = none) (o : Opening) :
    Run (s.put (.var v) (some (some o))) (s.put (.kept k b i) (some (some o))) := by
  have hne : Place.var v ≠ .kept k b i := by simp
  have hkeep := Step.keep (s := s.put (.var v) (some (some o))) hk ((handles_put_of_ne hne.symm _ s).trans hn)
    handles_put_self
  rw [put_put] at hkeep
  have hdestroy := Step.destroy (n := v) (h := none)
    (s := put (.kept k b i) (some (some o)) (put (.var v) (some none) s))
    (by rw [handles_put_of_ne hne, handles_put_self])
  rw [put_comm hne, put_put, put_of_eq hv] at hdestroy
  exact (Relation.ReflTransGen.single hkeep).tail hdestroy

lemma Keeps.put (hs : Keeps s k ps os) {b i : Nat} (hn : .kept k b i ∉ ps) (o : Opening) :
    Keeps (s.put (.kept k b i) (some (some o))) k (ps ++ [.kept k b i]) (os ++ [o]) := by
  have hne (p : Place) (hp : p ∈ ps) : p ≠ .kept k b i := by
    rintro rfl
    exact hn hp
  refine ⟨hs.alive, ?_, fun p => ?_, ?_⟩
  · rw [List.nodup_append_comm]
    exact List.nodup_cons.2 ⟨hn, hs.nodup⟩
  · by_cases hp : p = .kept k b i
    · simp [hp, Place.keeper?]
    · rw [handles_put_of_ne hp, ← hs.mem]
      simp [hp]
  · rw [List.map_append, List.map_append, ← hs.handles]
    congr 1
    · exact List.map_congr_left fun p hp => handles_put_of_ne (hne p hp) _ s
    · simp

/-- A keeper has the opening from one of several libraries after those that it had before. -/
lemma take_run (hs : Keeps s k ps os) (hv : s.handles (.var v) = none) {b i : Nat} (hn : .kept k b i ∉ ps)
    (loader : Loader) (paths : List Bytes) :
    ∃ s', Work k s s' ∧ s'.record = (openFirst loader s.record paths).2 ∧
      match (openFirst loader s.record paths).1 with
      | .ok o => Keeps s' k (ps ++ [.kept k b i]) (os ++ [o])
      | .error _ => Keeps s' k ps os := by
  have hrun := openFirst_run hv loader paths
  rcases hopen : openFirst loader s.record paths with ⟨reasons | o, r⟩
  · rw [hopen] at hrun
    change Run s { s.put (.var v) none with record := r } at hrun
    rw [put_of_eq hv] at hrun
    exact ⟨_, ⟨hrun, fun _ _ => rfl, fun _ _ => rfl⟩, rfl, hs.alive, hs.nodup, hs.mem, hs.handles⟩
  · rw [hopen] at hrun
    have hs' : Keeps { s with record := r } k ps os := ⟨hs.alive, hs.nodup, hs.mem, hs.handles⟩
    have hkeep := keep_run hs'.alive hv (hs'.absent rfl hn) o
    exact ⟨_, ⟨hrun.trans hkeep, fun p hp => handles_put_of_ne (p.ne_kept hp b i) _ _, fun _ _ => rfl⟩, rfl,
      hs'.put hn o⟩

/-! ### Other memory -/

/-- A handle of a keeper goes to another place, and the old one is destroyed. -/
lemma relocate_run {b i c j : Nat} {h : Handle} (hk : s.keepers k = some (.alive []))
    (hn : s.handles (.kept k b i) = none) (hm : s.handles (.kept k c j) = some h) :
    Run s (put (.kept k b i) (some h) (put (.kept k c j) none s)) := by
  have hne : Place.kept k c j ≠ .kept k b i := fun heq => by
    rw [heq, hn] at hm
    cases hm
  have hmove := Step.relocate hk hn hm
  have hdiscard := Step.discard (k := k) (b := c) (i := j) (h := none)
    (s := enter k (some (.alive [.kept k c j])) (put (.kept k b i) (some h) (put (.kept k c j) (some none) s)))
    keepers_enter_self List.mem_cons_self
    (by rw [handles_enter, handles_put_of_ne hne, handles_put_self])
  have hend : enter k (some (.alive ([Place.kept k c j].filter (· ≠ .kept k c j))))
      (put (.kept k c j) none (enter k (some (.alive [.kept k c j]))
        (put (.kept k b i) (some h) (put (.kept k c j) (some none) s)))) =
      put (.kept k b i) (some h) (put (.kept k c j) none s) := by
    have hfilter : [Place.kept k c j].filter (· ≠ .kept k c j) = [] := by simp
    change enter k _ (enter k _ (put _ none (put _ (some h) (put _ (some none) s)))) = _
    rw [hfilter, enter_enter, put_comm hne, put_put]
    exact enter_of_eq hk
  exact (Relation.ReflTransGen.single hmove).tail (hend ▸ hdiscard)

lemma Keeps.relocate {ds : List Place} {b i c j : Nat} {h : Handle} (hs : Keeps s k (ds ++ .kept k c j :: ps) os)
    (hm : s.handles (.kept k c j) = some h) (hn : .kept k b i ∉ ds ++ .kept k c j :: ps) :
    Keeps (State.put (.kept k b i) (some h) (State.put (.kept k c j) none s)) k (ds ++ .kept k b i :: ps) os := by
  have hmiddle (x p : Place) : x ∈ ds ++ p :: ps ↔ x = p ∨ x ∈ ds ++ ps := List.perm_middle.mem_iff.trans List.mem_cons
  obtain ⟨hold, hnodup⟩ := List.nodup_cons.1 (List.nodup_middle.1 hs.nodup)
  obtain ⟨hne, hnew⟩ := not_or.1 (mt (hmiddle _ _).2 hn)
  have hsame (x : Place) (hx : x ≠ .kept k b i) (hx' : x ≠ .kept k c j) :
      (State.put (.kept k b i) (some h) (State.put (.kept k c j) none s)).handles x = s.handles x := by
    rw [handles_put_of_ne hx, handles_put_of_ne hx']
  have hrest (x : Place) (hx : x ∈ ds ++ ps) := hsame x (fun heq => hnew (heq ▸ hx)) fun heq => hold (heq ▸ hx)
  refine ⟨hs.alive, List.nodup_middle.2 (List.nodup_cons.2 ⟨hnew, hnodup⟩), fun x => ?_, ?_⟩
  · rw [hmiddle]
    by_cases hx : x = .kept k b i
    · simp [hx, Place.keeper?]
    by_cases hx' : x = .kept k c j
    · subst hx'
      simp [handles_put_of_ne hx, hx, hold]
    · rw [hsame x hx hx', ← hs.mem, hmiddle]
      simp [hx, hx']
  · rw [← hs.handles, List.map_append, List.map_append, List.map_cons, List.map_cons, handles_put_self, hm]
    congr 1
    · exact List.map_congr_left fun x hx => hrest x (List.mem_append_left _ hx)
    · exact congrArg _ (List.map_congr_left fun x hx => hrest x (List.mem_append_right _ hx))

/-- All handles of a keeper go to other places, in order. -/
lemma relocateAll_run (ds : List Place) (hs : Keeps s k (ds ++ ps) os) (hlength : qs.length = ps.length)
    (hqs : ∀ q ∈ qs, q.keeper? = some k ∧ q ∉ ds ++ ps) (hnodup : qs.Nodup) :
    ∃ s', Work k s s' ∧ s'.record = s.record ∧ Keeps s' k (ds ++ qs) os := by
  -- on the handles that have not moved yet; those that have are in front
  induction ps generalizing s ds qs with
  | nil =>
    rw [List.length_eq_zero_iff.1 hlength]
    exact ⟨s, .refl k s, rfl, hs⟩
  | cons p ps ih =>
    cases qs with
    | nil => cases hlength
    | cons q qs =>
      obtain ⟨hkeeper, hpresent⟩ := (hs.mem p).1 (by simp)
      obtain ⟨h, hm⟩ := Option.isSome_iff_exists.1 hpresent
      obtain ⟨⟨hkeeper', hn⟩, hqs'⟩ := List.forall_mem_cons.1 hqs
      obtain ⟨hq, hnodup'⟩ := List.nodup_cons.1 hnodup
      obtain ⟨c, j, rfl⟩ := Place.exists_kept hkeeper
      obtain ⟨b, i, rfl⟩ := Place.exists_kept hkeeper'
      have hone := hs.relocate hm hn
      rw [List.append_cons] at hone
      have hfirst : Work k s (put (.kept k b i) (some h) (put (.kept k c j) none s)) :=
        ⟨relocate_run hs.alive (hs.absent rfl hn) hm, fun x hx =>
          (handles_put_of_ne (x.ne_kept hx b i) _ _).trans (handles_put_of_ne (x.ne_kept hx c j) _ _), fun _ _ => rfl⟩
      have hrest (x : Place) (hx : x ∈ qs) : x.keeper? = some k ∧ x ∉ ds ++ [.kept k b i] ++ ps := by
        obtain ⟨hkeeper, hfree⟩ := hqs' x hx
        have hne : x ≠ .kept k b i := fun heq => hq (heq ▸ hx)
        rw [List.mem_append, List.mem_cons, not_or, not_or] at hfree
        rw [List.mem_append, List.mem_append, List.mem_singleton, not_or, not_or]
        exact ⟨hkeeper, ⟨hfree.1, hne⟩, hfree.2.2⟩
      obtain ⟨s', hwork, hrecord, hkeeps⟩ := ih _ hone (Nat.succ.inj hlength) hrest hnodup'
      exact ⟨s', hfirst.trans hwork, hrecord, by rwa [List.append_cons]⟩

/-! ### The end of a keeper -/

/-- Work after which the handles at these places are all alike, and any other handle is as before. -/
structure Sets (k : Keeper) (ps : List Place) (h : Option Handle) (s s' : State) : Prop extends Work k s s' where
  here : ∀ p ∈ ps, s'.handles p = h
  others : ∀ p, p ∉ ps → s'.handles p = s.handles p

namespace Sets

variable {h : Option Handle}

lemma nil (k : Keeper) (h : Option Handle) (s : State) : Sets k [] h s s :=
  ⟨.refl k s, fun _ hp => absurd hp List.not_mem_nil, fun _ _ => rfl⟩

lemma cons {s₁ : State} {b i : Nat} (hs : Step s s₁) (hh : s₁.handles = (s.put (.kept k b i) h).handles)
    (hk : ∀ l, l ≠ k → s₁.keepers l = s.keepers l) (hnew : .kept k b i ∉ ps) (hrest : Sets k ps h s₁ s') :
    Sets k (.kept k b i :: ps) h s s' := by
  have hne (q : Place) (hq : q ≠ .kept k b i) : s₁.handles q = s.handles q := by rw [hh, handles_put_of_ne hq]
  have hfirst : Work k s s₁ := ⟨.single hs, fun q hq => hne q (q.ne_kept hq b i), hk⟩
  refine ⟨hfirst.trans hrest.toWork, fun q hq => ?_, fun q hq => ?_⟩
  · rcases List.mem_cons.1 hq with rfl | hq
    · rw [hrest.others _ hnew, hh, handles_put_self]
    · exact hrest.here q hq
  · obtain ⟨hqp, hq⟩ := not_or.1 (mt List.mem_cons.2 hq)
    exact (hrest.others q hq).trans (hne q hqp)

end Sets

/-- A keeper releases its openings, one after the other. -/
lemma letGo_run (hps : ∀ p ∈ ps, p.keeper? = some k) (hnodup : ps.Nodup) (hk : s.keepers k = some (.releasing ps))
    (hos : ps.map s.handles = os.map fun o => some (some o)) :
    ∃ s', Sets k ps (some none) s s' ∧ s'.record = releaseAll os s.record ∧ s'.keepers k = some (.releasing []) := by
  induction ps generalizing s os with
  | nil =>
    cases List.map_eq_nil_iff.1 hos.symm
    exact ⟨s, .nil k _ s, rfl, hk⟩
  | cons p rest ih =>
    obtain ⟨hnew, hnodup'⟩ := List.nodup_cons.1 hnodup
    have hne (q : Place) (hq : q ∈ rest) : q ≠ p := fun heq => hnew (heq ▸ hq)
    obtain ⟨b, i, rfl⟩ := Place.exists_kept (hps p List.mem_cons_self)
    cases os with
    | nil => cases hos
    | cons o os =>
      obtain ⟨ho, hos'⟩ := List.cons.inj hos
      obtain ⟨s', hsets, hrecord, hphase⟩ := ih (s := { enter k (some (.releasing rest))
          (put (.kept k b i) (some none) s) with record := Handle.release (some o) s.record })
        (fun q hq => hps q (List.mem_cons_of_mem _ hq)) hnodup' keepers_enter_self
        ((List.map_congr_left fun q hq => handles_put_of_ne (hne q hq) _ s).trans hos')
      exact ⟨s', .cons (.letGo hk ho) rfl (fun _ hl => keepers_enter_of_ne hl _ _) hnew hsets, hrecord, hphase⟩

/-- A keeper destroys its handles. -/
lemma clear_run (hps : ∀ p ∈ ps, p.keeper? = some k) (hnodup : ps.Nodup) (hk : s.keepers k = some .ending)
    (hos : ∀ p ∈ ps, s.handles p = some none) :
    ∃ s', Sets k ps none s s' ∧ s'.record = s.record ∧ s'.keepers k = some .ending := by
  induction ps generalizing s with
  | nil => exact ⟨s, .nil k _ s, rfl, hk⟩
  | cons p rest ih =>
    obtain ⟨hnew, hnodup'⟩ := List.nodup_cons.1 hnodup
    obtain ⟨ho, hos'⟩ := List.forall_mem_cons.1 hos
    have hne (q : Place) (hq : q ∈ rest) : q ≠ p := fun heq => hnew (heq ▸ hq)
    obtain ⟨b, i, rfl⟩ := Place.exists_kept (hps p List.mem_cons_self)
    obtain ⟨s', hsets, hrecord, hphase⟩ := ih (s := { put (.kept k b i) none s with
        record := Handle.unload none s.record }) (fun q hq => hps q (List.mem_cons_of_mem _ hq)) hnodup' hk
      fun q hq => (handles_put_of_ne (hne q hq) _ s).trans (hos' q hq)
    exact ⟨s', .cons (.clear hk ho) rfl (fun _ _ => rfl) hnew hsets, hrecord, hphase⟩

lemma releaseAll_eq (os : List Opening) (r : Record) :
    releaseAll os r = { r with released := r.released ++ os.map Opening.number } := by
  induction os generalizing r with
  | nil => simp [releaseAll]
  | cons o os ih =>
    change releaseAll os (Handle.release (some o) r) = _
    rw [ih]
    simp [Handle.release]

/-- What a keeper has is released at its end, in order. -/
lemma end_run (hs : Keeps s k ps os) :
    ∃ s', Work k s s' ∧ s'.record = releaseAll os s.record ∧ s'.keepers k = none := by
  have hkeeper (p : Place) (hp : p ∈ ps) : p.keeper? = some k := ((hs.mem p).1 hp).1
  have hbegin : Step s (s.enter k (some (.releasing ps))) := .begin hs.alive hs.mem
  obtain ⟨s₁, hsets, hrecord, hphase⟩ := letGo_run hkeeper hs.nodup keepers_enter_self
    (s := s.enter k (some (.releasing ps))) hs.handles
  have hreleased : Step s₁ (s₁.enter k (some .ending)) := .released hphase
  obtain ⟨s₂, hsets', hrecord', hphase'⟩ := clear_run hkeeper hs.nodup keepers_enter_self
    (s := s₁.enter k (some .ending)) hsets.here
  have hgone : Step s₂ (s₂.enter k none) := by
    refine .gone hphase' fun b i => ?_
    by_cases hp : .kept k b i ∈ ps
    · exact hsets'.here _ hp
    · exact (hsets'.others _ hp).trans ((hsets.others _ hp).trans (hs.absent rfl hp))
  have hall := ((Work.of_enter hbegin).trans hsets.toWork).trans ((Work.of_enter hreleased).trans hsets'.toWork)
  exact ⟨_, hall.trans (.of_enter hgone), hrecord'.trans hrecord, keepers_enter_self⟩

/-! ### Caches and lifecycles -/

/-- A request to a cache. -/
lemma get_run {loader : Loader} {name : Bytes} {c c' : Cache} {answer : Except Error Opening} {r' : Record}
    (hs : Keeps s k ps (c.entries.map Prod.snd)) (hv : s.handles (.var v) = none) {b i : Nat} (hn : .kept k b i ∉ ps)
    (hx : Cache.get loader name c s.record = (answer, c', r')) :
    ∃ s' ps', Work k s s' ∧ s'.record = r' ∧ Keeps s' k ps' (c'.entries.map Prod.snd) := by
  have hsame : ∃ s' ps', Work k s s' ∧ s'.record = s.record ∧ Keeps s' k ps' (c.entries.map Prod.snd) :=
    ⟨s, ps, .refl k s, rfl, hs⟩
  rw [Cache.get] at hx
  cases hlookup : c.entries.lookup name with
  | some o =>
    rw [hlookup] at hx
    cases hx
    exact hsame
  | none =>
    rw [hlookup] at hx
    cases halternatives : alternatives name with
    | nil =>
      rw [halternatives] at hx
      cases hx
      exact hsame
    | cons first rest =>
      obtain ⟨s', hwork, hrecord, hkeeps⟩ := take_run hs hv hn loader (first :: rest)
      rw [halternatives] at hx
      rcases hopen : openFirst loader s.record (first :: rest) with ⟨reasons | o, r⟩
      · simp only [hopen] at hx hrecord hkeeps
        cases hx
        exact ⟨s', ps, hwork, hrecord, hkeeps⟩
      · simp only [hopen] at hx hrecord hkeeps
        cases hx
        have hentries : Keeps s' k (ps ++ [.kept k b i]) ((c.entries ++ [(name, o)]).map Prod.snd) := by
          rwa [List.map_append]
        exact ⟨s', _, hwork, hrecord, hentries⟩

lemma symbol_run {loader : Loader} {symbols : Symbols} {library name : Bytes} {c c' : Cache}
    {answer : Except Error Nat} {r' : Record} (hs : Keeps s k ps (c.entries.map Prod.snd))
    (hv : s.handles (.var v) = none) {b i : Nat} (hn : .kept k b i ∉ ps)
    (hx : Cache.symbol loader symbols library name c s.record = (answer, c', r')) :
    ∃ s' ps', Work k s s' ∧ s'.record = r' ∧ Keeps s' k ps' (c'.entries.map Prod.snd) := by
  cases hx
  exact get_run hs hv hn rfl

/-- The places of `n` handles in a row. -/
def row (k : Keeper) (b n : Nat) : List Place := (List.range n).map (.kept k b)

lemma notMem_row (k : Keeper) (b n : Nat) : .kept k b n ∉ row k b n := by simp [row]

lemma row_succ (k : Keeper) (b n : Nat) : row k b (n + 1) = row k b n ++ [.kept k b n] := by
  rw [row, List.range_succ, List.map_append]
  rfl

variable {S : Sides}

lemma openAny_eq (h : Host S) (r : Record) (paths : List Bytes) :
    Lifecycle.openAny h r paths = ((openFirst h.loader r paths).1.toOption, (openFirst h.loader r paths).2) := by
  rw [Lifecycle.openAny]
  rcases openFirst h.loader r paths with ⟨_ | _, _⟩ <;> rfl

/-- The libraries of a lifecycle are opened. -/
lemma openAll_run (h : Host S) {b : Nat} (hs : Keeps s k (row k b os.length) os) (hv : s.handles (.var v) = none)
    (names : List String) {opened : List Opening} {r' : Record}
    (hx : Lifecycle.openAll h s.record names = (opened, r')) :
    ∃ s', Work k s s' ∧ s'.record = r' ∧ Keeps s' k (row k b (os ++ opened).length) (os ++ opened) := by
  induction names generalizing s os opened with
  | nil =>
    cases hx
    rw [List.append_nil]
    exact ⟨s, .refl k s, rfl, hs⟩
  | cons name rest ih =>
    rw [Lifecycle.openAll, openAny_eq] at hx
    obtain ⟨s₁, hwork, hrecord, hkeeps⟩ := take_run hs hv (notMem_row k b os.length) h.loader
      (alternatives (.ofString name))
    have hv₁ := hwork.absent hv
    rcases hopen : openFirst h.loader s.record (alternatives (.ofString name)) with ⟨reasons | o, r₁⟩
    · simp only [hopen] at hx hrecord hkeeps
      rcases hmore : Lifecycle.openAll h r₁ rest with ⟨more, r₂⟩
      rw [hmore] at hx
      cases hx
      obtain ⟨s', hwork', hdone⟩ := ih hkeeps hv₁ (hrecord ▸ hmore)
      exact ⟨s', hwork.trans hwork', hdone⟩
    · simp only [hopen] at hx hrecord hkeeps
      rcases hmore : Lifecycle.openAll h r₁ rest with ⟨more, r₂⟩
      rw [hmore] at hx
      cases hx
      have hlength : os.length + 1 = (os ++ [o]).length := by simp
      rw [← row_succ, hlength] at hkeeps
      obtain ⟨s', hwork', hdone⟩ := ih hkeeps hv₁ (hrecord ▸ hmore)
      rw [List.append_assoc] at hdone
      exact ⟨s', hwork.trans hwork', hdone⟩

/-- A lifecycle is made. -/
lemma resolve_run (ho : Orderly s) (h : Host S) (hk : s.keepers k = none) (hv : s.handles (.var v) = none)
    {config : LifecycleConfig} {w w' : World S} {l : Lifecycle} (hw : w.record = s.record)
    (hx : Lifecycle.resolve h config w = some (.ok l, w')) :
    ∃ s' ps, Work k s s' ∧ s'.record = w'.record ∧ Keeps s' k ps l.libraries := by
  have hfound : Work k s (s.enter k (some (.alive []))) := .of_enter (.found hk)
  obtain ⟨hl, hw'⟩ : l.libraries = (Lifecycle.openAll h w.record config.libraries).1 ∧
      w'.record = (Lifecycle.openAll h w.record config.libraries).2 := by
    cases hx
    exact ⟨rfl, rfl⟩
  have hnone : Keeps (s.enter k (some (.alive []))) k (row k 0 ([] : List Opening).length) [] := keeps_found ho hk
  obtain ⟨s', hwork, hrecord, hkeeps⟩ := openAll_run h hnone hv config.libraries rfl
  rw [hw] at hl hw'
  rw [List.nil_append, record_enter, ← hl] at hkeeps
  exact ⟨s', _, hfound.trans hwork, hrecord.trans hw'.symm, hkeeps⟩

end NativeBridge.Library.Openings
