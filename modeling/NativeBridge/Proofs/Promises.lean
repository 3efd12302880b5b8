import Mathlib.Data.List.Range
import NativeBridge.Dispatch.Promise

/-!
What becomes of promises: each is pending until it is settled, and settled only once.
-/

namespace NativeBridge.Promises

variable {α : Type} {p : Promises α} {id k : PromiseId}

/-- Nobody has settled the promise. -/
def Pending (p : Promises α) (id : PromiseId) : Prop := p.get? id = some .pending

/-- The promise that is made next has not been made before. -/
def Fresh (p : Promises α) : Prop := ∀ e ∈ p.table, e.1 < p.made

lemma Fresh.make (h : p.Fresh) : p.make.2.Fresh := by
  intro e he
  rcases List.mem_append.1 he with he | he
  · exact (h e he).trans (Nat.lt_succ_self _)
  · obtain rfl := List.mem_singleton.1 he
    exact Nat.lt_succ_self _

lemma Fresh.settle (h : p.Fresh) (id : PromiseId) (outcome : Promise α) : (p.settle id outcome).Fresh := by
  intro e he
  obtain ⟨e', he', rfl⟩ := List.mem_map.1 he
  have hk := h e' he'
  split
  · split <;> exact hk
  · exact hk

lemma Fresh.keep (h : p.Fresh) (id : PromiseId) (result : α) : (p.keep id result).Fresh := h.settle id _

lemma Fresh.forget (h : p.Fresh) (id : PromiseId) : (p.forget id).Fresh := fun e he => h e (List.mem_of_mem_filter he)

instance (p : Promises α) (id : PromiseId) : Decidable (p.Pending id) :=
  match h : p.get? id with
  | some .pending => isTrue h
  | some (.kept r) => isFalse fun hp => by cases h.symm.trans hp
  | some .broken => isFalse fun hp => by cases h.symm.trans hp
  | none => isFalse fun hp => by cases h.symm.trans hp

lemma get?_make (h : p.Fresh) : p.make.2.get? k = if k = p.made then some .pending else p.get? k := by
  have hmade : p.table.lookup p.made = none :=
    List.lookup_eq_none_iff.2 fun e he => by simpa using (h e he).ne'
  simp only [get?, make, List.lookup_append]
  by_cases hk : k = p.made
  · simp [hk, hmade]
  · have hb : (k == p.made) = false := beq_false_of_ne hk
    simp [hk, List.lookup_cons, hb]

lemma get?_settle_self {outcome : Promise α} (h : p.Pending id) : (p.settle id outcome).get? id = some outcome := by
  obtain ⟨table, made⟩ := p
  simp only [Pending, get?, settle] at h ⊢
  induction table with
  | nil => cases h
  | cons e table ih =>
    obtain ⟨key, promise⟩ := e
    by_cases hk : id = key
    · subst hk
      cases promise with
      | pending => simp
      | _ => simp at h
    · have hb : (id == key) = false := beq_false_of_ne hk
      rw [List.lookup_cons, hb] at h
      cases promise <;> simpa [List.lookup_cons, hb, Ne.symm hk] using ih h

lemma get?_settle_of_not {outcome : Promise α} (h : ¬(k = id ∧ p.Pending k)) :
    (p.settle id outcome).get? k = p.get? k := by
  obtain ⟨table, made⟩ := p
  simp only [Pending, get?, settle] at h ⊢
  induction table with
  | nil => rfl
  | cons e table ih =>
    obtain ⟨key, promise⟩ := e
    by_cases hk : k = key
    · subst hk
      cases promise with
      | pending =>
        have hid : k ≠ id := fun hid => h ⟨hid, by simp⟩
        simp [hid]
      | _ => simp
    · have hb : (k == key) = false := beq_false_of_ne hk
      rw [List.lookup_cons, hb] at h
      cases promise with
      | pending =>
        rcases eq_or_ne key id with rfl | hid
        · simpa [List.lookup_cons, hb] using ih h
        · simpa [List.lookup_cons, hb, hid] using ih h
      | _ => simpa [List.lookup_cons, hb] using ih h

lemma get?_settle (outcome : Promise α) :
    (p.settle id outcome).get? k = if k = id ∧ p.Pending k then some outcome else p.get? k := by
  split
  next h => rw [h.1, get?_settle_self (h.1 ▸ h.2)]
  next h => exact get?_settle_of_not h

/-- What is settled, or not promised, is not settled again. -/
lemma get?_settle_of_not_pending {outcome : Promise α} (h : ¬p.Pending k) :
    (p.settle id outcome).get? k = p.get? k := get?_settle_of_not fun hk => h hk.2

lemma not_pending_of_get? {promise : Promise α} (h : p.get? id = some promise) (hne : promise ≠ .pending) :
    ¬p.Pending id := fun hp => hne (Option.some.inj (h.symm.trans hp))

lemma not_pending_of_none (h : p.get? id = none) : ¬p.Pending id := fun hp => nomatch h.symm.trans hp

lemma get?_forget : (p.forget id).get? k = if k = id then none else p.get? k := by
  simp only [get?, forget]
  induction p.table with
  | nil => simp
  | cons e table ih =>
    obtain ⟨key, promise⟩ := e
    by_cases hid : key = id
    · subst hid
      by_cases hk : k = key
      · subst hk
        simpa using ih
      · have hb : (k == key) = false := beq_false_of_ne hk
        simpa [List.lookup_cons, hb, hk] using ih
    · by_cases hk : k = key
      · subst hk
        simp [hid]
      · have hb : (k == key) = false := beq_false_of_ne hk
        simpa [List.lookup_cons, hb, hid] using ih

lemma pending_settle {outcome : Promise α} (ho : outcome ≠ .pending) :
    (p.settle id outcome).Pending k ↔ p.Pending k ∧ k ≠ id := by
  rw [Pending, get?_settle]
  split
  next h => simp [ho, h.1]
  next h => exact ⟨fun hp => ⟨hp, fun hk => h ⟨hk, hp⟩⟩, And.left⟩

lemma pending_keep (result : α) : (p.keep id result).Pending k ↔ p.Pending k ∧ k ≠ id := pending_settle nofun

lemma pending_make (h : p.Fresh) : p.make.2.Pending k ↔ p.Pending k ∨ k = p.made := by
  rw [Pending, get?_make h]
  by_cases hk : k = p.made <;> simp [Pending, hk]

lemma pending_forget : (p.forget id).Pending k ↔ p.Pending k ∧ k ≠ id := by
  rw [Pending, get?_forget]
  by_cases hk : k = id <;> simp [Pending, hk]

lemma lt_made_of_get? (h : p.Fresh) {promise : Promise α} (hid : p.get? id = some promise) : id < p.made := by
  obtain ⟨l₁, l₂, htable, -⟩ := List.lookup_eq_some_iff.1 hid
  exact h (id, promise) (by simp [htable])

/-- Promises that are broken one after the other. -/
lemma get?_breakAll (ids : List PromiseId) (p : Promises α) :
    (ids.foldl break_ p).get? k = if k ∈ ids ∧ p.Pending k then some .broken else p.get? k := by
  induction ids generalizing p with
  | nil => simp
  | cons id rest ih =>
    have hbroken : (.broken : Promise α) ≠ .pending := nofun
    simp only [List.foldl_cons, ih, break_, pending_settle hbroken, get?_settle]
    by_cases hp : p.Pending k <;> by_cases hid : k = id <;> by_cases hrest : k ∈ rest <;> simp [hp, hid, hrest]

lemma get?_breakAll_of_not_pending (ids : List PromiseId) (h : ¬p.Pending k) :
    (ids.foldl break_ p).get? k = p.get? k := (get?_breakAll ids p).trans (if_neg fun hk => h hk.2)

lemma made_breakAll (ids : List PromiseId) (p : Promises α) : (ids.foldl break_ p).made = p.made := by
  induction ids generalizing p with
  | nil => rfl
  | cons id rest ih => exact ih _

lemma Fresh.breakAll (ids : List PromiseId) {p : Promises α} (h : p.Fresh) : (ids.foldl break_ p).Fresh := by
  induction ids generalizing p with
  | nil => exact h
  | cons id rest ih => exact ih (h.settle id .broken)

end NativeBridge.Promises
