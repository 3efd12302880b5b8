import Mathlib.Data.List.Nodup
import Mathlib.Data.List.Perm.Basic

/-!
Tables: lists of numbered entries whose numbers are distinct.
-/

namespace NativeBridge

section

variable {α : Type} {A B L : List (Nat × α)} {a : Nat} {x : α}

lemma ne_key_of_nodup (h : ((A ++ (a, x) :: B).map Prod.fst).Nodup) : (∀ e ∈ A, e.1 ≠ a) ∧ ∀ e ∈ B, e.1 ≠ a := by
  have key : ∀ e ∈ A ++ B, e.1 ≠ a := by
    intro e he hea
    rw [List.map_append, List.map_cons, List.nodup_middle, List.nodup_cons, ← List.map_append] at h
    exact h.1 (List.mem_map.2 ⟨e, he, hea⟩)
  exact ⟨fun e he => key e (List.mem_append_left _ he), fun e he => key e (List.mem_append_right _ he)⟩

lemma map_of_ne {f : Nat × α → Nat × α} (h : ∀ e ∈ L, e.1 ≠ a) :
    (L.map fun e => if e.1 = a then f e else e) = L := by
  conv_rhs => rw [← List.map_id L]
  exact List.map_congr_left fun e he => if_neg (h e he)

lemma filterMap_of_ne {f : Nat × α → Option (Nat × α)} (h : ∀ e ∈ L, e.1 ≠ a) :
    (L.filterMap fun e => if e.1 = a then f e else some e) = L := by
  conv_rhs => rw [← List.filterMap_some (l := L)]
  exact List.filterMap_congr fun e he => if_neg (h e he)

lemma filter_of_ne (h : ∀ e ∈ L, e.1 ≠ a) : L.filter (·.1 != a) = L :=
  List.filter_eq_self.2 fun e he => bne_iff_ne.2 (h e he)

lemma filter_of_lookup_eq_none (h : L.lookup a = none) : L.filter (·.1 != a) = L :=
  filter_of_ne fun e he heq => by simpa [heq] using List.lookup_eq_none_iff.1 h e he

lemma lookup_middle (h : ∀ e ∈ A, e.1 ≠ a) : (A ++ (a, x) :: B).lookup a = some x := by
  refine List.lookup_eq_some_iff.2 ⟨A, B, rfl, fun e he => ?_⟩
  simpa using (h e he).symm

lemma lookup_of_mem (h : (L.map Prod.fst).Nodup) (hx : (a, x) ∈ L) : L.lookup a = some x := by
  obtain ⟨A, B, rfl⟩ := List.append_of_mem hx
  exact lookup_middle (ne_key_of_nodup h).1

lemma mem_of_lookup (h : L.lookup a = some x) : (a, x) ∈ L := by
  obtain ⟨A, B, rfl, -⟩ := List.lookup_eq_some_iff.1 h
  exact List.mem_append_cons_self

lemma eq_of_keys {y : α} (h : (L.map Prod.fst).Nodup) (hx : (a, x) ∈ L) (hy : (a, y) ∈ L) : x = y :=
  Option.some.inj ((lookup_of_mem h hx).symm.trans (lookup_of_mem h hy))

/-- Without the entry that has the number, the others are left. -/
lemma perm_of_lookup (h : (L.map Prod.fst).Nodup) (hx : L.lookup a = some x) :
    L.Perm ((a, x) :: L.filter (·.1 != a)) := by
  obtain ⟨A, B, rfl, -⟩ := List.lookup_eq_some_iff.1 hx
  obtain ⟨hA, hB⟩ := ne_key_of_nodup h
  rw [List.filter_append, filter_of_ne hA, List.filter_cons_of_neg (by simp), filter_of_ne hB]
  exact List.perm_middle

/-- Entries with one number are the only one. -/
lemma filter_eq_singleton (h : (L.map Prod.fst).Nodup) (hx : (a, x) ∈ L) : L.filter (·.1 = a) = [(a, x)] := by
  obtain ⟨A, B, rfl⟩ := List.append_of_mem hx
  obtain ⟨hA, hB⟩ := ne_key_of_nodup h
  have none {C : List (Nat × α)} (hC : ∀ e ∈ C, e.1 ≠ a) : C.filter (·.1 = a) = [] :=
    List.filter_eq_nil_iff.2 fun e he heq => hC e he (of_decide_eq_true heq)
  rw [List.filter_append, none hA, List.filter_cons_of_pos (by simp), none hB, List.nil_append]

end

end NativeBridge
