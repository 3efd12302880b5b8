import Mathlib.Data.List.DropRight
import Mathlib.Tactic.MkIffOfInductiveProp
import NativeBridge.Library.Names

/-!
The alternatives that the name of a library lists. A list is written with commas between its alternatives; blanks around
them and parts without any text do not count. Every text is such a list, of exactly the alternatives that are read from
it.
-/

namespace NativeBridge.Library

/-! ### Parts between commas -/

lemma splitCommas_eq_splitOn (b : Bytes) : splitCommas b = b.splitOn comma := by
  induction b with
  | nil => rfl
  | cons c rest ih =>
    have hcons : (c :: rest).splitOn comma =
        if c == comma then [] :: rest.splitOn comma else (rest.splitOn comma).modifyHead (List.cons c) :=
      List.splitOnP_cons_eq_if_modifyHead c rest
    rw [splitCommas, ih, hcons]
    by_cases hc : c = comma
    · simp [hc]
    · obtain ⟨part, parts, hparts⟩ := List.exists_cons_of_ne_nil (List.splitOn_ne_nil comma rest)
      simp [hc, hparts]

lemma comma_notMem_of_mem_splitCommas {b part : Bytes} (h : part ∈ splitCommas b) : comma ∉ part := by
  induction b generalizing part with
  | nil =>
    cases List.mem_singleton.1 h
    exact List.not_mem_nil
  | cons c rest ih =>
    rw [splitCommas] at h
    by_cases hc : c = comma
    · rw [if_pos hc] at h
      rcases List.mem_cons.1 h with rfl | h
      · exact List.not_mem_nil
      · exact ih h
    · rw [if_neg hc] at h
      split at h
      · cases List.mem_singleton.1 h
        simpa using Ne.symm hc
      · next first parts hparts =>
        rcases List.mem_cons.1 h with rfl | h
        · have hfirst : comma ∉ first := ih (hparts ▸ List.mem_cons_self)
          simpa [hfirst] using Ne.symm hc
        · exact ih (hparts ▸ List.mem_cons_of_mem _ h)

/-! ### Blanks at the ends -/

lemma trim_eq_rdropWhile (b : Bytes) : trim b = (b.dropWhile (· == blank)).rdropWhile (· == blank) := rfl

/-- An alternative that a list can hold. -/
@[mk_iff]
structure IsAlternative (p : Bytes) : Prop where
  ne_nil : p ≠ []
  comma : comma ∉ p
  head : p.head? ≠ some blank
  last : p.getLast? ≠ some blank

instance (p : Bytes) : Decidable (IsAlternative p) := decidable_of_iff' _ (isAlternative_iff p)

lemma trim_blanks (n : Nat) : trim (List.replicate n blank) = [] := by simp [trim]

lemma trim_padded {p : Bytes} (hp : IsAlternative p) (before after : Nat) :
    trim (List.replicate before blank ++ p ++ List.replicate after blank) = p := by
  have hfront : (p ++ List.replicate after blank).dropWhile (· == blank) = p ++ List.replicate after blank := by
    obtain ⟨c, rest, rfl⟩ := List.exists_cons_of_ne_nil hp.ne_nil
    exact List.dropWhile_cons_of_neg (by simpa using hp.head)
  have hback : p.reverse.dropWhile (· == blank) = p.reverse := by
    have hlast : p.reverse.head? ≠ some blank := by simpa using hp.last
    obtain ⟨c, rest, hrev⟩ := List.exists_cons_of_ne_nil (List.reverse_ne_nil_iff.2 hp.ne_nil)
    rw [hrev] at hlast ⊢
    exact List.dropWhile_cons_of_neg (by simpa using hlast)
  rw [trim, List.append_assoc, List.dropWhile_append_of_pos (by simp), hfront, List.reverse_append,
    List.reverse_replicate, List.dropWhile_append_of_pos (by simp), hback, List.reverse_reverse]

/-- A text is what is left of it between blanks. -/
lemma exists_padded (b : Bytes) :
    ∃ before after, b = List.replicate before blank ++ trim b ++ List.replicate after blank := by
  have blanks {l : Bytes} (h : ∀ c ∈ l, (c == blank) = true) : l = List.replicate l.length blank :=
    List.eq_replicate_of_mem fun c hc => by simpa using h c hc
  refine ⟨(b.takeWhile (· == blank)).length, ((b.dropWhile (· == blank)).rtakeWhile (· == blank)).length, ?_⟩
  have hfront : ∀ c ∈ b.takeWhile (· == blank), (c == blank) = true :=
    fun c hc => List.mem_takeWhile_imp (p := (· == blank)) hc
  have hback : ∀ c ∈ (b.dropWhile (· == blank)).rtakeWhile (· == blank), (c == blank) = true :=
    fun c hc => List.mem_rtakeWhile_imp (p := (· == blank)) hc
  rw [← blanks hfront, ← blanks hback, trim_eq_rdropWhile, List.append_assoc, List.rdropWhile_append_rtakeWhile,
    List.takeWhile_append_dropWhile]

lemma IsAlternative.trim {part : Bytes} (hcomma : Library.comma ∉ part) (hne : Library.trim part ≠ []) :
    IsAlternative (Library.trim part) := by
  obtain ⟨before, after, hpart⟩ := exists_padded part
  refine ⟨hne, fun hmem => hcomma ?_, fun hhead => ?_, fun hlast => ?_⟩
  · rw [hpart]
    simp [hmem]
  · obtain ⟨rest, hrest⟩ := List.rdropWhile_prefix (· == blank) (part.dropWhile (· == blank))
    rw [← trim_eq_rdropWhile] at hrest
    obtain ⟨c, more, hmore⟩ := List.exists_cons_of_ne_nil hne
    rw [hmore] at hhead hrest
    cases hhead
    have hdropped : part.dropWhile (· == blank) ≠ [] := by simp [← hrest]
    have hfirst := List.head_dropWhile_not (· == blank) hdropped
    simp [← hrest] at hfirst
  · have hkept := List.rdropWhile_last_not (· == blank) (part.dropWhile (· == blank)) hne
    rw [List.getLast?_eq_some_getLast hne, Option.some.injEq] at hlast
    exact hkept (beq_iff_eq.2 hlast)

/-! ### Lists of alternatives -/

/-- Parts with alternatives among them, in order: each has blanks around it, and the other parts hold nothing but
blanks. -/
inductive Lists : List Bytes → List Bytes → Prop
  | nil : Lists [] []
  | alternative {parts names : List Bytes} {p : Bytes} (before after : Nat) (hp : IsAlternative p)
      (h : Lists parts names) :
      Lists ((List.replicate before blank ++ p ++ List.replicate after blank) :: parts) (p :: names)
  | empty {parts names : List Bytes} (blanks : Nat) (h : Lists parts names) :
      Lists (List.replicate blanks blank :: parts) names

/-- The text with commas between its parts. -/
def joinCommas (parts : List Bytes) : Bytes := [comma].intercalate parts

namespace Lists

variable {parts names : List Bytes}

lemma names_eq (h : Lists parts names) : (parts.map trim).filter (!·.isEmpty) = names := by
  induction h with
  | nil => rfl
  | alternative before after hp _ ih =>
    rw [List.map_cons, trim_padded hp, List.filter_cons_of_pos (by simpa using hp.ne_nil), ih]
  | empty blanks _ ih => rw [List.map_cons, trim_blanks, List.filter_cons_of_neg (by simp), ih]

lemma isAlternative (h : Lists parts names) : ∀ p ∈ names, IsAlternative p := by
  induction h with
  | nil => simp
  | alternative before after hp _ ih => exact List.forall_mem_cons.2 ⟨hp, ih⟩
  | empty blanks _ ih => exact ih

lemma comma_notMem (h : Lists parts names) : ∀ part ∈ parts, comma ∉ part := by
  have hblank : comma ≠ blank := by decide
  induction h with
  | nil => simp
  | alternative before after hp _ ih =>
    exact List.forall_mem_cons.2 ⟨by simp [hp.comma, hblank], ih⟩
  | empty blanks _ ih => exact List.forall_mem_cons.2 ⟨by simp [hblank], ih⟩

/-- Parts without commas list what is left of them. -/
lemma of_parts (h : ∀ part ∈ parts, comma ∉ part) : Lists parts ((parts.map trim).filter (!·.isEmpty)) := by
  induction parts with
  | nil => exact .nil
  | cons part rest ih =>
    obtain ⟨hpart, hrest⟩ := List.forall_mem_cons.1 h
    obtain ⟨before, after, hpadded⟩ := exists_padded part
    by_cases hempty : trim part = []
    · rw [hempty, List.append_nil, List.replicate_append_replicate] at hpadded
      rw [List.map_cons, hempty, List.filter_cons_of_neg (by simp), hpadded]
      exact (ih hrest).empty _
    · rw [List.map_cons, List.filter_cons_of_pos (by simpa using hempty)]
      conv => lhs; rw [hpadded]
      exact (ih hrest).alternative before after (.trim hpart hempty)

end Lists

lemma lists_alternatives (name : Bytes) : Lists (splitCommas name) (alternatives name) :=
  .of_parts fun _ => comma_notMem_of_mem_splitCommas

lemma joinCommas_splitCommas (name : Bytes) : joinCommas (splitCommas name) = name := by
  rw [joinCommas, splitCommas_eq_splitOn, List.intercalate_splitOn]

lemma alternatives_joinCommas {parts names : List Bytes} (h : Lists parts names) :
    alternatives (joinCommas parts) = names := by
  cases parts with
  | nil => exact h.names_eq
  | cons part rest =>
    rw [alternatives, splitCommas_eq_splitOn, joinCommas,
      List.splitOn_intercalate comma h.comma_notMem (List.cons_ne_nil part rest)]
    exact h.names_eq

lemma alternatives_append_comma (a b : Bytes) : alternatives (a ++ comma :: b) = alternatives a ++ alternatives b := by
  simp only [alternatives, splitCommas_eq_splitOn, List.splitOn_append_cons_self, List.map_append,
    List.filter_append]

/-! ### A walk over the text -/

/-- The alternatives from a place on: the part that begins there ends at the next comma or with the text, and the walk
goes on behind it. It is over when it stands one place behind the end. -/
def alternativesFrom (name : Bytes) (start : Nat) : List Bytes :=
  if start ≤ name.length then
    let part := (name.drop start).takeWhile (· != comma)
    (if (trim part).isEmpty then [] else [trim part]) ++ alternativesFrom name (start + part.length + 1)
  else []
termination_by name.length + 1 - start

lemma alternatives_of_part {part : Bytes} (h : comma ∉ part) :
    alternatives part = if (trim part).isEmpty then [] else [trim part] := by
  rw [alternatives, splitCommas_eq_splitOn, List.splitOn_eq_singleton h]
  cases hempty : (trim part).isEmpty <;> simp [hempty]

lemma alternativesFrom_eq {name : Bytes} {start : Nat} (h : start ≤ name.length) :
    alternativesFrom name start = alternatives (name.drop start) := by
  induction hn : name.length - start using Nat.strong_induction_on generalizing start with
  | _ n ih =>
  set part := (name.drop start).takeWhile (· != comma) with hpart
  have hcomma : comma ∉ part := fun hmem => by simpa using List.mem_takeWhile_imp hmem
  have hsplit : name.drop start = part ++ (name.drop start).dropWhile (· != comma) :=
    (List.takeWhile_append_dropWhile).symm
  have hlength : name.length - start = part.length + ((name.drop start).dropWhile (· != comma)).length := by
    rw [← List.length_drop, ← List.length_append, ← hsplit]
  rw [alternativesFrom, if_pos h]
  dsimp only
  rw [← hpart, ← alternatives_of_part hcomma]
  cases hrest : (name.drop start).dropWhile (· != comma) with
  | nil =>
    -- the last part: the walk ends behind the text
    rw [hrest] at hsplit hlength
    rw [alternativesFrom, if_neg (by simp at hlength; omega), List.append_nil, hsplit, List.append_nil]
  | cons c rest =>
    have hc : c = comma := by
      have hne : (name.drop start).dropWhile (· != comma) ≠ [] := by simp [hrest]
      simpa [hrest] using List.head_dropWhile_not (· != comma) hne
    subst hc
    rw [hrest] at hsplit hlength
    rw [List.length_cons] at hlength
    have hdrop : name.drop (start + part.length + 1) = rest := by
      rw [Nat.add_assoc, ← List.drop_drop, hsplit]
      simp
    rw [ih (name.length - (start + part.length + 1)) (by omega) (by omega) rfl, hdrop, hsplit,
      alternatives_append_comma]

/-- **The alternatives of a name are what it lists.** Two texts with a comma between them list the alternatives of
both, in order. For every text the walk over its parts ends, and gives alternatives without commas that are not empty
and neither begin nor end with a blank. A text lists given alternatives exactly if it consists of them, with commas
between them, any blanks around them, and any parts with nothing but blanks. -/
theorem alternatives_as_listed :
    (∀ a b, alternatives (a ++ comma :: b) = alternatives a ++ alternatives b) ∧
      (∀ name, alternativesFrom name 0 = alternatives name ∧ ∀ p ∈ alternatives name, IsAlternative p) ∧
      ∀ name names, alternatives name = names ↔ ∃ parts, Lists parts names ∧ name = joinCommas parts := by
  refine ⟨alternatives_append_comma, fun name => ⟨alternativesFrom_eq (Nat.zero_le _), ?_⟩, fun name names => ?_⟩
  · exact (lists_alternatives name).isAlternative
  · constructor
    · rintro rfl
      exact ⟨splitCommas name, lists_alternatives name, (joinCommas_splitCommas name).symm⟩
    · rintro ⟨parts, hlists, rfl⟩
      exact alternatives_joinCommas hlists

/-- Two alternatives, with blanks around them and a blank part between them. -/
theorem two_alternatives_among_blanks :
    alternatives [32, 97, 44, 32, 44, 98, 32, 32] = [[97], [98]] ∧ IsAlternative [98] := by
  have hlists : Lists [[32, 97], [32], [98, 32, 32]] [[97], [98]] :=
    .alternative (p := [97]) 1 0 (by decide) (.empty 1 (.alternative (p := [98]) 0 2 (by decide) .nil))
  have hlisted : alternatives [32, 97, 44, 32, 44, 98, 32, 32] = [[97], [98]] :=
    (alternatives_as_listed.2.2 _ _).2 ⟨_, hlists, rfl⟩
  have hmem : [98] ∈ alternatives [32, 97, 44, 32, 44, 98, 32, 32] := by simp [hlisted]
  exact ⟨hlisted, (alternatives_as_listed.2.1 _).2 [98] hmem⟩

end NativeBridge.Library
