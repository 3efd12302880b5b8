import NativeBridge.Proofs.Evolution.Host

/-!
What converting an argument adds to a world: closures and code for callbacks, references and copies that native
libraries count. What native code was granted for an argument lasts, whatever becomes of the call.
-/

namespace NativeBridge

open Eff

variable {S : Sides}

/-- What a converted argument leaves behind even if its call never happens. -/
inductive Lasting where
  /-- native code's reference to an object or a variant -/
  | reference (p : Address)
  /-- native code's copy of a struct -/
  | copy
  /-- code that the loop state keeps until its teardown -/
  | code
  deriving DecidableEq

/-- What native libraries count: the references of each object, and the copies that are not freed. -/
structure Counts (S : Sides) where
  refs : S.Native → Address → Nat
  copies : S.Native → Nat

namespace Counts

/-- The counts of one native state after those of another, with these grants between them. -/
structure Adds (c : Counts S) (granted : List Lasting) (n n' : S.Native) : Prop where
  refs : ∀ p, c.refs n' p = c.refs n p + granted.count (.reference p)
  copies : c.copies n' = c.copies n + granted.count .copy

/-- The functions for native lifetimes count as they should: one adds a reference to an object or a variant, one a copy
of a struct, and whoever tells the identifier of a type leaves both alone. -/
structure Lawful (c : Counts S) (h : Host S) (l : Lifecycle) : Prop where
  objectRef : ∀ a, l.bound .objectRef = some a → ∀ p, p ≠ 0 → ∀ w r w',
    h.run a (fun _ _ => stuck) { ints := [p] } w = some (r, w') → c.Adds [.reference p] w.native w'.native
  variantRef : ∀ a, l.bound .variantRef = some a → ∀ p, p ≠ 0 → ∀ w r w',
    h.run a (fun _ _ => stuck) { ints := [p] } w = some (r, w') → c.Adds [.reference p] w.native w'.native
  boxedCopy : ∀ a, l.bound .boxedCopy = some a → ∀ type p, type ≠ 0 → p ≠ 0 → ∀ w r w',
    h.run a (fun _ _ => stuck) { ints := [type, p] } w = some (r, w') → c.Adds [.copy] w.native w'.native
  typeFromName : ∀ a, l.bound .typeFromName = some a → ∀ words w r w',
    h.run a (fun _ _ => stuck) { ints := words } w = some (r, w') → c.Adds [] w.native w'.native
  typeFunction : ∀ library inner a,
    h.symbol library (Bytes.untilNul (Library.typeFunction (.ofString inner))) = .ok a → ∀ w r w',
      h.run a (fun _ _ => stuck) {} w = some (r, w') → c.Adds [] w.native w'.native

lemma Adds.rfl' (c : Counts S) (n : S.Native) : c.Adds [] n n := ⟨fun _ => rfl, rfl⟩

lemma Adds.trans {c : Counts S} {granted more : List Lasting} {n n₁ n₂ : S.Native} (h : c.Adds granted n n₁)
    (h' : c.Adds more n₁ n₂) : c.Adds (granted ++ more) n n₂ :=
  ⟨fun p => by rw [h'.refs, h.refs, List.count_append, Nat.add_assoc],
    by rw [h'.copies, h.copies, List.count_append, Nat.add_assoc]⟩

end Counts

/-- Closures and code that were made for values. -/
structure Made where
  closures : List (Address × Closure) := []
  thunks : List (Address × Thunk) := []

def Made.append (m m' : Made) : Made := ⟨m.closures ++ m'.closures, m.thunks ++ m'.thunks⟩

/-- A world grew by what was made and what was granted, and nothing that was there before has changed. -/
structure Grows (c : Counts S) (granted : List Lasting) (made : Made) (w w' : World S) : Prop where
  given : w.heap.given ≤ w'.heap.given
  closures : w'.closures = w.closures ++ made.closures
  thunks : w'.thunks = w.thunks ++ made.thunks
  counts : c.Adds granted w.native w'.native
  state : ∀ s, w.state = some s → ∃ s', w'.state = some s' ∧ s'.lifecycle = s.lifecycle ∧ s'.registry = s.registry ∧
    s'.retained.length = s.retained.length + granted.count .code

/-- Nothing was made and nothing granted. -/
abbrev Silent (c : Counts S) : World S → World S → Prop := Grows c [] {}

namespace Grows

variable {c : Counts S}

lemma trans {granted more : List Lasting} {made m' : Made} {w w₁ w₂ : World S} (h : Grows c granted made w w₁)
    (h' : Grows c more m' w₁ w₂) : Grows c (granted ++ more) (made.append m') w w₂ where
  given := h.given.trans h'.given
  closures := by rw [h'.closures, h.closures, List.append_assoc]; rfl
  thunks := by rw [h'.thunks, h.thunks, List.append_assoc]; rfl
  counts := h.counts.trans h'.counts
  state s hs := by
    obtain ⟨s₁, hs₁, hl₁, hr₁, hk₁⟩ := h.state s hs
    obtain ⟨s₂, hs₂, hl₂, hr₂, hk₂⟩ := h'.state s₁ hs₁
    exact ⟨s₂, hs₂, hl₂.trans hl₁, hr₂.trans hr₁, by rw [hk₂, hk₁, List.count_append, Nat.add_assoc]⟩

lemma of_native {granted : List Lasting} {w : World S} {native : S.Native} {heap : Heap}
    (hg : w.heap.given ≤ heap.given) (hc : c.Adds granted w.native native) (hk : granted.count .code = 0) :
    Grows c granted {} w { w with native, heap } where
  given := hg
  closures := (List.append_nil _).symm
  thunks := (List.append_nil _).symm
  counts := hc
  state s hs := ⟨s, hs, rfl, rfl, by rw [hk]; rfl⟩

instance : Housekeeping (Silent c) where
  refl w := of_native (c := c) le_rfl (.rfl' c w.native) rfl
  trans _ _ _ h h' := h.trans h'
  memory w heap h := of_native h (.rfl' c w.native) rfl
  record w _ := ⟨le_rfl, (List.append_nil _).symm, (List.append_nil _).symm, .rfl' c w.native,
    fun s hs => ⟨s, hs, rfl, rfl, rfl⟩⟩
  libraries w libraries := ⟨le_rfl, (List.append_nil _).symm, (List.append_nil _).symm, .rfl' c w.native,
    fun s hs => ⟨{ s with libraries }, by simp [hs], rfl, rfl, rfl⟩⟩

end Grows

/-! ### Native functions that call nothing -/

section

variable {h : Host S} (hn : ∀ a call words, NativeCode call (h.run a call words)) {c : Counts S}

include hn

lemma run_grows {a : Address} {words : Registers} {granted : List Lasting} {w w' : World S}
    {r : Except Error Returned} (hx : h.run a (fun _ _ => stuck) words w = some (r, w'))
    (hc : c.Adds granted w.native w'.native) (hk : granted.count .code = 0) :
    (∃ a, r = .ok a) ∧ Grows c granted {} w w' := by
  obtain ⟨hr, native, heap, hg, rfl⟩ := (hn a _ words).outside hx
  exact ⟨hr, .of_native hg hc hk⟩

/-- The function of a role is missing, or it grants what it should. -/
lemma require_grows {l : Lifecycle} {role : LifecycleRole} {need : LifecycleNeed} {words : List Nat}
    {granted : List Lasting} {w w' : World S} {r : Except Error Nat}
    (hx : l.require h role need words w = some (r, w'))
    (hc : ∀ a, l.bound role = some a → ∀ w r w', h.run a (fun _ _ => stuck) { ints := words } w = some (r, w') →
      c.Adds granted w.native w'.native) (hk : granted.count .code = 0) :
    (∃ e, r = .error e) ∧ w' = w ∨ (∃ p, r = .ok p) ∧ Grows c granted {} w w' := by
  rcases Lifecycle.require_cases hx with ⟨-, rfl, rfl⟩ | ⟨a, q, ha, hrun, rfl⟩
  · exact .inl ⟨⟨_, rfl⟩, rfl⟩
  · obtain ⟨⟨v, rfl⟩, hgrows⟩ := run_grows hn hrun (hc a ha _ _ _ hrun) hk
    exact .inr ⟨⟨_, rfl⟩, hgrows⟩

lemma call_silent {l : Lifecycle} (hc : c.Lawful h l) (words : List Nat) :
    Along (Silent c) (l.call? h .typeFromName words) := by
  intro w r w' hx
  rcases Lifecycle.call?_cases hx with ⟨-, -, rfl⟩ | ⟨a, q, ha, hrun, -⟩
  · exact refl _
  · exact (run_grows hn hrun (hc.typeFromName a ha _ w q w' hrun) rfl).2

lemma boxedTypeId_silent {w w' : World S} (hc : ∀ s, w.state = some s → c.Lawful h s.lifecycle) {s : LoopState}
    (hs : w.state = some s) {inner : String} {lib : Option String} {r : Except Error TypeId}
    (hx : boxedTypeId h inner lib w = some (r, w')) : Silent c w w' :=
  Housekeeping.boxedTypeId (fun t ht words => call_silent hn (hc t ht) words)
    (fun library a ha w r w' hr => (run_grows hn hr ((hc s hs).typeFunction library inner a ha w r w' hr) rfl).2) hx

end

/-! ### Objects -/

/-- What native code is granted for an object of an object-like type. -/
def Descriptor.granted (h : Host S) (type : Descriptor) (p : Address) (w : World S) : List Lasting :=
  match type with
  | .object borrowed | .variant borrowed => if borrowed then [] else [.reference p]
  | .boxed borrowed inner lib =>
    if borrowed then []
    else
      match boxedTypeId h inner lib w with
      | some (.ok id, _) => if id ≠ 0 then [.copy] else []
      | _ => []
  | _ => []

lemma Descriptor.count_code_granted (h : Host S) (type : Descriptor) (p : Address) (w : World S) :
    (type.granted h p w).count .code = 0 := by
  unfold Descriptor.granted
  split
  all_goals repeat' split
  all_goals rfl

section

variable {h : Host S} (hn : ∀ a call words, NativeCode call (h.run a call words)) {c : Counts S}

include hn

/-- A reference is taken, and the object stays the same. -/
lemma reference_grows {l : Lifecycle} {role : LifecycleRole} {need : LifecycleNeed} {p : Address} {w w' : World S}
    {r : Except Error Address} (hx : (do let _ ← l.require h role need [p]; return p : Eff S Address) w = some (r, w'))
    (hc : ∀ a, l.bound role = some a → ∀ w r w', h.run a (fun _ _ => stuck) { ints := [p] } w = some (r, w') →
      c.Adds [.reference p] w.native w'.native) :
    (∃ e, r = .error e) ∧ Silent c w w' ∨ (∃ q, r = .ok q) ∧ Grows c [.reference p] {} w w' := by
  rcases bind_eq_some.1 hx with ⟨q, w₁, h₁, h₂⟩ | ⟨e, h₁, rfl⟩
  · cases h₂
    rcases require_grows hn h₁ hc rfl with ⟨⟨e, he⟩, -⟩ | ⟨-, hg⟩
    · cases he
    · exact .inr ⟨⟨p, rfl⟩, hg⟩
  · rcases require_grows hn h₁ hc rfl with ⟨-, rfl⟩ | ⟨⟨q, hq⟩, -⟩
    · exact .inl ⟨⟨e, rfl⟩, refl _⟩
    · cases hq

lemma grant_grows {type : Descriptor} {p : Address} (hp : p ≠ 0) {w w' : World S} {s : LoopState}
    (hs : w.state = some s) (hc : c.Lawful h s.lifecycle) {r : Except Error Address}
    (hx : grant h p type w = some (r, w')) :
    (∃ e, r = .error e) ∧ Silent c w w' ∨ (∃ q, r = .ok q) ∧ Grows c (type.granted h p w) {} w w' := by
  have unchanged (hx : (pure p : Eff S Address) w = some (r, w')) : (∃ q, r = .ok q) ∧ Silent c w w' := by
    cases hx
    exact ⟨⟨p, rfl⟩, refl w⟩
  rw [grant, bind_ok (LoopState.currentLifecycle_of_some hs)] at hx
  cases type with
  | object borrowed =>
    cases borrowed with
    | true => exact .inr (unchanged hx)
    | false => exact reference_grows hn hx fun a ha => hc.objectRef a ha p hp
  | variant borrowed =>
    cases borrowed with
    | true => exact .inr (unchanged hx)
    | false => exact reference_grows hn hx fun a ha => hc.variantRef a ha p hp
  | boxed borrowed inner lib =>
    cases borrowed with
    | true => exact .inr (unchanged hx)
    | false =>
      have htype {r : Except Error TypeId} {w₁ : World S} (h₁ : boxedTypeId h inner lib w = some (r, w₁)) :
          Silent c w w₁ :=
        boxedTypeId_silent hn (fun t ht => by rw [hs] at ht; cases ht; exact hc) hs h₁
      rcases bind_eq_some.1 hx with ⟨id, w₁, h₁, h₂⟩ | ⟨e, h₁, rfl⟩
      · by_cases hid : id = 0
        · rw [if_neg (not_not_intro hid)] at h₂
          cases h₂
          exact .inr ⟨⟨p, rfl⟩, by simpa [Descriptor.granted, h₁, hid] using htype h₁⟩
        · rw [if_pos hid] at h₂
          rcases require_grows hn h₂ (fun a ha => hc.boxedCopy a ha id p hid hp) rfl with ⟨he, rfl⟩ | ⟨hq, hg⟩
          · exact .inl ⟨he, htype h₁⟩
          · have hcopy : (Descriptor.boxed false inner lib).granted h p w = [.copy] := by
              simp [Descriptor.granted, h₁, hid]
            exact .inr ⟨hq, hcopy ▸ (htype h₁).trans hg⟩
      · exact .inl ⟨⟨e, rfl⟩, htype h₁⟩
  | _ => exact .inr (unchanged hx)

end

end NativeBridge
