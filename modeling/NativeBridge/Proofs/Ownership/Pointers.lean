import NativeBridge.Proofs.Ownership.Uptake

/-!
How a pointer from native code is taken up, by its type and by whether it is transferred: objects are registered with
a reference or a copy of their own, strings are copied, and the items of a container are taken up one after the other.
-/

namespace NativeBridge

open Eff

variable {S : Sides}

/-! ### Objects -/

/-- How a pointer of an object-like type that is not null is taken up: what is handed over with it, what is asked of
the lifecycle, and the one wrapper that is registered. -/
inductive Enters (h : Host S) (l : Lifecycle) (w : World S) (p : Address) : Descriptor → Bool → Uptake → Prop where
  /-- of a transferred object that is floating, the reference is sunk and adopted -/
  | floatingObject {borrowed : Bool} {r : Nat} {w' : World S}
      (floating : l.objectIsFloating h p w = some (.ok true, w')) :
      Enters h l w p (.object borrowed) true ⟨[.reference p], [⟨.objectRefSink, [p], r⟩], [.object p]⟩
  | ownedObject {borrowed : Bool} {w' : World S} (sunk : l.objectIsFloating h p w = some (.ok false, w')) :
      Enters h l w p (.object borrowed) true ⟨[.reference p], [], [.object p]⟩
  /-- of a borrowed object, a reference is added -/
  | borrowedObject {borrowed : Bool} {r : Nat} :
      Enters h l w p (.object borrowed) false ⟨[], [⟨.objectRef, [p], r⟩], [.object p]⟩
  | ownedBoxed {borrowed : Bool} {inner : String} {lib : Option String} {id : TypeId} {w' : World S}
      (type : boxedTypeId h inner lib w = some (.ok id, w')) (known : id ≠ 0) :
      Enters h l w p (.boxed borrowed inner lib) true ⟨[.struct id p], [], [.boxed p id .boxedFree]⟩
  /-- of a borrowed struct, the wrapper holds a copy -/
  | borrowedBoxed {borrowed : Bool} {inner : String} {lib : Option String} {id : TypeId} {copy : Address}
      {w' : World S} (type : boxedTypeId h inner lib w = some (.ok id, w')) (known : id ≠ 0) :
      Enters h l w p (.boxed borrowed inner lib) false
        ⟨[], [⟨.boxedCopy, [id, p], copy⟩], [.boxed copy id .boxedFree]⟩
  /-- a struct of unknown type can be neither copied nor freed -/
  | unknownBoxed {borrowed : Bool} {inner : String} {lib : Option String} {transfer : Bool} {w' : World S}
      (type : boxedTypeId h inner lib w = some (.ok 0, w')) :
      Enters h l w p (.boxed borrowed inner lib) transfer ⟨[], [], [.boxed p 0 .none]⟩
  | ownedVariant {borrowed : Bool} : Enters h l w p (.variant borrowed) true ⟨[.share p], [], [.variant p]⟩
  | borrowedVariant {borrowed : Bool} {r : Nat} :
      Enters h l w p (.variant borrowed) false ⟨[], [⟨.variantRefSink, [p], r⟩], [.variant p]⟩

lemma Enters.balanced {h : Host S} {l : Lifecycle} {w : World S} {p : Address} {type : Descriptor} {transfer : Bool}
    {e : Uptake} (he : Enters h l w p type transfer e) : e.Balanced := by
  cases he with
  | unknownBoxed =>
    intro d _
    simp [Shelf.duties, Wrapper.duty?]
  | _ => exact Uptake.balanced_entered rfl rfl rfl

section

variable {h : Host S} {l : Lifecycle} {log : S.Native → CallLog} {p : Address} {type : Descriptor}
  {transfer borrowed : Bool} {o : Wrapper} {w w' : World S}
  (hn : ∀ a call words, NativeCode call (h.run a call words)) (hl : l.Logs h log)

include hn hl

lemma objectFull_enters (hp : p ≠ 0) (hx : Wrapper.objectFull h l p w = some (.ok o, w')) :
    ∃ handed asked, Enters h l w p (.object borrowed) true ⟨handed, asked, [o]⟩ ∧ Gains l log { asked } w w' := by
  rw [Wrapper.objectFull, if_pos hp] at hx
  obtain ⟨floating, v, hfloating, hx⟩ := bind_eq_ok.1 hx
  have hasked := objectIsFloating_gains hn hl p hfloating
  cases floating with
  | true =>
    obtain ⟨r, v', hsink, hx⟩ := bind_eq_ok.1 hx
    cases hx
    obtain ⟨answer, hg⟩ := objectRefSink_gains hn hl hsink
    exact ⟨_, _, .floatingObject hfloating, hasked.trans hg⟩
  | false =>
    cases hx
    exact ⟨_, _, .ownedObject hfloating, hasked⟩

lemma objectNone_enters (hp : p ≠ 0) (hx : Wrapper.objectNone h l p w = some (.ok o, w')) :
    ∃ handed asked, Enters h l w p (.object borrowed) false ⟨handed, asked, [o]⟩ ∧ Gains l log { asked } w w' := by
  rw [Wrapper.objectNone, if_pos hp] at hx
  obtain ⟨r, v, hcall, hx⟩ := bind_eq_ok.1 hx
  cases hx
  exact ⟨_, _, .borrowedObject, require_gains hn hl hcall (by decide)⟩

lemma variantNone_enters (hp : p ≠ 0) (hx : Wrapper.variantNone h l p w = some (.ok o, w')) :
    ∃ handed asked, Enters h l w p (.variant borrowed) false ⟨handed, asked, [o]⟩ ∧ Gains l log { asked } w w' := by
  rw [Wrapper.variantNone, if_pos hp] at hx
  obtain ⟨r, v, hsink, hx⟩ := bind_eq_ok.1 hx
  cases hx
  obtain ⟨answer, hg⟩ := variantRefSink_gains hn hl hsink
  exact ⟨_, _, .borrowedVariant, hg⟩

/-- A struct is adopted or copied by the identifier of its type. -/
lemma boxed_enters (hp : p ≠ 0) {inner : String} {lib : Option String} {id : TypeId} {v : World S}
    (hid : boxedTypeId h inner lib w = some (.ok id, v)) (hasked : Gains l log {} w v)
    (hx : (if transfer then pure (Wrapper.boxedFull p id) else Wrapper.boxedNone h l p id) v = some (.ok o, w')) :
    ∃ handed asked, Enters h l w p (.boxed borrowed inner lib) transfer ⟨handed, asked, [o]⟩ ∧
      Gains l log { asked } w w' := by
  by_cases hzero : id = 0
  · subst hzero
    have hmade : (if transfer then pure (Wrapper.boxedFull p 0) else Wrapper.boxedNone h l p 0 : Eff S Wrapper) =
        pure (.boxed p 0 .none) := by
      cases transfer <;> simp [Wrapper.boxedFull, Wrapper.boxedNone]
    rw [hmade] at hx
    cases hx
    exact ⟨_, _, .unknownBoxed hid, hasked⟩
  · cases transfer with
    | true =>
      rw [if_pos rfl, Wrapper.boxedFull, if_pos hzero] at hx
      cases hx
      exact ⟨_, _, .ownedBoxed hid hzero, hasked⟩
    | false =>
      rw [if_neg Bool.false_ne_true, Wrapper.boxedNone, if_pos ⟨hp, hzero⟩] at hx
      obtain ⟨copy, v', hcall, hx⟩ := bind_eq_ok.1 hx
      cases hx
      exact ⟨_, _, .borrowedBoxed hid hzero, hasked.trans (require_gains hn hl hcall (by decide))⟩

lemma wrapperFor_enters (hw : w.lifecycle? = some l) (hp : p ≠ 0) (ht : type.isObjectLike)
    (hx : wrapperFor h l p type transfer w = some (.ok o, w')) :
    ∃ handed asked, Enters h l w p type transfer ⟨handed, asked, [o]⟩ ∧ Gains l log { asked } w w' := by
  cases type with
  | object borrowed =>
    cases transfer with
    | true => exact objectFull_enters hn hl hp hx
    | false => exact objectNone_enters hn hl hp hx
  | boxed borrowed inner lib =>
    obtain ⟨id, v, hid, hx⟩ := bind_eq_ok.1 hx
    exact boxed_enters hn hl hp hid (boxedTypeId_gains hn hl hw hid) hx
  | variant borrowed =>
    cases transfer with
    | true =>
      cases hx
      exact ⟨_, _, .ownedVariant, .nothing _⟩
    | false => exact variantNone_enters hn hl hp hx
  | _ => cases ht

lemma wrapObject_enters (hw : w.lifecycle? = some l) (hp : p ≠ 0) (ht : type.isObjectLike) {x : Value}
    (hx : wrapObject h p type transfer w = some (.ok x, w')) :
    ∃ k e, x = .object (some k) ∧ Enters h l w p type transfer e ∧ Gains l log e w w' := by
  rw [wrapObject_eq h hp, bind_ok (currentLifecycle_of hw)] at hx
  obtain ⟨o, v, ho, hx⟩ := bind_eq_ok.1 hx
  obtain ⟨k, u, hk, hx⟩ := bind_eq_ok.1 hx
  obtain ⟨rfl, rfl⟩ : x = .object (some k) ∧ w' = u := by
    cases hx
    exact ⟨rfl, rfl⟩
  obtain ⟨handed, asked, he, hg⟩ := wrapperFor_enters hn hl hw hp ht ho
  refine ⟨k, _, rfl, he, ?_⟩
  have hwrap : Gains l log { entered := [o] } v w' := wrap_gains (hg.lifecycle.trans hw) hk
  simpa [Uptake.append_def] using (hg.trans hwrap).handed handed

end

/-! ### Strings and containers -/

/-- The script's copy of a string; null for a null pointer. -/
def stringAt (w : World S) (p : Address) : Value := if p = 0 then .null else .string (w.heap.loadString p)

/-- What there is where there is no pointer. -/
def Descriptor.absent : Descriptor → Value
  | .array .. => .array []
  | .undefined => .undefined
  | _ => .null

/-- How an item of a container is taken up: as borrowed, since it stays with the container. -/
inductive ItemEnters (h : Host S) (l : Lifecycle) (type : Descriptor) (w : World S) (d : Nat) :
    Value → Uptake → Prop where
  | string {borrowed : Bool} (string : type = .string borrowed) : ItemEnters h l type w d (stringAt w d) {}
  | int {size : Nat} {signed : Bool} (int : type = .int size signed) :
      ItemEnters h l type w d (.ofInt (IntKind.int64.ofWord d)) {}
  | null (object : type.isObjectLike) (null : d = 0) : ItemEnters h l type w d .null {}
  | object {k : Handle} {e : Uptake} (object : type.isObjectLike) (given : d ≠ 0)
      (enters : Enters h l w d type false e) : ItemEnters h l type w d (.object (some k)) e

/-- What a list or an array of pointers holds. -/
def ListKind.contents : ListKind → Heap → Address → List Nat
  | .array, heap, p => heap.wordsUntilZero heap.bound p
  | _, heap, p => heap.listData heap.bound p

/-- The function that a container goes with. -/
def ListKind.freedBy : ListKind → Descriptor → LifecycleRole
  | .list, _ => .listFree
  | .slist, _ => .slistFree
  | .array, .string _ => .strfreev
  | .array, _ => .free

/-- How a pointer that native code returned or left in a slot is taken up. -/
inductive PointerEnters (h : Host S) (l : Lifecycle) (log : S.Native → CallLog) (w : World S) (p : Address) :
    Descriptor → Bool → Value → Uptake → Prop where
  | nothing {type : Descriptor} {transfer : Bool} (nothing : p = 0 ∨ type = .null ∨ type = .undefined) :
      PointerEnters h l log w p type transfer type.absent {}
  | borrowedString {borrowed : Bool} (given : p ≠ 0) :
      PointerEnters h l log w p (.string borrowed) false (.string (w.heap.loadString p)) {}
  /-- a transferred string is freed once, after it has been copied -/
  | ownedString {borrowed : Bool} {r : Nat} (given : p ≠ 0) :
      PointerEnters h l log w p (.string borrowed) true (.string (w.heap.loadString p))
        ⟨[.memory p], [⟨.free, [p], r⟩], []⟩
  | object {type : Descriptor} {transfer : Bool} {k : Handle} {e : Uptake} (object : type.isObjectLike)
      (given : p ≠ 0) (enters : Enters h l w p type transfer e) :
      PointerEnters h l log w p type transfer (.object (some k)) e
  | borrowedArray {item : Descriptor} {kind : ListKind} {borrowed : Bool} {items : List Value} {e : Uptake}
      {w' : World S} (given : p ≠ 0)
      (enter : InTurn l log (ItemEnters h l item) (kind.contents w.heap p) items e w w') :
      PointerEnters h l log w p (.array item kind borrowed) false (.array items) e
  /-- a transferred container goes once, after its items have been read -/
  | ownedArray {item : Descriptor} {kind : ListKind} {borrowed : Bool} {items : List Value} {e : Uptake}
      {w' : World S} {r : Nat} (given : p ≠ 0)
      (enter : InTurn l log (ItemEnters h l item) (kind.contents w.heap p) items e w w') :
      PointerEnters h l log w p (.array item kind borrowed) true (.array items)
        (e ++ ⟨[.memory p], [⟨kind.freedBy item, [p], r⟩], []⟩)

section

variable {h : Host S} {l : Lifecycle} {log : S.Native → CallLog} {p : Address} {type item : Descriptor}
  {transfer : Bool} {x : Value} {e : Uptake} {w w' : World S}

lemma ItemEnters.balanced {d : Nat} (he : ItemEnters h l type w d x e) : e.Balanced := by
  cases he with
  | object _ _ enters => exact enters.balanced
  | _ => exact Uptake.balanced_nothing

lemma balanced_freed (kind : ListKind) (item : Descriptor) (p : Address) (r : Nat) :
    Uptake.Balanced ⟨[.memory p], [⟨kind.freedBy item, [p], r⟩], []⟩ := by
  unfold ListKind.freedBy
  split <;> exact Uptake.balanced_memory rfl rfl

lemma PointerEnters.balanced (he : PointerEnters h l log w p type transfer x e) : e.Balanced := by
  cases he with
  | object _ _ enters => exact enters.balanced
  | borrowedArray _ enter => exact enter.balanced fun _ _ _ _ => ItemEnters.balanced
  | ownedArray _ enter => exact (enter.balanced fun _ _ _ _ => ItemEnters.balanced).append (balanced_freed _ _ _ _)
  | ownedString => exact Uptake.balanced_memory rfl rfl
  | _ => exact Uptake.balanced_nothing

lemma copyString_apply (w : World S) (p : Address) : copyString p w = some (.ok (stringAt w p), w) := by
  by_cases hp : p = 0 <;> simp [copyString, stringAt, hp, Memory.loadString, bind_apply, map_apply, Except.map]

variable (hn : ∀ a call words, NativeCode call (h.run a call words)) (hl : l.Logs h log)

include hn hl

lemma itemFromPointer_enters (hw : w.lifecycle? = some l) {d : Nat}
    (hx : itemFromPointer h d item w = some (.ok x, w')) :
    ∃ e, ItemEnters h l item w d x e ∧ Gains l log e w w' := by
  have object (hi : item.isObjectLike) (hx : wrapObject h d item false w = some (.ok x, w')) :
      ∃ e, ItemEnters h l item w d x e ∧ Gains l log e w w' := by
    by_cases hd : d = 0
    · rw [wrapObject, if_pos hd] at hx
      cases hx
      exact ⟨{}, .null hi hd, .nothing _⟩
    · obtain ⟨k, e, rfl, he, hg⟩ := wrapObject_enters hn hl hw hd hi hx
      exact ⟨e, .object hi hd he, hg⟩
  cases item with
  | string borrowed =>
    rw [itemFromPointer, copyString_apply] at hx
    cases hx
    exact ⟨{}, .string rfl, .nothing _⟩
  | int size signed =>
    cases hx
    exact ⟨{}, .int rfl, .nothing _⟩
  | object | boxed | variant => exact object rfl hx
  | _ => cases hx

/-- A container is read first, and then freed by its own function if it was transferred. -/
lemma container_enters {kind : ListKind} {borrowed : Bool} {free : Eff S Unit} (hw : w.lifecycle? = some l) (hp : p ≠ 0)
    (hfree : ∀ w w', free w = some (.ok (), w') →
      ∃ r, Gains l log ⟨[.memory p], [⟨kind.freedBy item, [p], r⟩], []⟩ w w')
    (hx : (do
      let items ← Eff.collect (itemFromPointer h · item) (kind.contents w.heap p)
      if transfer then free
      return .array items : Eff S Value) w = some (.ok x, w')) :
    ∃ e, PointerEnters h l log w p (.array item kind borrowed) transfer x e ∧ Gains l log e w w' := by
  obtain ⟨items, v, hitems, hx⟩ := bind_eq_ok.1 hx
  obtain ⟨e, he⟩ := InTurn.of_collect (f := (itemFromPointer h · item))
    (fun _ _ _ _ _ hsame _ hx => itemFromPointer_enters hn hl (hsame.trans hw) hx) hitems
  cases transfer with
  | true =>
    obtain ⟨⟨⟩, v', hfreed, hx⟩ := bind_eq_ok.1 hx
    cases hx
    obtain ⟨r, hg⟩ := hfree _ _ hfreed
    exact ⟨_, .ownedArray hp he, he.gains.trans hg⟩
  | false =>
    cases hx
    exact ⟨_, .borrowedArray hp he, he.gains⟩

lemma arrayFromPointer_enters {kind : ListKind} {borrowed : Bool} (hw : w.lifecycle? = some l)
    (hx : arrayFromPointer h p item kind transfer w = some (.ok x, w')) :
    ∃ e, PointerEnters h l log w p (.array item kind borrowed) transfer x e ∧ Gains l log e w w' := by
  unfold arrayFromPointer at hx
  by_cases hp : p = 0
  · rw [if_pos hp] at hx
    cases hx
    exact ⟨{}, .nothing (.inl hp), .nothing _⟩
  rw [if_neg hp] at hx
  cases kind with
  | list =>
    rw [if_pos (by decide), listFromPointer, bind_ok (currentLifecycle_of hw), bind_ok (get_apply w)] at hx
    exact container_enters hn hl hw hp (fun _ _ => listFree_gains hn hl) hx
  | slist =>
    rw [if_pos (by decide), listFromPointer, bind_ok (currentLifecycle_of hw), bind_ok (get_apply w)] at hx
    exact container_enters hn hl hw hp (fun _ _ => slistFree_gains hn hl) hx
  | array =>
    rw [if_neg (by decide)] at hx
    cases item with
    | string =>
      change pointersFromPointer h p _ transfer w = _ at hx
      rw [pointersFromPointer, bind_ok (currentLifecycle_of hw), bind_ok (get_apply w)] at hx
      exact container_enters hn hl hw hp (fun _ _ => strfreev_gains hn hl hp) hx
    | object | boxed | variant =>
      change pointersFromPointer h p _ transfer w = _ at hx
      rw [pointersFromPointer, bind_ok (currentLifecycle_of hw), bind_ok (get_apply w)] at hx
      exact container_enters hn hl hw hp (fun _ _ => free_gains hn hl) hx
    | _ => cases hx

lemma fromPointer_enters (hw : w.lifecycle? = some l) (hx : fromPointer h p type transfer w = some (.ok x, w')) :
    ∃ e, PointerEnters h l log w p type transfer x e ∧ Gains l log e w w' := by
  have object (ht : type.isObjectLike) (habsent : type.absent = .null)
      (hx : wrapObject h p type transfer w = some (.ok x, w')) :
      ∃ e, PointerEnters h l log w p type transfer x e ∧ Gains l log e w w' := by
    by_cases hp : p = 0
    · rw [wrapObject, if_pos hp] at hx
      cases hx
      exact ⟨{}, habsent ▸ .nothing (.inl hp), .nothing _⟩
    · obtain ⟨k, e, rfl, he, hg⟩ := wrapObject_enters hn hl hw hp ht hx
      exact ⟨e, .object ht hp he, hg⟩
  cases type with
  | null =>
    cases hx
    exact ⟨{}, .nothing (.inr (.inl rfl)), .nothing _⟩
  | undefined =>
    cases hx
    exact ⟨{}, .nothing (.inr (.inr rfl)), .nothing _⟩
  | string borrowed =>
    simp only [fromPointer] at hx
    rw [bind_ok (copyString_apply w p)] at hx
    by_cases hp : p = 0
    · rw [if_neg fun h => h.2 hp] at hx
      cases hx
      refine ⟨{}, ?_, .nothing _⟩
      rw [stringAt, if_pos hp]
      exact .nothing (.inl hp)
    rw [stringAt, if_neg hp] at hx
    cases transfer with
    | true =>
      rw [if_pos ⟨rfl, hp⟩, bind_ok (currentLifecycle_of hw)] at hx
      obtain ⟨⟨⟩, v, hfree, hx⟩ := bind_eq_ok.1 hx
      cases hx
      obtain ⟨r, hg⟩ := free_gains hn hl hfree
      exact ⟨_, .ownedString hp, hg⟩
    | false =>
      rw [if_neg fun h => Bool.false_ne_true h.1] at hx
      cases hx
      exact ⟨{}, .borrowedString hp, .nothing _⟩
  | object | boxed | variant => exact object rfl rfl hx
  | array item kind borrowed => exact arrayFromPointer_enters hn hl hw hx
  | _ => cases hx

end

end NativeBridge
