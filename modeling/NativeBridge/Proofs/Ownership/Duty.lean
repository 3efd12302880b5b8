import NativeBridge.Object.Ownership
import NativeBridge.Proofs.Evolution.Housekeeping

/-!
What a wrapper owes the native side for what it holds, and a ledger of what the native side was asked for and got back.
Where the functions of a lifecycle keep such a ledger, a wrapper takes one entry as it comes to hold something, and
gives that entry back as it goes.
-/

namespace NativeBridge

/-- What is to be given back for a pointer. -/
inductive Duty where
  /-- a reference to a counted object -/
  | reference (p : Address)
  /-- a reference to a counted variant -/
  | share (p : Address)
  /-- a struct of a type -/
  | struct (type : TypeId) (p : Address)
  | memory (p : Address)
  deriving DecidableEq, Repr

namespace Duty

def pointer : Duty → Address
  | reference p | share p | struct _ p | memory p => p

/-- A reference, or a struct whose type is known. -/
def Native : Duty → Prop
  | reference _ | share _ => True
  | struct type _ => type ≠ 0
  | memory _ => False

end Duty

/-- The duty of a wrapper. -/
def Wrapper.duty? : Wrapper → Option Duty
  | object p => if p = 0 then none else some (.reference p)
  | variant p => if p = 0 then none else some (.share p)
  | boxed p type release =>
    if p = 0 then none
    else
      match release with
      | .boxedFree => some (.struct type p)
      | .memFree => some (.memory p)
      | .none => none

lemma Wrapper.pointer_emptied (o : Wrapper) : o.emptied.pointer = 0 := by
  cases o <;> rfl

lemma Wrapper.duty?_emptied (o : Wrapper) : o.emptied.duty? = none := by
  cases o <;> rfl

lemma Wrapper.duty?_of_null {o : Wrapper} (hp : o.pointer = 0) : o.duty? = none := by
  cases o <;> exact if_pos hp

lemma Wrapper.pointer_of_duty? {o : Wrapper} {d : Duty} (h : o.duty? = some d) :
    d.pointer = o.pointer ∧ o.pointer ≠ 0 := by
  have hnull : o.pointer ≠ 0 := fun hnull => by simp [duty?_of_null hnull] at h
  refine ⟨?_, hnull⟩
  cases o with
  | object p | variant p =>
    have hp : p ≠ 0 := hnull
    rw [duty?, if_neg hp] at h
    cases h
    rfl
  | boxed p type release =>
    have hp : p ≠ 0 := hnull
    simp only [duty?, if_neg hp] at h
    cases release <;> cases h <;> rfl

/-- What was acquired through native functions and what was given back, and the objects whose reference is floating. -/
structure Ledger where
  acquired : List Duty := []
  released : List Duty := []
  floating : List Address := []

namespace Ledger

def acquire (g : Ledger) (d : Duty) : Ledger := { g with acquired := d :: g.acquired }

def release (g : Ledger) (d : Duty) : Ledger := { g with released := d :: g.released }

/-- Releases one after the other acquire nothing. -/
lemma foldl_release (g : Ledger) (ds : List Duty) : (ds.foldl release g).acquired = g.acquired ∧
    (ds.foldl release g).released = ds.reverse ++ g.released := by
  induction ds generalizing g with
  | nil => exact ⟨rfl, rfl⟩
  | cons d ds ih =>
    obtain ⟨hacquired, hreleased⟩ := ih (g.release d)
    exact ⟨hacquired, by rw [List.foldl_cons, hreleased]; simp [release]⟩

/-- Takes the floating reference, or one more where there is none. -/
def sink (g : Ledger) (p : Address) : Ledger :=
  if p ∈ g.floating then { g with floating := g.floating.filter (· != p) } else g.acquire (.reference p)

end Ledger

variable {S : Sides}

open Eff

/-! ### Functions that keep a ledger -/

namespace Lifecycle

variable (h : Host S) (l : Lifecycle) (ledger : S.Native → Ledger)

/-- Where a role has a function, it ends, and this becomes of the ledger. -/
def Records (role : LifecycleRole) (words : List Nat) (change : Nat → Ledger → Ledger) : Prop :=
  ∀ a, l.bound role = some a → ∀ w : World S, ∃ r w',
    h.run a (fun _ _ => stuck) { ints := words } w = some (.ok r, w') ∧
      ledger w'.native = change r.int (ledger w.native)

/-- References, structs and memory can be given back, and the functions for them keep the ledger. -/
structure Keeps : Prop where
  bound : ∀ role ∈ [LifecycleRole.objectRef, .objectUnref, .variantRef, .variantUnref, .boxedCopy, .boxedFree, .free],
    l.bound role ≠ none
  objectRef : ∀ p, Records h l ledger .objectRef [p] fun _ g => g.acquire (.reference p)
  objectUnref : ∀ p, Records h l ledger .objectUnref [p] fun _ g => g.release (.reference p)
  objectRefSink : ∀ p, Records h l ledger .objectRefSink [p] fun _ g => g.sink p
  objectIsFloating : ∀ a, l.bound .objectIsFloating = some a → ∀ p (w : World S), ∃ r w',
    h.run a (fun _ _ => stuck) { ints := [p] } w = some (.ok r, w') ∧ ledger w'.native = ledger w.native ∧
      (Width.w32.low r.int ≠ 0 ↔ p ∈ (ledger w.native).floating)
  variantRef : ∀ p, Records h l ledger .variantRef [p] fun _ g => g.acquire (.share p)
  variantRefSink : ∀ p, Records h l ledger .variantRefSink [p] fun _ g => g.acquire (.share p)
  variantUnref : ∀ p, Records h l ledger .variantUnref [p] fun _ g => g.release (.share p)
  boxedCopy : ∀ type p, Records h l ledger .boxedCopy [type, p] fun copy g => g.acquire (.struct type copy)
  boxedFree : ∀ type p, Records h l ledger .boxedFree [type, p] fun _ g => g.release (.struct type p)
  free : ∀ p, Records h l ledger .free [p] fun _ g => g.release (.memory p)
  alloc0 : ∀ size, Records h l ledger .alloc0 [size] fun _ g => g

variable {h l ledger} {role : LifecycleRole} {words : List Nat} {change : Nat → Ledger → Ledger}

lemma call?_of_records (hr : Records h l ledger role words change) (hb : l.bound role ≠ none) (w : World S) :
    ∃ r w', call? h l role words w = some (.ok (some r), w') ∧ ledger w'.native = change r (ledger w.native) := by
  obtain ⟨a, ha⟩ := Option.ne_none_iff_exists'.1 hb
  obtain ⟨r, w', hx, hg⟩ := hr a ha w
  exact ⟨r.int, w', call?_of_run ha hx, hg⟩

lemma require_of_records (hr : Records h l ledger role words change) (hb : l.bound role ≠ none) (need : LifecycleNeed)
    (w : World S) :
    ∃ r w', require h l role need words w = some (.ok r, w') ∧ ledger w'.native = change r (ledger w.native) := by
  obtain ⟨r, w', hx, hg⟩ := call?_of_records hr hb w
  exact ⟨r, w', bind_ok hx, hg⟩

/-- A call that gives back what is owed. -/
lemma gives_back {d : Duty} {k : Option Nat → Eff S Unit} (hend : ∀ r, k (some r) = pure ())
    (hr : Records h l ledger role words fun _ g => g.release d) (hb : l.bound role ≠ none) (w : World S) :
    ∃ w', (call? h l role words >>= k) w = some (.ok (), w') ∧ ledger w'.native = (ledger w.native).release d := by
  obtain ⟨r, w', hx, hg⟩ := call?_of_records hr hb w
  exact ⟨w', by rw [bind_ok hx, hend]; rfl, hg⟩

namespace Keeps

variable (hk : l.Keeps h ledger)

include hk

/-- Nothing is taken for floating that is not, whether or not there is a function that knows. -/
lemma asks_floating (p : Address) (w : World S) :
    ∃ b w', l.objectIsFloating h p w = some (.ok b, w') ∧ ledger w'.native = ledger w.native ∧
      (b → p ∈ (ledger w.native).floating) := by
  by_cases hb : l.bound .objectIsFloating = none
  · exact ⟨_, w, bind_ok (call?_of_none hb w), rfl, by simp [Width.low]⟩
  · obtain ⟨a, ha⟩ := Option.ne_none_iff_exists'.1 hb
    obtain ⟨r, w', hx, hg, hfloating⟩ := hk.objectIsFloating a ha p w
    exact ⟨_, w', bind_ok (call?_of_run ha hx), hg, fun hlow => hfloating.1 (by simpa using hlow)⟩

lemma sinks_floating {p : Address} {w : World S} (hf : p ∈ (ledger w.native).floating) :
    ∃ r w', l.objectRefSink h p w = some (.ok r, w') ∧ (ledger w'.native).released = (ledger w.native).released ∧
      (ledger w'.native).acquired = (ledger w.native).acquired := by
  by_cases hb : l.bound .objectRefSink = none
  · exact ⟨_, w, bind_ok (call?_of_none hb w), rfl, rfl⟩
  · obtain ⟨r, w', hx, hg⟩ := call?_of_records (hk.objectRefSink p) hb w
    rw [Ledger.sink, if_pos hf] at hg
    exact ⟨_, w', bind_ok hx, by rw [hg], by rw [hg]⟩

/-- A variant is sunk, or one more reference is acquired where none can be. -/
lemma acquires_share (p : Address) (w : World S) :
    ∃ r w', l.variantRefSink h p w = some (.ok r, w') ∧ ledger w'.native = (ledger w.native).acquire (.share p) := by
  by_cases hb : l.bound .variantRefSink = none
  · obtain ⟨r, w', hx, hg⟩ := require_of_records (hk.variantRef p) (hk.bound _ (by simp)) .variantRef w
    exact ⟨r, w', (bind_ok (call?_of_none hb w)).trans hx, hg⟩
  · obtain ⟨r, w', hx, hg⟩ := call?_of_records (hk.variantRefSink p) hb w
    exact ⟨r, w', bind_ok hx, hg⟩

lemma allocates (size : Nat) (w : World S) :
    ∃ p w', l.alloc0 h size w = some (.ok p, w') ∧ ledger w'.native = ledger w.native := by
  by_cases hb : l.bound .alloc0 = none
  · exact ⟨_, _, bind_ok (call?_of_none hb w), rfl⟩
  · obtain ⟨r, w', hx, hg⟩ := call?_of_records (hk.alloc0 size) hb w
    exact ⟨r, w', bind_ok hx, hg⟩

end Keeps

end Lifecycle

/-! ### Wrappers that go -/

section

variable {h : Host S} {l : Lifecycle} {ledger : S.Native → Ledger}

namespace Wrapper

lemma drop_of_null {o : Wrapper} (hp : o.pointer = 0) : (o.drop h l : Eff S Unit) = pure () := by
  cases o <;> exact if_pos hp

/-- A wrapper that goes gives back what it owes, and nothing else. -/
lemma drop_releases (hk : l.Keeps h ledger) (o : Wrapper) (w : World S) :
    ∃ w', o.drop h l w = some (.ok (), w') ∧
      ledger w'.native = o.duty?.toList.foldl Ledger.release (ledger w.native) := by
  by_cases hnull : o.pointer = 0
  · exact ⟨w, by rw [drop_of_null hnull]; rfl, by rw [duty?_of_null hnull]; rfl⟩
  cases o with
  | object p =>
    have hp : p ≠ 0 := hnull
    rw [drop, duty?, if_neg hp, if_neg hp]
    exact Lifecycle.gives_back (fun _ => rfl) (hk.objectUnref p) (hk.bound _ (by simp)) w
  | variant p =>
    have hp : p ≠ 0 := hnull
    rw [drop, duty?, if_neg hp, if_neg hp]
    exact Lifecycle.gives_back (fun _ => rfl) (hk.variantUnref p) (hk.bound _ (by simp)) w
  | boxed p type release =>
    have hp : p ≠ 0 := hnull
    simp only [drop, duty?, if_neg hp]
    cases release with
    | none => exact ⟨w, rfl, rfl⟩
    | boxedFree => exact Lifecycle.gives_back (fun _ => rfl) (hk.boxedFree type p) (hk.bound _ (by simp)) w
    | memFree => exact Lifecycle.gives_back (fun _ => rfl) (hk.free p) (hk.bound _ (by simp)) w

end Wrapper

end

/-! ### Wrappers that come to hold something -/

/-- How a wrapper comes to hold something. What is transferred is handed over with a reference. -/
inductive Source where
  | objectNone (p : Address)
  | objectFull (p : Address)
  | variantNone (p : Address)
  | variantFull (p : Address)
  | boxedNone (p : Address) (type : TypeId)
  | boxedFull (p : Address) (type : TypeId)
  | boxedAlloc (size : Nat) (type : TypeId)

namespace Source

def wrap (h : Host S) (l : Lifecycle) : Source → Eff S Wrapper
  | objectNone p => Wrapper.objectNone h l p
  | objectFull p => Wrapper.objectFull h l p
  | variantNone p => Wrapper.variantNone h l p
  | variantFull p => return Wrapper.variantFull p
  | boxedNone p type => Wrapper.boxedNone h l p type
  | boxedFull p type => return Wrapper.boxedFull p type
  | boxedAlloc size type => Wrapper.boxedAlloc h l size type

/-- What is adopted: the reference that is handed over, or a struct unless its type is unknown. -/
def adopted : Source → List Duty
  | objectFull p => [.reference p]
  | variantFull p => [.share p]
  | boxedFull p type => if type ≠ 0 then [.struct type p] else []
  | _ => []

/-- The memory that was allocated for the wrapper. -/
def allotted (o : Wrapper) : Source → List Address
  | boxedAlloc .. => [o.pointer]
  | _ => []

/-- What the wrapper holds that comes from a source: the pointer, a copy of the struct, or new memory. -/
def Holds (o : Wrapper) : Source → Prop
  | objectNone p | objectFull p => o = .object p
  | variantNone p | variantFull p => o = .variant p
  | boxedNone p type =>
    if p ≠ 0 ∧ type ≠ 0 then ∃ copy, o = .boxed copy type .boxedFree else o = .boxed p type .none
  | boxedFull p type => o = .boxed p type (if type = 0 then .none else .boxedFree)
  | boxedAlloc _ type => ∃ p, o = .boxed p type .memFree

/-- What a wrapper comes to owe was acquired for it, adopted or allocated. -/
structure Fair (g g' : Ledger) (src : Source) (o : Wrapper) : Prop where
  released : g'.released = g.released
  acquired : ∃ new, g'.acquired = new ++ g.acquired ∧ (∀ d ∈ new, d.Native) ∧ ∀ P : Duty → Bool,
    (∀ d, P d → d.pointer ≠ 0) →
      new.countP P + src.adopted.countP P + ((src.allotted o).map Duty.memory).countP P = o.duty?.toList.countP P

variable {h : Host S} {l : Lifecycle} {ledger : S.Native → Ledger}

/-- A wrapper that holds nothing. -/
lemma Fair.nothing (g : Ledger) {src : Source} {o : Wrapper} (ho : o.duty? = none)
    (ha : ∀ d ∈ src.adopted, d.pointer = 0) (hm : ∀ p ∈ src.allotted o, p = 0) : Fair g g src o := by
  refine ⟨rfl, [], rfl, by simp, fun P hP => ?_⟩
  have hadopted : src.adopted.countP P = 0 := List.countP_eq_zero.2 fun d hd hPd => hP d hPd (ha d hd)
  have hallotted : ((src.allotted o).map Duty.memory).countP P = 0 := by
    refine List.countP_eq_zero.2 fun d hd hPd => ?_
    obtain ⟨p, hp, rfl⟩ := List.mem_map.1 hd
    exact hP _ hPd (hm p hp)
  rw [ho, hadopted, hallotted]
  rfl

/-- A wrapper with what was acquired for it. -/
lemma Fair.acquired_one {g g' : Ledger} {src : Source} {o : Wrapper} {d : Duty} (hg : g' = g.acquire d) (hd : d.Native)
    (ho : o.duty? = if d.pointer = 0 then none else some d) (ha : src.adopted = []) (hm : src.allotted o = []) :
    Fair g g' src o := by
  subst hg
  refine ⟨rfl, [d], rfl, by simpa using hd, fun P hP => ?_⟩
  rw [ho, ha, hm]
  by_cases hp : d.pointer = 0
  · have hPd : ¬P d := fun hPd => hP d hPd hp
    simp [hp, hPd]
  · simp [hp]

/-- A wrapper with what was handed over for it. -/
lemma Fair.handed_over {g g' : Ledger} {src : Source} {o : Wrapper} (hr : g'.released = g.released)
    (hg : g'.acquired = g.acquired) (ho : src.adopted ++ (src.allotted o).map Duty.memory = o.duty?.toList) :
    Fair g g' src o := by
  refine ⟨hr, [], hg, by simp, fun P _ => ?_⟩
  rw [← ho, List.countP_append, List.countP_nil, Nat.zero_add]

lemma objectNone_fair (hk : l.Keeps h ledger) (p : Address) (w : World S) :
    ∃ o w', wrap h l (.objectNone p) w = some (.ok o, w') ∧
      Fair (ledger w.native) (ledger w'.native) (.objectNone p) o ∧ Holds o (.objectNone p) := by
  by_cases hp : p = 0
  · exact ⟨.object p, w, by simp [wrap, Wrapper.objectNone, hp], .nothing _ (if_pos hp) (by simp [adopted])
      (by simp [allotted]), rfl⟩
  · obtain ⟨r, w', hx, hg⟩ := Lifecycle.require_of_records (hk.objectRef p) (hk.bound _ (by simp)) .objectRef w
    refine ⟨.object p, w', ?_, .acquired_one hg trivial rfl rfl rfl, rfl⟩
    simp only [wrap, Wrapper.objectNone]
    rw [if_pos hp]
    exact bind_ok hx

lemma variantNone_fair (hk : l.Keeps h ledger) (p : Address) (w : World S) :
    ∃ o w', wrap h l (.variantNone p) w = some (.ok o, w') ∧
      Fair (ledger w.native) (ledger w'.native) (.variantNone p) o ∧ Holds o (.variantNone p) := by
  by_cases hp : p = 0
  · exact ⟨.variant p, w, by simp [wrap, Wrapper.variantNone, hp], .nothing _ (if_pos hp) (by simp [adopted])
      (by simp [allotted]), rfl⟩
  · obtain ⟨r, w', hx, hg⟩ := hk.acquires_share p w
    refine ⟨.variant p, w', ?_, .acquired_one hg trivial rfl rfl rfl, rfl⟩
    simp only [wrap, Wrapper.variantNone]
    rw [if_pos hp]
    exact bind_ok hx

/-- A floating reference that is handed over is sunk, which acquires nothing. -/
lemma objectFull_fair (hk : l.Keeps h ledger) (p : Address) (w : World S) :
    ∃ o w', wrap h l (.objectFull p) w = some (.ok o, w') ∧
      Fair (ledger w.native) (ledger w'.native) (.objectFull p) o ∧ Holds o (.objectFull p) := by
  by_cases hp : p = 0
  · exact ⟨.object p, w, by simp [wrap, Wrapper.objectFull, hp],
      .nothing _ (if_pos hp) (by simp [adopted, Duty.pointer, hp]) (by simp [allotted]), rfl⟩
  · obtain ⟨b, w₁, h₁, hg₁, hfloating⟩ := hk.asks_floating p w
    have hduty : adopted (.objectFull p) ++ (allotted (.object p) (.objectFull p)).map Duty.memory =
        (Wrapper.object p).duty?.toList := by
      simp [adopted, allotted, Wrapper.duty?, hp]
    have hrun : wrap h l (.objectFull p) w =
        (do
          if b then
            let _ ← l.objectRefSink h p
          return .object p : Eff S Wrapper) w₁ := by
      simp only [wrap, Wrapper.objectFull]
      rw [if_pos hp]
      exact bind_ok h₁
    cases b with
    | false =>
      exact ⟨.object p, w₁, hrun, .handed_over (by rw [hg₁]) (by rw [hg₁]) hduty, rfl⟩
    | true =>
      have hf : p ∈ (ledger w₁.native).floating := hg₁ ▸ hfloating rfl
      obtain ⟨r, w₂, h₂, hr, hg⟩ := hk.sinks_floating hf
      exact ⟨.object p, w₂, hrun.trans (bind_ok h₂), .handed_over (hg₁ ▸ hr) (hg₁ ▸ hg) hduty, rfl⟩

lemma boxedNone_fair (hk : l.Keeps h ledger) (p : Address) (type : TypeId) (w : World S) :
    ∃ o w', wrap h l (.boxedNone p type) w = some (.ok o, w') ∧
      Fair (ledger w.native) (ledger w'.native) (.boxedNone p type) o ∧ Holds o (.boxedNone p type) := by
  by_cases hp : p ≠ 0 ∧ type ≠ 0
  · obtain ⟨copy, w', hx, hg⟩ :=
      Lifecycle.require_of_records (hk.boxedCopy type p) (hk.bound _ (by simp)) .boxedCopy w
    refine ⟨.boxed copy type .boxedFree, w', ?_, .acquired_one hg hp.2 rfl rfl rfl, ?_⟩
    · simp only [wrap, Wrapper.boxedNone]
      rw [if_pos hp]
      exact bind_ok hx
    · rw [Holds, if_pos hp]
      exact ⟨copy, rfl⟩
  · refine ⟨.boxed p type .none, w, ?_, .nothing _ ?_ (by simp [adopted]) (by simp [allotted]), ?_⟩
    · simp only [wrap, Wrapper.boxedNone]
      rw [if_neg hp]
      rfl
    · simp [Wrapper.duty?]
    · rw [Holds, if_neg hp]

/-- A wrapper comes to owe what was acquired for it, what it adopts and what was allocated for it, and holds that. -/
lemma wrap_fair (hk : l.Keeps h ledger) (src : Source) (w : World S) :
    ∃ o w', src.wrap h l w = some (.ok o, w') ∧ Fair (ledger w.native) (ledger w'.native) src o ∧ src.Holds o := by
  cases src with
  | objectNone p => exact objectNone_fair hk p w
  | objectFull p => exact objectFull_fair hk p w
  | variantNone p => exact variantNone_fair hk p w
  | boxedNone p type => exact boxedNone_fair hk p type w
  | variantFull p =>
    refine ⟨_, w, rfl, ?_, rfl⟩
    by_cases hp : p = 0
    · exact .nothing _ (if_pos hp) (by simp [adopted, Duty.pointer, hp]) (by simp [allotted])
    · exact .handed_over rfl rfl (by simp [adopted, allotted, Wrapper.variantFull, Wrapper.duty?, hp])
  | boxedFull p type =>
    refine ⟨_, w, rfl, ?_, by simp [Holds, Wrapper.boxedFull, ite_not]⟩
    by_cases hp : p = 0
    · refine .nothing _ (if_pos hp) (fun d hd => ?_) (by simp [allotted])
      rw [adopted] at hd
      split at hd
      · rw [List.mem_singleton.1 hd]
        exact hp
      · cases hd
    · refine .handed_over rfl rfl ?_
      by_cases ht : type = 0 <;> simp [adopted, allotted, Wrapper.boxedFull, Wrapper.duty?, hp, ht]
  | boxedAlloc size type =>
    obtain ⟨p, w', hx, hg⟩ := hk.allocates size w
    refine ⟨.boxed p type .memFree, w', bind_ok hx, ?_, p, rfl⟩
    by_cases hp : p = 0
    · rw [hg]
      exact .nothing _ (if_pos hp) (by simp [adopted]) (by simp [allotted, Wrapper.pointer, hp])
    · exact .handed_over (by rw [hg]) (by rw [hg]) (by simp [adopted, allotted, Wrapper.pointer, Wrapper.duty?, hp])

end Source

end NativeBridge
