import NativeBridge.Proofs.Descriptor.Grammar
import NativeBridge.Proofs.Native.Scalars
import NativeBridge.Proofs.Ownership.Delivery
import NativeBridge.Proofs.Unwinding.Conversion

/-!
Which values an argument accepts. Its type says what is a value of it and what may be missing; whether an object is
registered and whether the loop still runs is up to the world. Where the functions of the lifecycle are there and
return, the conversion decides just this, and a value that is not accepted leaves nothing behind.
-/

namespace NativeBridge

open Eff

variable {S : Sides}

/-! ### Values that arguments accept -/

namespace World

variable (w : World S)

/-- The value is an object that is registered. -/
def Registered (v : Value) : Prop :=
  ∃ k s, v = .object (some k) ∧ w.state = some s ∧ (s.registry.resolve k.id).isSome

/-- An item of an array accepts the value. A string is cut at its first NUL, and nothing may be missing. -/
def AcceptsItem (item : Descriptor) (v : Value) : Prop :=
  match item with
  | .int .. | .float _ => ∃ x, v = .number x
  | .boolean => ∃ b, v = .boolean b
  | .string _ => ∃ s, v = .string s
  | .object _ | .boxed .. | .variant _ => w.Registered v
  | _ => False

/-- An argument of the type accepts the value. With `optional`, an integer and a callback may be missing; a string, an
object and a reference always may. What a reference refers to is accepted as that of an optional argument. -/
def Accepts : Descriptor → Bool → Value → Prop
  | .int .., optional, v => (∃ x, v = .number x) ∨ v.isNullish ∧ optional
  | .float _, _, v => ∃ x, v = .number x
  | .boolean, _, v => ∃ b, v = .boolean b
  | .string _, _, v => v.isNullish ∨ ∃ s, v = .string s ∧ 0 ∉ s
  | .null, _, _ | .undefined, _, _ => True
  | .object _, _, v | .boxed .., _, v | .variant _, _, v => v.isNullish ∨ w.Registered v
  | .array item kind _, _, v =>
    kind = .array ∧ item.isElementary ∧ ∃ items, v = .array items ∧ ∀ x ∈ items, w.AcceptsItem item x
  | .callback kind _ _ result _ _, optional, v =>
    v.isNullish ∧ optional ∨ (∃ f, v = .callback (some f)) ∧ w.loopAlive w.generation ∧ ¬w.loop.stopped ∧
      (kind = .closure → closureReturns (result.getD .undefined))
  | .ref inner, _, v => v.isNullish ∨ ∃ c, v = .ref c ∧ inner.isElementary ∧ Accepts inner true (w.cell c)

/-- The world with one more closure. -/
def withClosure (c : Closure) : World S :=
  { w with heap := w.heap.reserve.2, closures := w.closures ++ [(w.heap.reserve.1, c)] }

/-- Nothing is different but for the addresses that memory gives out next. -/
def Untouched (w' : World S) : Prop :=
  ∃ heap : Heap, heap.blocks = w.heap.blocks ∧ w.heap.given ≤ heap.given ∧ w' = { w with heap }

end World

/-- The errors of values that are not accepted. -/
def Error.Refuses (e : Error) : Prop :=
  e.kind = .typeMismatch ∨ e.kind = .staleObject ∨ e.kind = .unsupportedType ∨ e.kind = .disconnected

/-! ### Checks -/

/-- There is a result if the condition holds, and otherwise a refusal. -/
structure Judges {α : Type} (p : Prop) (r : Except Error α) : Prop where
  accepts : p → ∃ a, r = .ok a
  refuses : ¬p → ∃ e, r = .error e ∧ e.Refuses

namespace Judges

variable {α β : Type} {p : Prop} {r : Except Error α}

lemma ok (hp : p) (a : α) : Judges p (.ok a : Except Error α) := ⟨fun _ => ⟨a, rfl⟩, fun h => absurd hp h⟩

lemma error (hp : ¬p) {e : Error} (he : e.Refuses) : Judges p (.error e : Except Error α) :=
  ⟨fun h => absurd h hp, fun _ => ⟨e, rfl, he⟩⟩

lemma bind (hr : Judges p r) {f : α → Except Error β} (hf : ∀ a, ∃ b, f a = .ok b) : Judges p (r >>= f) := by
  by_cases hp : p
  · obtain ⟨a, rfl⟩ := hr.accepts hp
    obtain ⟨b, hb⟩ := hf a
    exact ⟨fun _ => ⟨b, hb⟩, fun h => absurd hp h⟩
  · obtain ⟨e, rfl, he⟩ := hr.refuses hp
    exact .error hp he

/-- Every item is checked up to the first that is refused. -/
lemma mapM {p : β → Prop} {f : β → Except Error α} {bs : List β} (hf : ∀ b ∈ bs, Judges (p b) (f b)) :
    Judges (∀ b ∈ bs, p b) (bs.mapM f) := by
  induction bs with
  | nil => exact .ok (by simp) []
  | cons b rest ih =>
    rw [List.forall_mem_cons] at hf
    rw [List.mapM_cons]
    by_cases hb : p b
    · obtain ⟨a, ha⟩ := hf.1.accepts hb
      have hrest : Judges (∀ x ∈ b :: rest, p x) (rest.mapM f) := by simpa [hb] using ih hf.2
      rw [ha]
      exact hrest.bind fun as => ⟨a :: as, rfl⟩
    · obtain ⟨e, he, hrefuses⟩ := hf.1.refuses hb
      rw [he]
      exact .error (by simp [hb]) hrefuses

lemma asNumber (v : Value) : Judges (∃ x, v = .number x) v.asNumber := by
  cases v with
  | number x => exact .ok ⟨x, rfl⟩ x
  | _ => exact .error (by simp) (.inl rfl)

lemma asString (v : Value) : Judges (∃ s, v = .string s) v.asString := by
  cases v with
  | string s => exact .ok ⟨s, rfl⟩ s
  | _ => exact .error (by simp) (.inl rfl)

lemma asBoolean (v : Value) : Judges (∃ b, v = .boolean b) v.asBoolean := by
  cases v with
  | boolean b => exact .ok ⟨b, rfl⟩ b
  | _ => exact .error (by simp) (.inl rfl)

end Judges

/-- Work that leaves the world alone is done up to the first item that it refuses. -/
lemma Judges.collect {α β : Type} {w : World S} {p : β → Prop} {f : β → Eff S α}
    (hf : ∀ b, ∃ r, f b w = some (r, w) ∧ Judges (p b) r) (bs : List β) :
    ∃ r, Eff.collect f bs w = some (r, w) ∧ Judges (∀ b ∈ bs, p b) r := by
  induction bs with
  | nil => exact ⟨.ok [], rfl, .ok (by simp) []⟩
  | cons b rest ih =>
    obtain ⟨r, hx, hr⟩ := hf b
    by_cases hb : p b
    · obtain ⟨a, rfl⟩ := hr.accepts hb
      obtain ⟨more, hmore, hrest⟩ := ih
      have hall : Judges (∀ x ∈ b :: rest, p x) more := by simpa [hb] using hrest
      refine ⟨more.map (a :: ·), ?_, hall.bind fun as => ⟨a :: as, rfl⟩⟩
      rw [Eff.collect, bind_ok hx]
      cases more with
      | ok as => exact bind_ok hmore
      | error e => exact bind_error hmore
    · obtain ⟨e, rfl, he⟩ := hr.refuses hb
      exact ⟨.error e, bind_error hx, .error (by simp [hb]) he⟩

/-! ### Layouts -/

/-- Values of the type can be passed. -/
def Descriptor.HasLayout (type : Descriptor) : Prop := ∃ abi, type.abi = .ok abi

namespace Descriptor

lemma ofBits?_of_hasLayout {size : Nat} {signed : Bool} (hsize : (int size signed).HasLayout) :
    ∃ w, Width.ofBits? size = some w := by
  obtain ⟨abi, habi⟩ := hsize
  rw [Descriptor.abi] at habi
  rcases hw : Width.ofBits? size with _ | w
  · rw [hw] at habi
    cases habi
  · exact ⟨w, rfl⟩

lemma Denotes.hasLayout {reads : SizeReading} {j : Json} {d : Descriptor} (hd : Denotes reads j d) : d.HasLayout := by
  cases hd with
  | @int _ size _ _ hsize =>
    obtain ⟨_, _, _, hmem⟩ := hsize
    obtain ⟨w, hw⟩ := Option.ne_none_iff_exists'.1 (by simpa using width_iff.2 hmem)
    exact ⟨.int ⟨w, _⟩, by rw [abi, hw]⟩
  | _ => exact ⟨_, rfl⟩

lemma DenotesList.hasLayout {reads : SizeReading} {items : List Json} {ds : List Descriptor}
    (hds : DenotesList reads items ds) : ∀ d ∈ ds, d.HasLayout := by
  induction ds generalizing items with
  | nil => simp
  | cons d rest ih =>
    cases hds with
    | cons hhead htail => exact List.forall_mem_cons.2 ⟨hhead.hasLayout, ih htail⟩

lemma DenotesArgs.hasLayout {reads : SizeReading} {j : Option Json} {args : Option (List Descriptor)}
    (hargs : DenotesArgs reads j args) : ∀ d ∈ args.getD [], d.HasLayout := by
  cases hargs with
  | given types => exact types.hasLayout
  | _ => simp

lemma DenotesOptional.hasLayout {reads : SizeReading} {j : Option Json} {d : Option Descriptor}
    (hd : DenotesOptional reads j d) : (d.getD .undefined).HasLayout := by
  cases hd with
  | given type => exact type.hasLayout
  | _ => exact ⟨.void, rfl⟩

end Descriptor

/-- The items of an array of scalars. -/
lemma Judges.scalarItems {w : World S} {item : Descriptor} (hlayout : item.HasLayout) (hscalar : item.isScalar)
    (items : List Value) : Judges (∀ v ∈ items, w.AcceptsItem item v) (scalarItems item items) := by
  cases item with
  | int size signed =>
    obtain ⟨width, hwidth⟩ := Descriptor.ofBits?_of_hasLayout hlayout
    rw [NativeBridge.scalarItems, hwidth]
    refine .mapM fun v _ => (asNumber v).bind fun x => ?_
    exact ⟨_, by rw [Scalar.ofInteger, hwidth]⟩
  | float size => exact .mapM fun v _ => (asNumber v).bind fun x => ⟨_, rfl⟩
  | boolean => exact .mapM fun v _ => (asBoolean v).bind fun x => ⟨_, rfl⟩
  | _ => cases hscalar

/-! ### Conversions that decide -/

/-- From this world the work ends, with a value where the condition holds. Otherwise it is refused, and nothing is
touched. -/
structure Eff.Decides {α : Type} (l : Lifecycle) (w : World S) (p : Prop) (x : Eff S α) : Prop where
  accepts : p → ∃ a w', x w = some (.ok a, w') ∧ w'.lifecycle? = some l
  refuses : ¬p → ∃ e w', x w = some (.error e, w') ∧ e.Refuses ∧ w.Untouched w'

namespace World.Untouched

lemma rfl' (w : World S) : w.Untouched w := ⟨w.heap, rfl, le_rfl, rfl⟩

end World.Untouched

namespace Eff.Decides

variable {α β : Type} {l : Lifecycle} {w : World S} {p q : Prop}

lemma accept (hw : w.lifecycle? = some l) (hp : p) {x : Eff S α} (hx : Delivers l x) : Decides l w p x :=
  ⟨fun _ => hx w hw, fun h => absurd hp h⟩

lemma refuse (hp : ¬p) {x : Eff S α} {e : Error} (hx : x w = some (.error e, w)) (he : e.Refuses) : Decides l w p x :=
  ⟨fun h => absurd h hp, fun _ => ⟨e, w, hx, he, .rfl' w⟩⟩

lemma congr (hpq : p ↔ q) {x : Eff S α} (hx : Decides l w p x) : Decides l w q x :=
  ⟨fun h => hx.accepts (hpq.2 h), fun h => hx.refuses fun hp => h (hpq.1 hp)⟩

lemma of_eq {x y : Eff S α} (hxy : x w = y w) (hy : Decides l w p y) : Decides l w p x :=
  ⟨fun hp => hxy ▸ hy.accepts hp, fun hp => hxy ▸ hy.refuses hp⟩

/-- What a check lets through is delivered. -/
lemma bind {x : Eff S α} {f : α → Eff S β} (hx : Decides l w p x) (hf : ∀ a, Delivers l (f a)) :
    Decides l w p (x >>= f) := by
  refine ⟨fun hp => ?_, fun hp => ?_⟩
  · obtain ⟨a, w₁, h₁, hw₁⟩ := hx.accepts hp
    obtain ⟨b, w₂, h₂, hw₂⟩ := hf a w₁ hw₁
    exact ⟨b, w₂, (bind_ok h₁).trans h₂, hw₂⟩
  · obtain ⟨e, w₁, h₁, he⟩ := hx.refuses hp
    exact ⟨e, w₁, bind_error h₁, he⟩

lemma of_check (hw : w.lifecycle? = some l) {x : Eff S α} {r : Except Error α} (hx : x w = some (r, w))
    (hr : Judges p r) : Decides l w p x := by
  refine ⟨fun hp => ?_, fun hp => ?_⟩
  · obtain ⟨a, rfl⟩ := hr.accepts hp
    exact ⟨a, w, hx, hw⟩
  · obtain ⟨e, rfl, he⟩ := hr.refuses hp
    exact ⟨e, w, hx, he, .rfl' w⟩

lemma ofExcept (hw : w.lifecycle? = some l) {r : Except Error α} (hr : Judges p r) :
    Decides l w p (Eff.ofExcept r) :=
  of_check hw (ofExcept_apply r w) hr

end Eff.Decides

namespace Eff.Delivers

variable {α : Type} {l : Lifecycle}

lemma ofExcept {r : Except Error α} (hr : ∃ a, r = .ok a) : Delivers l (Eff.ofExcept r : Eff S α) := by
  obtain ⟨a, rfl⟩ := hr
  exact .pure a

lemma makeSlot (content : Bytes) (held : List Address) (initial : Option Address) :
    Delivers l (makeSlot content held initial : Eff S NativeValue) :=
  .bind (alloc _) fun _ => .pure _

lemma packItems (items : List Bytes) : Delivers l (packItems items : Eff S NativeValue) :=
  .ite (.pure _) (.bind (alloc _) fun _ => .pure _)

lemma grant {h : Host S} (hn : ∀ a call words, NativeCode call (h.run a call words)) (hr : l.Returns h) (p : Address)
    (type : Descriptor) : Delivers l (grant h p type) := by
  refine .currentLifecycle ?_
  cases type with
  | object | variant => exact .ite (.bind (require hn hr _ _ _) fun _ => .pure _) (.pure _)
  | boxed =>
    exact .ite (.pure _) (.bind (boxedTypeId hn hr _ _) fun _ => .ite (require hn hr _ _ _) (.pure _))
  | _ => exact .pure _

/-- Code for a closure is made, and may be kept. -/
lemma code (s : Signature) (t : Thunk) : Delivers l (do
    let thunk ← Thunk.create t
    if s.scope = .forever then
      Thunk.own thunk
      LoopState.retain (.thunk thunk)
    return .owned thunk (.code thunk) : Eff S NativeValue) := by
  have hcreate : Delivers l (Thunk.create t : Eff S Address) := fun w hw => ⟨_, _, Thunk.create_apply t w, hw⟩
  have hretain (r : Retained) : Delivers l (LoopState.retain r : Eff S Unit) :=
    .modify fun w => by cases hs : w.state <;> simp [World.lifecycle?, hs]
  refine .bind hcreate fun thunk => .ite ?_ (.pure _)
  exact .bind (.modify fun _ => rfl) fun _ => .bind (hretain _) fun _ => .pure _

end Eff.Delivers

namespace Eff.Decides

variable {l : Lifecycle} {w : World S} (hw : w.lifecycle? = some l)

include hw

/-! ### Scalars and strings -/

/-- An integer, for which zero stands where none is needed. -/
lemma number {α : Type} {missing : Bool} (v : Value) {f : Double → Eff S α} (hf : ∀ x, Delivers l (f x)) :
    Decides l w ((∃ x, v = .number x) ∨ missing)
      (if missing then pure (.ofInt 0) >>= f else Eff.ofExcept v.asNumber >>= f) := by
  cases missing with
  | true => exact .accept hw (.inr rfl) (.bind (.pure _) hf)
  | false => exact .congr (by simp) (.bind (.ofExcept hw (.asNumber v)) hf)

lemma stringToNative (v : Value) :
    Decides l w (v.isNullish ∨ ∃ s, v = .string s ∧ 0 ∉ s) (stringToNative v) := by
  cases v with
  | null | undefined => exact .accept hw (.inl rfl) (.pure _)
  | string s =>
    have hchecked : (NativeBridge.stringToNative (.string s) : Eff S NativeValue) =
        if s.contains 0 then MonadExcept.throw .embeddedNul
        else do
          let p ← Memory.allocString s
          return .owned p (.blocks [p]) := rfl
    rw [hchecked]
    by_cases hs : 0 ∈ s
    · rw [if_pos (by simpa using hs)]
      exact .refuse (by simp [Value.isNullish, hs]) rfl (.inl rfl)
    · rw [if_neg (by simpa using hs)]
      exact .accept hw (.inr ⟨s, rfl, hs⟩) (.bind (.alloc _) fun _ => .pure _)
  | _ => exact .refuse (by simp [Value.isNullish]) rfl (.inl rfl)

/-! ### Objects -/

/-- A handle is looked up, and the world is left alone. -/
lemma resolveObject_check (handle : Option Handle) :
    ∃ r, resolveObject handle w = some (r, w) ∧ Judges (w.Registered (.object handle)) r := by
  obtain ⟨s, hs, -⟩ := lifecycle?_eq_some.1 hw
  cases handle with
  | none => exact ⟨_, rfl, .error (by simp [World.Registered]) (.inl rfl)⟩
  | some k =>
    refine ⟨_, resolveObject_of_some hs k, ?_⟩
    cases hk : s.registry.find? k.id with
    | none => exact .error (by simp [World.Registered, hs, Registry.resolve, hk]) (.inr (.inl rfl))
    | some o => exact .ok ⟨k, s, rfl, hs, by simp [Registry.resolve, hk]⟩ o.pointer

lemma resolveObject (handle : Option Handle) :
    Decides l w (w.Registered (.object handle)) (resolveObject handle : Eff S Address) := by
  obtain ⟨r, hx, hr⟩ := resolveObject_check hw handle
  exact .of_check hw hx hr

lemma objectToNative {h : Host S} (hn : ∀ a call words, NativeCode call (h.run a call words)) (hr : l.Returns h)
    (type : Descriptor) (v : Value) : Decides l w (v.isNullish ∨ w.Registered v) (objectToNative h type v) := by
  have granted (p : Address) : Delivers l (do
      if p = 0 then return NativeValue.raw 0
      return .raw (← grant h p type) : Eff S NativeValue) :=
    .ite (.pure _) (.bind (.grant hn hr p type) fun _ => .pure _)
  cases v with
  | null | undefined => exact .accept hw (.inl rfl) (granted 0)
  | object handle => exact .congr (by simp [Value.isNullish]) (.bind (resolveObject hw handle) granted)
  | _ => exact .refuse (by simp [Value.isNullish, World.Registered]) rfl (.inl rfl)

/-! ### Arrays -/

lemma packStrings (items : List Value) :
    Decides l w (∀ v ∈ items, ∃ s, v = .string s) (packStrings items : Eff S NativeValue) := by
  refine .bind (.ofExcept hw (.mapM fun v _ => .asString v)) fun strings => ?_
  exact .bind (.collect fun s _ => .alloc _) fun pointers => .bind (.alloc _) fun _ => .pure _

lemma packObjects (items : List Value) :
    Decides l w (∀ v ∈ items, w.Registered v) (packObjects items : Eff S NativeValue) := by
  have hresolve (v : Value) : ∃ r, (do
      let handle ← Eff.ofExcept v.asObject
      let p ← NativeBridge.resolveObject handle
      return (p, handle) : Eff S (Address × Option Handle)) w = some (r, w) ∧ Judges (w.Registered v) r := by
    cases v with
    | object handle =>
      obtain ⟨r, hx, hr⟩ := resolveObject_check hw handle
      refine ⟨r.map fun p => (p, handle), ?_, hr.bind fun p => ⟨(p, handle), rfl⟩⟩
      rw [Value.asObject, bind_ok (ofExcept_apply (.ok handle) w)]
      cases r with
      | ok p => exact bind_ok hx
      | error e => exact bind_error hx
    | _ => exact ⟨_, rfl, .error (by simp [World.Registered]) (.inl rfl)⟩
  obtain ⟨r, hx, hr⟩ := Judges.collect hresolve items
  exact .bind (.of_check hw hx hr) fun found => .ite (.pure _) (.bind (.alloc _) fun _ => .pure _)

lemma arrayToNative {item : Descriptor} (hlayout : item.HasLayout) (kind : ListKind) (v : Value) :
    Decides l w
      (kind = .array ∧ item.isElementary ∧ ∃ items, v = .array items ∧ ∀ x ∈ items, w.AcceptsItem item x)
      (arrayToNative item kind v) := by
  by_cases hkind : kind = .array
  · subst hkind
    cases v with
    | array items =>
      have elementary (helementary : item.isElementary)
          (hx : Decides l w (∀ x ∈ items, w.AcceptsItem item x)
            (NativeBridge.arrayToNative item .array (.array items))) :
          Decides l w (ListKind.array = .array ∧ item.isElementary ∧
            ∃ elements, Value.array items = .array elements ∧ ∀ x ∈ elements, w.AcceptsItem item x)
            (NativeBridge.arrayToNative item .array (.array items)) :=
        .congr (by simp [helementary]) hx
      have scalars (hscalar : item.isScalar) : Decides l w (∀ x ∈ items, w.AcceptsItem item x) (do
          let scalars ← Eff.ofExcept (NativeBridge.scalarItems item items)
          NativeBridge.packItems (scalars.map Scalar.bytes) : Eff S NativeValue) :=
        .bind (.ofExcept hw (.scalarItems hlayout hscalar items)) fun _ => .packItems _
      cases item with
      | int | float | boolean => exact elementary rfl (scalars rfl)
      | string => exact elementary rfl (packStrings hw items)
      | object | boxed | variant => exact elementary rfl (packObjects hw items)
      | _ => exact .refuse (by simp [Descriptor.isElementary]) rfl (.inr (.inr (.inl rfl)))
    | _ => exact .refuse (by simp) rfl (.inl rfl)
  · refine .refuse (e := .listArgument) (by simp [hkind]) ?_ (.inr (.inr (.inl rfl)))
    rw [NativeBridge.arrayToNative, if_pos hkind]
    rfl

/-! ### References -/

/-- The slot for a string is made where the string is taken. -/
lemma stringSlot (v : Value) : Decides l w (v.isNullish ∨ ∃ s, v = .string s ∧ 0 ∉ s) (do
    let s ← NativeBridge.stringToNative v
    let p := s.pointer?.getD 0
    let held := match s with
      | .owned _ (.blocks bases) => bases
      | _ => []
    makeSlot (Bytes.ofNatLE 8 p) held (some p) : Eff S NativeValue) :=
  .bind (stringToNative hw v) fun _ => .makeSlot _ _ _

lemma objectSlot (inner : Descriptor) (v : Value) : Decides l w (v.isNullish ∨ w.Registered v) (match v with
    | .object handle => do return .raw (← NativeBridge.resolveObject handle)
    | .null | .undefined => makeSlot (Bytes.ofNatLE 8 0) [] (some 0)
    | other => throw (.refCellExpected inner.describe other.kind) : Eff S NativeValue) := by
  cases v with
  | null | undefined => exact .accept hw (.inl rfl) (.makeSlot _ _ _)
  | object handle => exact .congr (by simp [Value.isNullish]) (.bind (resolveObject hw handle) fun _ => .pure _)
  | _ => exact .refuse (by simp [Value.isNullish, World.Registered]) rfl (.inl rfl)

lemma scalarSlot {inner : Descriptor} (hlayout : inner.HasLayout) (hscalar : inner.isScalar) (v : Value) :
    Decides l w (w.Accepts inner true v) (scalarSlot inner v) := by
  cases inner with
  | int size signed =>
    obtain ⟨width, hwidth⟩ := Descriptor.ofBits?_of_hasLayout hlayout
    have hslot (x : Double) : Delivers l (do
        makeSlot (← Eff.ofExcept (Scalar.ofInteger size signed x)).bytes [] none : Eff S NativeValue) :=
      .bind (.ofExcept ⟨_, by rw [Scalar.ofInteger, hwidth]⟩) fun _ => .makeSlot _ _ _
    exact .congr (by simp [World.Accepts]) (number hw v hslot)
  | float size => exact .bind (.ofExcept hw (.asNumber v)) fun _ => .makeSlot _ _ _
  | boolean => exact .bind (.ofExcept hw (.asBoolean v)) fun _ => .makeSlot _ _ _
  | _ => cases hscalar

lemma refToNative {inner : Descriptor} (hlayout : inner.HasLayout) (optional : Bool) (v : Value) :
    Decides l w (w.Accepts (.ref inner) optional v) (refToNative inner v) := by
  cases v with
  | null | undefined => exact .accept hw (.inl rfl) (.pure _)
  | ref c =>
    have elementary {x : Eff S NativeValue} (hx : Decides l w (w.Accepts inner true (w.cell c)) x)
        (helementary : inner.isElementary) (hrun : NativeBridge.refToNative inner (.ref c) w = x w) :
        Decides l w (w.Accepts (.ref inner) optional (.ref c)) (NativeBridge.refToNative inner (.ref c)) :=
      .congr (by simp [World.Accepts, Value.isNullish, helementary]) (.of_eq hrun hx)
    cases inner with
    | int | float | boolean => exact elementary (scalarSlot hw hlayout rfl _) rfl rfl
    | string => exact elementary (stringSlot hw _) rfl rfl
    | object | boxed | variant => exact elementary (objectSlot hw _ _) rfl rfl
    | _ =>
      exact .refuse (by simp [World.Accepts, Value.isNullish, Descriptor.isElementary]) rfl (.inr (.inr (.inl rfl)))
  | _ => exact .refuse (by simp [World.Accepts, Value.isNullish]) rfl (.inl rfl)

/-! ### Callbacks -/

omit hw in
/-- Code is made for a closure if its result can be returned, and otherwise the closure goes again. -/
lemma makeThunk_eq {s : Signature} (hargs : ∀ d ∈ s.args.getD [], d.HasLayout)
    (hresult : (s.result.getD .undefined).HasLayout) (target : Address) :
    (makeThunk target s : Eff S Address) =
      if closureReturns (s.result.getD .undefined) then
        Thunk.create { target, args := s.args.getD [], result := s.result.getD .undefined, owners := 1 }
      else Closure.unref target >>= fun _ => throw (.closureReturn (s.result.getD .undefined).describe) := by
  obtain ⟨abi, habi⟩ := hresult
  have hall : Judges (∀ d ∈ s.args.getD [], True) ((s.args.getD []).mapM Descriptor.abi) := by
    refine .mapM fun d hd => ?_
    obtain ⟨abi, habi⟩ := hargs d hd
    exact habi ▸ .ok trivial abi
  obtain ⟨abis, habis⟩ := hall.accepts fun _ _ => trivial
  unfold makeThunk
  dsimp only
  rw [habi, habis]
  cases closureReturns (s.result.getD .undefined) <;> rfl

omit hw in
lemma makeCallback_refused {s : Signature} {f : FunctionId} (hruns : ¬(w.loopAlive w.generation ∧ ¬w.loop.stopped)) :
    NativeBridge.makeCallback (some f) s w = some (.error .loopStopping, w) := by
  have hstops : (!w.loopAlive w.generation || w.loop.stopped) = true := by
    cases ha : w.loopAlive w.generation <;> cases hs : w.loop.stopped <;> simp [ha, hs] at hruns ⊢
  rw [NativeBridge.makeCallback, bind_ok (get_apply w), if_neg (by simp), if_pos hstops]
  rfl

omit hw in
/-- While the loop runs, a closure is made first, and then what native code calls it by. -/
lemma makeCallback_started {s : Signature} {f : FunctionId} (hruns : w.loopAlive w.generation ∧ ¬w.loop.stopped) :
    NativeBridge.makeCallback (some f) s w =
      (match Entry.ofKind? s.kind with
        | none => do
          let thunk ← makeThunk w.heap.reserve.1 s
          if s.scope = .forever then
            Thunk.own thunk
            LoopState.retain (.thunk thunk)
          return .owned thunk (.code thunk)
        | some entry => do
          let destroy := if s.kind.slotCount = 3 then some Entry.unref.address else none
          return .trampoline entry.address w.heap.reserve.1 destroy (s.kind = .destroy) : Eff S NativeValue)
        (w.withClosure { function := some f, signature := s, refs := 1, generation := some w.generation }) := by
  have hstops : ¬(!w.loopAlive w.generation || w.loop.stopped) = true := by simpa using hruns
  rw [NativeBridge.makeCallback, bind_ok (get_apply w), if_neg (by simp), if_neg hstops]
  exact bind_ok (Closure.create_apply _ w)

omit hw in
/-- A closure goes again if code cannot return its result. -/
lemma makeCallback_unreturned {s : Signature} {f : FunctionId} (hp : w.Placed)
    (hargs : ∀ d ∈ s.args.getD [], d.HasLayout) (hresult : (s.result.getD .undefined).HasLayout)
    (hruns : w.loopAlive w.generation ∧ ¬w.loop.stopped) (hkind : s.kind = .closure)
    (hreturns : ¬closureReturns (s.result.getD .undefined)) :
    NativeBridge.makeCallback (some f) s w =
      some (.error (.closureReturn (s.result.getD .undefined).describe), { w with heap := w.heap.reserve.2 }) := by
  set c : Closure := { function := some f, signature := s, refs := 1, generation := some w.generation }
  have hunref : (Closure.unref w.heap.reserve.1 : Eff S Unit) (w.withClosure c) =
      some (.ok (), { w with heap := w.heap.reserve.2, closures := w.closures ++ [] }) :=
    Closure.unref_last rfl (hp.step (.closure w c)).closures_nodup rfl
  rw [List.append_nil] at hunref
  rw [makeCallback_started hruns, Entry.ofKind?_eq_none.2 hkind]
  dsimp only
  rw [makeThunk_eq hargs hresult, if_neg hreturns]
  exact bind_error (bind_ok hunref)

lemma makeCallback {s : Signature} (hp : w.Placed) (hargs : ∀ d ∈ s.args.getD [], d.HasLayout)
    (hresult : (s.result.getD .undefined).HasLayout) (function : Option FunctionId) :
    Decides l w ((∃ f, function = some f) ∧ w.loopAlive w.generation ∧ ¬w.loop.stopped ∧
      (s.kind = .closure → closureReturns (s.result.getD .undefined))) (makeCallback function s) := by
  rcases function with _ | f
  · exact .refuse (by simp) rfl (.inl rfl)
  by_cases hruns : w.loopAlive w.generation ∧ ¬w.loop.stopped
  case neg => exact .refuse (fun h => hruns ⟨h.2.1, h.2.2.1⟩) (makeCallback_refused hruns) (.inr (.inr (.inr rfl)))
  refine .congr (p := s.kind = .closure → closureReturns (s.result.getD .undefined)) (by simp [hruns]) ?_
  rcases he : Entry.ofKind? s.kind with _ | entry
  · have hkind : s.kind = .closure := Entry.ofKind?_eq_none.1 he
    by_cases hreturns : closureReturns (s.result.getD .undefined)
    · obtain ⟨v, w', hx, hw'⟩ := Delivers.code (l := l) s
        { target := w.heap.reserve.1, args := s.args.getD [], result := s.result.getD .undefined, owners := 1 }
        (w.withClosure { function := some f, signature := s, refs := 1, generation := some w.generation }) hw
      refine ⟨fun _ => ⟨v, w', ?_, hw'⟩, fun h => absurd (fun _ => hreturns) h⟩
      rw [makeCallback_started hruns, he]
      dsimp only
      rw [makeThunk_eq hargs hresult, if_pos hreturns]
      exact hx
    · have hrefused := makeCallback_unreturned (f := f) hp hargs hresult hruns hkind hreturns
      refine ⟨fun h => absurd (h hkind) hreturns, fun _ => ⟨_, _, hrefused, .inr (.inr (.inl rfl)), ?_⟩⟩
      exact ⟨w.heap.reserve.2, rfl, Nat.le_succ _, rfl⟩
  · have hkind : s.kind ≠ .closure := fun hk => by rw [Entry.ofKind?_eq_none.2 hk] at he; cases he
    have hstarted : NativeBridge.makeCallback (some f) s w = _ := makeCallback_started hruns
    rw [he] at hstarted
    exact ⟨fun _ => ⟨_, _, hstarted, hw⟩, fun h => absurd (fun hk => absurd hk hkind) h⟩

lemma callbackToNative {s : Signature} (hp : w.Placed) (hargs : ∀ d ∈ s.args.getD [], d.HasLayout)
    (hresult : (s.result.getD .undefined).HasLayout) (v : Value) (optional : Bool) :
    Decides l w (v.isNullish ∧ optional ∨ (∃ f, v = .callback (some f)) ∧ w.loopAlive w.generation ∧
      ¬w.loop.stopped ∧ (s.kind = .closure → closureReturns (s.result.getD .undefined)))
      (callbackToNative s v optional) := by
  unfold NativeBridge.callbackToNative
  by_cases hmissing : (v.isNullish && optional) = true
  · rw [if_pos hmissing]
    refine .accept hw (.inl (by simpa using hmissing)) ?_
    cases s.kind <;> exact .pure _
  · rw [if_neg hmissing]
    cases v with
    | callback function =>
      exact .congr (by simp [Value.isNullish]) (.of_eq (bind_ok (ofExcept_apply (.ok function) w))
        (makeCallback hw hp hargs hresult function))
    | null | undefined =>
      have hneeded : ¬optional = true := by simpa [Value.isNullish] using hmissing
      exact .refuse (by simp [hneeded]) rfl (.inl rfl)
    | _ => exact .refuse (by simp [Value.isNullish]) rfl (.inl rfl)

end Eff.Decides

/-- The conversion of an argument whose type was read from a document decides whether the argument accepts its value. -/
lemma toNative_decides {h : Host S} (hn : ∀ a call words, NativeCode call (h.run a call words)) {l : Lifecycle}
    {w : World S} (hw : w.lifecycle? = some l) (hr : l.Returns h) (hp : w.Placed) {a : Arg}
    {reads : Descriptor.SizeReading} {j : Json} (hd : Descriptor.Denotes reads j a.type) :
    Decides l w (w.Accepts a.type a.optional a.value) (toNative h a) := by
  obtain ⟨type, v, optional⟩ := a
  dsimp only at hd ⊢
  have hlayout := hd.hasLayout
  cases hd with
  | @int _ size signed =>
    obtain ⟨width, hwidth⟩ := Descriptor.ofBits?_of_hasLayout hlayout
    have hpass (x : Double) : Delivers l (do
        return .scalar (← Eff.ofExcept (Scalar.ofInteger size signed x)) : Eff S NativeValue) :=
      .bind (.ofExcept ⟨_, by rw [Scalar.ofInteger, hwidth]⟩) fun _ => .pure _
    exact .congr (by simp [World.Accepts]) (Decides.number hw v hpass)
  | float => exact .bind (.ofExcept hw (.asNumber v)) fun _ => .pure _
  | boolean => exact .bind (.ofExcept hw (.asBoolean v)) fun _ => .pure _
  | string => exact .stringToNative hw v
  | null | undefined => exact .accept hw trivial (.pure _)
  | object | boxed | variant => exact .objectToNative hw hn hr _ v
  | array _ _ hitem => exact .arrayToNative hw hitem.hasLayout _ v
  | @callback _ kind scope args result source outcome _ _ _ hargs hresult =>
    let signature : Signature := { kind, scope, args, result, source, outcome }
    exact Decides.callbackToNative (s := signature) hw hp hargs.hasLayout hresult.hasLayout v optional
  | ref _ _ hinner => exact .refToNative hw hinner.hasLayout optional v

/-- **Which values an argument accepts.** Let the type of an argument be read from a document, and let the functions of
the lifecycle be there and return. The conversion ends, with a value exactly if the argument accepts what it is given.
If it does not, the error says that the value is of another kind, that its object is gone, that the type is not
supported there, or that the loop is going away, and nothing has been touched: neither native code and the objects that
it counts, nor the registry, the closures and what is kept for native code. -/
theorem argument_accepts_iff {h : Host S} (hn : ∀ a call words, NativeCode call (h.run a call words)) {w : World S}
    {s : LoopState} (hs : w.state = some s) (hr : s.lifecycle.Returns h) (hp : w.Placed) {a : Arg} {j : Json}
    (hj : Descriptor.parse j = .ok a.type) :
    ∃ r w', toNative h a w = some (r, w') ∧ ((∃ v, r = .ok v) ↔ w.Accepts a.type a.optional a.value) ∧
      ∀ e, r = .error e → e.Refuses ∧ w.Untouched w' := by
  have hw : w.lifecycle? = some s.lifecycle := lifecycle?_eq_some.2 ⟨s, hs, rfl⟩
  have hdecides := toNative_decides hn hw hr hp (Descriptor.parse_eq_ok_iff.1 hj)
  by_cases haccepts : w.Accepts a.type a.optional a.value
  · obtain ⟨v, w', hx, -⟩ := hdecides.accepts haccepts
    exact ⟨.ok v, w', hx, iff_of_true ⟨v, rfl⟩ haccepts, fun e he => by cases he⟩
  · obtain ⟨e, w', hx, hrefuses, huntouched⟩ := hdecides.refuses haccepts
    refine ⟨.error e, w', hx, iff_of_false (fun ⟨v, hv⟩ => by cases hv) haccepts, fun e' he => ?_⟩
    cases he
    exact ⟨hrefuses, huntouched⟩

/-- Every function returns, and there is no other function for types. -/
def returningHost : Host ⟨Unit, Unit, Unit, Unit⟩ := { emptyHost with run := fun _ _ _ => pure {} }

/-- A loop thread for which every function was found. -/
def equippedWorld : World ⟨Unit, Unit, Unit, Unit⟩ where
  native := ()
  side := ()
  state := some { lifecycle := ⟨fun _ => some 1, []⟩ }

/-- A script function as code that returns a string. -/
def stringSource : Arg where
  type := .callback .closure .forever none (some (.string false)) none none
  value := .callback (some 1)

/-- Code cannot return a string, and the closure that was made for it is gone again. -/
theorem string_source_refused :
    ¬equippedWorld.Accepts stringSource.type stringSource.optional stringSource.value ∧
      ∃ e w', toNative returningHost stringSource equippedWorld = some (.error e, w') ∧ e.Refuses ∧
        equippedWorld.Untouched w' := by
  have hread : Descriptor.parse (.obj [("returnType", .obj [("type", .str "string")]), ("type", .str "callback")]) =
      .ok stringSource.type :=
    Descriptor.parse_eq_ok_iff.2 (.callback rfl .absent .absent .absent (.given (.string rfl .absent)) .absent .absent)
  have hreturns : Lifecycle.Returns returningHost ⟨fun _ => some 1, []⟩ :=
    ⟨fun _ => ⟨1, rfl, fun _ _ => nofun⟩, fun _ _ _ ha => by cases ha⟩
  have hempty : equippedWorld.entries = [] := rfl
  have hplaced : equippedWorld.Placed := ⟨by simp [hempty], by simp [hempty], by simp [hempty]⟩
  have hrefused : ¬equippedWorld.Accepts stringSource.type stringSource.optional stringSource.value := by
    simp [World.Accepts, stringSource, Value.isNullish, closureReturns]
  obtain ⟨r, w', hx, haccepts, herror⟩ :=
    argument_accepts_iff (fun _ _ _ => .pure _) (w := equippedWorld) rfl hreturns hplaced hread
  cases r with
  | ok v => exact absurd (haccepts.1 ⟨v, rfl⟩) hrefused
  | error e => exact ⟨hrefused, e, w', hx, herror e rfl⟩

end NativeBridge
