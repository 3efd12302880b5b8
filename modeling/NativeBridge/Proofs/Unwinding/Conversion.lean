import NativeBridge.Proofs.Calls.Work
import NativeBridge.Proofs.Unwinding.Release

/-!
What converting one argument leaves behind. A conversion that fails leaves nothing; one that succeeds leaves what its
value holds, and what native code was granted.
-/

namespace NativeBridge

open Eff

variable {S : Sides}

/-! ### Values that are no callbacks -/

namespace Points

lemma stringToNative (v : Value) : Gives NativeValue.Points (stringToNative v : Eff S NativeValue) := by
  refine .ite (.pure trivial) (.bind fun s => ?_)
  exact .ite (.bind fun _ => .bind fun _ => .pure trivial) (.bind fun _ => .pure trivial)

lemma packItems (items : List Bytes) : Gives NativeValue.Points (packItems items : Eff S NativeValue) :=
  .ite (.pure trivial) (.bind fun _ => .pure trivial)

lemma packStrings (items : List Value) : Gives NativeValue.Points (packStrings items : Eff S NativeValue) :=
  .bind fun _ => .bind fun _ => .bind fun _ => .pure trivial

lemma packObjects (items : List Value) : Gives NativeValue.Points (packObjects items : Eff S NativeValue) :=
  .bind fun _ => .ite (.pure trivial) (.bind fun _ => .pure trivial)

lemma arrayToNative (item : Descriptor) (kind : ListKind) (v : Value) :
    Gives NativeValue.Points (arrayToNative item kind v : Eff S NativeValue) := by
  unfold NativeBridge.arrayToNative
  refine .guard (.bind fun items => ?_)
  split
  all_goals first
    | exact .bind fun _ => packItems _
    | exact packStrings _
    | exact packObjects _
    | exact .throw _

lemma makeSlot (content : Bytes) (held : List Address) (initial : Option Address) :
    Gives NativeValue.Points (makeSlot content held initial : Eff S NativeValue) :=
  .bind fun _ => .pure trivial

lemma scalarSlot (type : Descriptor) (v : Value) : Gives NativeValue.Points (scalarSlot type v : Eff S NativeValue) := by
  unfold NativeBridge.scalarSlot
  split
  · refine .ite (.bind fun x => ?_) (.bind fun x => ?_) <;> exact .bind fun _ => makeSlot _ _ _
  · exact .bind fun _ => makeSlot _ _ _
  · exact .bind fun _ => makeSlot _ _ _

lemma refToNative (inner : Descriptor) (v : Value) :
    Gives NativeValue.Points (refToNative inner v : Eff S NativeValue) := by
  refine .ite (.pure trivial) (.bind fun w => .bind fun cell => ?_)
  dsimp only
  split
  all_goals try split
  all_goals first
    | exact .bind fun _ => .pure trivial
    | exact makeSlot _ _ _
    | exact scalarSlot _ _
    | exact .bind fun _ => makeSlot _ _ _
    | exact .throw _

lemma objectToNative (h : Host S) (type : Descriptor) (v : Value) :
    Gives NativeValue.Points (objectToNative h type v) := by
  have granted (p : Address) : Gives NativeValue.Points (do
      if p = 0 then return NativeValue.raw 0
      return .raw (← grant h p type) : Eff S NativeValue) :=
    .ite (.pure trivial) (.bind fun _ => .pure trivial)
  unfold NativeBridge.objectToNative
  split
  all_goals exact .bind granted

end Points

/-- What an argument that is no callback is converted to. -/
lemma Plain.toNative {h : Host S} {a : Arg} (ha : ¬a.type.isCallback) : Gives NativeValue.Plain (toNative h a) := by
  obtain ⟨type, v, optional⟩ := a
  cases type with
  | int =>
    exact .ite (.bind fun _ => .bind fun _ => .pure trivial) (.bind fun _ => .bind fun _ => .pure trivial)
  | float | boolean => exact .bind fun _ => .pure trivial
  | string => exact (Points.stringToNative v).imp fun _ => NativeValue.Points.plain
  | null | undefined => exact .pure trivial
  | object | boxed | variant => exact (Points.objectToNative h _ v).imp fun _ => NativeValue.Points.plain
  | array item kind => exact (Points.arrayToNative item kind v).imp fun _ => NativeValue.Points.plain
  | callback => exact absurd trivial ha
  | ref inner => exact (Points.refToNative inner v).imp fun _ => NativeValue.Points.plain

/-! ### Callbacks -/

/-- A conversion that raised an error has left nothing; otherwise the value holds what was made, but for code that
lasts. -/
def Converts (c : Counts S) (lasting : List Lasting) (w w' : World S) : Except Error NativeValue → Prop
  | .error _ => Silent c w w'
  | .ok v => ∃ made, v.Holds made (lasting.count .code) ∧ Grows c lasting made w w'

lemma Converts.of_plain {c : Counts S} {x : Eff S NativeValue} (hx : Along (Silent c) x)
    (hp : Gives NativeValue.Plain x) {w w' : World S} {r : Except Error NativeValue} (h : x w = some (r, w')) :
    Converts c [] w w' r := by
  cases r with
  | error e => exact hx h
  | ok v => exact ⟨{}, .plain (hp h), hx h⟩

section

variable {c : Counts S} {w w' : World S}

/-- Code is made for a closure, or the closure goes again. -/
lemma makeThunk_cases (target : Address) (s : Signature) :
    (∃ e, (makeThunk target s : Eff S Address) = do Closure.unref target; throw e) ∨
      ∃ th : Thunk, th.target = target ∧ th.owners = 1 ∧ ¬th.result.isCallback ∧
        (makeThunk target s : Eff S Address) = Thunk.create th := by
  unfold makeThunk
  dsimp only
  split
  · exact .inl ⟨_, rfl⟩
  next hchecked =>
    refine .inr ⟨_, rfl, rfl, fun hcallback => ?_, rfl⟩
    cases hresult : s.result.getD .undefined with
    | callback =>
      rw [hresult] at hchecked
      cases hchecked
    | _ =>
      rw [hresult] at hcallback
      exact hcallback

lemma Entry.ofKind?_eq_none {kind : CallbackKind} : Entry.ofKind? kind = none ↔ kind = .closure := by
  cases kind <;> simp [Entry.ofKind?]

/-- What becomes of a function and its signature: nothing that stays, a closure with an entry point, or a closure with
code of its own, which with scope `forever` the loop state keeps as well. -/
inductive Callback (s : Signature) (w : World S) : Except Error NativeValue → World S → Prop where
  | refused (e : Error) {heap : Heap} (hg : w.heap.given ≤ heap.given) : Callback s w (.error e) { w with heap }
  | trampoline {c : Closure} (hk : s.kind ≠ .closure) (hc : c.signature = s) (hr : c.refs = 1) (code : Address)
      (destroy : Option Address) (dataFirst : Bool) :
      Callback s w (.ok (.trampoline code w.heap.reserve.1 destroy dataFirst))
        { w with heap := w.heap.reserve.2, closures := w.closures ++ [(w.heap.reserve.1, c)] }
  | code {c : Closure} {th : Thunk} (hk : s.kind = .closure) (hs : s.scope ≠ .forever) (hc : c.signature = s)
      (hr : c.refs = 1) (ht : th.target = w.heap.reserve.1) (ho : th.owners = 1) (hq : ¬th.result.isCallback) :
      Callback s w (.ok (.owned w.heap.reserve.2.reserve.1 (.code w.heap.reserve.2.reserve.1)))
        { w with
          heap := w.heap.reserve.2.reserve.2
          closures := w.closures ++ [(w.heap.reserve.1, c)]
          thunks := w.thunks ++ [(w.heap.reserve.2.reserve.1, th)] }
  | kept {c : Closure} {th : Thunk} (hk : s.kind = .closure) (hs : s.scope = .forever) (hc : c.signature = s)
      (hr : c.refs = 1) (ht : th.target = w.heap.reserve.1) (ho : th.owners = 2) (hq : ¬th.result.isCallback) :
      Callback s w (.ok (.owned w.heap.reserve.2.reserve.1 (.code w.heap.reserve.2.reserve.1)))
        { w with
          heap := w.heap.reserve.2.reserve.2
          closures := w.closures ++ [(w.heap.reserve.1, c)]
          thunks := w.thunks ++ [(w.heap.reserve.2.reserve.1, th)]
          state := w.state.map fun s => { s with retained := s.retained ++ [.thunk w.heap.reserve.2.reserve.1] } }

lemma makeCallback_cases {function : Option FunctionId} {s : Signature} (hw : w.Placed)
    {r : Except Error NativeValue} (hx : makeCallback function s w = some (r, w')) : Callback s w r w' := by
  rw [makeCallback, bind_ok (get_apply w)] at hx
  rcases guard_eq_some.1 hx with ⟨-, rfl, rfl⟩ | ⟨-, hx⟩
  · exact .refused _ le_rfl
  rcases guard_eq_some.1 hx with ⟨-, rfl, rfl⟩ | ⟨-, hx⟩
  · exact .refused _ le_rfl
  beta_reduce at hx
  rw [bind_ok (Closure.create_apply _ w)] at hx
  set d := w.heap.reserve.1
  set k : Closure := { function, signature := s, refs := 1, generation := some w.generation }
  have hw₁ : World.Placed { w with heap := w.heap.reserve.2, closures := w.closures ++ [(d, k)] } :=
    hw.step (.closure w k)
  rcases he : Entry.ofKind? s.kind with _ | entry
  · have hkind : s.kind = .closure := Entry.ofKind?_eq_none.1 he
    rw [he] at hx
    dsimp only at hx
    rcases makeThunk_cases (S := S) d s with ⟨e, hm⟩ | ⟨th, htarget, ho, hq, hm⟩
    · rw [hm, bind_error (bind_ok (Closure.unref_last (B := []) rfl hw₁.closures_nodup rfl))] at hx
      cases hx
      rw [List.append_nil]
      exact .refused e (Nat.le_succ _)
    · rw [hm, bind_ok (Thunk.create_apply th _)] at hx
      have hw₂ := hw₁.step (.thunk _ th)
      by_cases hs : s.scope = .forever
      · rw [if_pos hs, bind_ok (Thunk.own_last rfl hw₂.thunks_nodup)] at hx
        cases hx
        have htarget' : ({ th with owners := th.owners + 1 } : Thunk).target = d := htarget
        exact .kept (c := k) hkind hs rfl rfl htarget' (congrArg (· + 1) ho) hq
      · rw [if_neg hs] at hx
        cases hx
        exact .code (c := k) hkind hs rfl rfl htarget ho hq
  · have hkind : s.kind ≠ .closure := fun hk => by rw [Entry.ofKind?_eq_none.2 hk] at he; cases he
    rw [he] at hx
    cases hx
    exact .trampoline (c := k) hkind rfl rfl _ _ _

/-- What lasts of a callback: code that the loop state keeps. -/
def Signature.lasting (s : Signature) : List Lasting :=
  if s.kind = .closure ∧ s.scope = .forever then [.code] else []

lemma makeCallback_converts {function : Option FunctionId} {s : Signature} (hw : w.Placed)
    {r : Except Error NativeValue} (hx : makeCallback function s w = some (r, w')) :
    Converts c s.lasting w w' r := by
  cases makeCallback_cases hw hx with
  | refused e hg => exact Housekeeping.memory w _ hg
  | trampoline hk _ hr code destroy dataFirst =>
    have hl : s.lasting = [] := if_neg fun h => hk h.1
    have hd : w.heap.reserve.1 ≠ 0 := (Nat.mul_pos (Nat.succ_pos _) (by decide)).ne'
    rw [hl]
    exact ⟨_, .trampoline hd hr, Nat.le_succ _, rfl, (List.append_nil _).symm, .rfl' c _,
      fun t ht => ⟨t, ht, rfl, rfl, rfl⟩⟩
  | code _ hs _ hr ht ho =>
    have hl : s.lasting = [] := if_neg fun h => hs h.2
    rw [hl]
    exact ⟨_, .code hr ht ho, Nat.le_add_right _ 2, rfl, rfl, .rfl' c _, fun t ht => ⟨t, ht, rfl, rfl, rfl⟩⟩
  | kept hk hs _ hr ht ho =>
    have hl : s.lasting = [.code] := if_pos ⟨hk, hs⟩
    rw [hl]
    refine ⟨_, .keptCode hr ht ho, Nat.le_add_right _ 2, rfl, rfl, ⟨fun _ => rfl, rfl⟩, fun t ht => ?_⟩
    exact ⟨_, congrArg (Option.map _) ht, rfl, rfl, List.length_append⟩

lemma callbackToNative_converts {s : Signature} {v : Value} {optional : Bool} (hw : w.Placed)
    {r : Except Error NativeValue} (hx : callbackToNative s v optional w = some (r, w')) :
    Converts c (if v.isNullish && optional then [] else s.lasting) w w' r := by
  rw [callbackToNative] at hx
  cases hv : v.isNullish && optional with
  | true =>
    rw [if_pos hv] at hx
    rw [if_pos rfl]
    cases hk : s.kind with
    | closure =>
      rw [hk] at hx
      cases hx
      exact ⟨{}, .plain trivial, refl w⟩
    | _ =>
      rw [hk] at hx
      cases hx
      exact ⟨{}, .null, refl w⟩
  | false =>
    rw [hv] at hx
    rw [if_neg (by decide)] at hx ⊢
    rcases ofExcept_bind_eq_some.1 hx with ⟨f, -, hf⟩ | ⟨e, -, rfl, rfl⟩
    · exact makeCallback_converts hw hf
    · exact refl w

end

/-! ### Arguments -/

/-- What lasts of an object that was converted in this world. -/
def Descriptor.lasting (h : Host S) (type : Descriptor) (v : Value) (w : World S) : List Lasting :=
  match v with
  | .object handle =>
    match resolveObject handle w with
    | some (.ok p, _) => if p = 0 then [] else type.granted h p w
    | _ => []
  | _ => []

/-- What lasts of an argument that was converted in this world. -/
def Arg.lasting (h : Host S) (a : Arg) (w : World S) : List Lasting :=
  match a.type with
  | .callback kind scope args result source outcome =>
    if a.value.isNullish && a.optional then [] else Signature.lasting { kind, scope, args, result, source, outcome }
  | type => type.lasting h a.value w

/-- Something may last of an argument of the type: native code owns what it is given, or may keep it forever. -/
def Descriptor.mayLast : Descriptor → Bool
  | object borrowed | boxed borrowed _ _ | variant borrowed => !borrowed
  | callback kind scope .. => kind = .closure && scope = .forever
  | _ => false

lemma Descriptor.lasting_eq_nil {h : Host S} {type : Descriptor} (ht : type.mayLast = false) (v : Value)
    (w : World S) : type.lasting h v w = [] := by
  have hg (p : Address) : type.granted h p w = [] := by
    cases type with
    | object borrowed | boxed borrowed | variant borrowed =>
      cases borrowed with
      | true => rfl
      | false => cases ht
    | _ => rfl
  unfold Descriptor.lasting
  split
  · split
    · rw [hg, ite_self]
    · rfl
  · rfl

lemma Arg.lasting_eq_nil {a : Arg} (ht : a.type.mayLast = false) (h : Host S) (w : World S) : a.lasting h w = [] := by
  obtain ⟨type, v, optional⟩ := a
  cases type with
  | callback kind scope =>
    have hs : ¬(kind = .closure ∧ scope = .forever) := by simpa [Descriptor.mayLast] using ht
    simp [Arg.lasting, Signature.lasting, hs]
  | _ => exact Descriptor.lasting_eq_nil ht v w

lemma resolveObject_unchanged {handle : Option Handle} {w w' : World S} {r : Except Error Address}
    (hx : resolveObject handle w = some (r, w')) : w = w' := by
  cases handle with
  | none =>
    cases hx
    rfl
  | some k =>
    rcases hs : w.state with _ | s
    · rw [resolveObject, bind_error (LoopState.current_of_none hs)] at hx
      cases hx
      rfl
    · rw [resolveObject_of_some hs] at hx
      cases hx
      rfl

section

variable {h : Host S} (hn : ∀ a call words, NativeCode call (h.run a call words)) {c : Counts S} {w w' : World S}

include hn

lemma objectToNative_converts {type : Descriptor} {v : Value} {s : LoopState} (hs : w.state = some s)
    (hc : c.Lawful h s.lifecycle) {r : Except Error NativeValue} (hx : objectToNative h type v w = some (r, w')) :
    Converts c (type.lasting h v w) w w' r := by
  have null (hx : (pure (.raw 0) : Eff S NativeValue) w = some (r, w')) : Converts c [] w w' r := by
    cases hx
    exact ⟨{}, .plain trivial, refl w⟩
  have granted {p : Address} (hp : p ≠ 0)
      (hx : (do return .raw (← grant h p type) : Eff S NativeValue) w = some (r, w')) :
      Converts c (type.granted h p w) w w' r := by
    rcases bind_eq_some.1 hx with ⟨q, w₁, h₁, h₂⟩ | ⟨e, h₁, rfl⟩
    · cases h₂
      rcases grant_grows hn hp hs hc h₁ with ⟨⟨e, he⟩, -⟩ | ⟨-, hg⟩
      · cases he
      · exact ⟨{}, by rw [Descriptor.count_code_granted]; exact .plain trivial, hg⟩
    · rcases grant_grows hn hp hs hc h₁ with ⟨-, hg⟩ | ⟨⟨q, hq⟩, -⟩
      · exact hg
      · cases hq
  cases v with
  | object handle =>
    rcases bind_eq_some.1 hx with ⟨p, w₁, h₁, h₂⟩ | ⟨e, h₁, rfl⟩
    · obtain rfl := resolveObject_unchanged h₁
      beta_reduce at h₂
      by_cases hp : p = 0
      · rw [if_pos hp] at h₂
        have hl : type.lasting h (.object handle) w = [] := by simp [Descriptor.lasting, h₁, hp]
        exact hl ▸ null h₂
      · rw [if_neg hp] at h₂
        have hl : type.lasting h (.object handle) w = type.granted h p w := by simp [Descriptor.lasting, h₁, hp]
        exact hl ▸ granted hp h₂
    · obtain rfl := resolveObject_unchanged h₁
      exact refl w
  | null => exact null hx
  | undefined => exact null hx
  | _ =>
    cases hx
    exact refl w

/-- What a conversion leaves behind is what its value holds and what lasts of the argument. -/
lemma toNative_converts (hw : w.Placed) {a : Arg} {s : LoopState} (hs : w.state = some s)
    (hc : c.Lawful h s.lifecycle) {r : Except Error NativeValue} (hx : toNative h a w = some (r, w')) :
    Converts c (a.lasting h w) w w' r := by
  obtain ⟨type, v, optional⟩ := a
  have plain (ht : type.mayLast = false) (hcallback : ¬type.isCallback) (hobject : ¬type.isObjectLike) :
      Converts c (type.lasting h v w) w w' r := by
    have hinside : Along (Silent c) (toNative h ⟨type, v, optional⟩) :=
      LoopWork.inside (.toNative (fun hm => absurd hm hcallback) (fun ho => absurd ho hobject) fun _ _ => trivial)
    rw [Descriptor.lasting_eq_nil ht]
    exact .of_plain hinside (Plain.toNative hcallback) hx
  cases type with
  | object | boxed | variant => exact objectToNative_converts hn hs hc hx
  | callback => exact callbackToNative_converts hw hx
  | _ => exact plain rfl not_false Bool.false_ne_true

end

end NativeBridge
