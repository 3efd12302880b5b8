import NativeBridge.Proofs.Answers.Ordering
import NativeBridge.Proofs.Evolution.Housekeeping
import NativeBridge.Proofs.Handles

/-!
What native code finds in the return buffer of a callback. An answer is widened to a register on its way in and narrowed
to its type on its way out, and is the same at the end; whatever fails before that leaves nothing but zeros.
-/

namespace NativeBridge

open Eff

variable {S : Sides}

/-! ### The register -/

/-- A register holds the value that was extended to it. -/
lemma IntKind.ofWord_register {k : IntKind} {n : ℤ} (hleast : k.least ≤ n) (hgreatest : n ≤ k.greatest) :
    k.ofWord (Bytes.toNatLE (Bytes.ofNatLE 8 (k.toRegister n))) = n := by
  have hdvd : k.width.modulus ∣ twoPow (8 * 8) := by cases k.width <;> decide
  refine ofWord_of_modEq hleast hgreatest ?_
  rw [Bytes.toNatLE_ofNatLE, Int.natCast_mod]
  exact ((Int.mod_modEq _ _).of_dvd (Int.natCast_dvd_natCast.2 hdvd)).trans (k.toRegister_modEq n)

/-! ### Answers of a return type -/

namespace NativeValue

/-- A pointer is a word. -/
def IsWord (v : NativeValue) : Prop := ∀ p, v.pointer? = some p → p < twoPow 64

/-- What an answer of a return type can be. -/
inductive Answer : Descriptor → NativeValue → Prop
  | int {size : Nat} {width : Width} (hsize : Width.ofBits? size = some width) (signed : Bool) {n : ℤ}
      (least : IntKind.least ⟨width, signed⟩ ≤ n) (greatest : n ≤ IntKind.greatest ⟨width, signed⟩) :
      Answer (.int size signed) (.scalar (.int ⟨width, signed⟩ n))
  | single (x : Single) : Answer (.float 32) (.scalar (.single x))
  | double {size : Nat} (hsize : size ≠ 32) (x : Double) : Answer (.float size) (.scalar (.double x))
  | boolean (b : Bool) : Answer .boolean (.scalar (.truth b))
  | pointer {type : Descriptor} (htype : type = .null ∨ type.isObjectLike) (p : Address) : Answer type (.raw p)

/-- The bytes that count of a value that is returned: an integer fills a register. -/
def returnBytes : NativeValue → Bytes
  | scalar (.int k n) => Bytes.ofNatLE 8 (k.toRegister n)
  | scalar s => s.bytes
  | raw p => Bytes.ofNatLE 8 p
  | _ => []

/-- An answer is read from its bytes, whatever follows them. -/
lemma Answer.readReturn_append {type : Descriptor} {v : NativeValue} (ha : Answer type v) (hv : v.IsWord)
    (rest : Bytes) : readReturn type (v.returnBytes ++ rest) = .ok v := by
  cases ha with
  | @int size width hsize signed n least greatest =>
    have hkind : Scalar.readKind size signed = ⟨width, signed⟩ := by rw [Scalar.readKind, hsize, Option.getD_some]
    simp only [readReturn, Scalar.returned?, returnBytes, hkind, List.take_left' (Bytes.length_ofNatLE _ _),
      IntKind.ofWord_register least greatest]
  | single x =>
    have hbits : Bytes.toNatLE (((Scalar.single x).bytes ++ rest).take 4) = x.bits.toNat :=
      Scalar.toNatLE_take 4 _ _ x.bits.toNat_lt
    simp only [readReturn, Scalar.returned?, returnBytes, if_pos, hbits, UInt32.ofNat_toNat]
  | double hsize x =>
    have hbits : Bytes.toNatLE (((Scalar.double x).bytes ++ rest).take 8) = x.bits.toNat :=
      Scalar.toNatLE_take 8 _ _ x.bits.toNat_lt
    simp only [readReturn, Scalar.returned?, returnBytes, if_neg hsize, hbits, UInt64.ofNat_toNat]
  | boolean b =>
    have hbyte : IntKind.ofWord ⟨.w8, false⟩ (Bytes.toNatLE (Bytes.ofNatLE 8 (IntKind.toRegister ⟨.w8, false⟩
        (if b then 1 else 0)))) = if b then 1 else 0 := by
      cases b <;> exact IntKind.ofWord_register (by decide) (by decide)
    simp only [readReturn, Scalar.returned?, returnBytes, Scalar.truth, List.take_left' (Bytes.length_ofNatLE _ _), hbyte]
  | pointer htype p =>
    have hbits : Bytes.toNatLE ((Bytes.ofNatLE 8 p ++ rest).take 8) = p := Scalar.toNatLE_take 8 _ _ (hv p rfl)
    rcases htype with rfl | hobject
    · simp only [readReturn, Scalar.returned?, returnBytes, hbits]
    · cases type with
      | object | boxed | variant => simp only [readReturn, Scalar.returned?, returnBytes, hbits]
      | _ => cases hobject

/-- An answer fills the buffer, and its bytes come first. -/
lemma Answer.resultBytes {type : Descriptor} {v : NativeValue} (ha : Answer type v) :
    ∃ buffer, Thunk.resultBytes v = some buffer ∧ buffer.length = 8 ∧ v.returnBytes <+: buffer := by
  cases ha with
  | single x => exact ⟨_, rfl, Bytes.length_resize _ _, List.prefix_append _ _⟩
  | double hsize x => exact ⟨_, rfl, Bytes.length_resize _ _, List.prefix_append _ _⟩
  | int | boolean | pointer => exact ⟨_, rfl, Bytes.length_ofNatLE _ _, List.prefix_rfl⟩

end NativeValue

open NativeValue Trampoline

lemma Scalar.ofInteger_answer {size : Nat} {signed : Bool} {x : Double} {s : Scalar}
    (hs : Scalar.ofInteger size signed x = .ok s) : Answer (.int size signed) (.scalar s) := by
  unfold Scalar.ofInteger at hs
  rcases hsize : Width.ofBits? size with _ | width
  · rw [hsize] at hs
    cases hs
  · rw [hsize] at hs
    cases hs
    obtain ⟨least, greatest, -⟩ := IntKind.wrap_range ⟨width, signed⟩ x.truncate
    exact .int hsize signed least greatest

lemma objectToNative_answer (h : Host S) {type : Descriptor} (htype : type.isObjectLike) (v : Value) :
    Gives (Answer type) (objectToNative h type v) := by
  have granted (p : Address) : Gives (Answer type) (do
      if p = 0 then return NativeValue.raw 0
      return .raw (← grant h p type) : Eff S NativeValue) :=
    .ite (.pure (.pointer (.inr htype) 0)) (.bind fun p => .pure (.pointer (.inr htype) p))
  unfold objectToNative
  split
  all_goals exact .bind granted

/-- What a result is converted to is an answer of its type. -/
lemma toNative_answer (h : Host S) {type : Descriptor} (haccepted : closureReturns type = true)
    (htype : type ≠ .undefined) (v : Value) (optional : Bool) : Gives (Answer type) (toNative h ⟨type, v, optional⟩) := by
  cases type with
  | undefined => exact absurd rfl htype
  | null => exact .pure (.pointer (.inl rfl) 0)
  | int size signed =>
    have converted (x : Double) : Gives (Answer (.int size signed))
        (do return .scalar (← Eff.ofExcept (Scalar.ofInteger size signed x)) : Eff S NativeValue) := by
      intro w s w' hx
      rcases ofExcept_bind_eq_some.1 hx with ⟨s, hs, hx⟩ | ⟨e, -, he, -⟩
      · cases hx
        exact Scalar.ofInteger_answer hs
      · cases he
    exact .ite (.bind fun _ => converted _) (.bind converted)
  | float size =>
    refine .bind fun x => .pure ?_
    unfold Scalar.ofFloat
    split
    · next hsize => exact hsize ▸ .single _
    · next hsize => exact .double hsize x
  | boolean => exact .bind fun b => .pure (.boolean b)
  | object | boxed | variant => exact objectToNative_answer h rfl v
  | _ => cases haccepted

/-- Work that holds the state gives what it gives without. -/
lemma Eff.Gives.holding {α : Type} {P : α → Prop} {x : Eff S α} (hx : Gives P x) : Gives P (LoopState.holding x) := by
  intro w a w' h
  rcases LoopState.holding_eq_some h with ⟨-, -, e, he⟩ | ⟨-, w₁, h₁, -⟩
  · cases he
  · exact hx h₁

/-! ### Responses -/

namespace Thunk

/-- The arguments of a call, read while the state is held. -/
abbrev arguments (h : Host S) (args : List (Descriptor × Bytes)) : Eff S (List Value) :=
  LoopDispatch.unwinding (LoopState.holding (Eff.collect (fun a => argumentFromMemory h a.2 a.1) args))

/-- What a result of the script function is converted to. -/
abbrev converted (h : Host S) (t : Thunk) (v : Value) : Eff S NativeValue :=
  LoopState.holding (toNative h { type := t.result, value := v, optional := true })

/-- The ways in which a call ends, each with the answer that the script has given, if it has given one. -/
inductive Ends (h : Host S) (t : Thunk) (args : List (Descriptor × Bytes)) (w : World S) :
    Option NativeValue → World S → Prop
  /-- an argument does not convert -/
  | unread {e : Error} {w' : World S} (read : arguments h args w = some (.error e, w')) : Ends h t args w none w'
  /-- the script is out of reach -/
  | lost {values : List Value} {c : Closure} {e : Error} {w₁ w' : World S}
      (read : arguments h args w = some (.ok values, w₁)) (alive : w₁.closures.lookup t.target = some c)
      (call : c.call h values true w₁ = some (.error e, w')) : Ends h t args w none w'
  /-- the function throws -/
  | threw {values : List Value} {c : Closure} {w₁ w' : World S}
      (read : arguments h args w = some (.ok values, w₁)) (alive : w₁.closures.lookup t.target = some c)
      (call : c.call h values true w₁ = some (.ok none, w')) : Ends h t args w none w'
  /-- the result does not convert -/
  | refused {values : List Value} {c : Closure} {v : Value} {e : Error} {w₁ w₂ w' : World S}
      (read : arguments h args w = some (.ok values, w₁)) (alive : w₁.closures.lookup t.target = some c)
      (call : c.call h values true w₁ = some (.ok (some v), w₂))
      (convert : t.converted h v w₂ = some (.error e, w')) : Ends h t args w none w'
  | answered {values : List Value} {c : Closure} {v : Value} {native : NativeValue} {w₁ w₂ w' : World S}
      (read : arguments h args w = some (.ok values, w₁)) (alive : w₁.closures.lookup t.target = some c)
      (call : c.call h values true w₁ = some (.ok (some v), w₂))
      (convert : t.converted h v w₂ = some (.ok native, w')) : Ends h t args w (some native) w'

variable {h : Host S} {t : Thunk} {args : List (Descriptor × Bytes)} {w w' : World S}

/-- The buffer for an answer. -/
def bufferOf (answer : Option NativeValue) : Bytes := (answer.bind resultBytes).getD emptyBuffer

/-- What is written for a result of the script function. -/
def conclude (h : Host S) (t : Thunk) (result : Option Value) : Eff S Bytes :=
  match result, t.result with
  | some _, .undefined => return emptyBuffer
  | some v, type => do
    let native ← LoopState.holding (toNative h { type, value := v, optional := true })
    return (resultBytes native).getD emptyBuffer
  | none, _ => return emptyBuffer

/-- A response before its errors are turned into empty buffers. -/
def attempted (h : Host S) (t : Thunk) (args : List (Descriptor × Bytes)) : Eff S Bytes := do
  let values ← arguments h args
  let c ← closureAt t.target
  conclude h t (← c.call h values true)

lemma conclude_some (hresult : t.result ≠ .undefined) (v : Value) :
    conclude h t (some v) = do return (resultBytes (← t.converted h v)).getD emptyBuffer := by
  unfold conclude
  split
  · next hundefined => exact absurd hundefined hresult
  · next hv _ => cases hv; rfl
  · next hv => cases hv

lemma respond_eq_some {r : Except Error Bytes} :
    t.respond h args w = some (r, w') ↔
      ∃ q, attempted h t args w = some (q, w') ∧ r = .ok (match q with | .ok b => b | .error _ => emptyBuffer) := by
  change (Eff.attempt (attempted h t args) >>= _) w = _ ↔ _
  rw [attempt_bind_eq_some]
  constructor
  · rintro ⟨q, w₁, hq, hr⟩
    cases q <;> cases hr <;> exact ⟨_, hq, rfl⟩
  · rintro ⟨q, hq, rfl⟩
    refine ⟨q, w', hq, ?_⟩
    cases q <;> rfl

/-- **Each ending has its buffer**, and no error leaves a response. -/
lemma Ends.respond (hresult : t.result ≠ .undefined) {answer : Option NativeValue} (he : Ends h t args w answer w') :
    t.respond h args w = some (.ok (bufferOf answer), w') := by
  have called {values : List Value} {c : Closure} {w₁ : World S} (hread : arguments h args w = some (.ok values, w₁))
      (halive : w₁.closures.lookup t.target = some c) :
      attempted h t args w = (c.call h values true >>= conclude h t) w₁ := by
    rw [attempted, bind_ok hread, bind_ok (closureAt_eq_some.2 ⟨c, halive, rfl, rfl⟩)]
  rw [respond_eq_some]
  cases he with
  | unread read => exact ⟨_, bind_error read, rfl⟩
  | lost read alive call => exact ⟨_, (called read alive).trans (bind_error call), rfl⟩
  | threw read alive call => exact ⟨_, (called read alive).trans (bind_ok call), rfl⟩
  | @refused _ _ _ e _ _ _ read alive call convert =>
    refine ⟨.error e, ?_, rfl⟩
    rw [called read alive, bind_ok call, conclude_some hresult, bind_error convert]
  | @answered _ _ _ native _ _ _ read alive call convert =>
    refine ⟨.ok ((resultBytes native).getD emptyBuffer), ?_, rfl⟩
    rw [called read alive, bind_ok call, conclude_some hresult, bind_ok convert, pure_apply]

/-- A response ends in one of the ways. -/
lemma exists_ends (hresult : t.result ≠ .undefined) {r : Except Error Bytes}
    (hx : t.respond h args w = some (r, w')) : ∃ answer, Ends h t args w answer w' := by
  obtain ⟨q, hq, -⟩ := respond_eq_some.1 hx
  rcases bind_eq_some.1 hq with ⟨values, w₁, hread, hq⟩ | ⟨e, hread, -⟩
  · rcases bind_eq_some.1 hq with ⟨c, w₂, hclosure, hq⟩ | ⟨e, hclosure, -⟩
    · obtain ⟨_, halive, heq, rfl⟩ := closureAt_eq_some.1 hclosure
      cases heq
      rcases bind_eq_some.1 hq with ⟨v, w₃, hcall, hq⟩ | ⟨e, hcall, -⟩
      · cases v with
        | none =>
          cases hq
          exact ⟨none, .threw hread halive hcall⟩
        | some v =>
          rw [conclude_some hresult] at hq
          rcases bind_eq_some.1 hq with ⟨native, w₄, hconvert, hq⟩ | ⟨e, hconvert, -⟩
          · cases hq
            exact ⟨some native, .answered hread halive hcall hconvert⟩
          · exact ⟨none, .refused hread halive hcall hconvert⟩
      · exact ⟨none, .lost hread halive hcall⟩
    · obtain ⟨_, -, heq, -⟩ := closureAt_eq_some.1 hclosure
      cases heq
  · exact ⟨none, .unread hread⟩

lemma Ends.answer (haccepted : closureReturns t.result = true) (hresult : t.result ≠ .undefined)
    {native : NativeValue} (he : Ends h t args w (some native) w') : Answer t.result native := by
  cases he with
  | answered read alive call convert => exact (toNative_answer h haccepted hresult _ true).holding convert

/-- **Return buffers hold the whole answer or nothing.** -/
theorem respond_all_or_nothing (h : Host S) {t : Thunk} (haccepted : closureReturns t.result = true)
    (hresult : t.result ≠ .undefined) (args : List (Descriptor × Bytes)) (w : World S) :
    (∀ r w', t.respond h args w = some (r, w') → ∃ answer, Ends h t args w answer w') ∧
      ∀ answer w', Ends h t args w answer w' → ∃ buffer, t.respond h args w = some (.ok buffer, w') ∧
        buffer.length = 8 ∧ (answer = none → buffer = List.replicate 8 0) ∧
        ∀ native, answer = some native → native.IsWord → readReturn t.result buffer = .ok native := by
  refine ⟨fun r w' => exists_ends hresult, fun answer w' he => ⟨_, he.respond hresult, ?_⟩⟩
  cases answer with
  | none => exact ⟨rfl, fun _ => rfl, fun _ h => by cases h⟩
  | some native =>
    have ha := he.answer haccepted hresult
    obtain ⟨buffer, hbuffer, hlength, rest, hrest⟩ := ha.resultBytes
    have heq : bufferOf (some native) = buffer := by rw [bufferOf, Option.bind_some, hbuffer, Option.getD_some]
    refine ⟨heq ▸ hlength, fun h => (by cases h), fun _ h hword => ?_⟩
    cases h
    rw [heq, ← hrest]
    exact ha.readReturn_append hword rest

/-- Code for a script function of one byte that answers a byte. -/
def byteCode : Thunk := { target := 1024, args := [.int 8 true], result := .int 8 true, owners := 1 }

def byteWorld : World ⟨Unit, Unit, Unit, Unit⟩ where
  native := ()
  side := ()
  state := some { lifecycle := ⟨fun _ => none, []⟩ }
  script := { channel := .inline }
  closures := [(1024, ⟨some 1, ⟨.closure, .call, some [.int 8 true], some (.int 8 true), none, none⟩, 1, some 0⟩)]

/-- The byte `-5` is widened to a register and narrowed again. -/
theorem minus_five_through_register :
    closureReturns byteCode.result = true ∧ byteCode.result ≠ .undefined ∧ ∃ buffer w,
      byteCode.respond (answeringHost (.ofInt (-5))) [(.int 8 true, [7, 0, 0, 0, 0, 0, 0, 0])] byteWorld =
        some (.ok buffer, w) ∧ readReturn byteCode.result buffer = .ok (.scalar (.int ⟨.w8, true⟩ (-5))) := by
  have hresult : byteCode.result ≠ .undefined := fun h => by cases h
  have hends : ∃ w, Ends (answeringHost (.ofInt (-5))) byteCode [(.int 8 true, [7, 0, 0, 0, 0, 0, 0, 0])] byteWorld
      (some (.scalar (.int ⟨.w8, true⟩ (-5)))) w := ⟨_, .answered rfl rfl rfl rfl⟩
  obtain ⟨w, he⟩ := hends
  obtain ⟨buffer, hrespond, -, -, hread⟩ :=
    (respond_all_or_nothing (answeringHost (.ofInt (-5))) rfl hresult [(.int 8 true, [7, 0, 0, 0, 0, 0, 0, 0])]
      byteWorld).2 _ w he
  exact ⟨rfl, hresult, buffer, w, hrespond, hread _ rfl fun _ h => by cases h⟩

end Thunk

end NativeBridge
