import NativeBridge.Bridge
import NativeBridge.Proofs.Effect

/-!
What work that holds the state asks of the other sides: their libraries, and native functions that call nothing. Hosts
that are alike in that are the same to it.
-/

namespace NativeBridge

open Eff

variable {S : Sides} {γ : Type}

/-- The host without either side: its native functions call nothing, and nothing else runs. -/
def Host.quietly (h : Host S) : Host S :=
  { h with
    run := fun a _ words => h.run a (fun _ _ => stuck) words
    script := fun _ _ => stuck
    answer := fun _ => stuck
    scriptTurn := stuck
    loopTurn := stuck }

/-- What is made of a host depends on nothing but what is quiet about it. -/
def Quiet (F : Host S → γ) : Prop := ∀ h, F h.quietly = F h

namespace Quiet

lemma congr {F : Host S → γ} (hF : Quiet F) {h h' : Host S} (hs : h.quietly = h'.quietly) : F h = F h' :=
  (hF h).symm.trans ((congrArg F hs).trans (hF h'))

lemma limit : Quiet fun h : Host S => h.limit := fun _ => rfl

lemma site : Quiet fun h : Host S => h.site := fun _ => rfl

lemma convention : Quiet fun h : Host S => h.convention := fun _ => rfl

lemma toNative (a : Arg) : Quiet fun h : Host S => NativeBridge.toNative h a := fun _ => rfl

lemma readBack (c : Call) (result : Descriptor) (values : List NativeValue) (buffer : Bytes) :
    Quiet fun h : Host S => Call.readBack h c result values buffer := fun _ => rfl

lemma prepareArgs (symbol : Bytes) (index : Nat) (done : List NativeValue) (types : List AbiType) (args : List Arg) :
    Quiet fun h : Host S => Call.prepareArgs h symbol index done types args := by
  intro h
  induction args generalizing index done types with
  | nil => rfl
  | cons a rest ih =>
    simp only [Call.prepareArgs, ih]
    rfl

lemma prepare (c : Call) (result : Descriptor) : Quiet fun h : Host S => Call.prepare h c result := by
  intro h
  unfold Call.prepare
  simp only [prepareArgs _ _ _ _ _ h]
  rfl

lemma convertTyped (raw : List Trampoline.RawArg) (types : List (Option Descriptor)) :
    Quiet fun h : Host S => Trampoline.convertTyped h raw types := by
  intro h
  fun_induction Trampoline.convertTyped h raw types with
  | case1 => rfl
  | case2 a rest ih => simp only [Trampoline.convertTyped, ih]
  | case3 a rest types ih => simp only [Trampoline.convertTyped, ih]
  | case4 a rest type types ih =>
    simp only [Trampoline.convertTyped, ih]
    rfl

lemma arguments (args : List (Descriptor × Bytes)) :
    Quiet fun h : Host S => Eff.collect (fun a => argumentFromMemory h a.2 a.1) args := fun _ => rfl

lemma readObject (object : Option Handle) (type : Descriptor) (offset : Nat) : Quiet fun h : Host S => (do
    return Bridge.Reply.value (← readField h (← resolveObject object) offset type) : Eff S Bridge.Reply) :=
  fun _ => rfl

lemma allocBoxed (size : Nat) (name : String) (lib : Option String) : Quiet fun h : Host S => (do
    let id ← boxedTypeId h name lib
    let o ← Wrapper.boxedAlloc h (← LoopState.currentLifecycle) size id
    return Bridge.Reply.value (.object (some (← LoopState.wrap o))) : Eff S Bridge.Reply) :=
  fun _ => rfl

lemma removeObject (id : ObjectId) : Quiet fun h : Host S => LoopState.removeObject h id := fun _ => rfl

lemma teardown : Quiet fun h : Host S => LoopState.teardown h := fun _ => rfl

lemma openAll (r : Library.Record) (names : List String) : Quiet fun h : Host S => Lifecycle.openAll h r names := by
  intro h
  induction names generalizing r with
  | nil => rfl
  | cons name rest ih =>
    simp only [Lifecycle.openAll, ih]
    rfl

lemma resolve (config : LifecycleConfig) : Quiet fun h : Host S => Lifecycle.resolve h config := by
  intro h
  unfold Lifecycle.resolve
  simp only [openAll _ _ h]
  rfl

end Quiet

end NativeBridge
