import NativeBridge.Proofs.Access.Alike

/-!
Native code, script code and code of the loop thread as programs, so that their steps can be told apart. The programs on
the other sides of a bridge make a host for each depth of crossings. The host can be watched: where the state of the
loop thread is in use, a step of a program does something else instead. A bridge that never lets programs go on while
the state is in use behaves with the watched host as it does with the host itself, whatever is done instead.
-/

namespace NativeBridge.Access

open Eff

variable {S : Sides}

/-! ### Programs -/

/-- How steps are taken. -/
abbrev Stepping (S : Sides) := ∀ α : Type, Eff S α → Eff S α

/-- Steps are taken as they are. -/
def plainly : Stepping S := fun _ x => x

/-- Steps are taken where the state of the loop thread is free; where it is in use something else is done instead. -/
def whenFree (instead : ∀ α : Type, Eff S α) : Stepping S := fun α x w => if w.inUse then instead α w else x w

open Classical in
/-- Native code that is given nothing to call back by is run for the lifetime of an object or for its type, which may be
while the state is in use. All other native code is watched. -/
noncomputable def watching (instead : ∀ α : Type, Eff S α) (call : CallCode S) : Stepping S :=
  if call = fun _ _ => stuck then plainly else whenFree instead

lemma watching_callCode {instead : ∀ α : Type, Eff S α} (h : Host S) (w : World S) :
    watching instead (callCode h) = whenFree instead := by
  refine if_neg fun he => ?_
  have hcall : callCode h Entry.unref.address { ints := [0] } w = some (.ok {}, w) := rfl
  rw [he] at hcall
  cases hcall

/-- Native code: it changes its own state and memory, and calls function pointers. -/
inductive NativeProgram (S : Sides) : Type → Type 1 where
  | pure {α : Type} (a : α) : NativeProgram S α
  | stuck {α : Type} : NativeProgram S α
  | own {α : Type} (f : World S → α × S.Native × Heap) (h : ∀ w, w.heap.given ≤ (f w).2.2.given) : NativeProgram S α
  | call (a : Address) (words : Registers) : NativeProgram S Returned
  | bind {α β : Type} (p : NativeProgram S α) (k : α → NativeProgram S β) : NativeProgram S β

def NativeProgram.run (step : Stepping S) (call : CallCode S) : ∀ {α : Type}, NativeProgram S α → Eff S α
  | _, .pure a => Pure.pure a
  | _, .stuck => Eff.stuck
  | _, .own f _ => step _ (Eff.update fun w => ((f w).1, { w with native := (f w).2.1, heap := (f w).2.2 }))
  | _, .call a words => step _ (call a words)
  | _, .bind p k => p.run step call >>= fun a => (k a).run step call

/-- Code of the scripting thread or of the loop thread. -/
inductive SideProgram (Step : Type → Type 1) : Type → Type 1 where
  | pure {α : Type} (a : α) : SideProgram Step α
  | stuck {α : Type} : SideProgram Step α
  | throw {α : Type} (e : Error) : SideProgram Step α
  | step {α : Type} (o : Step α) : SideProgram Step α
  | attempt {α : Type} (p : SideProgram Step α) : SideProgram Step (Except Error α)
  | bind {α β : Type} (p : SideProgram Step α) (k : α → SideProgram Step β) : SideProgram Step β

def SideProgram.run {Step : Type → Type 1} (step : Stepping S) (perform : ∀ α : Type, Step α → Eff S α) :
    ∀ {α : Type}, SideProgram Step α → Eff S α
  | _, .pure a => Pure.pure a
  | _, .stuck => Eff.stuck
  | _, .throw e => MonadExcept.throw e
  | _, .step o => step _ (perform _ o)
  | _, .attempt p => (p.run step perform).attempt
  | _, .bind p k => p.run step perform >>= fun a => (k a).run step perform

abbrev ScriptProgram (Native Script : Type) := SideProgram (ScriptStep Native Script)

abbrev LoopProgram (Native Script : Type) := SideProgram (LoopStep Native Script)

section

variable {α : Type}

lemma NativeProgram.code (call : CallCode S) (p : NativeProgram S α) : NativeCode call (p.run plainly call) := by
  induction p with
  | pure a => exact .pure a
  | stuck => exact .stuck
  | own f h => exact .own f h
  | call a words => exact .call a words
  | bind p k ihp ihk => exact .bind ihp ihk

lemma SideProgram.code {Step : Type → Type 1} (perform : ∀ α : Type, Step α → Eff S α) (p : SideProgram Step α) :
    SideCode perform (p.run plainly perform) := by
  induction p with
  | pure a => exact .pure a
  | stuck => exact .stuck
  | throw e => exact .throw e
  | step o => exact .step o
  | attempt p ih => exact .attempt ih
  | bind p k ihp ihk => exact .bind ihp ihk

lemma Alike.watched {x y : Eff S α} (hx : Alike x y) (instead : ∀ α : Type, Eff S α) :
    Alike (plainly α x) (whenFree instead α y) :=
  ⟨hx.frees, fun w hu => by rw [whenFree, hu]; exact hx.same hu⟩

lemma NativeProgram.alike {call call' : CallCode S} (hcall : ∀ a words, Alike (call a words) (call' a words))
    (instead : ∀ α : Type, Eff S α) (p : NativeProgram S α) :
    Alike (p.run plainly call) (p.run (whenFree instead) call') := by
  induction p with
  | pure a => exact Alike.parametric.pure a
  | stuck => exact Alike.parametric.stuck
  | own f h => exact Alike.watched (.refl (.update fun _ => .of_same rfl)) instead
  | call a words => exact (hcall a words).watched instead
  | bind p k ihp ihk => exact Alike.parametric.bind ihp ihk

lemma SideProgram.alike {Step : Type → Type 1} {perform perform' : ∀ α : Type, Step α → Eff S α}
    (hstep : ∀ {α : Type} (o : Step α), Alike (perform α o) (perform' α o)) (instead : ∀ α : Type, Eff S α)
    (p : SideProgram Step α) : Alike (p.run plainly perform) (p.run (whenFree instead) perform') := by
  induction p with
  | pure a => exact Alike.parametric.pure a
  | stuck => exact Alike.parametric.stuck
  | throw e => exact Alike.parametric.throw e
  | step o => exact (hstep o).watched instead
  | attempt p ih => exact Alike.parametric.attempt ih
  | bind p k ihp ihk => exact Alike.parametric.bind ihp ihk

end

/-! ### Hosts -/

variable {Native Script : Type}

/-- What stands on the other sides of a bridge: native libraries and a script, and what each thread does while the other
one waits. -/
structure Surroundings (Native Script : Type) where
  loader : Library.Loader
  symbol : Library.Symbols
  anySymbol : Bytes → Option Address
  convention : Convention := .standard
  limit : Nat
  site : World (Bridge.sides Native Script) → Error → Site := fun _ _ => {}
  native : Address → Registers → NativeProgram (Bridge.sides Native Script) Returned
  script : Option FunctionId → List Value → ScriptProgram Native Script Value
  scriptTurn : ScriptProgram Native Script Unit
  loopTurn : LoopProgram Native Script Unit

namespace Surroundings

variable (f : Surroundings Native Script)

/-- The host for a number of crossings: what crosses to the other side finds there the host for one crossing less. All
that a program does from its beginning on is a step, and so are its steps; how those of native code are taken may depend
on what it is given to call back by. -/
def hostBy (step : Stepping (Bridge.sides Native Script))
    (native : CallCode (Bridge.sides Native Script) → Stepping (Bridge.sides Native Script)) :
    Nat → Host (Bridge.sides Native Script)
  | 0 => { linkage with
      limit := f.limit, site := f.site, script := fun _ _ => stuck, answer := fun _ => stuck, scriptTurn := stuck
      loopTurn := stuck }
  | n + 1 => { linkage with
      limit := f.limit
      site := f.site
      script := fun g args => step _ ((f.script g args).run step fun _ o => o.perform (hostBy step native n))
      answer := fun j => step _ (Bridge.answer (hostBy step native n) j)
      scriptTurn := step _ (f.scriptTurn.run step fun _ o => o.perform (hostBy step native n))
      loopTurn := step _ (f.loopTurn.run step fun _ o => o.perform (hostBy step native n)) }
where
  linkage : Linkage (Bridge.sides Native Script) :=
    { loader := f.loader, symbol := f.symbol, anySymbol := f.anySymbol, convention := f.convention
      run := fun a call words => native call _ ((f.native a words).run (native call) call) }

/-- The host itself. -/
def host (n : Nat) : Host (Bridge.sides Native Script) := f.hostBy plainly (fun _ => plainly) n

/-- The watched host. -/
noncomputable def watched (instead : ∀ α : Type, Eff (Bridge.sides Native Script) α) (n : Nat) :
    Host (Bridge.sides Native Script) :=
  f.hostBy (whenFree instead) (watching instead) n

section

variable {α : Type}

/-- A script runs before the host. -/
def run (n : Nat) (p : ScriptProgram Native Script α) : Eff (Bridge.sides Native Script) α :=
  p.run plainly fun _ o => o.perform (f.host n)

/-- A script runs before the watched host, and is watched. -/
noncomputable def runWatched (instead : ∀ α : Type, Eff (Bridge.sides Native Script) α) (n : Nat)
    (p : ScriptProgram Native Script α) : Eff (Bridge.sides Native Script) α :=
  p.run (whenFree instead) fun _ o => o.perform (f.watched instead n)

end

variable {f} (instead : ∀ α : Type, Eff (Bridge.sides Native Script) α) (n : Nat)

/-- The host is one made for the bridge. -/
lemma host_tied : (f.host n).Tied := by
  induction n with
  | zero => exact .ground (fun a call words => (f.native a words).code call) (fun _ _ => rfl) (fun _ => rfl) rfl rfl
  | succ n ih =>
    exact .crossing ih (fun a call words => (f.native a words).code call) (fun g args => (f.script g args).code _)
      (fun _ => rfl) (f.scriptTurn.code _) (f.loopTurn.code _)

/-- A function that a call runs is watched. -/
lemma watched_run (a : Address) (words : Registers) (h : Host (Bridge.sides Native Script))
    (w : World (Bridge.sides Native Script)) :
    (f.watched instead n).run a (callCode h) words =
      whenFree instead _ ((f.native a words).run (whenFree instead) (callCode h)) := by
  rw [← watching_callCode h w]
  cases n <;> rfl

/-- Whatever is done instead, the watched host agrees with the host itself. -/
lemma host_agrees : Agree (f.host n) (f.watched instead n) := by
  have hsame (n : Nat) : (f.host n).quietly = (f.watched instead n).quietly := by
    cases n <;> simp [Host.quietly, host, watched, hostBy, hostBy.linkage, watching]
  have hnative (n : Nat) (a : Address) (words : Registers)
      (hcall : ∀ b more, Alike (callCode (f.host n) b more) (callCode (f.watched instead n) b more)) :
      Alike ((f.host n).run a (callCode (f.host n)) words)
        ((f.watched instead n).run a (callCode (f.watched instead n)) words) := by
    have hrun := ((f.native a words).alike hcall instead).watched instead
    refine ⟨?_, fun w hu => ?_⟩
    · cases n <;> exact hrun.frees
    · rw [watched_run instead n a words _ w]
      cases n <;> exact hrun.same hu
  induction n with
  | zero =>
    exact ⟨hsame 0, fun a call words => (f.native a words).code call, hnative 0, fun _ _ => .refl .stuck,
      fun _ => .refl .stuck, .refl .stuck, .refl .stuck⟩
  | succ n ih =>
    have hscript {α : Type} (p : ScriptProgram Native Script α) :=
      (p.alike (fun o => o.composed ih.bridge) instead).watched instead
    have hloop {α : Type} (p : LoopProgram Native Script α) :=
      (p.alike (fun o => o.composed ih.bridge) instead).watched instead
    exact ⟨hsame _, fun a call words => (f.native a words).code call, hnative _,
      fun g args => hscript (f.script g args), fun j => (ih.answers j).watched instead, hscript f.scriptTurn,
      hloop f.loopTurn⟩

lemma run_alike {α : Type} (p : ScriptProgram Native Script α) : Alike (f.run n p) (f.runWatched instead n p) :=
  p.alike (fun o => o.composed (host_agrees instead n).bridge) instead

end Surroundings

end NativeBridge.Access
