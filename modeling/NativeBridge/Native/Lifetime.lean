import NativeBridge.World

/-!
Native lifetimes through the functions that were found for them. Without a function an operation that must succeed
raises an error, a release leaks, and memory falls back to the allocator of the bridge. Lifecycle functions do not
call back.
-/

namespace NativeBridge.Lifecycle

variable {S : Sides} (h : Host S)

/-- Opens the first of the alternatives that opens. -/
def openAny (h : Host S) (r : Library.Record) (alternatives : List Bytes) :
    Option Library.Opening × Library.Record :=
  match Library.openFirst h.loader r alternatives with
  | (.ok o, r) => (some o, r)
  | (.error _, r) => (none, r)

def openAll (h : Host S) (r : Library.Record) : List String → List Library.Opening × Library.Record
  | [] => ([], r)
  | name :: rest =>
    let (opened, r) := openAny h r (Library.alternatives (.ofString name))
    let (more, r) := openAll h r rest
    (opened.toList ++ more, r)

/-- Looks a symbol up in libraries, in order, and then anywhere. The empty name has no symbol. -/
def lookup (h : Host S) (libraries : List Library.Opening) (name : String) : Option Address :=
  if name.isEmpty then none
  else
    let symbol := Bytes.untilNul (.ofString name)
    (libraries.findSome? fun o => (h.symbol o.library symbol).toOption).or (h.anySymbol symbol)

/-- Opens the configured libraries and finds a function for each role. -/
def resolve (c : LifecycleConfig) : Eff S Lifecycle :=
  Eff.update fun w =>
    let (libraries, record) := openAll h w.record c.libraries
    ({ bound := fun role => lookup h libraries (c.symbol role), libraries }, { w with record })

variable (l : Lifecycle)

/-- Lets go of the libraries. None of them is closed, since an object may still be released through them. -/
def destroy : Eff S Unit := modify fun w => { w with record := Library.releaseAll l.libraries w.record }

/-- Calls the function of a role with words; nothing if there is no function. -/
def call? (role : LifecycleRole) (words : List Nat) : Eff S (Option Nat) :=
  match l.bound role with
  | none => pure none
  | some a => do
    let r ← h.run a (fun _ _ => Eff.stuck) { ints := words }
    return some r.int

/-- Calls the function of a role that an operation cannot do without. -/
def require (role : LifecycleRole) (need : LifecycleNeed) (words : List Nat) : Eff S Nat := do
  match ← call? h l role words with
  | some r => return r
  | none => throw (.lifecycle need)

def objectRef (p : Address) : Eff S Address := require h l .objectRef .objectRef [p]

def objectUnref (p : Address) : Eff S Unit := do
  let _ ← call? h l .objectUnref [p]

/-- Sinks a floating reference; nothing happens where there are none. -/
def objectRefSink (p : Address) : Eff S Address := return (← call? h l .objectRefSink [p]).getD p

def objectIsFloating (p : Address) : Eff S Bool :=
  return Width.w32.low ((← call? h l .objectIsFloating [p]).getD 0) != 0

def variantRef (p : Address) : Eff S Address := require h l .variantRef .variantRef [p]

/-- Sinks a floating reference, or takes one where there is nothing to sink. -/
def variantRefSink (p : Address) : Eff S Address := do
  match ← call? h l .variantRefSink [p] with
  | some r => return r
  | none => variantRef h l p

def variantUnref (p : Address) : Eff S Unit := do
  let _ ← call? h l .variantUnref [p]

def boxedCopy (type : TypeId) (p : Address) : Eff S Address := require h l .boxedCopy .boxedCopy [type, p]

def boxedFree (type : TypeId) (p : Address) : Eff S Unit := do
  let _ ← call? h l .boxedFree [type, p]

def hasTypeRegistry : Bool := (l.bound .typeFromName).isSome

/-- The identifier of a type by its name; zero for an unknown one. -/
def typeFromName (name : Bytes) : Eff S TypeId := do
  if !l.hasTypeRegistry then return 0
  let text ← Memory.allocString name
  let id ← call? h l .typeFromName [text]
  Memory.release text
  return id.getD 0

def free (p : Address) : Eff S Unit := do
  if (← call? h l .free [p]).isNone then Memory.release p

/-- Zeroed memory, of at least one byte. -/
def alloc0 (size : Nat) : Eff S Address := do
  match ← call? h l .alloc0 [size] with
  | some p => return p
  | none => Memory.alloc (List.replicate (max size 1) 0)

/-- Frees a NULL-terminated array of strings and the strings. -/
def strfreev (p : Address) : Eff S Unit := do
  if p = 0 then return
  if (← call? h l .strfreev [p]).isSome then return
  let heap := (← get).heap
  Eff.each (free h l) (heap.wordsUntilZero heap.bound p)
  free h l p

def listFree (p : Address) : Eff S Unit := do
  let _ ← require h l .listFree .listFree [p]

def slistFree (p : Address) : Eff S Unit := do
  let _ ← require h l .slistFree .slistFree [p]

end NativeBridge.Lifecycle
