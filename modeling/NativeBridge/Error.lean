import NativeBridge.Text.Bytes
import NativeBridge.Value.Kind

/-!
Everything that can go wrong, by cause. `Error.kind` gives the class that callers tell errors apart by, and
`Error.message` is the only place where an error is put into words.
-/

namespace NativeBridge

/-- The classes of errors. The first eleven are the bridge's own. -/
inductive ErrorKind where
  | typeMismatch | unknownType | invalidDescriptor | staleObject | library | symbol | unsupportedType
  | disconnected | stateAccess | lifecycle | call
  | invalidArgument | fileNotFound | foreign
  deriving DecidableEq, Repr

namespace ErrorKind

/-- The bridge's own classes, in the order of their codes. -/
def codes : List ErrorKind :=
  [typeMismatch, unknownType, invalidDescriptor, staleObject, library, symbol, unsupportedType,
   disconnected, stateAccess, lifecycle, call]

/-- A heading for errors of the class. -/
def title : ErrorKind → String
  | typeMismatch => "Type mismatch"
  | unknownType => "Unknown type"
  | invalidDescriptor => "Invalid type descriptor"
  | staleObject => "Object has been garbage collected"
  | library => "Failed to load dynamic library"
  | symbol => "Symbol not found in library"
  | unsupportedType => "Unsupported type"
  | disconnected => "Thread disconnected"
  | stateAccess => "Invalid runtime state access"
  | lifecycle => "Lifecycle function unavailable"
  | call => "Function call failed"
  | _ => "Unknown error"

/-- The heading for a code; a number that is no code has the heading of an unknown error. -/
def titleOfCode (code : Int) : String :=
  if code < 0 then "Unknown error" else (codes[code.toNat]?.map title).getD "Unknown error"

end ErrorKind

/-- Fields of a descriptor that hold the name of one of a few choices. -/
inductive ChoiceField where
  | listType | trampoline | scope
  deriving DecidableEq, Repr

namespace ChoiceField

def key : ChoiceField → String
  | listType => "listType"
  | trampoline => "trampoline"
  | scope => "scope"

/-- What the field chooses. -/
def subject : ChoiceField → String
  | listType => "list type"
  | trampoline => "callback trampoline"
  | scope => "callback scope"

end ChoiceField

/-- Lifecycle functions without which an operation cannot go on. -/
inductive LifecycleNeed where
  | objectRef | variantRef | boxedCopy | listFree | slistFree
  deriving DecidableEq, Repr

namespace LifecycleNeed

def subject : LifecycleNeed → String
  | objectRef => "object ref"
  | variantRef => "variant ref"
  | boxedCopy => "boxed copy"
  | listFree => "list free"
  | slistFree => "singly-linked list free"

end LifecycleNeed

inductive Error where
  -- a value that does not fit the descriptor it is paired with
  | wrongKind (wanted actual : ValueKind)
  | embeddedNul
  | objectExpected (type : String) (actual : ValueKind)
  | refCellExpected (type : String) (actual : ValueKind)
  | emptyHandle
  | emptyCallback
  -- descriptors
  | unknownType (name : String)
  | notJson (text : Bytes)
  | notObject (document : String)
  | typeMissing
  | notBoolean (field document : String)
  | sizeMissing (type : String)
  | nestedMissing (type field : String)
  | nestedNotObject (field : String)
  | choiceNotString (field : ChoiceField)
  | unknownChoice (field : ChoiceField) (name : String)
  | innerTypeMissing
  | argTypesNotArray
  | descriptorIntSize (size : Nat)
  | descriptorFloatSize (size : Nat)
  | nativeIntSize (size : Nat)
  -- objects, libraries, symbols
  | released (id : Nat)
  | noLibraries (name : Bytes)
  | libraryLoad (name reasons : Bytes)
  | symbolMissing (symbol library reason : Bytes)
  -- types that are valid but not where they were used
  | listArgument
  | arrayItem (type : String)
  | refInner (type : String)
  | listItem (type : String)
  | arrayWithoutLength (type : String)
  | numericExpected
  | returnType (type : String)
  | pointerExpected (type : String)
  | pointerConversion (type : String)
  | notScalar (type : String)
  | nullRead
  | nullWrite
  | fieldRead (type : String)
  | fieldWrite (type : String)
  | closureReturn (type : String)
  -- threads and state
  | loopStopping
  | noDispatcher
  | scriptGone
  | loopGone
  | notRunning
  | alreadyRunning
  | alreadyInstalled
  | teardownInUse
  | outsideLoop
  | reentrant
  -- calls
  | lifecycle (need : LifecycleNeed)
  | slotMismatch (index : Nat) (symbol : Bytes) (occupied expected : Nat)
  -- configuration
  | configJson
  | configNotObject
  | configSection (key : String)
  | configString (key : String)
  | configFile
  | libraryItem
  | libraryList
  | fileMissing (path : Bytes)
  -- raised outside the bridge
  | foreign (text : Bytes)
  deriving DecidableEq, Repr

namespace Error

def kind : Error → ErrorKind
  | wrongKind .. | embeddedNul | objectExpected .. | refCellExpected .. | emptyHandle | emptyCallback =>
    .typeMismatch
  | unknownType _ => .unknownType
  | notJson _ | notObject _ | typeMissing | notBoolean .. | sizeMissing _ | nestedMissing ..
  | nestedNotObject _ | choiceNotString _ | unknownChoice .. | innerTypeMissing | argTypesNotArray
  | descriptorIntSize _ | descriptorFloatSize _ | nativeIntSize _ => .invalidDescriptor
  | released _ => .staleObject
  | noLibraries _ | libraryLoad .. => .library
  | symbolMissing .. => .symbol
  | listArgument | arrayItem _ | refInner _ | listItem _ | arrayWithoutLength _ | numericExpected
  | returnType _ | pointerExpected _ | pointerConversion _ | notScalar _ | nullRead | nullWrite
  | fieldRead _ | fieldWrite _ | closureReturn _ => .unsupportedType
  | loopStopping | noDispatcher | scriptGone | loopGone | notRunning => .disconnected
  | alreadyRunning | alreadyInstalled | teardownInUse | outsideLoop | reentrant => .stateAccess
  | lifecycle _ => .lifecycle
  | slotMismatch .. => .call
  | configJson | configNotObject | configSection _ | configString _ | configFile | libraryItem
  | libraryList => .invalidArgument
  | fileMissing _ => .fileNotFound
  | foreign _ => .foreign

private def quote (s : String) : String := "'" ++ s ++ "'"

private def quoteBytes (b : Bytes) : Bytes := 39 :: b ++ [39]

/-- The words for an error. -/
def message : Error → Bytes
  | wrongKind wanted actual => .ofString ("Expected a " ++ wanted.name ++ ", got " ++ actual.name)
  | embeddedNul => .ofString "String argument contains an embedded NUL byte"
  | objectExpected type actual =>
    .ofString ("Expected an object for " ++ type ++ " type, got " ++ actual.name)
  | refCellExpected type actual =>
    .ofString ("Expected an object or null in " ++ type ++ " ref, got " ++ actual.name)
  | emptyHandle => .ofString "Empty object handle"
  | emptyCallback => .ofString "Empty callback"
  | unknownType name => .ofString ("Unknown type: " ++ name)
  | notJson text => .ofString "Type descriptor is not valid JSON: " ++ text
  | notObject document => .ofString ("Type descriptor must be an object, got " ++ document)
  | typeMissing => .ofString "Type descriptor is missing 'type'"
  | notBoolean field document => .ofString (quote field ++ " must be a boolean, got " ++ document)
  | sizeMissing type => .ofString (type ++ " type requires an integer 'size'")
  | nestedMissing type field => .ofString (type ++ " type requires an object " ++ quote field)
  | nestedNotObject field => .ofString (quote field ++ " must be a type descriptor")
  | choiceNotString field => .ofString (quote field.key ++ " must be a string")
  | unknownChoice field name => .ofString ("Unknown " ++ field.subject ++ " " ++ quote name)
  | innerTypeMissing => .ofString "boxed type requires a string 'innerType'"
  | argTypesNotArray => .ofString "'argTypes' must be an array"
  | descriptorIntSize size => .ofString ("Invalid integer size " ++ toString size)
  | descriptorFloatSize size => .ofString ("Invalid float size " ++ toString size)
  | nativeIntSize size => .ofString ("Invalid integer size: " ++ toString size)
  | released id => .ofString ("Object #" ++ toString id ++ " has been released")
  | noLibraries name =>
    .ofString "Failed to load library " ++ quoteBytes name ++ .ofString ": no libraries specified"
  | libraryLoad name reasons =>
    .ofString "Failed to load library " ++ quoteBytes name ++ .ofString ": " ++ reasons
  | symbolMissing symbol library reason =>
    .ofString "Symbol " ++ quoteBytes symbol ++ .ofString " not found in " ++ quoteBytes library
      ++ .ofString ": " ++ reason
  | listArgument => .ofString "Linked lists cannot be passed as arguments"
  | arrayItem type => .ofString ("Unsupported array item type: " ++ type)
  | refInner type => .ofString ("Unsupported ref inner type: " ++ type)
  | listItem type => .ofString ("Unsupported list item type: " ++ type)
  | arrayWithoutLength type => .ofString ("Cannot read an array of " ++ type ++ " without a length")
  | numericExpected => .ofString "Expected a numeric native value"
  | returnType type => .ofString ("Unsupported return type: " ++ type)
  | pointerExpected type => .ofString ("Expected a pointer native value for " ++ type)
  | pointerConversion type => .ofString ("Cannot convert a native pointer to " ++ type)
  | notScalar type => .ofString (type ++ " is not a scalar type")
  | nullRead => .ofString "Cannot read a field of a null pointer"
  | nullWrite => .ofString "Cannot write a field of a null pointer"
  | fieldRead type => .ofString ("Unsupported field type for read: " ++ type)
  | fieldWrite type => .ofString ("Unsupported field type for write: " ++ type)
  | closureReturn type => .ofString ("Unsupported closure return type: " ++ type)
  | loopStopping => .ofString "Cannot create a callback while the loop stops"
  | noDispatcher => .ofString "Callback has no dispatcher"
  | scriptGone => .ofString "Scripting thread disconnected: std::future_error: Broken promise"
  | loopGone => .ofString "Loop thread disconnected"
  | notRunning => .ofString "Runtime is not running"
  | alreadyRunning => .ofString "Runtime is already running"
  | alreadyInstalled => .ofString "Loop state already installed on this thread"
  | teardownInUse => .ofString "Cannot tear down loop state while it is in use"
  | outsideLoop => .ofString "Loop state accessed outside the loop thread"
  | reentrant => .ofString "Reentrant loop state access"
  | lifecycle need => .ofString ("No " ++ need.subject ++ " function available")
  | slotMismatch index symbol occupied expected =>
    .ofString ("Argument " ++ toString index ++ " of ") ++ symbol
      ++ .ofString (" occupies " ++ toString occupied ++ " slots, expected " ++ toString expected)
  | configJson => .ofString "Invalid configuration JSON"
  | configNotObject => .ofString "Configuration must be a JSON object"
  | configSection key => .ofString ("Configuration section " ++ quote key ++ " must be an object")
  | configString key => .ofString ("Configuration field " ++ quote key ++ " must be a string")
  | configFile => .ofString "Configuration field 'file' must be a string or null"
  | libraryItem => .ofString "Lifecycle libraries must be strings"
  | libraryList => .ofString "Lifecycle libraries must be a string or an array"
  | fileMissing path => .ofString "Cannot open configuration file: " ++ path
  | foreign text => text

end Error

/-! ### Reports -/

/-- What a report tells of an error besides its message: where it was raised, on which thread, and the frames of the
stack then. -/
structure Site where
  file : Bytes := []
  line : Nat := 0
  function : Bytes := []
  thread : Bytes := []
  frames : List Bytes := []

namespace Site

private def heading : Bytes := .ofString "Exception occurred:"

private def functionLine (name : Bytes) : Bytes := .ofString "  Function: " ++ name ++ .ofString "()"

private def messageMark : Bytes := .ofString "  Message: "

private def traceHeading : Bytes := .ofString "  Stack trace:"

private def frameLine (index : Nat) (frame : Bytes) : Bytes :=
  .ofString ("\t[" ++ toString index ++ "] ") ++ frame

/-- Lines with the end of line after each. -/
private def unlines (lines : List Bytes) : Bytes := lines.flatMap (· ++ [10])

variable (site : Site)

/-- The part of a report before the message. -/
def opening : Bytes :=
  unlines
    [heading, .ofString "  File: " ++ site.file, .ofString ("  Line: " ++ toString site.line),
     functionLine site.function, .ofString "  Thread ID: " ++ site.thread] ++ messageMark

/-- The part of a report after the message. -/
def closing : Bytes := 10 :: unlines (traceHeading :: site.frames.mapIdx frameLine)

/-- The full report of an error with a message. -/
def report (message : Bytes) : Bytes := site.opening ++ message ++ site.closing

/-- The message in a report; a text that is no report is taken as it is. -/
def messageOf (text : Bytes) : Bytes :=
  match site.opening.isPrefixOf? text with
  | some rest => (site.closing.isSuffixOf? rest).getD rest
  | none => text

end Site

namespace Error

/-- What an error says of itself as a C string: one of the bridge gives a full report, any other its text. -/
def what (e : Error) (site : Site) : Bytes :=
  Bytes.untilNul (if e.kind = .foreign then e.message else site.report e.message)

/-- The lines of a report that tell of the error itself: a heading, the function that raised it, its message, and the
heading of the trace that follows. -/
def report (e : Error) (function : String) : List Bytes :=
  [Site.heading, Site.functionLine (.ofString function), Site.messageMark ++ e.message, Site.traceHeading]

end Error

/-- An error with where it was raised. -/
structure Raised where
  error : Error
  site : Site

/-- What the error says of itself. -/
def Raised.what (r : Raised) : Bytes := r.error.what r.site

end NativeBridge
