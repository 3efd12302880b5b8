import NativeBridge.Error
import NativeBridge.Json.Parser

/-!
Configuration of a bridge: logging, and the names of the functions that manage native lifetimes. Every field has a
default, so an empty document is a configuration.
-/

namespace NativeBridge

inductive LogLevel where
  | trace | debug | info | warn | err | critical | off
  deriving DecidableEq, Repr

namespace LogLevel

def name : LogLevel → String
  | trace => "trace"
  | debug => "debug"
  | info => "info"
  | warn => "warning"
  | err => "error"
  | critical => "critical"
  | off => "off"

/-- The words that name a level, in lower case. -/
def words : List (String × LogLevel) :=
  [("trace", trace), ("debug", debug), ("info", info), ("warn", warn), ("warning", warn),
   ("error", err), ("err", err), ("critical", critical), ("fatal", critical), ("off", off)]

/-- The level that a word names in any case of ASCII letters; an unknown word means `info`. -/
def parse (word : Bytes) : LogLevel :=
  let lower := word.map Bytes.asciiLower
  ((words.find? fun w => Bytes.ofString w.1 == lower).map Prod.snd).getD info

end LogLevel

structure LogConfig where
  level : LogLevel := .info
  pattern : String := "[%Y-%m-%d %H:%M:%S.%e] [%^%l%$] [thread %t] %v"
  file : Option String := none
  deriving DecidableEq, Repr

/-- The functions that manage the lifetime of native objects. -/
inductive LifecycleRole where
  | objectRef | objectUnref | objectRefSink | objectIsFloating
  | variantRef | variantRefSink | variantUnref
  | boxedCopy | boxedFree | typeFromName
  | free | alloc0 | strfreev | listFree | slistFree
  deriving DecidableEq, Repr

namespace LifecycleRole

def all : List LifecycleRole :=
  [objectRef, objectUnref, objectRefSink, objectIsFloating, variantRef, variantRefSink, variantUnref,
   boxedCopy, boxedFree, typeFromName, free, alloc0, strfreev, listFree, slistFree]

def key : LifecycleRole → String
  | objectRef => "objectRef"
  | objectUnref => "objectUnref"
  | objectRefSink => "objectRefSink"
  | objectIsFloating => "objectIsFloating"
  | variantRef => "variantRef"
  | variantRefSink => "variantRefSink"
  | variantUnref => "variantUnref"
  | boxedCopy => "boxedCopy"
  | boxedFree => "boxedFree"
  | typeFromName => "typeFromName"
  | free => "free"
  | alloc0 => "alloc0"
  | strfreev => "strfreev"
  | listFree => "listFree"
  | slistFree => "slistFree"

/-- The default: the function of the GObject libraries. -/
def defaultSymbol : LifecycleRole → String
  | objectRef => "g_object_ref"
  | objectUnref => "g_object_unref"
  | objectRefSink => "g_object_ref_sink"
  | objectIsFloating => "g_object_is_floating"
  | variantRef => "g_variant_ref"
  | variantRefSink => "g_variant_ref_sink"
  | variantUnref => "g_variant_unref"
  | boxedCopy => "g_boxed_copy"
  | boxedFree => "g_boxed_free"
  | typeFromName => "g_type_from_name"
  | free => "g_free"
  | alloc0 => "g_malloc0"
  | strfreev => "g_strfreev"
  | listFree => "g_list_free"
  | slistFree => "g_slist_free"

end LifecycleRole

/-- Which libraries to search, and the symbol for each role. -/
structure LifecycleConfig where
  libraries : List String := ["libgobject-2.0.so.0", "libglib-2.0.so.0"]
  symbol : LifecycleRole → String := LifecycleRole.defaultSymbol

namespace LifecycleConfig

/-- Sets the symbol of one role. -/
def setSymbol (c : LifecycleConfig) (role : LifecycleRole) (name : String) : LifecycleConfig :=
  { c with symbol := fun r => if r = role then name else c.symbol r }

end LifecycleConfig

structure Config where
  logging : LogConfig := {}
  lifecycle : LifecycleConfig := {}

namespace Config

/-- A string field, if it is present. -/
def readString (section_ : Json) (key : String) : Except Error (Option String) :=
  match section_.field? key with
  | none => .ok none
  | some (.str s) => .ok (some s)
  | some _ => .error (.configString key)

/-- A section, if it is present. -/
def readSection (document : Json) (key : String) : Except Error (Option Json) :=
  match document.field? key with
  | none => .ok none
  | some (.obj fields) => .ok (some (.obj fields))
  | some _ => .error (.configSection key)

/-- The logging section over the settings so far. An empty level leaves the level as it is. -/
def readLogging (j : Json) (c : LogConfig) : Except Error LogConfig := do
  let level ← readString j "level"
  let c := match level with
    | some word => if word.isEmpty then c else { c with level := .parse (.ofString word) }
    | none => c
  let pattern ← readString j "pattern"
  let c := { c with pattern := pattern.getD c.pattern }
  match j.field? "file" with
  | none => return c
  | some .null => return { c with file := none }
  | some (.str file) => return { c with file := some file }
  | some _ => throw .configFile

/-- The entries of a list of libraries. -/
def readLibraryItems : List Json → Except Error (List String)
  | [] => .ok []
  | .str s :: rest => (s :: ·) <$> readLibraryItems rest
  | _ :: _ => .error .libraryItem

/-- The symbols of the roles, in order, over the settings so far. -/
def readSymbols (j : Json) : List LifecycleRole → LifecycleConfig → Except Error LifecycleConfig
  | [], c => .ok c
  | role :: rest, c => do
    let name ← readString j role.key
    readSymbols j rest ((name.map (c.setSymbol role)).getD c)

/-- The lifecycle section over the settings so far. A single string of libraries is a list of one entry. -/
def readLifecycle (j : Json) (c : LifecycleConfig) : Except Error LifecycleConfig := do
  let c ← match j.field? "libraries" with
    | none => pure c
    | some (.str s) => pure { c with libraries := [s] }
    | some (.arr items) => do
      let libraries ← readLibraryItems items
      pure { c with libraries := libraries }
    | some _ => throw .libraryList
  readSymbols j LifecycleRole.all c

def fromJson (document : Json) : Except Error Config := do
  if !document.isObject then throw .configNotObject
  let c : Config := {}
  let logging ← match ← readSection document "logging" with
    | some j => readLogging j c.logging
    | none => pure c.logging
  let lifecycle ← match ← readSection document "lifecycle" with
    | some j => readLifecycle j c.lifecycle
    | none => pure c.lifecycle
  return { logging, lifecycle }

/-- The configuration in a text. -/
def parse (text : Bytes) : Except Error Config :=
  match Json.parse? text with
  | some document => fromJson document
  | none => .error .configJson

/-- The configuration in a file, of which the content is given if the file can be opened. -/
def load (path : Bytes) (content : Option Bytes) : Except Error Config :=
  match content with
  | some text => parse text
  | none => .error (.fileMissing path)

def toJson (c : Config) : Json :=
  .object
    [("logging", .object
      [("level", .str c.logging.level.name),
       ("pattern", .str c.logging.pattern),
       ("file", (c.logging.file.map Json.str).getD .null)]),
     ("lifecycle", .object
      (("libraries", .arr (c.lifecycle.libraries.map Json.str))
        :: LifecycleRole.all.map fun r => (r.key, .str (c.lifecycle.symbol r))))]

end Config

end NativeBridge
