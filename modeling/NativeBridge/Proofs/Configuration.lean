import Mathlib.Data.List.Nodup
import NativeBridge.Config
import NativeBridge.Proofs.Descriptor.RoundTrip

/-!
The documents that describe configurations. `Describes` is their grammar together with what each document means, one
field at a time; reading a document is deciding the grammar, and writing a configuration gives a document of it.
-/

namespace NativeBridge

/-- Every level has a word. -/
lemma LogLevel.parse_name (level : LogLevel) : parse (.ofString level.name) = level := by
  cases level <;> decide +kernel

lemma LogLevel.name_ne_empty (level : LogLevel) : level.name ≠ "" := by
  cases level <;> decide

namespace LifecycleRole

lemma mem_all (role : LifecycleRole) : role ∈ all := by
  cases role <;> decide

end LifecycleRole

namespace Config

/-! ### The grammar -/

/-- A text that may be absent. -/
inductive Text (usual : String) : Option Json → String → Prop
  | absent : Text usual none usual
  | given (s : String) : Text usual (some (.str s)) s

/-- The word for a level, which may be absent or empty. -/
inductive Level (usual : LogLevel) : Option Json → LogLevel → Prop
  | absent : Level usual none usual
  | empty : Level usual (some (.str "")) usual
  | given (word : String) (nonempty : word ≠ "") : Level usual (some (.str word)) (.parse (.ofString word))

/-- The name of a file, which may be absent, or null for no file. -/
inductive File (usual : Option String) : Option Json → Option String → Prop
  | absent : File usual none usual
  | null : File usual (some .null) none
  | given (s : String) : File usual (some (.str s)) (some s)

/-- A list of libraries, which may be absent, or one entry by itself. -/
inductive Libraries (usual : List String) : Option Json → List String → Prop
  | absent : Libraries usual none usual
  | single (s : String) : Libraries usual (some (.str s)) [s]
  | list {items : List Json} {names : List String} (texts : items = names.map .str) :
    Libraries usual (some (.arr items)) names

/-- The settings for logging by the fields of the section, each by itself, over what is usual. -/
structure Logging (field : String → Option Json) (usual c : LogConfig) : Prop where
  level : Level usual.level (field "level") c.level
  pattern : Text usual.pattern (field "pattern") c.pattern
  file : File usual.file (field "file") c.file

/-- The settings for lifetimes by the fields of the section, each by itself, over what is usual. -/
structure Lifecycle (field : String → Option Json) (usual c : LifecycleConfig) : Prop where
  libraries : Libraries usual.libraries (field "libraries") c.libraries
  symbol : ∀ role, Text (usual.symbol role) (field role.key) (c.symbol role)

/-- The field of a section, if both are there. -/
def fieldIn (d : Json) (name key : String) : Option Json := (d.field? name).bind (·.field? key)

/-- What a section may be: absent, or an object. -/
def IsSection (j : Option Json) : Prop := ∀ s ∈ j, s.isObject = true

/-- The document describes the configuration: each field is what the document has for it, and the default where it has
nothing. Other fields and sections may hold anything. -/
structure Describes (d : Json) (c : Config) : Prop where
  document : d.isObject = true
  sections : ∀ name ∈ ["logging", "lifecycle"], IsSection (d.field? name)
  logging : Logging (fieldIn d "logging") {} c.logging
  lifecycle : Lifecycle (fieldIn d "lifecycle") {} c.lifecycle

/-- The document and its sections are objects, and the fields that are there are of the right kinds. -/
structure Admissible (d : Json) : Prop where
  document : d.isObject = true
  sections : ∀ name ∈ ["logging", "lifecycle"], IsSection (d.field? name)
  texts : ∀ key ∈ ["level", "pattern"], ∀ v ∈ fieldIn d "logging" key, ∃ s, v = .str s
  file : ∀ v ∈ fieldIn d "logging" "file", v = .null ∨ ∃ s, v = .str s
  libraries : ∀ v ∈ fieldIn d "lifecycle" "libraries", (∃ s, v = .str s) ∨
    ∃ items, v = .arr items ∧ ∀ i ∈ items, ∃ s, i = .str s
  symbols : ∀ role : LifecycleRole, ∀ v ∈ fieldIn d "lifecycle" role.key, ∃ s, v = .str s

section Kinds

variable {v : Option Json}

lemma Text.unique {usual s t : String} (h : Text usual v s) (h' : Text usual v t) : s = t := by
  cases h <;> cases h' <;> rfl

lemma Level.unique {usual l m : LogLevel} (h : Level usual v l) (h' : Level usual v m) : l = m := by
  cases h with
  | absent => cases h'; rfl
  | empty =>
    cases h' with
    | empty => rfl
    | given _ nonempty => exact absurd rfl nonempty
  | given _ nonempty =>
    cases h' with
    | empty => exact absurd rfl nonempty
    | given => rfl

lemma File.unique {usual f g : Option String} (h : File usual v f) (h' : File usual v g) : f = g := by
  cases h <;> cases h' <;> rfl

lemma Libraries.unique {usual l m : List String} (h : Libraries usual v l) (h' : Libraries usual v m) : l = m := by
  cases h with
  | absent => cases h'; rfl
  | single => cases h'; rfl
  | list texts =>
    cases h' with
    | list texts' => exact List.map_injective_iff.2 (fun _ _ => Json.str.inj) (texts.symm.trans texts')

/-- What is a text if it is there. -/
lemma exists_map_iff : (∃ o : Option String, v = o.map .str) ↔ ∀ x ∈ v, ∃ s, x = .str s := by
  constructor
  · rintro ⟨_ | s, rfl⟩ <;> simp
  · intro h
    cases v with
    | none => exact ⟨none, rfl⟩
    | some x =>
      obtain ⟨s, rfl⟩ := h x rfl
      exact ⟨some s, rfl⟩

lemma text_map_iff {usual s : String} {o : Option String} : Text usual (o.map .str) s ↔ s = o.getD usual := by
  have given : Text usual (o.map .str) (o.getD usual) := by
    cases o with
    | none => exact .absent
    | some s => exact .given s
  exact ⟨fun h => h.unique given, fun h => h ▸ given⟩

lemma exists_text_iff {usual : String} : (∃ s, Text usual v s) ↔ ∃ o : Option String, v = o.map .str := by
  constructor
  · rintro ⟨s, h⟩
    cases h with
    | absent => exact ⟨none, rfl⟩
    | given => exact ⟨some s, rfl⟩
  · rintro ⟨o, rfl⟩
    exact ⟨_, text_map_iff.2 rfl⟩

lemma exists_level_iff {usual : LogLevel} : (∃ l, Level usual v l) ↔ ∃ o : Option String, v = o.map .str := by
  constructor
  · rintro ⟨_, _ | _ | ⟨word⟩⟩
    · exact ⟨none, rfl⟩
    · exact ⟨some "", rfl⟩
    · exact ⟨some word, rfl⟩
  · rintro ⟨_ | word, rfl⟩
    · exact ⟨_, .absent⟩
    · by_cases hword : word = ""
      · subst hword
        exact ⟨_, .empty⟩
      · exact ⟨_, .given word hword⟩

lemma exists_file_iff {usual : Option String} :
    (∃ f, File usual v f) ↔ ∀ x ∈ v, x = .null ∨ ∃ s, x = .str s := by
  constructor
  · rintro ⟨_, _ | _ | s⟩ <;> simp
  · intro h
    cases v with
    | none => exact ⟨_, .absent⟩
    | some x =>
      obtain rfl | ⟨s, rfl⟩ := h x rfl
      · exact ⟨none, .null⟩
      · exact ⟨some s, .given s⟩

lemma exists_names_iff {items : List Json} :
    (∃ names : List String, items = names.map .str) ↔ ∀ i ∈ items, ∃ s, i = .str s := by
  constructor
  · rintro ⟨names, rfl⟩
    simp
  · intro h
    induction items with
    | nil => exact ⟨[], rfl⟩
    | cons i rest ih =>
      obtain ⟨⟨s, rfl⟩, hrest⟩ := List.forall_mem_cons.1 h
      obtain ⟨names, rfl⟩ := ih hrest
      exact ⟨s :: names, rfl⟩

lemma exists_libraries_iff {usual : List String} : (∃ l, Libraries usual v l) ↔
    ∀ x ∈ v, (∃ s, x = .str s) ∨ ∃ items, x = .arr items ∧ ∀ i ∈ items, ∃ s, i = .str s := by
  simp only [← exists_names_iff]
  constructor
  · rintro ⟨_, _ | s | ⟨rfl⟩⟩ <;> simp
  · intro h
    cases v with
    | none => exact ⟨_, .absent⟩
    | some x =>
      obtain ⟨s, rfl⟩ | ⟨_, rfl, names, hnames⟩ := h x rfl
      · exact ⟨[s], .single s⟩
      · exact ⟨names, .list hnames⟩

end Kinds

lemma Logging.unique {field : String → Option Json} {usual c c' : LogConfig} (h : Logging field usual c)
    (h' : Logging field usual c') : c = c' := by
  obtain ⟨level, pattern, file⟩ := c
  obtain ⟨level', pattern', file'⟩ := c'
  obtain rfl : level = level' := h.level.unique h'.level
  obtain rfl : pattern = pattern' := h.pattern.unique h'.pattern
  obtain rfl : file = file' := h.file.unique h'.file
  rfl

lemma Lifecycle.unique {field : String → Option Json} {usual c c' : LifecycleConfig} (h : Lifecycle field usual c)
    (h' : Lifecycle field usual c') : c = c' := by
  obtain ⟨libraries, symbol⟩ := c
  obtain ⟨libraries', symbol'⟩ := c'
  obtain rfl : libraries = libraries' := h.libraries.unique h'.libraries
  obtain rfl : symbol = symbol' := funext fun role => (h.symbol role).unique (h'.symbol role)
  rfl

lemma Describes.unique {d : Json} {c c' : Config} (h : Describes d c) (h' : Describes d c') : c = c' := by
  obtain ⟨logging, lifecycle⟩ := c
  obtain ⟨logging', lifecycle'⟩ := c'
  obtain rfl : logging = logging' := h.logging.unique h'.logging
  obtain rfl : lifecycle = lifecycle' := h.lifecycle.unique h'.lifecycle
  rfl

/-- The admissible documents are those that describe a configuration. -/
lemma admissible_iff {d : Json} : Admissible d ↔ ∃ c, Describes d c := by
  constructor
  · intro h
    obtain ⟨level, hlevel⟩ := exists_level_iff.2 (exists_map_iff.2 (h.texts "level" (by simp)))
    obtain ⟨pattern, hpattern⟩ := exists_text_iff.2 (exists_map_iff.2 (h.texts "pattern" (by simp)))
    obtain ⟨file, hfile⟩ := exists_file_iff.2 h.file
    obtain ⟨libraries, hlibraries⟩ := exists_libraries_iff.2 h.libraries
    choose symbol hsymbol using fun role => exists_text_iff.2 (exists_map_iff.2 (h.symbols role))
    exact ⟨⟨⟨level, pattern, file⟩, ⟨libraries, symbol⟩⟩,
      h.document, h.sections, ⟨hlevel, hpattern, hfile⟩, ⟨hlibraries, hsymbol⟩⟩
  · rintro ⟨c, h⟩
    have hlevel := exists_map_iff.1 (exists_level_iff.1 ⟨_, h.logging.level⟩)
    have hpattern := exists_map_iff.1 (exists_text_iff.1 ⟨_, h.logging.pattern⟩)
    exact
      { document := h.document
        sections := h.sections
        texts := by simpa using ⟨hlevel, hpattern⟩
        file := exists_file_iff.1 ⟨_, h.logging.file⟩
        libraries := exists_libraries_iff.1 ⟨_, h.lifecycle.libraries⟩
        symbols := fun role => exists_map_iff.1 (exists_text_iff.1 ⟨_, h.lifecycle.symbol role⟩) }

/-! ### Reading decides the grammar -/

/-- The reader gives something that `P` holds of, and refuses as an invalid argument if there is no such thing. -/
structure Decides {α : Type} (x : Except Error α) (P : α → Prop) : Prop where
  ok : ∀ a, x = .ok a → P a
  error : ∀ e, x = .error e → e.kind = .invalidArgument ∧ ∀ a, ¬P a

namespace Decides

variable {α β : Type} {x : Except Error α} {P P' : α → Prop} {Q : β → Prop}

lemma pure {a : α} (ha : P a) : Decides (.ok a) P where
  ok _ h := Except.ok.inj h ▸ ha
  error _ h := by simp at h

lemma refuse {e : Error} (he : e.kind = .invalidArgument) (hP : ∀ a, ¬P a) : Decides (.error e) P where
  ok _ h := by simp at h
  error _ h := Except.error.inj h ▸ ⟨he, hP⟩

/-- Reading a part first, without which there is nothing to find for the whole. -/
lemma bind {f : α → Except Error β} (hx : Decides x P) (part : ∀ b, Q b → ∃ a, P a)
    (hf : ∀ a, P a → Decides (f a) Q) : Decides (x >>= f) Q := by
  cases x with
  | ok a => exact hf a (hx.ok a rfl)
  | error e =>
    obtain ⟨he, hP⟩ := hx.error e rfl
    refine refuse he fun b hb => ?_
    obtain ⟨a, ha⟩ := part b hb
    exact hP a ha

lemma map {f : α → β} (hx : Decides x P) (part : ∀ b, Q b → ∃ a, P a) (hf : ∀ a, P a → Q (f a)) :
    Decides (f <$> x) Q := by
  rw [map_eq_pure_bind]
  exact hx.bind part fun a ha => .pure (hf a ha)

lemma congr (hx : Decides x P) (h : ∀ a, P a ↔ P' a) : Decides x P' :=
  (funext fun a => propext (h a) : P = P') ▸ hx

end Decides

lemma readString_decides (j : Json) (key : String) :
    Decides (readString j key) fun o => j.field? key = o.map .str := by
  unfold readString
  split
  · next hj => exact .pure hj
  · next s hj => exact .pure hj
  · next v hne hj =>
    refine .refuse rfl fun o ho => ?_
    cases o with
    | none => cases hj.symm.trans ho
    | some s => exact hne s (Option.some.inj (hj.symm.trans ho))

lemma readSection_decides (d : Json) (key : String) :
    Decides (readSection d key) fun o => d.field? key = o ∧ IsSection o := by
  unfold readSection
  split
  · next hd => exact .pure ⟨hd, by simp [IsSection]⟩
  · next fields hd => exact .pure ⟨hd, by simp [IsSection, Json.isObject]⟩
  · next v hne hd =>
    refine .refuse rfl ?_
    rintro o ⟨rfl, hsec⟩
    have hv : v.isObject = true := hsec v hd
    cases v with
    | obj fields => exact hne fields rfl
    | _ => cases hv

lemma readLogging_decides (j : Json) (c : LogConfig) : Decides (readLogging j c) (Logging j.field? c) := by
  unfold readLogging
  refine (readString_decides j "level").bind (fun l h => exists_level_iff.1 ⟨_, h.level⟩) fun level hlevel => ?_
  extract_lets base
  have hbase : Level c.level (j.field? "level") base.level ∧ base.pattern = c.pattern ∧ base.file = c.file := by
    rw [hlevel]
    cases level with
    | none => exact ⟨.absent, rfl, rfl⟩
    | some word =>
      by_cases hword : word = ""
      · subst hword
        exact ⟨.empty, rfl, rfl⟩
      · have hbase : base = { c with level := .parse (.ofString word) } := by simp [base, hword]
        rw [hbase]
        exact ⟨.given word hword, rfl, rfl⟩
  obtain ⟨hlevel', hpattern', hfile'⟩ := hbase
  clear_value base
  refine (readString_decides j "pattern").bind (fun l h => exists_text_iff.1 ⟨_, h.pattern⟩)
    fun pattern hpattern => ?_
  extract_lets settings
  have logging : ∀ file, File c.file (j.field? "file") file → Logging j.field? c { settings with file } := by
    intro file hfile
    refine ⟨hlevel', ?_, hfile⟩
    rw [hpattern, ← hpattern']
    exact text_map_iff.2 rfl
  have hsettings : settings = { settings with file := c.file } := by rw [← hfile']
  split
  · next hj =>
    rw [hsettings]
    exact .pure (logging _ (hj ▸ .absent))
  · next hj => exact .pure (logging _ (hj ▸ .null))
  · next file hj => exact .pure (logging _ (hj ▸ .given file))
  · next v hnull hstr hj =>
    refine .refuse rfl fun l h => ?_
    obtain rfl | ⟨s, rfl⟩ := exists_file_iff.1 ⟨_, h.file⟩ v hj
    · exact hnull rfl
    · exact hstr s rfl

lemma readLibraryItems_decides (items : List Json) :
    Decides (readLibraryItems items) fun names => items = names.map .str := by
  induction items with
  | nil => exact .pure rfl
  | cons i rest ih =>
    cases i with
    | str s =>
      refine ih.map (fun names h => ?_) fun names h => by simp [h]
      cases names with
      | nil => simp at h
      | cons _ names => exact ⟨names, (List.cons.inj h).2⟩
    | _ =>
      refine .refuse rfl fun names h => ?_
      cases names <;> simp at h

/-- Each symbol is read over the one so far; the other symbols stay. -/
lemma readSymbols_decides (j : Json) (roles : List LifecycleRole) (distinct : roles.Nodup) (c : LifecycleConfig) :
    Decides (readSymbols j roles c) fun l => l.libraries = c.libraries ∧ ∀ role,
      if role ∈ roles then Text (c.symbol role) (j.field? role.key) (l.symbol role)
      else l.symbol role = c.symbol role := by
  induction roles generalizing c with
  | nil => exact .pure (by simp)
  | cons r rest ih =>
    obtain ⟨hr, hrest⟩ := List.nodup_cons.1 distinct
    unfold readSymbols
    refine (readString_decides j r.key).bind ?_ fun name hname => ?_
    · rintro l ⟨-, h⟩
      exact exists_text_iff.1 ⟨_, by simpa using h r⟩
    · refine (ih hrest _).congr fun l => ?_
      have libraries : ((name.map (c.setSymbol r)).getD c).libraries = c.libraries := by cases name <;> rfl
      have symbol : ∀ role, ((name.map (c.setSymbol r)).getD c).symbol role =
          if role = r then name.getD (c.symbol r) else c.symbol role := by
        intro role
        cases name with
        | none => by_cases hrole : role = r <;> simp [hrole]
        | some s => rfl
      simp only [libraries, symbol, List.mem_cons]
      refine and_congr_right fun _ => forall_congr' fun role => ?_
      by_cases hrole : role = r
      · subst hrole
        simp [hr, hname, text_map_iff]
      · simp [hrole]

lemma readLifecycle_decides (j : Json) (c : LifecycleConfig) :
    Decides (readLifecycle j c) (Lifecycle j.field? c) := by
  have symbols : ∀ base : LifecycleConfig, base.symbol = c.symbol →
      Libraries c.libraries (j.field? "libraries") base.libraries →
      Decides (readSymbols j LifecycleRole.all base) (Lifecycle j.field? c) := by
    intro base hsymbol hlibraries
    refine (readSymbols_decides j _ (by decide) base).congr fun l => ?_
    simp only [LifecycleRole.mem_all, if_true, hsymbol]
    constructor
    · rintro ⟨hl, h⟩
      exact ⟨hl ▸ hlibraries, h⟩
    · intro h
      exact ⟨h.libraries.unique hlibraries, h.symbol⟩
  unfold readLifecycle
  split
  · next hj => exact symbols c rfl (hj ▸ .absent)
  · next s hj => exact symbols _ rfl (hj ▸ .single s)
  · next items hj =>
    refine (readLibraryItems_decides items).bind (fun l h => ?_) fun names hnames =>
      symbols { c with libraries := names } rfl (hj ▸ .list hnames)
    have hl := h.libraries
    rw [hj] at hl
    cases hl with
    | list texts => exact ⟨_, texts⟩
  · next v hstr harr hj =>
    refine .refuse rfl fun l h => ?_
    obtain ⟨s, rfl⟩ | ⟨items, rfl, -⟩ := exists_libraries_iff.1 ⟨_, h.libraries⟩ v hj
    · exact hstr s rfl
    · exact harr items rfl

lemma fieldIn_of_none {d : Json} {name : String} (h : d.field? name = none) : fieldIn d name = fun _ => none := by
  funext key
  simp [fieldIn, h]

lemma fieldIn_of_some {d j : Json} {name : String} (h : d.field? name = some j) : fieldIn d name = j.field? := by
  funext key
  simp [fieldIn, h]

lemma fromJson_decides (d : Json) : Decides (fromJson d) (Describes d) := by
  unfold fromJson
  split
  · next hd => exact .refuse rfl fun c h => by simp [h.document] at hd
  · next hd =>
    refine (readSection_decides d "logging").bind (fun c h => ⟨_, rfl, h.sections _ (by simp)⟩) ?_
    rintro o ⟨ho, hsec⟩
    extract_lets rest
    have hrest : ∀ logging, Logging (fieldIn d "logging") {} logging → Decides (rest logging) (Describes d) := by
      intro logging hlogging
      refine (readSection_decides d "lifecycle").bind (fun c h => ⟨_, rfl, h.sections _ (by simp)⟩) ?_
      rintro o' ⟨ho', hsec'⟩
      have whole : ∀ lifecycle, Lifecycle (fieldIn d "lifecycle") {} lifecycle →
          Describes d { logging, lifecycle } := fun lifecycle h =>
        ⟨by simpa using hd, by simpa [ho, ho'] using ⟨hsec, hsec'⟩, hlogging, h⟩
      cases o' with
      | none =>
        rw [fieldIn_of_none ho'] at whole
        exact .pure (whole {} ⟨.absent, fun _ => .absent⟩)
      | some j =>
        rw [fieldIn_of_some ho'] at whole
        exact (readLifecycle_decides j {}).bind (fun c h => ⟨_, fieldIn_of_some ho' ▸ h.lifecycle⟩)
          fun lifecycle h => .pure (whole lifecycle h)
    clear_value rest
    cases o with
    | none =>
      rw [fieldIn_of_none ho] at hrest
      exact hrest {} ⟨.absent, .absent, .absent⟩
    | some j =>
      rw [fieldIn_of_some ho] at hrest
      exact (readLogging_decides j {}).bind (fun c h => ⟨_, fieldIn_of_some ho ▸ h.logging⟩) hrest

/-! ### Writing -/

lemma fieldOf_of_mem {fields : List (String × Json)} (distinct : (fields.map Prod.fst).Nodup) {key : String} {v : Json}
    (h : (key, v) ∈ fields) : Json.fieldOf key fields = some v := by
  induction fields with
  | nil => simp at h
  | cons f rest ih =>
    obtain ⟨k, w⟩ := f
    obtain ⟨hk, hrest⟩ := List.nodup_cons.1 distinct
    rcases List.mem_cons.1 h with heq | hmem
    · cases heq
      simp [Json.fieldOf]
    · have hne : k ≠ key := fun heq => hk (List.mem_map.2 ⟨_, hmem, heq.symm⟩)
      simp [Json.fieldOf, hne, ih hrest hmem]

/-- With distinct keys, each field of an object is the one that was written. -/
lemma field?_object_of_mem {fields : List (String × Json)} (distinct : (fields.map Prod.fst).Nodup) {key : String}
    {v : Json} (h : (key, v) ∈ fields) : (Json.object fields).field? key = some v := by
  rw [Json.field?_object]
  exact fieldOf_of_mem (by simpa [List.map_reverse] using distinct) (List.mem_reverse.2 h)

lemma Level.of_name (usual level : LogLevel) : Level usual (some (.str level.name)) level := by
  have h : Level usual _ _ := .given level.name level.name_ne_empty
  rwa [LogLevel.parse_name] at h

lemma toJson_logging (c : Config) :
    ∃ j, c.toJson.field? "logging" = some j ∧ j.isObject = true ∧ Logging j.field? {} c.logging := by
  refine ⟨_, field?_object_of_mem (by simp) (List.mem_cons_self ..), rfl, ?_⟩
  have fields {key : String} {v : Json} := @field?_object_of_mem
    [("level", .str c.logging.level.name), ("pattern", .str c.logging.pattern),
      ("file", (c.logging.file.map Json.str).getD .null)] (by simp) key v
  refine ⟨?_, ?_, ?_⟩
  · rw [fields (v := .str c.logging.level.name) (by simp)]
    exact .of_name _ _
  · rw [fields (v := .str c.logging.pattern) (by simp)]
    exact .given _
  · rw [fields (v := (c.logging.file.map Json.str).getD .null) (by simp)]
    cases c.logging.file with
    | none => exact .null
    | some s => exact .given s

lemma toJson_lifecycle (c : Config) :
    ∃ j, c.toJson.field? "lifecycle" = some j ∧ j.isObject = true ∧ Lifecycle j.field? {} c.lifecycle := by
  refine ⟨_, field?_object_of_mem (by simp) (List.mem_cons_of_mem _ (List.mem_cons_self ..)), rfl, ?_⟩
  have distinct : ("libraries" :: LifecycleRole.all.map LifecycleRole.key).Nodup := by decide
  have fields {key : String} {v : Json} := @field?_object_of_mem
    (("libraries", .arr (c.lifecycle.libraries.map Json.str)) ::
      LifecycleRole.all.map fun r : LifecycleRole => (r.key, .str (c.lifecycle.symbol r))) distinct key v
  refine ⟨?_, fun role => ?_⟩
  · rw [fields (List.mem_cons_self ..)]
    exact .list rfl
  · rw [fields (List.mem_cons_of_mem _ (List.mem_map_of_mem role.mem_all))]
    exact .given _

lemma toJson_describes (c : Config) : Describes c.toJson c := by
  obtain ⟨j, hj, hobj, hlogging⟩ := toJson_logging c
  obtain ⟨k, hk, hobj', hlifecycle⟩ := toJson_lifecycle c
  refine ⟨rfl, ?_, fieldIn_of_some hj ▸ hlogging, fieldIn_of_some hk ▸ hlifecycle⟩
  simpa [hj, hk, IsSection] using ⟨hobj, hobj'⟩

/-- **Documents and configurations.** A configuration is what its document reads as, in every field. Reading takes the
documents that describe a configuration, as the one they describe, and what it gives is written as a document that reads
as the same again. All other documents, which are those with a section or a field of the wrong kind, are refused as
invalid arguments. -/
theorem documents_read_as_described :
    (∀ c : Config, fromJson c.toJson = .ok c) ∧
    (∀ d c, fromJson d = .ok c ↔ Describes d c) ∧
    (∀ d, (do let c ← fromJson d; toJson <$> fromJson c.toJson) = toJson <$> fromJson d) ∧
    ∀ d, Admissible d ∧ (∃ c, fromJson d = .ok c) ∨
      ¬Admissible d ∧ ∃ e, fromJson d = .error e ∧ e.kind = .invalidArgument := by
  have takes : ∀ d c, fromJson d = .ok c ↔ Describes d c := by
    intro d c
    refine ⟨(fromJson_decides d).ok c, fun h => ?_⟩
    cases hd : fromJson d with
    | ok c' => rw [((fromJson_decides d).ok c' hd).unique h]
    | error e => exact absurd h (((fromJson_decides d).error e hd).2 c)
  have again : ∀ c : Config, fromJson c.toJson = .ok c := fun c => (takes _ c).2 (toJson_describes c)
  refine ⟨again, takes, fun d => ?_, fun d => ?_⟩
  · cases fromJson d with
    | ok c => exact congrArg (toJson <$> ·) (again c)
    | error e => rfl
  · simp only [admissible_iff]
    cases hd : fromJson d with
    | ok c => exact .inl ⟨⟨c, (takes d c).1 hd⟩, c, rfl⟩
    | error e =>
      obtain ⟨he, hnone⟩ := (fromJson_decides d).error e hd
      exact .inr ⟨fun ⟨c, hc⟩ => hnone c hc, e, rfl, he⟩

end Config

end NativeBridge
