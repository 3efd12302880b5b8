import Mathlib.Data.List.Nodup
import NativeBridge.Library.Cache

/-!
Requests to a library cache, in any number and order. A name is opened once, by the first of its alternatives that can
be opened, and keeps its opening; a name that cannot be opened leaves everything as it was, and so does a symbol that is
not there.
-/

namespace NativeBridge.Library

variable {loader : Loader} {symbols : Symbols} {opens : Bytes → Bool} {name : Bytes} {paths : List Bytes}
  {c c' : Cache} {r r' : Record} {o : Opening} {e : Error}

/-! ### Alternatives -/

/-- Each path can be opened or not, once and for all. Which library it opens, or why it does not, may change. -/
def Loader.Keeps (loader : Loader) (opens : Bytes → Bool) : Prop := ∀ path, (loader path).isOk = opens path

lemma Loader.Keeps.ok (hl : loader.Keeps opens) {path : Bytes} (h : opens path) :
    ∃ library, loader path = .ok library := by
  have hok := hl path
  cases hp : loader path with
  | ok library => exact ⟨library, rfl⟩
  | error reason => simp [hp, h, Except.isOk, Except.toBool] at hok

lemma Loader.Keeps.error (hl : loader.Keeps opens) {path : Bytes} (h : ¬opens path) :
    ∃ reason, loader path = .error reason := by
  have hok := hl path
  cases hp : loader path with
  | ok library => simp [hp, h, Except.isOk, Except.toBool] at hok
  | error reason => exact ⟨reason, rfl⟩

lemma openFirst_cons_of_ok {path library : Bytes} (h : loader path = .ok library) (r : Record) :
    openFirst loader r (path :: paths) = (.ok ⟨r.opened, library⟩, { r with opened := r.opened + 1 }) := by
  simp [openFirst, Handle.load, Handle.unload, h]

lemma openFirst_cons_of_error {path reason : Bytes} (h : loader path = .error reason) (r : Record) :
    openFirst loader r (path :: paths) =
      ((openFirst loader r paths).1.mapError (reason :: ·), (openFirst loader r paths).2) := by
  simp only [openFirst, Handle.load, Handle.unload, h]
  rcases openFirst loader r paths with ⟨_ | _, _⟩ <;> rfl

/-- The first path that can be opened is opened, and no other. -/
lemma openFirst_of_opens (hl : loader.Keeps opens) {path : Bytes} (h : paths.find? opens = some path) (r : Record) :
    ∃ library, loader path = .ok library ∧
      openFirst loader r paths = (.ok ⟨r.opened, library⟩, { r with opened := r.opened + 1 }) := by
  induction paths with
  | nil => cases h
  | cons first rest ih =>
    by_cases hfirst : opens first
    · rw [List.find?_cons_of_pos hfirst] at h
      cases h
      obtain ⟨library, hok⟩ := hl.ok hfirst
      exact ⟨library, hok, openFirst_cons_of_ok hok r⟩
    · rw [List.find?_cons_of_neg hfirst] at h
      obtain ⟨library, hok, hrest⟩ := ih h
      obtain ⟨reason, herror⟩ := hl.error hfirst
      refine ⟨library, hok, ?_⟩
      rw [openFirst_cons_of_error herror, hrest]
      rfl

/-- Where no path can be opened, each of them has its reason, and nothing was opened. -/
lemma openFirst_of_none (hl : loader.Keeps opens) (h : ∀ path ∈ paths, ¬opens path) (r : Record) :
    ∃ reasons, paths.map loader = reasons.map .error ∧ openFirst loader r paths = (.error reasons, r) := by
  induction paths with
  | nil => exact ⟨[], rfl, rfl⟩
  | cons first rest ih =>
    obtain ⟨hfirst, hrest⟩ := List.forall_mem_cons.1 h
    obtain ⟨reasons, hreasons, hopen⟩ := ih hrest
    obtain ⟨reason, herror⟩ := hl.error hfirst
    refine ⟨reason :: reasons, by simp [herror, hreasons], ?_⟩
    rw [openFirst_cons_of_error herror, hopen]
    rfl

/-! ### Reasons -/

lemma foldl_reasons {text : Bytes} (htext : text ≠ []) (reasons : List Bytes) :
    reasons.foldl (fun text reason => if text.isEmpty then reason else text ++ .ofString "; " ++ reason) text =
      (Bytes.ofString "; ").intercalate (text :: reasons) := by
  induction reasons generalizing text with
  | nil => simp [List.intercalate]
  | cons reason rest ih =>
    have hjoin : (Bytes.ofString "; ").intercalate ((text ++ Bytes.ofString "; " ++ reason) :: rest) =
        (Bytes.ofString "; ").intercalate (text :: reason :: rest) := by
      cases rest <;> simp [List.intercalate]
    rw [List.foldl_cons, if_neg (by simpa using htext), ih (by simp [htext]), hjoin]

/-- Reasons that have some text are joined in order. -/
lemma joinReasons_eq {reasons : List Bytes} (h : ∀ reason ∈ reasons, reason ≠ []) :
    joinReasons reasons = (Bytes.ofString "; ").intercalate reasons := by
  cases reasons with
  | nil => rfl
  | cons reason rest => exact foldl_reasons (h reason List.mem_cons_self) rest

/-! ### One request -/

namespace Cache

/-- The names that were opened. -/
def names (c : Cache) : List Bytes := c.entries.map Prod.fst

lemma mem_names : name ∈ c.names ↔ ∃ o, c.entries.lookup name = some o := by
  rw [← Option.isSome_iff_exists, List.lookup_isSome_iff]
  simp [names]

lemma lookup_of_notMem (h : name ∉ c.names) : c.entries.lookup name = none := by
  rw [mem_names, not_exists] at h
  exact Option.eq_none_iff_forall_ne_some.2 h

/-- An opening that is kept for a name is given again, and nothing else happens. -/
lemma get_of_lookup (h : c.entries.lookup name = some o) : get loader name c r = (.ok o, c, r) := by
  rw [get, h]

/-- A new name is opened by the first of its alternatives that can be opened. -/
lemma get_of_opens (hl : loader.Keeps opens) (hnew : name ∉ c.names) {path : Bytes}
    (h : (alternatives name).find? opens = some path) :
    ∃ o, loader path = .ok o.library ∧ o.number = r.opened ∧
      get loader name c r =
        (.ok o, { c with entries := c.entries ++ [(name, o)] }, { r with opened := r.opened + 1 }) := by
  obtain ⟨library, hok, hopen⟩ := openFirst_of_opens hl h r
  refine ⟨⟨r.opened, library⟩, hok, rfl, ?_⟩
  obtain ⟨first, rest, hcons⟩ := List.exists_cons_of_ne_nil (List.ne_nil_of_mem (List.mem_of_find?_eq_some h))
  rw [hcons] at hopen
  simp only [get, lookup_of_notMem hnew, hcons, hopen]

end Cache

/-! ### Errors for names -/

lemma front_quoted : Bytes.ofString "Failed to load library '" = Bytes.ofString "Failed to load library " ++ [39] := by
  decide +kernel

lemma message_noLibraries (name : Bytes) :
    Error.message (.noLibraries name) =
      .ofString "Failed to load library '" ++ name ++ .ofString "': no libraries specified" := by
  have hback : Bytes.ofString "': no libraries specified" = 39 :: Bytes.ofString ": no libraries specified" := by
    decide +kernel
  rw [front_quoted, hback]
  change Bytes.ofString "Failed to load library " ++ (39 :: name ++ [39]) ++ _ = _
  simp

lemma message_libraryLoad (name text : Bytes) :
    Error.message (.libraryLoad name text) =
      .ofString "Failed to load library '" ++ name ++ .ofString "': " ++ text := by
  have hback : Bytes.ofString "': " = 39 :: Bytes.ofString ": " := by decide +kernel
  rw [front_quoted, hback]
  change Bytes.ofString "Failed to load library " ++ (39 :: name ++ [39]) ++ _ ++ _ = _
  simp

/-- The error for a name that cannot be opened. -/
structure Refusal (loader : Loader) (name : Bytes) (e : Error) : Prop where
  kind : e.kind = .library
  unspecified : alternatives name = [] →
    e.message = .ofString "Failed to load library '" ++ name ++ .ofString "': no libraries specified"
  /-- a loader that does not open a path says why, with some text -/
  reasons : alternatives name ≠ [] → (∀ path ∈ alternatives name, loader path ≠ .error []) →
    ∃ reasons, (alternatives name).map loader = reasons.map .error ∧
      e.message = .ofString "Failed to load library '" ++ name ++ .ofString "': " ++
        (Bytes.ofString "; ").intercalate reasons

namespace Cache

/-- A name without an alternative that can be opened is refused, and nothing else happens. -/
lemma get_of_none (hl : loader.Keeps opens) (hnew : name ∉ c.names) (h : ∀ path ∈ alternatives name, ¬opens path) :
    ∃ e, Refusal loader name e ∧ get loader name c r = (.error e, c, r) := by
  have hlookup := lookup_of_notMem hnew
  cases halternatives : alternatives name with
  | nil =>
    refine ⟨.noLibraries name, ⟨rfl, fun _ => message_noLibraries name, fun hne => absurd halternatives hne⟩, ?_⟩
    simp only [get, hlookup, halternatives]
  | cons first rest =>
    obtain ⟨reasons, hreasons, hopen⟩ := openFirst_of_none hl h r
    refine ⟨.libraryLoad name (joinReasons reasons), ⟨rfl, fun hnil => ?_, fun _ hexplains => ?_⟩, ?_⟩
    · rw [hnil] at halternatives
      cases halternatives
    · refine ⟨reasons, hreasons, ?_⟩
      rw [message_libraryLoad, joinReasons_eq]
      rintro reason hmem rfl
      have herror : .error [] ∈ (alternatives name).map loader := by
        rw [hreasons]
        exact List.mem_map_of_mem hmem
      obtain ⟨path, hpath, herror⟩ := List.mem_map.1 herror
      exact hexplains path hpath herror
    · rw [halternatives] at hopen
      simp only [get, hlookup, halternatives, hopen]

/-- Each name has one opening, and an alternative that can be opened. -/
structure Exact (opens : Bytes → Bool) (c : Cache) : Prop where
  nodup : c.names.Nodup
  opens : ∀ name ∈ c.names, ∃ path ∈ alternatives name, opens path

lemma Exact.add (hc : c.Exact opens) (hnew : name ∉ c.names) {path : Bytes}
    (h : (alternatives name).find? opens = some path) (o : Opening) :
    Exact opens { c with entries := c.entries ++ [(name, o)] } := by
  have hnames : names { c with entries := c.entries ++ [(name, o)] } = c.names ++ [name] := by simp [names]
  refine ⟨?_, ?_⟩
  · rw [hnames, List.nodup_append_comm]
    exact List.nodup_cons.2 ⟨hnew, hc.nodup⟩
  · rw [hnames]
    intro other hother
    rcases List.mem_append.1 hother with hold | hsame
    · exact hc.opens other hold
    · cases List.mem_singleton.1 hsame
      exact ⟨path, List.mem_of_find?_eq_some h, List.find?_some h⟩

/-- A name is there already, is opened, or is refused. -/
lemma get_cases (hl : loader.Keeps opens) (c : Cache) (name : Bytes) (r : Record) :
    (∃ o, name ∈ c.names ∧ get loader name c r = (.ok o, c, r)) ∨
      (∃ path o, name ∉ c.names ∧ (alternatives name).find? opens = some path ∧ loader path = .ok o.library ∧
        o.number = r.opened ∧
        get loader name c r =
          (.ok o, { c with entries := c.entries ++ [(name, o)] }, { r with opened := r.opened + 1 })) ∨
        ∃ e, name ∉ c.names ∧ (∀ path ∈ alternatives name, ¬opens path) ∧ Refusal loader name e ∧
          get loader name c r = (.error e, c, r) := by
  by_cases hmem : name ∈ c.names
  · obtain ⟨o, ho⟩ := mem_names.1 hmem
    exact .inl ⟨o, hmem, get_of_lookup ho⟩
  · cases hfind : (alternatives name).find? opens with
    | some path =>
      obtain ⟨o, hok, hnumber, hget⟩ := get_of_opens (r := r) hl hmem hfind
      exact .inr (.inl ⟨path, o, hmem, rfl, hok, hnumber, hget⟩)
    | none =>
      have hnone := List.find?_eq_none.1 hfind
      obtain ⟨e, he, hget⟩ := get_of_none (r := r) hl hmem hnone
      exact .inr (.inr ⟨e, hmem, hnone, he, hget⟩)

lemma lookup_after_get (hl : loader.Keeps opens) (hx : get loader name c r = (.ok o, c', r')) :
    c'.entries.lookup name = some o := by
  rcases get_cases hl c name r with ⟨o', hmem, -⟩ | ⟨path, o', hnew, -, -, -, hget⟩ | ⟨e, -, -, -, hget⟩
  · obtain ⟨o₁, ho₁⟩ := mem_names.1 hmem
    cases (get_of_lookup ho₁).symm.trans hx
    exact ho₁
  · cases hget.symm.trans hx
    simp [List.lookup_append, lookup_of_notMem hnew]
  · cases hget.symm.trans hx

/-- A symbol is looked for in the library that its name opens. -/
lemma symbol_of_ok (h : get loader name c r = (.ok o, c', r')) (wanted : Bytes) :
    symbol loader symbols name wanted c r =
      ((Handle.find symbols wanted (some o)).mapError (.symbolMissing wanted name ·), c', r') := by
  rw [symbol, h]
  rfl

lemma symbol_of_error (h : get loader name c r = (.error e, c', r')) (wanted : Bytes) :
    symbol loader symbols name wanted c r = (.error e, c', r') := by
  rw [symbol, h]
  rfl

end Cache

/-! ### Requests in a row -/

/-- A request to a cache: for a library, or for a symbol of one. -/
inductive Request where
  | get (name : Bytes)
  | symbol (library name : Bytes)

/-- What a request is answered with. -/
inductive Answer where
  | library (o : Opening)
  | address (a : Nat)

/-- The request found a library. The symbol may be missing in it. -/
def Found (answer : Except Error Answer) : Prop := ∀ e, answer = .error e → e.kind ≠ .library

namespace Request

/-- The name of the library. -/
def library : Request → Bytes
  | get name => name
  | symbol library _ => library

def perform (loader : Loader) (symbols : Symbols) (c : Cache) (r : Record) :
    Request → Except Error Answer × Cache × Record
  | get name => (Cache.get loader name c r).map (·.map .library) id
  | symbol library name => (Cache.symbol loader symbols library name c r).map (·.map .address) id

lemma perform_of_ok {q : Request} (h : Cache.get loader q.library c r = (.ok o, c', r')) (symbols : Symbols) :
    ∃ answer, q.perform loader symbols c r = (answer, c', r') ∧ Found answer := by
  cases q with
  | get name =>
    refine ⟨.ok (.library o), ?_, fun e he => by cases he⟩
    change Cache.get loader name c r = _ at h
    rw [perform, h]
    rfl
  | symbol library name =>
    change Cache.get loader library c r = _ at h
    refine ⟨_, by rw [perform, Cache.symbol_of_ok h]; rfl, fun e he => ?_⟩
    cases hfind : Handle.find symbols name (some o) with
    | ok a =>
      rw [hfind] at he
      cases he
    | error reason =>
      rw [hfind] at he
      cases he
      simp [Error.kind]

lemma perform_of_error {q : Request} (h : Cache.get loader q.library c r = (.error e, c', r')) (symbols : Symbols) :
    q.perform loader symbols c r = (.error e, c', r') := by
  cases q with
  | get name =>
    change Cache.get loader name c r = _ at h
    rw [perform, h]
    rfl
  | symbol library name =>
    change Cache.get loader library c r = _ at h
    rw [perform, Cache.symbol_of_error h]
    rfl

end Request

/-- Requests in a row with their answers, the first one first, and the cache and record before and after. Each request
finds a loader that opens the paths that can be opened. -/
inductive Requests (opens : Bytes → Bool) (c : Cache) (r : Record) :
    List (Request × Except Error Answer) → Cache → Record → Prop
  | none : Requests opens c r [] c r
  | more {done : List (Request × Except Error Answer)} {c₁ c₂ : Cache} {r₁ r₂ : Record} {loader : Loader}
      {symbols : Symbols} {q : Request} {answer : Except Error Answer} (h : Requests opens c r done c₁ r₁)
      (hl : loader.Keeps opens) (hq : q.perform loader symbols c₁ r₁ = (answer, c₂, r₂)) :
      Requests opens c r (done ++ [(q, answer)]) c₂ r₂

namespace Requests

variable {done : List (Request × Except Error Answer)}

/-- One request: its name is there, or is refused and nothing happens. -/
lemma step (hl : loader.Keeps opens) (hc : c.Exact opens) {q : Request} {answer : Except Error Answer}
    (hq : q.perform loader symbols c r = (answer, c', r')) :
    c'.Exact opens ∧ (∀ name, name ∈ c'.names ↔ name ∈ c.names ∨ name = q.library ∧ Found answer) ∧
      ∀ name o, c.entries.lookup name = some o → c'.entries.lookup name = some o := by
  rcases Cache.get_cases hl c q.library r with ⟨o, hmem, hget⟩ | ⟨path, o, hnew, hfind, -, -, hget⟩ |
    ⟨e, hnew, -, hrefusal, hget⟩
  · obtain ⟨answer', hperform, hfound⟩ := Request.perform_of_ok hget symbols
    cases hperform.symm.trans hq
    exact ⟨hc, fun name => by grind, fun _ _ => id⟩
  · obtain ⟨answer', hperform, hfound⟩ := Request.perform_of_ok hget symbols
    cases hperform.symm.trans hq
    refine ⟨hc.add hnew hfind o, fun name => ?_, fun name o' ho => ?_⟩
    · simp [Cache.names, hfound]
    · simp [List.lookup_append, ho]
  · cases (Request.perform_of_error hget symbols).symm.trans hq
    have hmissed : ¬Found (.error e) := fun hfound => hfound e rfl hrefusal.kind
    exact ⟨hc, fun name => by simp [hmissed], fun _ _ => id⟩

lemma exact (h : Requests opens c r done c' r') (hc : c.Exact opens) : c'.Exact opens := by
  induction h with
  | none => exact hc
  | more _ hl hq ih => exact (step hl ih hq).1

/-- The names that are there were there before, or a request has found their library. -/
lemma mem_names (h : Requests opens c r done c' r') (hc : c.Exact opens) (name : Bytes) :
    name ∈ c'.names ↔ name ∈ c.names ∨ ∃ e ∈ done, e.1.library = name ∧ Found e.2 := by
  induction h with
  | none => simp
  | more h hl hq ih =>
    rw [(step hl (h.exact hc) hq).2.1, ih, or_assoc]
    simp [or_and_right, exists_or, eq_comm]

/-- A name keeps its opening. -/
lemma lookup (h : Requests opens c r done c' r') (hc : c.Exact opens) (ho : c.entries.lookup name = some o) :
    c'.entries.lookup name = some o := by
  induction h with
  | none => exact ho
  | more h hl hq ih => exact (step hl (h.exact hc) hq).2.2 name o ih

end Requests

/-- What a name is served with: one opening, which it keeps whatever is requested after that. -/
structure Service (opens : Bytes → Bool) (loader : Loader) (name : Bytes) (c : Cache) (r : Record) (o : Opening)
    (c' : Cache) (r' : Record) : Prop where
  again : name ∈ c.names → c' = c ∧ r' = r
  first : name ∉ c.names →
    (∃ path, (alternatives name).find? opens = some path ∧ loader path = .ok o.library) ∧ o.number = r.opened ∧
      c'.entries = c.entries ++ [(name, o)] ∧ r' = { r with opened := r.opened + 1 }
  later : ∀ {done : List (Request × Except Error Answer)} {c₂ : Cache} {r₂ : Record} {loader' : Loader},
    Requests opens c' r' done c₂ r₂ → loader'.Keeps opens → Cache.get loader' name c₂ r₂ = (.ok o, c₂, r₂)
  symbol : ∀ {symbols : Symbols} {wanted : Bytes} {a : Nat}, symbols o.library (Bytes.untilNul wanted) = .ok a →
    Cache.symbol loader symbols name wanted c r = (.ok a, c', r')
  missing : ∀ {symbols : Symbols} {wanted reason : Bytes}, symbols o.library (Bytes.untilNul wanted) = .error reason →
    Cache.symbol loader symbols name wanted c r = (.error (.symbolMissing wanted name reason), c', r')

namespace Service

variable (hl : loader.Keeps opens) (hx : Cache.get loader name c r = (.ok o, c', r'))

include hl hx

lemma of_get (hc : c'.Exact opens) : Service opens loader name c r o c' r' where
  again hmem := by
    obtain ⟨o', ho'⟩ := Cache.mem_names.1 hmem
    cases (Cache.get_of_lookup ho').symm.trans hx
    exact ⟨rfl, rfl⟩
  first hnew := by
    rcases Cache.get_cases hl c name r with ⟨o', hmem, -⟩ | ⟨path, o', -, hfind, hok, hnumber, hget⟩ |
      ⟨e, -, -, -, hget⟩
    · exact absurd hmem hnew
    · cases hget.symm.trans hx
      exact ⟨⟨path, hfind, hok⟩, hnumber, rfl, rfl⟩
    · cases hget.symm.trans hx
  later h _ := Cache.get_of_lookup (h.lookup hc (Cache.lookup_after_get hl hx))
  symbol {symbols wanted a} ha := by
    rw [Cache.symbol_of_ok hx, Handle.find, ha]
    rfl
  missing {symbols wanted reason} hmissing := by
    rw [Cache.symbol_of_ok hx, Handle.find, hmissing]
    rfl

end Service

/-- **A name is opened once, by its first alternative that can be opened.** Let requests be made of an empty cache, for
libraries and for symbols, and let the paths that can be opened stay the same. The names that are there are those for
which a request has found a library, each once. A name with an alternative that can be opened is served: it gets the
library that the first such alternative opens and keeps it from then on, also where a symbol is missing in it. Any other
name is refused for the reasons of all its alternatives, and nothing changes. -/
theorem names_open_once {r₀ : Record} {done : List (Request × Except Error Answer)}
    (h : Requests opens {} r₀ done c r) (hl : loader.Keeps opens) (name : Bytes) :
    c.names.Nodup ∧ (name ∈ c.names ↔ ∃ e ∈ done, e.1.library = name ∧ Found e.2) ∧
      ((∃ path ∈ alternatives name, opens path) → ∃ o c' r',
        Cache.get loader name c r = (.ok o, c', r') ∧ Service opens loader name c r o c' r') ∧
      ((∀ path ∈ alternatives name, ¬opens path) → ∃ e,
        Cache.get loader name c r = (.error e, c, r) ∧ Refusal loader name e ∧
        ∀ symbols wanted, Cache.symbol loader symbols name wanted c r = (.error e, c, r)) := by
  have hempty : Cache.Exact opens {} := ⟨List.nodup_nil, fun _ hmem => absurd hmem List.not_mem_nil⟩
  have hc : c.Exact opens := h.exact hempty
  refine ⟨hc.nodup, ?_, fun hopens => ?_, fun hnone => ?_⟩
  · rw [h.mem_names hempty]
    simp [Cache.names]
  · rcases Cache.get_cases hl c name r with ⟨o, -, hget⟩ | ⟨path, o, hnew, hfind, -, -, hget⟩ | ⟨e, -, hnone, -, -⟩
    · exact ⟨o, c, r, hget, .of_get hl hget hc⟩
    · exact ⟨o, _, _, hget, .of_get hl hget (hc.add hnew hfind o)⟩
    · obtain ⟨path, hmem, hopen⟩ := hopens
      exact absurd hopen (hnone path hmem)
  · have hnew : name ∉ c.names := fun hmem => by
      obtain ⟨path, hpath, hopen⟩ := hc.opens name hmem
      exact hnone path hpath hopen
    obtain ⟨e, hrefusal, hget⟩ := Cache.get_of_none (r := r) hl hnew hnone
    exact ⟨e, hget, hrefusal, fun _ wanted => Cache.symbol_of_error hget wanted⟩

/-- Only `b` can be opened. -/
def loaderOfB : Loader := fun path => if path = [98] then .ok [98] else .error path

/-- The cache in which the second of two alternatives was opened. -/
def cacheOfB : Cache := { entries := [([97, 44, 98], ⟨0, [98]⟩)] }

/-- A name with two alternatives has the second one opened, and is served with it again after another name was
refused. -/
theorem second_alternative_kept :
    ∃ done, Requests (· == [98]) {} {} done cacheOfB { opened := 1 } ∧
      done.map (·.1.library) = [[97, 44, 98], [99]] ∧
      Service (· == [98]) loaderOfB [97, 44, 98] cacheOfB { opened := 1 } ⟨0, [98]⟩ cacheOfB { opened := 1 } := by
  have hl : loaderOfB.Keeps (· == [98]) := fun path => by
    by_cases hpath : path = [98] <;> simp [loaderOfB, hpath, Except.isOk, Except.toBool]
  have hfirst : (Request.get [97, 44, 98]).perform loaderOfB (fun _ _ => .error []) {} {} =
      (.ok (.library ⟨0, [98]⟩), cacheOfB, { opened := 1 }) := rfl
  have hsecond : (Request.symbol [99] [102]).perform loaderOfB (fun _ _ => .error []) cacheOfB { opened := 1 } =
      (.error (.libraryLoad [99] [99]), cacheOfB, { opened := 1 }) := rfl
  have hdone := (Requests.none.more hl hfirst).more hl hsecond
  obtain ⟨-, -, hserved, -⟩ := names_open_once hdone hl [97, 44, 98]
  obtain ⟨o, c, r, hget, hservice⟩ := hserved ⟨[98], by decide, by decide⟩
  cases hget
  exact ⟨_, hdone, rfl, hservice⟩

end NativeBridge.Library
