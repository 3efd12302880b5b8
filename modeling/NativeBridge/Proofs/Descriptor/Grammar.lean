import Mathlib.Algebra.Order.Ring.Int
import Mathlib.Data.List.Nodup
import NativeBridge.Descriptor.Parser

/-!
The documents that describe types. `Denotes` is the grammar of descriptors together with what each document means;
reading a document is deciding the grammar.
-/

namespace NativeBridge.Descriptor

/-! ### The grammar -/

/-- A truth value that may be absent or null. -/
inductive Flag : Option Json → Bool → Prop
  | absent : Flag none false
  | null : Flag (some .null) false
  | given (b : Bool) : Flag (some (.bool b)) b

/-- A choice by its name, which may be absent or null. -/
inductive Choice {α : Type} (name : α → String) (usual : α) : Option Json → α → Prop
  | absent : Choice name usual none usual
  | null : Choice name usual (some .null) usual
  | given (a : α) : Choice name usual (some (.str (name a))) a

/-- What a written size stands for. -/
abbrev SizeReading := Int → Nat → Prop

/-- A written size is the size. -/
def Exactly : SizeReading := fun n size => n = size

/-- The low 32 bits of a written size are the size. -/
def InLowBits : SizeReading := fun n size => Width.w32.low n = size

/-- A written size is the size of a type with one of these widths. -/
def Sized (reads : SizeReading) (widths : List Nat) (v : Option Json) (size : Nat) : Prop :=
  ∃ n, v = some (.int n) ∧ reads n size ∧ size ∈ widths

mutual

/-- A document of the grammar, with the type that it describes. Other fields than those named may hold anything. -/
inductive Denotes (reads : SizeReading) : Json → Descriptor → Prop
  | int {j size signed} (type : j.field? "type" = some (.str "int"))
      (size_field : Sized reads [8, 16, 32, 64] (j.field? "size") size)
      (signed_field : Flag (j.field? "signed") signed) :
      Denotes reads j (.int size signed)
  | float {j size} (type : j.field? "type" = some (.str "float"))
      (size_field : Sized reads [32, 64] (j.field? "size") size) : Denotes reads j (.float size)
  | string {j b} (type : j.field? "type" = some (.str "string")) (borrowed : Flag (j.field? "borrowed") b) :
      Denotes reads j (.string b)
  | boolean {j} (type : j.field? "type" = some (.str "boolean")) : Denotes reads j .boolean
  | null {j} (type : j.field? "type" = some (.str "null")) : Denotes reads j .null
  | undefined {j} (type : j.field? "type" = some (.str "undefined")) : Denotes reads j .undefined
  | object {j name b} (type : j.field? "type" = some (.str name)) (known : name ∈ ["object", "gobject"])
      (borrowed : Flag (j.field? "borrowed") b) : Denotes reads j (.object b)
  | boxed {j b inner lib} (type : j.field? "type" = some (.str "boxed")) (borrowed : Flag (j.field? "borrowed") b)
      (inner_field : j.field? "innerType" = some (.str inner)) (lib_field : (j.field? "lib").bind Json.string? = lib) :
      Denotes reads j (.boxed b inner lib)
  | variant {j name b} (type : j.field? "type" = some (.str name)) (known : name ∈ ["variant", "gvariant"])
      (borrowed : Flag (j.field? "borrowed") b) : Denotes reads j (.variant b)
  | array {j inner item kind b} (type : j.field? "type" = some (.str "array"))
      (item_field : j.field? "itemType" = some inner) (item_type : Denotes reads inner item)
      (list_field : Choice ListKind.name .array (j.field? "listType") kind)
      (borrowed : Flag (j.field? "borrowed") b) : Denotes reads j (.array item kind b)
  | callback {j kind scope args result source outcome} (type : j.field? "type" = some (.str "callback"))
      (kind_field : Choice CallbackKind.name .closure (j.field? "trampoline") kind)
      (scope_field : Choice CallbackScope.name .forever (j.field? "scope") scope)
      (args_field : DenotesArgs reads (j.field? "argTypes") args)
      (result_field : DenotesOptional reads (j.field? "returnType") result)
      (source_field : DenotesOptional reads (j.field? "sourceType") source)
      (outcome_field : DenotesOptional reads (j.field? "resultType") outcome) :
      Denotes reads j (.callback kind scope args result source outcome)
  | ref {j inner target} (type : j.field? "type" = some (.str "ref")) (inner_field : j.field? "innerType" = some inner)
      (inner_type : Denotes reads inner target) : Denotes reads j (.ref target)

/-- A type that may be absent or null. -/
inductive DenotesOptional (reads : SizeReading) : Option Json → Option Descriptor → Prop
  | absent : DenotesOptional reads none none
  | null : DenotesOptional reads (some .null) none
  | given {j d} (type : Denotes reads j d) : DenotesOptional reads (some j) (some d)

/-- A list of types that may be absent or null. -/
inductive DenotesArgs (reads : SizeReading) : Option Json → Option (List Descriptor) → Prop
  | absent : DenotesArgs reads none none
  | null : DenotesArgs reads (some .null) none
  | given {items ds} (types : DenotesList reads items ds) : DenotesArgs reads (some (.arr items)) (some ds)

inductive DenotesList (reads : SizeReading) : List Json → List Descriptor → Prop
  | nil : DenotesList reads [] []
  | cons {j d items ds} (head : Denotes reads j d) (tail : DenotesList reads items ds) :
      DenotesList reads (j :: items) (d :: ds)

end

lemma Denotes.isObject {reads : SizeReading} {j : Json} {d : Descriptor} (h : Denotes reads j d) :
    ∃ fields, j = .obj fields := by
  have key : ∀ {name : String}, j.field? "type" = some (.str name) → ∃ fields, j = .obj fields := by
    intro name hname
    cases j with
    | obj fields => exact ⟨fields, rfl⟩
    | _ => cases hname
  cases h <;> exact key ‹_›

/-! ### What is read is in the grammar -/

/-- The errors of documents outside the grammar. -/
def Refused (e : Error) : Prop := e.kind = .unknownType ∨ e.kind = .invalidDescriptor

/-- Reading gives something that `P` holds of, or refuses the document. -/
def Reads {α : Type} (x : Except Error α) (P : α → Prop) : Prop :=
  match x with
  | .ok a => P a
  | .error e => Refused e

namespace Reads

variable {α β : Type} {P : α → Prop} {Q : β → Prop}

lemma bind {x : Except Error α} {f : α → Except Error β} (hx : Reads x P) (hf : ∀ a, P a → Reads (f a) Q) :
    Reads (x >>= f) Q := by
  cases x with
  | ok a => exact hf a hx
  | error e => exact hx

lemma map {x : Except Error α} {f : α → β} (hx : Reads x P) (hf : ∀ a, P a → Q (f a)) : Reads (f <$> x) Q := by
  cases x with
  | ok a => exact hf a hx
  | error e => exact hx

lemma guard {c : Prop} [Decidable c] {e : Error} {f : PUnit → Except Error α} (he : Refused e)
    (hf : ¬c → Reads (f ⟨⟩) P) : Reads (if c then (throw e : Except Error PUnit) >>= f else f ⟨⟩) P := by
  split
  · exact he
  · exact hf ‹_›

end Reads

lemma readFlag_reads (j : Json) (field : String) : Reads (readFlag j field) (Flag (j.field? field)) := by
  unfold readFlag
  split
  · next hj => rw [hj]; exact .absent
  · next hj => rw [hj]; exact .null
  · next b hj => rw [hj]; exact .given b
  · exact .inr rfl

lemma readSize_reads (j : Json) (type : String) :
    Reads (readSize j type) fun size => ∃ n, j.field? "size" = some (.int n) ∧ InLowBits n size := by
  unfold readSize
  split
  · next n hj => exact ⟨n, hj, rfl⟩
  · exact .inr rfl

section

variable {α : Type} {name : α → String} {all : List α}

/-- The choices are these and have names of their own. -/
structure Named (name : α → String) (all : List α) : Prop where
  distinct : (all.map name).Nodup
  complete : ∀ a, a ∈ all

lemma Named.lookup_iff (h : Named name all) {s : String} {a : α} :
    (all.map fun x => (name x, x)).lookup s = some a ↔ name a = s := by
  have sound : ∀ {b}, (all.map fun x => (name x, x)).lookup s = some b → name b = s := by
    intro b hb
    obtain ⟨before, after, hsplit, -⟩ := List.lookup_eq_some_iff.1 hb
    obtain ⟨x, -, hx⟩ := List.mem_map.1 (hsplit ▸ List.mem_append_cons_self : (s, b) ∈ all.map fun x => (name x, x))
    cases hx
    rfl
  refine ⟨sound, fun ha => ?_⟩
  cases hb : (all.map fun x => (name x, x)).lookup s with
  | none =>
    have hne := List.lookup_eq_none_iff.1 hb (name a, a) (List.mem_map_of_mem (h.complete a))
    simp [ha] at hne
  | some b =>
    rw [List.inj_on_of_nodup_map h.distinct (h.complete b) (h.complete a) ((sound hb).trans ha.symm)]

lemma named_listKind : Named ListKind.name ListKind.all := ⟨by decide, fun a => by cases a <;> decide⟩

lemma named_callbackKind : Named CallbackKind.name CallbackKind.all := ⟨by decide, fun a => by cases a <;> decide⟩

lemma named_scope : Named CallbackScope.name CallbackScope.all := ⟨by decide, fun a => by cases a <;> decide⟩

lemma readChoice_reads (h : Named name all) (j : Json) (field : ChoiceField) (usual : α) :
    Reads (readChoice j field usual (all.map fun x => (name x, x))) (Choice name usual (j.field? field.key)) := by
  unfold readChoice
  split
  · next hj => rw [hj]; exact .absent
  · next hj => rw [hj]; exact .null
  · next s hj =>
    split
    · next a ha => rw [hj, ← h.lookup_iff.1 ha]; exact .given a
    · exact .inr rfl
  · exact .inr rfl

end

lemma width_iff {size : Nat} : ¬(Width.ofBits? size).isNone = true ↔ size ∈ [8, 16, 32, 64] := by
  unfold Width.ofBits?
  split <;> simp_all

lemma readInt_reads {j : Json} (type : j.field? "type" = some (.str "int")) :
    Reads (readInt j) (Denotes InLowBits j) := by
  refine (readSize_reads j "int").bind fun size ⟨n, hn, hsize⟩ => .guard (.inr rfl) fun hw => ?_
  exact (readFlag_reads j "signed").bind fun signed hs => Denotes.int type ⟨n, hn, hsize, width_iff.1 hw⟩ hs

lemma readFloat_reads {j : Json} (type : j.field? "type" = some (.str "float")) :
    Reads (readFloat j) (Denotes InLowBits j) := by
  refine (readSize_reads j "float").bind fun size ⟨n, hn, hsize⟩ => .guard (.inr rfl) fun hw => ?_
  refine .float type ⟨n, hn, hsize, ?_⟩
  simp only [List.mem_cons, List.not_mem_nil, or_false]
  omega

lemma readBoxed_reads {j : Json} (type : j.field? "type" = some (.str "boxed")) :
    Reads (readBoxed j) (Denotes InLowBits j) := by
  refine (readFlag_reads j "borrowed").bind fun b hb => ?_
  split
  · next s hj => exact .boxed type hb hj rfl
  · exact .inr rfl

mutual

/-- What is read from a document is what it denotes, with the low bits of sizes. -/
lemma parse_reads (j : Json) : Reads (parse j) (Denotes InLowBits j) := by
  rw [parse]
  split
  · exact .inr rfl
  split
  · exact .inr rfl
  next name hname =>
  have type : j.field? "type" = some (.str name) := by
    obtain ⟨v, hv, hs⟩ := Option.bind_eq_some_iff.1 hname
    cases v <;> cases hs
    exact hv
  split
  · exact readInt_reads type
  · exact readFloat_reads type
  · exact (readFlag_reads j "borrowed").map fun _ => .string type
  · exact .boolean type
  · exact .null type
  · exact .undefined type
  · exact (readFlag_reads j "borrowed").map fun _ => .object type (by decide)
  · exact (readFlag_reads j "borrowed").map fun _ => .object type (by decide)
  · exact readBoxed_reads type
  · exact (readFlag_reads j "borrowed").map fun _ => .variant type (by decide)
  · exact (readFlag_reads j "borrowed").map fun _ => .variant type (by decide)
  · exact (parseNested_reads j "array" "itemType").bind fun item ⟨inner, hj, hi⟩ =>
      (readChoice_reads named_listKind j .listType .array).bind fun kind hk =>
        (readFlag_reads j "borrowed").bind fun b hb => .array type hj hi hk hb
  · exact (readChoice_reads named_callbackKind j .trampoline .closure).bind fun kind hk =>
      (readChoice_reads named_scope j .scope .forever).bind fun scope hs =>
        (parseArgs_reads j).bind fun args ha =>
          (parseOptional_reads j "returnType").bind fun result hr =>
            (parseOptional_reads j "sourceType").bind fun source hs' =>
              (parseOptional_reads j "resultType").bind fun outcome ho => .callback type hk hs ha hr hs' ho
  · exact (parseNested_reads j "ref" "innerType").map fun target ⟨inner, hj, hi⟩ => .ref type hj hi
  · exact .inl rfl
  termination_by (sizeOf j, 1)

lemma parseNested_reads (j : Json) (type field : String) :
    Reads (parseNested j type field) fun d => ∃ inner, j.field? field = some inner ∧ Denotes InLowBits inner d := by
  rw [parseNested]
  split
  · next fields hj =>
    have : 1 + sizeOf fields < sizeOf j := by simpa using Json.sizeOf_field? hj
    have ih := parse_reads (.obj fields)
    cases hp : parse (.obj fields) with
    | ok d => exact ⟨_, hj, by simpa [Reads, hp] using ih⟩
    | error e => simpa [Reads, hp] using ih
  · exact .inr rfl
  termination_by (sizeOf j, 0)

lemma parseOptional_reads (j : Json) (field : String) :
    Reads (parseOptional j field) (DenotesOptional InLowBits (j.field? field)) := by
  rw [parseOptional]
  split
  · next hj => rw [hj]; exact .absent
  · next hj => rw [hj]; exact .null
  · next fields hj =>
    have : 1 + sizeOf fields < sizeOf j := by simpa using Json.sizeOf_field? hj
    exact (parse_reads (.obj fields)).map fun d hd => hj ▸ .given hd
  · exact .inr rfl
  termination_by (sizeOf j, 0)

lemma parseArgs_reads (j : Json) : Reads (parseArgs j) (DenotesArgs InLowBits (j.field? "argTypes")) := by
  rw [parseArgs]
  split
  · next hj => rw [hj]; exact .absent
  · next hj => rw [hj]; exact .null
  · next items hj =>
    have : 1 + sizeOf items < sizeOf j := by simpa using Json.sizeOf_field? hj
    exact (parseList_reads items).map fun ds hds => hj ▸ .given hds
  · exact .inr rfl
  termination_by (sizeOf j, 0)

lemma parseList_reads (items : List Json) : Reads (parseList items) (DenotesList InLowBits items) := by
  rw [parseList.eq_def]
  split
  · exact .nil
  · next j rest =>
    exact (parse_reads j).bind fun d hd => (parseList_reads rest).bind fun ds hds => .cons hd hds
  termination_by (sizeOf items, 0)

end

/-! ### What is in the grammar is read -/

lemma ok_bind {α β : Type} (a : α) (f : α → Except Error β) : (Except.ok a >>= f) = f a := rfl

lemma readFlag_of {j : Json} {field : String} {b : Bool} (h : Flag (j.field? field) b) :
    readFlag j field = .ok b := by
  unfold readFlag
  generalize j.field? field = v at h
  cases h <;> rfl

lemma readSize_of {j : Json} {type : String} {widths : List Nat} {size : Nat}
    (h : Sized InLowBits widths (j.field? "size") size) : readSize j type = .ok size := by
  obtain ⟨n, hn, hsize, -⟩ := h
  simp [readSize, hn, show Width.w32.low n = size from hsize]

lemma readChoice_of {α : Type} {name : α → String} {all : List α} (hall : Named name all) {j : Json}
    (field : ChoiceField) {usual a : α} (h : Choice name usual (j.field? field.key) a) :
    readChoice j field usual (all.map fun x => (name x, x)) = .ok a := by
  unfold readChoice
  generalize j.field? field.key = v at h
  cases h with
  | absent => rfl
  | null => rfl
  | given => simp [(hall.lookup_iff (s := name a) (a := a)).2 rfl]

lemma readInt_of {j : Json} {size : Nat} {signed : Bool}
    (hsize : Sized InLowBits [8, 16, 32, 64] (j.field? "size") size)
    (hsigned : Flag (j.field? "signed") signed) : readInt j = .ok (.int size signed) := by
  obtain ⟨-, -, -, hw⟩ := id hsize
  simp only [readInt, readSize_of hsize, readFlag_of hsigned, ok_bind, if_neg (width_iff.2 hw)]
  rfl

lemma readFloat_of {j : Json} {size : Nat} (hsize : Sized InLowBits [32, 64] (j.field? "size") size) :
    readFloat j = .ok (.float size) := by
  obtain ⟨-, -, -, hw⟩ := id hsize
  have : ¬(size ≠ 32 ∧ size ≠ 64) := by
    simp only [List.mem_cons, List.not_mem_nil, or_false] at hw
    omega
  simp only [readFloat, readSize_of hsize, ok_bind, if_neg this]
  rfl

lemma parseNested_of {j inner : Json} {d : Descriptor} {type field : String} (hj : j.field? field = some inner)
    (h : Denotes InLowBits inner d) (ih : parse inner = .ok d) : parseNested j type field = .ok d := by
  obtain ⟨fields, rfl⟩ := h.isObject
  rw [parseNested]
  split
  · next fields' hj' => cases hj.symm.trans hj'; exact ih
  · next hne => exact absurd hj (hne fields)

lemma parseOptional_absent {j : Json} {field : String} (hj : j.field? field = none ∨ j.field? field = some .null) :
    parseOptional j field = .ok none := by
  rw [parseOptional]
  split <;> simp_all

lemma parseOptional_of {j inner : Json} {d : Descriptor} {field : String} (hj : j.field? field = some inner)
    (h : Denotes InLowBits inner d) (ih : parse inner = .ok d) : parseOptional j field = .ok (some d) := by
  obtain ⟨fields, rfl⟩ := h.isObject
  rw [parseOptional]
  split <;> simp_all

lemma parseArgs_absent {j : Json} (hj : j.field? "argTypes" = none ∨ j.field? "argTypes" = some .null) :
    parseArgs j = .ok none := by
  rw [parseArgs]
  split <;> simp_all

lemma parseArgs_of {j : Json} {items : List Json} {ds : List Descriptor} (hj : j.field? "argTypes" = some (.arr items))
    (ih : parseList items = .ok ds) : parseArgs j = .ok (some ds) := by
  rw [parseArgs]
  split <;> simp_all

mutual

/-- A document of the grammar is read as what it denotes. -/
lemma parse_of_denotes {j : Json} {d : Descriptor} (h : Denotes InLowBits j d) : parse j = .ok d := by
  obtain ⟨fields, hj⟩ := h.isObject
  have hobject : j.isObject = true := by rw [hj]; rfl
  rw [parse]
  cases h with
  | int type hsize hsigned => simpa [hobject, type, Json.string?] using readInt_of hsize hsigned
  | float type hsize => simpa [hobject, type, Json.string?] using readFloat_of hsize
  | string type hb => simp [hobject, type, Json.string?, readFlag_of hb]
  | boolean type => simp [hobject, type, Json.string?]
  | null type => simp [hobject, type, Json.string?]
  | undefined type => simp [hobject, type, Json.string?]
  | object type known hb =>
    rcases List.mem_pair.1 known with rfl | rfl <;> simp [hobject, type, Json.string?, readFlag_of hb]
  | boxed type hb hinner hlib =>
    simp [hobject, type, Json.string?, readBoxed, readFlag_of hb, hinner, ← hlib]
  | variant type known hb =>
    rcases List.mem_pair.1 known with rfl | rfl <;> simp [hobject, type, Json.string?, readFlag_of hb]
  | array type hj hitem hk hb =>
    have hkind : readListKind j = .ok _ := readChoice_of named_listKind .listType hk
    simp [hobject, type, Json.string?, ok_bind, parseNested_of hj hitem (parse_of_denotes hitem), hkind, readFlag_of hb]
  | callback type hk hs ha hr hs' ho =>
    have hkind : readCallbackKind j = .ok _ := readChoice_of named_callbackKind .trampoline hk
    have hscope : readScope j = .ok _ := readChoice_of named_scope .scope hs
    simp [hobject, type, Json.string?, ok_bind, hkind, hscope, parseArgs_of_denotes ha rfl,
      parseOptional_of_denotes hr rfl, parseOptional_of_denotes hs' rfl, parseOptional_of_denotes ho rfl]
  | ref type hj hinner =>
    simp [hobject, type, Json.string?, parseNested_of hj hinner (parse_of_denotes hinner)]

lemma parseOptional_of_denotes {v : Option Json} {d : Option Descriptor} (h : DenotesOptional InLowBits v d) {j : Json}
    {field : String} (hj : j.field? field = v) : parseOptional j field = .ok d := by
  cases h with
  | absent => exact parseOptional_absent (.inl hj)
  | null => exact parseOptional_absent (.inr hj)
  | given h => exact parseOptional_of hj h (parse_of_denotes h)

lemma parseArgs_of_denotes {v : Option Json} {ds : Option (List Descriptor)} (h : DenotesArgs InLowBits v ds) {j : Json}
    (hj : j.field? "argTypes" = v) : parseArgs j = .ok ds := by
  cases h with
  | absent => exact parseArgs_absent (.inl hj)
  | null => exact parseArgs_absent (.inr hj)
  | given h => exact parseArgs_of hj (parseList_of_denotes h)

lemma parseList_of_denotes {items : List Json} {ds : List Descriptor} (h : DenotesList InLowBits items ds) :
    parseList items = .ok ds := by
  rw [parseList.eq_def]
  cases h with
  | nil => rfl
  | cons hd hds => simp [ok_bind, parse_of_denotes hd, parseList_of_denotes hds]

end

lemma parse_eq_ok_iff {j : Json} {d : Descriptor} : parse j = .ok d ↔ Denotes InLowBits j d := by
  refine ⟨fun hd => ?_, parse_of_denotes⟩
  simpa [Reads, hd] using parse_reads j

/-! ### Written sizes -/

/-- The document has the integer somewhere. -/
inductive Writes : Json → Int → Prop
  | here (n : Int) : Writes (.int n) n
  | item {i items n} (mem : i ∈ items) (writes : Writes i n) : Writes (.arr items) n
  | field {f : String × Json} {fields n} (mem : f ∈ fields) (writes : Writes f.2 n) : Writes (.obj fields) n

@[simp] lemma writes_int {m n : Int} : Writes (.int m) n ↔ m = n :=
  ⟨fun h => by cases h; rfl, fun h => h ▸ .here m⟩

@[simp] lemma not_writes_str {s : String} {n : Int} : ¬Writes (.str s) n := fun h => by cases h

@[simp] lemma writes_obj {fields : List (String × Json)} {n : Int} :
    Writes (.obj fields) n ↔ ∃ f ∈ fields, Writes f.2 n :=
  ⟨fun h => by cases h with | field hf h => exact ⟨_, hf, h⟩, fun ⟨_, hf, h⟩ => .field hf h⟩

lemma mem_of_fieldOf {key : String} {fields : List (String × Json)} {v : Json}
    (h : Json.fieldOf key fields = some v) : (key, v) ∈ fields := by
  induction fields with
  | nil => cases h
  | cons f rest ih =>
    obtain ⟨k, u⟩ := f
    rw [Json.fieldOf] at h
    split at h
    · next hk => cases h; rw [hk]; exact List.mem_cons_self
    · exact List.mem_cons_of_mem _ (ih h)

lemma Writes.of_field {j v : Json} {key : String} {n : Int} (hj : j.field? key = some v) (h : Writes v n) :
    Writes j n := by
  cases j with
  | obj fields => exact .field (mem_of_fieldOf hj) h
  | _ => cases hj

section

variable {reads reads' : SizeReading}

/-- Integers that one reading takes for a size, the other takes for it as well. -/
def Agree (reads reads' : SizeReading) (n : Int) : Prop := ∀ size ≤ 64, reads n size → reads' n size

lemma Sized.mono {widths : List Nat} {j : Json} {size : Nat} (h : Sized reads widths (j.field? "size") size)
    (hw : ∀ w ∈ widths, w ≤ 64) (hr : ∀ n, Writes j n → Agree reads reads' n) :
    Sized reads' widths (j.field? "size") size := by
  obtain ⟨n, hn, hsize, hmem⟩ := h
  exact ⟨n, hn, hr n (.of_field hn (.here n)) size (hw size hmem) hsize, hmem⟩

mutual

lemma Denotes.mono {j : Json} {d : Descriptor} (h : Denotes reads j d)
    (hr : ∀ n, Writes j n → Agree reads reads' n) : Denotes reads' j d := by
  cases h with
  | int type hsize hsigned => exact .int type (hsize.mono (by decide) hr) hsigned
  | float type hsize => exact .float type (hsize.mono (by decide) hr)
  | string type hb => exact .string type hb
  | boolean type => exact .boolean type
  | null type => exact .null type
  | undefined type => exact .undefined type
  | object type known hb => exact .object type known hb
  | boxed type hb hinner hlib => exact .boxed type hb hinner hlib
  | variant type known hb => exact .variant type known hb
  | array type hj hitem hk hb => exact .array type hj (hitem.mono fun n hn => hr n (.of_field hj hn)) hk hb
  | callback type hk hs ha hres hsrc hout =>
    exact .callback type hk hs (ha.mono fun v hv n hn => hr n (.of_field hv hn))
      (hres.mono fun v hv n hn => hr n (.of_field hv hn)) (hsrc.mono fun v hv n hn => hr n (.of_field hv hn))
      (hout.mono fun v hv n hn => hr n (.of_field hv hn))
  | ref type hj hinner => exact .ref type hj (hinner.mono fun n hn => hr n (.of_field hj hn))

lemma DenotesOptional.mono {v : Option Json} {d : Option Descriptor} (h : DenotesOptional reads v d)
    (hr : ∀ j, v = some j → ∀ n, Writes j n → Agree reads reads' n) : DenotesOptional reads' v d := by
  cases h with
  | absent => exact .absent
  | null => exact .null
  | given h => exact .given (h.mono (hr _ rfl))

lemma DenotesArgs.mono {v : Option Json} {ds : Option (List Descriptor)} (h : DenotesArgs reads v ds)
    (hr : ∀ j, v = some j → ∀ n, Writes j n → Agree reads reads' n) : DenotesArgs reads' v ds := by
  cases h with
  | absent => exact .absent
  | null => exact .null
  | given h => exact .given (h.mono fun j hj n hn => hr _ rfl n (.item hj hn))

lemma DenotesList.mono {items : List Json} {ds : List Descriptor} (h : DenotesList reads items ds)
    (hr : ∀ j ∈ items, ∀ n, Writes j n → Agree reads reads' n) : DenotesList reads' items ds := by
  cases h with
  | nil => exact .nil
  | cons hd hds =>
    exact .cons (hd.mono (hr _ List.mem_cons_self)) (hds.mono fun j hj => hr j (List.mem_cons_of_mem _ hj))

end

end

lemma low_of_small {n : Int} (h0 : 0 ≤ n) (h : n < 2 ^ 32) : (Width.w32.low n : Int) = n := by
  have hm : (Width.w32.modulus : Int) = 2 ^ 32 := by decide
  rw [Width.low, hm, Int.emod_eq_of_lt h0 h, Int.toNat_of_nonneg h0]

lemma agree_exactly (n : Int) : Agree Exactly InLowBits n := by
  rintro size hsize rfl
  have := low_of_small (n := size) (by omega) (by omega)
  exact_mod_cast this

lemma agree_inLowBits {n : Int} (h0 : 0 ≤ n) (h : n < 2 ^ 32) : Agree InLowBits Exactly n := by
  rintro size - rfl
  exact (low_of_small h0 h).symm

/-- **Reading a document decides the grammar of descriptors, with sizes cut to 32 bits.** A document is read as a
type if and only if it denotes that type when the low 32 bits of each size count, and is refused otherwise. So every
document that denotes a type by its sizes as they are written is read as that type, and conversely unless it writes
an integer that does not fit 32 bits. -/
theorem parse_decides_grammar (j : Json) :
    (∀ d, parse j = .ok d ↔ Denotes InLowBits j d) ∧
      (∀ e, parse j = .error e → e.kind = .unknownType ∨ e.kind = .invalidDescriptor) ∧
      (∀ d, Denotes Exactly j d → parse j = .ok d) ∧
      ((∀ n, Writes j n → 0 ≤ n ∧ n < 2 ^ 32) → ∀ d, parse j = .ok d → Denotes Exactly j d) := by
  refine ⟨fun d => parse_eq_ok_iff, fun e he => ?_, fun d hd => ?_, fun hj d hd => ?_⟩
  · simpa [Reads, Refused, he] using parse_reads j
  · exact parse_of_denotes (hd.mono fun n _ => agree_exactly n)
  · exact (parse_eq_ok_iff.1 hd).mono fun n hn => agree_inLowBits (hj n hn).1 (hj n hn).2

/-- A size beyond 32 bits, of which the low bits are a width. -/
def oversized : Json := .obj [("size", .int (2 ^ 32 + 8)), ("type", .str "int")]

/-- **A size that is no width is accepted**: the low bits of the number are read as the size. -/
theorem oversized_is_read :
    parse oversized = .ok (.int 8 false) ∧ ¬∃ d, Denotes Exactly oversized d := by
  refine ⟨parse_of_denotes (.int rfl ⟨_, rfl, rfl, by decide⟩ .absent), fun ⟨d, hd⟩ => ?_⟩
  have htype : oversized.field? "type" = some (.str "int") := rfl
  cases hd with
  | int type hsize =>
    obtain ⟨n, hn, hread, hmem⟩ := hsize
    have hn' : n = 2 ^ 32 + 8 := by cases hn; rfl
    rw [Exactly, hn'] at hread
    simp only [List.mem_cons, List.not_mem_nil, or_false] at hmem
    omega
  | object type known => simp_all
  | variant type known => simp_all
  | _ => simp_all

/-- A pointer to a list of 16-bit integers. -/
def pointerToList : Json :=
  .obj [("innerType", .obj [("itemType", .obj [("size", .int 16), ("type", .str "int")]), ("listType", .str "slist"),
    ("type", .str "array")]), ("type", .str "ref")]

theorem pointerToList_is_read :
    Denotes Exactly pointerToList (.ref (.array (.int 16 false) .slist false)) ∧
      parse pointerToList = .ok (.ref (.array (.int 16 false) .slist false)) ∧
      (∀ n, Writes pointerToList n → 0 ≤ n ∧ n < 2 ^ 32) := by
  have hdenotes : Denotes Exactly pointerToList (.ref (.array (.int 16 false) .slist false)) :=
    .ref rfl rfl (.array rfl rfl (.int rfl ⟨16, rfl, rfl, by decide⟩ .absent) (.given ListKind.slist) .absent)
  have hread := (parse_decides_grammar pointerToList).2.2.1 _ hdenotes
  have hsizes : ∀ n, Writes pointerToList n → 0 ≤ n ∧ n < 2 ^ 32 := by
    intro n hn
    have hn : 16 = n := by simpa [pointerToList] using hn
    omega
  exact ⟨(parse_decides_grammar pointerToList).2.2.2 hsizes _ hread, hread, hsizes⟩

end NativeBridge.Descriptor
