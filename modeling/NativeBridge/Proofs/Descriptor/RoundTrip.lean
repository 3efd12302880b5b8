import NativeBridge.Proofs.Descriptor.Grammar

/-!
Writing a descriptor as a document and reading the document gives the descriptor back, so documents and the types
that are read from them determine each other up to fields that are ignored and defaults that are left out.
-/

namespace NativeBridge

namespace Json

/-! ### Fields of an object -/

lemma fieldOf_setField (key k : String) (v : Json) (fields : List (String × Json)) :
    fieldOf key (setField k v fields) = if k = key then some v else fieldOf key fields := by
  induction fields with
  | nil => simp [setField, fieldOf]
  | cons f rest ih =>
    obtain ⟨l, u⟩ := f
    rw [setField]
    split
    · simp [fieldOf]
    · split
      · next hkl =>
        subst hkl
        by_cases hk : k = key <;> simp [fieldOf, hk]
      · next hkl =>
        by_cases hl : l = key
        · simp [fieldOf, hl, show k ≠ key from fun hk => hkl (hk.trans hl.symm)]
        · simp [fieldOf, hl, ih]

lemma fieldOf_append (key : String) (a b : List (String × Json)) :
    fieldOf key (a ++ b) = (fieldOf key a).or (fieldOf key b) := by
  induction a with
  | nil => rfl
  | cons f rest ih =>
    obtain ⟨k, v⟩ := f
    by_cases hk : k = key <;> simp [fieldOf, hk, ih]

/-- The last value that is given for a key counts. -/
lemma field?_object (key : String) (fields : List (String × Json)) :
    (object fields).field? key = fieldOf key fields.reverse := by
  have key : ∀ acc, fieldOf key (fields.foldl (fun acc f => setField f.1 f.2 acc) acc) =
      (fieldOf key fields.reverse).or (fieldOf key acc) := by
    induction fields with
    | nil => intro acc; rfl
    | cons f rest ih =>
      intro acc
      rw [List.foldl_cons, ih, fieldOf_setField, List.reverse_cons, fieldOf_append]
      by_cases hk : f.1 = key <;> simp [fieldOf, hk]
  simpa [object, field?, fieldOf] using key []

/-! ### Documents without floating-point numbers -/

/-- No part of the document is a floating-point number, which may equal an integer without being one. -/
inductive FloatFree : Json → Prop
  | null : FloatFree .null
  | bool (b : Bool) : FloatFree (.bool b)
  | int (n : Int) : FloatFree (.int n)
  | str (s : String) : FloatFree (.str s)
  | arr {items : List Json} (parts : ∀ i ∈ items, FloatFree i) : FloatFree (.arr items)
  | obj {fields : List (String × Json)} (parts : ∀ f ∈ fields, FloatFree f.2) : FloatFree (.obj fields)

lemma FloatFree.setField {key : String} {v : Json} {fields : List (String × Json)} (hv : v.FloatFree)
    (h : ∀ f ∈ fields, FloatFree f.2) : ∀ f ∈ Json.setField key v fields, FloatFree f.2 := by
  induction fields with
  | nil => simpa [Json.setField] using hv
  | cons f rest ih =>
    obtain ⟨hf, hrest⟩ := List.forall_mem_cons.1 h
    rw [Json.setField]
    split
    · exact List.forall_mem_cons.2 ⟨hv, h⟩
    · split
      · exact List.forall_mem_cons.2 ⟨hv, hrest⟩
      · exact List.forall_mem_cons.2 ⟨hf, ih hrest⟩

lemma FloatFree.object {fields : List (String × Json)} (h : ∀ f ∈ fields, FloatFree f.2) :
    (Json.object fields).FloatFree := by
  have key : ∀ acc : List (String × Json), (∀ f ∈ acc, FloatFree f.2) →
      ∀ f ∈ fields.foldl (fun acc f => Json.setField f.1 f.2 acc) acc, FloatFree f.2 := by
    induction fields with
    | nil => exact fun acc hacc => hacc
    | cons f rest ih =>
      obtain ⟨hf, hrest⟩ := List.forall_mem_cons.1 h
      exact fun acc hacc => ih hrest _ (hf.setField hacc)
  exact .obj (key [] (by simp))

mutual

/-- Without floating-point numbers only a document itself equals it. -/
lemma same_iff {a b : Json} (ha : a.FloatFree) (hb : b.FloatFree) : same a b = true ↔ a = b := by
  cases ha with
  | null => cases hb <;> simp [same]
  | bool => cases hb <;> simp [same]
  | int => cases hb <;> simp [same]
  | str => cases hb <;> simp [same]
  | arr ha =>
    cases hb with
    | arr hb => simpa [same] using sameItems_iff ha hb
    | _ => simp [same]
  | obj ha =>
    cases hb with
    | obj hb => simpa [same] using sameFields_iff ha hb
    | _ => simp [same]
  termination_by sizeOf a

lemma sameItems_iff {a b : List Json} (ha : ∀ i ∈ a, FloatFree i) (hb : ∀ i ∈ b, FloatFree i) :
    sameItems a b = true ↔ a = b := by
  match a, b with
  | [], [] => simp [sameItems]
  | [], _ :: _ => simp [sameItems]
  | _ :: _, [] => simp [sameItems]
  | i :: a, k :: b =>
    obtain ⟨hi, ha⟩ := List.forall_mem_cons.1 ha
    obtain ⟨hk, hb⟩ := List.forall_mem_cons.1 hb
    simp [sameItems, same_iff hi hk, sameItems_iff ha hb]
  termination_by sizeOf a

lemma sameFields_iff {a b : List (String × Json)} (ha : ∀ f ∈ a, FloatFree f.2) (hb : ∀ f ∈ b, FloatFree f.2) :
    sameFields a b = true ↔ a = b := by
  match a, b with
  | [], [] => simp [sameFields]
  | [], _ :: _ => simp [sameFields]
  | _ :: _, [] => simp [sameFields]
  | (k, v) :: a, (l, u) :: b =>
    obtain ⟨hv, ha⟩ := List.forall_mem_cons.1 ha
    obtain ⟨hu, hb⟩ := List.forall_mem_cons.1 hb
    simp [sameFields, same_iff hv hu, sameFields_iff ha hb]
  termination_by sizeOf a

end

end Json

namespace Descriptor

/-! ### Documents of descriptors -/

mutual

lemma floatFree_toJson (d : Descriptor) : d.toJson.FloatFree := by
  match d with
  | int size signed => exact .object (by simp [Json.FloatFree.str, Json.FloatFree.int, Json.FloatFree.bool])
  | float size => exact .object (by simp [Json.FloatFree.str, Json.FloatFree.int])
  | string b => exact .object (by simp [Json.FloatFree.str, Json.FloatFree.bool])
  | boolean => exact .object (by simp [Json.FloatFree.str])
  | null => exact .object (by simp [Json.FloatFree.str])
  | undefined => exact .object (by simp [Json.FloatFree.str])
  | object b => exact .object (by simp [Json.FloatFree.str, Json.FloatFree.bool])
  | boxed b inner lib =>
    exact .object (by cases lib <;> simp [Json.FloatFree.str, Json.FloatFree.bool])
  | variant b => exact .object (by simp [Json.FloatFree.str, Json.FloatFree.bool])
  | array item kind b =>
    exact .object (by simp [Json.FloatFree.str, Json.FloatFree.bool, floatFree_toJson item])
  | callback kind scope args result source outcome =>
    refine .object ?_
    have hscope : ∀ f ∈ (if scope = .call then [("scope", Json.str "call")] else []), Json.FloatFree f.2 := by
      split <;> simp [Json.FloatFree.str]
    simp only [List.forall_mem_append]
    exact ⟨⟨⟨⟨⟨by simp [Json.FloatFree.str], hscope⟩, floatFree_argsToJson args⟩, floatFree_optionToJson _ result⟩,
      floatFree_optionToJson _ source⟩, floatFree_optionToJson _ outcome⟩
  | ref inner => exact .object (by simp [Json.FloatFree.str, floatFree_toJson inner])

lemma floatFree_argsToJson (args : Option (List Descriptor)) : ∀ f ∈ argsToJson args, Json.FloatFree f.2 := by
  match args with
  | none => simp [argsToJson]
  | some ds => simpa [argsToJson] using .arr (floatFree_listToJson ds)

lemma floatFree_listToJson (ds : List Descriptor) : ∀ i ∈ listToJson ds, Json.FloatFree i := by
  match ds with
  | [] => simp [listToJson]
  | d :: rest => exact List.forall_mem_cons.2 ⟨floatFree_toJson d, floatFree_listToJson rest⟩

lemma floatFree_optionToJson (key : String) (o : Option Descriptor) :
    ∀ f ∈ optionToJson key o, Json.FloatFree f.2 := by
  match o with
  | none => simp [optionToJson]
  | some d => simp [optionToJson, floatFree_toJson d]

end

lemma fieldOf_argsToJson (key : String) (args : Option (List Descriptor)) :
    Json.fieldOf key (argsToJson args).reverse =
      if key = "argTypes" then args.map fun ds => Json.arr (listToJson ds) else none := by
  cases args <;> simp [argsToJson, Json.fieldOf, eq_comm]

lemma fieldOf_optionToJson (key name : String) (o : Option Descriptor) :
    Json.fieldOf key (optionToJson name o).reverse = if key = name then o.map toJson else none := by
  cases o <;> simp [optionToJson, Json.fieldOf, eq_comm]

variable {reads : SizeReading}

/-- The reading takes each width for itself. -/
def Plain (reads : SizeReading) : Prop := ∀ w ∈ [8, 16, 32, 64], reads (w : Nat) w

lemma Sized.written {widths : List Nat} {v : Option Json} {size : Nat} (hr : Plain reads)
    (hw : ∀ w ∈ widths, w ∈ [8, 16, 32, 64]) (h : Sized reads widths v size) :
    Sized reads widths (some (.int size)) size := by
  obtain ⟨-, -, -, hmem⟩ := h
  exact ⟨size, rfl, hr size (hw size hmem), hmem⟩

mutual

/-- The document of a type that some document denotes denotes the type. -/
lemma Denotes.written {j : Json} {d : Descriptor} (hr : Plain reads) (h : Denotes reads j d) :
    Denotes reads d.toJson d := by
  cases h with
  | int type hsize hsigned =>
    refine .int ?_ ?_ ?_ <;> simp only [toJson, Json.field?_object]
    · rfl
    · exact hsize.written hr (by decide)
    · exact .given _
  | float type hsize =>
    refine .float ?_ ?_ <;> simp only [toJson, Json.field?_object]
    · rfl
    · exact hsize.written hr (by decide)
  | string type hb =>
    refine .string ?_ ?_ <;> simp only [toJson, Json.field?_object]
    · rfl
    · exact .given _
  | boolean type => exact .boolean (by simp only [toJson, Json.field?_object]; rfl)
  | null type => exact .null (by simp only [toJson, Json.field?_object]; rfl)
  | undefined type => exact .undefined (by simp only [toJson, Json.field?_object]; rfl)
  | object type known hb =>
    refine @Denotes.object _ _ "object" _ ?_ (by decide) ?_ <;> simp only [toJson, Json.field?_object]
    · rfl
    · exact .given _
  | @boxed _ _ _ lib type hb hinner hlib =>
    refine .boxed ?_ ?_ ?_ ?_ <;> simp only [toJson, Json.field?_object] <;> rcases lib with _ | l
    any_goals rfl
    · exact .given _
    · exact .given _
  | variant type known hb =>
    refine @Denotes.variant _ _ "variant" _ ?_ (by decide) ?_ <;> simp only [toJson, Json.field?_object]
    · rfl
    · exact .given _
  | array type hj hitem hk hb =>
    refine .array ?_ ?_ (hitem.written hr) ?_ ?_ <;> simp only [toJson, Json.field?_object]
    · rfl
    · rfl
    · exact .given _
    · exact .given _
  | @callback _ kind scope args result source outcome type hk hs ha hres hsrc hout =>
    refine .callback ?_ ?_ ?_ ?_ ?_ ?_ ?_ <;>
      simp only [toJson, Json.field?_object, List.reverse_append, Json.fieldOf_append, fieldOf_optionToJson,
        fieldOf_argsToJson, String.reduceEq, if_true, if_false, Option.none_or]
    · cases scope <;> rfl
    · cases scope <;> exact .given _
    · cases scope
      · exact .given CallbackScope.call
      · exact .absent
    · cases scope <;> simpa [Json.fieldOf] using ha.written hr
    · cases scope <;> simpa [Json.fieldOf] using hres.written hr
    · cases scope <;> simpa [Json.fieldOf] using hsrc.written hr
    · cases scope <;> simpa [Json.fieldOf] using hout.written hr
  | ref type hj hinner =>
    refine .ref ?_ ?_ (hinner.written hr) <;> simp only [toJson, Json.field?_object]
    · rfl
    · rfl

lemma DenotesOptional.written {v : Option Json} {o : Option Descriptor} (hr : Plain reads)
    (h : DenotesOptional reads v o) : DenotesOptional reads (o.map toJson) o := by
  cases h with
  | absent => exact .absent
  | null => exact .absent
  | given h => exact .given (h.written hr)

lemma DenotesArgs.written {v : Option Json} {args : Option (List Descriptor)} (hr : Plain reads)
    (h : DenotesArgs reads v args) : DenotesArgs reads (args.map fun ds => .arr (listToJson ds)) args := by
  cases h with
  | absent => exact .absent
  | null => exact .absent
  | given h => exact .given (h.written hr)

lemma DenotesList.written {items : List Json} {ds : List Descriptor} (hr : Plain reads)
    (h : DenotesList reads items ds) : DenotesList reads (listToJson ds) ds := by
  cases h with
  | nil => exact .nil
  | cons hd hds => exact .cons (hd.written hr) (hds.written hr)

end

/-- The document of a type that was read is read as the type. -/
lemma parse_written {j : Json} {t : Descriptor} (h : parse j = .ok t) : parse t.toJson = .ok t :=
  parse_eq_ok_iff.2 ((parse_eq_ok_iff.1 h).written (by unfold Plain InLowBits; decide))

/-- Types that were read are written differently. -/
lemma toJson_inj {j k : Json} {t u : Descriptor} (ht : parse j = .ok t) (hu : parse k = .ok u)
    (h : t.toJson = u.toJson) : t = u := by
  have := (parse_written ht).symm.trans (h ▸ parse_written hu)
  cases this
  rfl

lemma beq_iff {j k : Json} {t u : Descriptor} (ht : parse j = .ok t) (hu : parse k = .ok u) :
    (t == u) = true ↔ t = u :=
  (Json.same_iff (floatFree_toJson t) (floatFree_toJson u)).trans ⟨toJson_inj ht hu, congrArg toJson⟩

/-- **Types that were read survive being written.** The document of a type that was read from some document is read as
the same type, nested types included; comparing such types by their documents is comparing the types; and writing
what is read from such a document gives the document again. -/
theorem parsed_type_round_trips {j : Json} {t : Descriptor} (h : parse j = .ok t) :
    parse t.toJson = .ok t ∧
      (∀ k u, parse k = .ok u → ((t == u) = true ↔ t = u)) ∧
      toJson <$> parse t.toJson = .ok t.toJson := by
  have hparse := parse_written h
  exact ⟨hparse, fun k u hu => beq_iff h hu, by rw [hparse]; rfl⟩

/-- A callback that takes a list of objects and a size, with fields that reading leaves out. -/
def drawCallback : Json :=
  .obj [("argTypes", .arr [.obj [("itemType", .obj [("borrowed", .bool true), ("type", .str "gobject")]),
      ("listType", .str "list"), ("type", .str "array")], .obj [("size", .int 32), ("type", .str "int")]]),
    ("note", .str "redraw"), ("returnType", .null), ("scope", .str "call"), ("trampoline", .str "drawFunc"),
    ("type", .str "callback")]

theorem drawCallback_round_trips : ∃ t, parse drawCallback = .ok t ∧ parse t.toJson = .ok t ∧ t.toJson ≠ drawCallback := by
  have hread : parse drawCallback =
      .ok (.callback .drawFunc .call (some [.array (.object true) .list false, .int 32 false]) none none none) :=
    parse_of_denotes <| .callback rfl (.given CallbackKind.drawFunc) (.given CallbackScope.call)
      (.given (.cons (.array rfl rfl (.object rfl (by decide) (.given true)) (.given ListKind.list) .absent)
        (.cons (.int rfl ⟨32, rfl, by unfold InLowBits; decide, by decide⟩ .absent) .nil))) .null .absent .absent
  refine ⟨_, hread, (parsed_type_round_trips hread).1, fun heq => ?_⟩
  have hnote := congrArg (fun j => (Json.field? j "note").isSome) heq
  exact absurd hnote (by decide)

end Descriptor

end NativeBridge
