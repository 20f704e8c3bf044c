import FieldTypes.Proofs.Decoding
import Mathlib.Data.List.Forall2

set_option autoImplicit false

namespace FieldTypes

namespace Denotation

/-- The key is absent or null. -/
def Missing (members : Json.Members) (key : String) : Prop :=
  ∀ value, members.lookup key = some value → value = .null

/-- The key has a value other than null. -/
def Given (members : Json.Members) (key : String) (value : Json) : Prop :=
  members.lookup key = some value ∧ value ≠ .null

section Keys

variable {α : Type} (members : Json.Members) (key : String) (denotes : Json → α → Prop)

/-- A key that must be given, and what its value stands for. -/
def Mandatory (result : α) : Prop := ∃ value, Given members key value ∧ denotes value result

/-- A key that may be missing, with what it stands for then. -/
inductive Optional (default : α) : α → Prop
  | missing (missing : Missing members key) : Optional default default
  | given {value : Json} {result : α} (given : Given members key value) (meaning : denotes value result) :
      Optional default result

end Keys

def IsText (value : Json) (text : String) : Prop := value = .string text

def IsFlag (value : Json) (flag : Bool) : Prop := value = .bool flag

def IsNatural (value : Json) (natural : Nat) : Prop := value = .natural natural

/-- A text, or its lines. -/
inductive IsDoc : Json → String → Prop
  | text (text : String) : IsDoc (.string text) text
  | lines (lines : List String) : IsDoc (.array (lines.map .string)) ("\n".intercalate lines)

/-- A value of any kind stands for itself. -/
def IsSome (value : Json) (result : Option Json) : Prop := result = some value

def IsSomeDoc (value : Json) (result : Option String) : Prop := ∃ doc, IsDoc value doc ∧ result = some doc

/-- The name of an entry: its own, or else its key; both must agree. -/
inductive Named (members : Json.Members) : Option String → String → Prop
  | own {name : String} (given : Mandatory members "name" IsText name) : Named members none name
  | key {name : String} (missing : Missing members "name") : Named members (some name) name
  | both {name : String} (given : Mandatory members "name" IsText name) : Named members (some name) name

/-- The entries of a collection: an array of them, or an object of them under their names. -/
inductive IsEntries : Json → List (Option String × Json) → Prop
  | array (items : List Json) : IsEntries (.array items) (items.map (none, ·))
  | keyed (members : Json.Members) : IsEntries (.object members) (members.map fun (key, value) => (some key, value))

/-- A collection stands for what its entries stand for, in document order. -/
def IsCollection {α : Type} (denotes : Option String × Json → α → Prop) (value : Json)
    (results : List α) : Prop :=
  ∃ entries, IsEntries value entries ∧ List.Forall₂ denotes entries results

inductive PrimitiveOf : Option String × Json → Primitive → Prop
  | entry {key : Option String} {members : Json.Members} {primitive : Primitive}
      (name : Named members key primitive.name)
      (doc : Optional members "doc" IsDoc "" primitive.doc) :
      PrimitiveOf (key, .object members) primitive

/-- The param that an item stands for at its position. -/
inductive ParamOf : Json × Nat → Param → Prop
  | item {members : Json.Members} {position : Nat} {param : Param}
      (name : Mandatory members "name" IsText param.name)
      (index : Optional members "index" IsNatural position param.index)
      (type : Mandatory members "type" IsText param.typeName)
      (required : members.lookup "required" = some (.bool param.required))
      (doc : Optional members "doc" IsDoc "" param.doc)
      (defaultValue : Optional members "default_value" IsSome none param.defaultValue)
      (defaultValueDoc : Optional members "default_value_doc" IsSomeDoc none param.defaultValueDoc) :
      ParamOf (.object members, position) param

/-- Params come in an array only. -/
def IsParams (value : Json) (params : List Param) : Prop :=
  ∃ items, value = .array items ∧ List.Forall₂ ParamOf items.zipIdx params

inductive FieldOf : Option String × Json → Field → Prop
  | entry {key : Option String} {members : Json.Members} {field : Field}
      (name : Named members key field.name)
      (returnType : Mandatory members "return_type" IsText field.returnType)
      (doc : Optional members "doc" IsDoc "" field.doc)
      (returnList : Optional members "return_list" IsFlag false field.returnList)
      (nullable : Optional members "null" IsFlag false field.nullable)
      (params : Optional members "params" IsParams [] field.params) :
      FieldOf (key, .object members) field

inductive TypeOf : Option String × Json → TypeDecl → Prop
  | entry {key : Option String} {members : Json.Members} {type : TypeDecl}
      (name : Named members key type.name)
      (doc : Optional members "doc" IsDoc "" type.doc)
      (fields : Mandatory members "fields" (IsCollection FieldOf) type.fields) :
      TypeOf (key, .object members) type

/-- The schema that a document stands for, one declaration for each entry. -/
inductive SchemaOf : Json → Schema → Prop
  | document {members : Json.Members} {rootType : String} {primitives : List Primitive}
      {types : List TypeDecl}
      (root : Mandatory members "root_type" IsText rootType)
      (listed : Optional members "primitive_types" (IsCollection PrimitiveOf) [] primitives)
      (declared : Mandatory members "types" (IsCollection TypeOf) types) :
      SchemaOf (.object members) (.ofDeclarations rootType primitives types)

end Denotation

namespace Decoding

open Denotation

section Keys

variable {α : Type} {members : Json.Members} {entity : Entity} {key : String}

theorem present?_eq_some_iff {value : Json} :
    present? members key = some value ↔ Given members key value := by
  rw [present?_eq_filter, Option.filter_eq_some_iff, Given]
  refine and_congr_right fun _ => ?_
  cases value <;> simp [Json.isNull]

theorem present?_eq_none_iff : present? members key = none ↔ Missing members key := by
  rw [present?_eq_filter, Option.filter_eq_none_iff, Missing]
  refine forall_congr' fun value => imp_congr_right fun _ => ?_
  cases value <;> simp [Json.isNull]

theorem mandatory_bind_ok {read : Json → Except ParseError α} {denotes : Json → α → Prop}
    (reads : ∀ value result, read value = .ok result ↔ denotes value result) {result : α} :
    (mandatory members entity key >>= read) = .ok result ↔ Mandatory members key denotes result := by
  simp only [bind_eq_ok, mandatory_ok, present?_eq_some_iff, reads, Mandatory]

theorem optional_ok {read : Json → Except ParseError α} {denotes : Json → α → Prop}
    (reads : ∀ value result, read value = .ok result ↔ denotes value result) {default result : α} :
    (match present? members key with
      | none => Except.ok default
      | some value => read value) = .ok result ↔
      Optional members key denotes default result := by
  cases found : present? members key with
  | none =>
    have missing := present?_eq_none_iff.1 found
    constructor
    · rintro ⟨⟩
      exact .missing missing
    · rintro (_ | ⟨given, _⟩)
      · rfl
      · rw [← present?_eq_some_iff, found] at given
        cases given
  | some value =>
    have given := present?_eq_some_iff.1 found
    simp only [reads]
    constructor
    · exact fun meaning => .given given meaning
    · rintro (missing | ⟨given, meaning⟩)
      · rw [← present?_eq_none_iff, found] at missing
        cases missing
      · rw [← present?_eq_some_iff, found, Option.some.injEq] at given
        rwa [given]

end Keys

section Values

variable {members : Json.Members} {entity : Entity} {key : String}

theorem asString?_eq_some_iff {value : Json} {text : String} :
    value.asString? = some text ↔ IsText value text := by
  cases value <;> simp [Json.asString?, IsText]

theorem asBool?_eq_some_iff {value : Json} {flag : Bool} : value.asBool? = some flag ↔ IsFlag value flag := by
  cases value <;> simp [Json.asBool?, IsFlag]

theorem asNat?_eq_some_iff {value : Json} {natural : Nat} :
    value.asNat? = some natural ↔ IsNatural value natural := by
  constructor
  · intro read
    unfold Json.asNat? at read
    split at read
    · rw [Option.some.injEq] at read
      exact read ▸ rfl
    · cases read
  · rintro rfl
    rfl

theorem asArray?_eq_some_iff {value : Json} {items : List Json} :
    value.asArray? = some items ↔ value = .array items := by
  cases value <;> simp [Json.asArray?]

theorem mapM_asString?_eq_some_iff {items : List Json} {lines : List String} :
    items.mapM Json.asString? = some lines ↔ items = lines.map .string := by
  induction items generalizing lines with
  | nil => cases lines <;> simp
  | cons item items ih =>
    simp only [List.mapM_cons, Option.bind_eq_bind, Option.bind_eq_some_iff, asString?_eq_some_iff, ih, IsText,
      Option.pure_def, Option.some.injEq]
    constructor
    · rintro ⟨line, rfl, others, rfl, rfl⟩
      rfl
    · intro same
      cases lines with
      | nil => cases same
      | cons line lines =>
        rw [List.map_cons, List.cons.injEq] at same
        exact ⟨line, same.1, lines, same.2, rfl⟩

theorem linesValue?_eq_some_iff {value : Json} {doc : String} :
    linesValue? value = some doc ↔ IsDoc value doc := by
  constructor
  · intro read
    unfold linesValue? at read
    split at read
    · rw [Option.some.injEq] at read
      exact read ▸ .text _
    · obtain ⟨lines, texts, rfl⟩ := Option.map_eq_some_iff.1 read
      rw [mapM_asString?_eq_some_iff.1 texts]
      exact .lines lines
    · cases read
  · rintro (_ | lines)
    · rfl
    · rw [linesValue?, mapM_asString?_eq_some_iff.2 rfl]
      rfl

theorem linesValue?_strings (lines : List String) :
    linesValue? (.strings lines) = some ("\n".intercalate lines) :=
  linesValue?_eq_some_iff.2 (.lines lines)

theorem entries?_eq_some_iff {value : Json} {entries : List Entry} :
    entries? value = some entries ↔ IsEntries value entries := by
  constructor
  · intro read
    cases value with
    | array items =>
      rw [entries?, Option.some.injEq] at read
      exact read ▸ .array items
    | object members =>
      rw [entries?, Option.some.injEq] at read
      exact read ▸ .keyed members
    | _ => cases read
  · rintro (_ | _) <;> rfl

theorem stringKey_ok {text : String} :
    stringKey members entity key = .ok text ↔ Mandatory members key IsText text :=
  mandatory_bind_ok fun _ _ => ofKind_ok.trans asString?_eq_some_iff

theorem boolKey_ok {flag : Bool} :
    boolKey members entity key = .ok flag ↔ Optional members key IsFlag false flag :=
  optional_ok fun _ _ => ofKind_ok.trans asBool?_eq_some_iff

theorem docKey_ok {doc : String} :
    docKey members entity = .ok doc ↔ Optional members "doc" IsDoc "" doc :=
  optional_ok fun _ _ => ofKind_ok.trans linesValue?_eq_some_iff

theorem indexKey_ok {position index : Nat} :
    indexKey members entity position = .ok index ↔ Optional members "index" IsNatural position index :=
  optional_ok fun _ _ => ofKind_ok.trans asNat?_eq_some_iff

theorem defaultDocKey_ok {doc : Option String} :
    defaultDocKey members entity = .ok doc ↔ Optional members "default_value_doc" IsSomeDoc none doc := by
  refine optional_ok fun value result => ?_
  rw [map_eq_ok, IsSomeDoc]
  simp only [ofKind_ok, linesValue?_eq_some_iff, @eq_comm _ result]

theorem present?_eq_iff {result : Option Json} :
    result = present? members key ↔ Optional members key IsSome none result := by
  have reads : ∀ (value : Json) (result : Option Json),
      (Except.ok (some value) : Except ParseError (Option Json)) = .ok result ↔ IsSome value result :=
    fun _ _ => by rw [Except.ok.injEq, IsSome, eq_comm]
  rw [← optional_ok reads]
  cases present? members key <;> simp [eq_comm]

theorem requiredKey_ok {flag : Bool} :
    requiredKey members entity = .ok flag ↔ members.lookup "required" = some (.bool flag) := by
  unfold requiredKey
  cases members.lookup "required" with
  | none => simp
  | some value => simp only [ofKind_ok, asBool?_eq_some_iff, IsFlag, Option.some.injEq]

theorem nameOf_of_missing (missing : Missing members "name") {key : Option String} {name : String} :
    nameOf members key entity = .ok name ↔ key = some name := by
  unfold nameOf
  rw [present?_eq_none_iff.2 missing]
  cases key <;> simp

theorem nameOf_of_given {value : Json} (given : Given members "name" value) {key : Option String}
    {name : String} :
    nameOf members key entity = .ok name ↔ IsText value name ∧ (key = none ∨ key = some name) := by
  unfold nameOf
  rw [present?_eq_some_iff.2 given]
  simp only [bind_eq_ok, ofKind_ok, asString?_eq_some_iff]
  cases key with
  | none => simp
  | some key =>
    constructor
    · rintro ⟨other, text, checked⟩
      by_cases same : key = other
      · simp only [if_pos same, Except.ok.injEq] at checked
        exact ⟨checked ▸ text, .inr (by rw [same, checked])⟩
      · simp only [if_neg same, reduceCtorEq] at checked
    · rintro ⟨text, absent | same⟩
      · cases absent
      · rw [Option.some.injEq] at same
        exact ⟨name, text, if_pos same⟩

theorem nameOf_ok {key : Option String} {name : String} :
    nameOf members key entity = .ok name ↔ Named members key name := by
  cases found : present? members "name" with
  | none =>
    have missing := present?_eq_none_iff.1 found
    have absent : ¬ Mandatory members "name" IsText name := by
      rintro ⟨value, given, -⟩
      rw [present?_eq_some_iff.2 given] at found
      cases found
    rw [nameOf_of_missing missing]
    constructor
    · rintro rfl
      exact .key missing
    · rintro (given | _ | given)
      · exact absurd given absent
      · rfl
      · exact absurd given absent
  | some value =>
    have given := present?_eq_some_iff.1 found
    have own : IsText value name ↔ Mandatory members "name" IsText name := by
      simp only [Mandatory, ← present?_eq_some_iff, found, Option.some.injEq, exists_eq_left']
    rw [nameOf_of_given given, own]
    constructor
    · rintro ⟨named, rfl | rfl⟩
      · exact .own named
      · exact .both named
    · rintro (named | missing | named)
      · exact ⟨named, .inl rfl⟩
      · exact absurd (missing value given.1) given.2
      · exact ⟨named, .inr rfl⟩

end Values

section Each

variable {α β : Type} {decode : Nat → α → Except ParseError β}

theorem each_ok_iff {denotes : α × Nat → β → Prop}
    (decodes : ∀ position entry result, decode position entry = .ok result ↔ denotes (entry, position) result)
    {position : Nat} {entries : List α} {results : List β} :
    each decode position entries = .ok results ↔ List.Forall₂ denotes (entries.zipIdx position) results := by
  induction entries generalizing position results with
  | nil => simp [each, eq_comm]
  | cons entry entries ih =>
    rw [each_cons_ok, List.zipIdx_cons, List.forall₂_cons_left_iff]
    simp only [decodes, ih]

theorem each_ok_iff_forall₂ {denotes : α → β → Prop}
    (decodes : ∀ position entry result, decode position entry = .ok result ↔ denotes entry result)
    {entries : List α} {results : List β} :
    each decode 0 entries = .ok results ↔ List.Forall₂ denotes entries results := by
  have each_ : each decode 0 entries = .ok results ↔
      List.Forall₂ (fun entry result => denotes entry.1 result) entries.zipIdx results :=
    each_ok_iff decodes
  rw [each_, ← @List.forall₂_map_left_iff _ _ _ denotes Prod.fst, List.zipIdx_map_fst]

end Each

theorem collection_ok {α : Type} (decode : Nat → Entry → Except ParseError α) (denotes : Entry → α → Prop)
    (decodes : ∀ position entry result, decode position entry = .ok result ↔ denotes entry result)
    {entity : Entity} {key : String} {value : Json} {results : List α} :
    (∃ entries, entriesOf entity key value = .ok entries ∧ each decode 0 entries = .ok results) ↔
      IsCollection denotes value results := by
  simp only [entriesOf, ofKind_ok, entries?_eq_some_iff, each_ok_iff_forall₂ decodes, IsCollection]

theorem primitive_ok_iff {position : Nat} {entry : Entry} {primitive : Primitive} :
    Decoding.primitive position entry = .ok primitive ↔ PrimitiveOf entry primitive := by
  obtain ⟨key, value⟩ := entry
  simp only [primitive_ok, nameOf_ok, docKey_ok]
  constructor
  · rintro ⟨members, rfl, name, doc⟩
    exact .entry name doc
  · rintro ⟨name, doc⟩
    exact ⟨_, rfl, name, doc⟩

theorem primitivesKey_ok {members : Json.Members} {primitives : List Primitive} :
    primitivesKey members = .ok primitives ↔
      Optional members "primitive_types" (IsCollection PrimitiveOf) [] primitives :=
  optional_ok fun _ _ =>
    bind_eq_ok.trans (collection_ok Decoding.primitive PrimitiveOf fun _ _ _ => primitive_ok_iff)

theorem named_none {members : Json.Members} {name : String} :
    Named members none name ↔ Mandatory members "name" IsText name := by
  constructor
  · rintro ⟨given⟩
    exact given
  · exact .own

theorem param_ok_iff {type field : String} {position : Nat} {value : Json} {param : Param} :
    Decoding.param type field position value = .ok param ↔ ParamOf (value, position) param := by
  simp only [param_ok, nameOf_ok, named_none, indexKey_ok, stringKey_ok, requiredKey_ok, docKey_ok,
    defaultDocKey_ok, present?_eq_iff]
  constructor
  · rintro ⟨members, rfl, name, index, type, required, doc, defaultDoc, default⟩
    exact .item name index type required doc default defaultDoc
  · rintro ⟨name, index, type, required, doc, default, defaultDoc⟩
    exact ⟨_, rfl, name, index, type, required, doc, defaultDoc, default⟩

theorem paramsKey_ok_iff {members : Json.Members} {type field : String} {params : List Param} :
    paramsKey members type field = .ok params ↔ Optional members "params" IsParams [] params := by
  refine optional_ok fun value result => ?_
  simp only [bind_eq_ok, ofKind_ok, asArray?_eq_some_iff, IsParams]
  refine exists_congr fun items => and_congr_right fun _ => ?_
  exact each_ok_iff fun _ _ _ => param_ok_iff

theorem field_ok_iff {type : String} {position : Nat} {entry : Entry} {field : Field} :
    Decoding.field type position entry = .ok field ↔ FieldOf entry field := by
  obtain ⟨key, value⟩ := entry
  simp only [field_ok, nameOf_ok, stringKey_ok, docKey_ok, boolKey_ok, paramsKey_ok_iff]
  constructor
  · rintro ⟨members, rfl, name, returnType, doc, returnList, nullable, params⟩
    exact .entry name returnType doc returnList nullable params
  · rintro ⟨name, returnType, doc, returnList, nullable, params⟩
    exact ⟨_, rfl, name, returnType, doc, returnList, nullable, params⟩

theorem type_ok_iff {position : Nat} {entry : Entry} {type : TypeDecl} :
    Decoding.type position entry = .ok type ↔ TypeOf entry type := by
  obtain ⟨key, value⟩ := entry
  have collected : ∀ collection, (∃ entries, entriesOf (.type type.name) "fields" collection = .ok entries ∧
      each (Decoding.field type.name) 0 entries = .ok type.fields) ↔ IsCollection FieldOf collection type.fields :=
    fun _ => collection_ok (Decoding.field type.name) FieldOf fun _ _ _ => field_ok_iff
  simp only [type_ok, nameOf_ok, docKey_ok, present?_eq_some_iff]
  constructor
  · rintro ⟨members, collection, entries, rfl, name, doc, given, read, decoded⟩
    exact .entry name doc ⟨collection, given, (collected collection).1 ⟨entries, read, decoded⟩⟩
  · rintro ⟨name, doc, collection, given, meaning⟩
    obtain ⟨entries, read, decoded⟩ := (collected collection).2 meaning
    exact ⟨_, collection, entries, rfl, name, doc, given, read, decoded⟩

end Decoding

namespace Schema

open Denotation Decoding

/-- Decoding a document yields what it denotes, and fails if it denotes nothing. -/
theorem ofDocument_ok_iff {document : Json} {schema : Schema} :
    ofDocument document = .ok schema ↔ SchemaOf document schema := by
  have collected : ∀ collection types, (∃ entries, entriesOf .schema "types" collection = .ok entries ∧
      each Decoding.type 0 entries = .ok types) ↔ IsCollection TypeOf collection types :=
    fun _ _ => collection_ok Decoding.type TypeOf fun _ _ _ => type_ok_iff
  simp only [ofDocument_ok, stringKey_ok, primitivesKey_ok, present?_eq_some_iff]
  constructor
  · rintro ⟨members, rootType, primitives, collection, entries, types, rfl, root, listed, given, read,
      decoded, rfl⟩
    exact .document root listed ⟨collection, given, (collected collection types).1 ⟨entries, read, decoded⟩⟩
  · rintro ⟨root, listed, collection, given, meaning⟩
    obtain ⟨entries, read, decoded⟩ := (collected collection _).2 meaning
    exact ⟨_, _, _, collection, entries, _, rfl, root, listed, given, read, decoded, rfl⟩

/-- The consistent schema of a document is the one it denotes, if that is valid; no document denotes two
schemas. -/
theorem ofJson_ok_iff_denoted (document : Json) (schema : Schema) :
    (ofJson document = .ok schema ↔ SchemaOf document schema ∧ schema.validate = .ok ()) ∧
      ∀ other, SchemaOf document schema → SchemaOf document other → other = schema := by
  refine ⟨?_, fun other denoted denotedOther => ?_⟩
  · rw [ofJson_ok, ofDocument_ok_iff]
  · have read := ofDocument_ok_iff.2 denoted
    rw [ofDocument_ok_iff.2 denotedOther, Except.ok.injEq] at read
    exact read

/-- A document with a keyed type, the lines of a doc, nulls and a key of no meaning. -/
def keyedDocument (required : Json) : Json :=
  .object
    [ ("root_type", .string "Point")
    , ("primitive_types", .array [.object [("name", .string "Int"), ("doc", .strings ["A", "B"])]])
    , ("types", .object [("Point", .object
        [ ("name", .null)
        , ("fields", .object [("x", .object
            [ ("return_type", .string "Point")
            , ("params", .array [.object
                [ ("name", .string "n"), ("type", .string "Int"), ("required", required)
                , ("default_value", .null), ("unknown", .natural 1) ]]) ])]) ])]) ]

theorem ofJson_ok_iff_denoted_of_keyed :
    ∃ schema, SchemaOf (keyedDocument (.bool false)) schema ∧
      (∀ other, SchemaOf (keyedDocument (.bool false)) other → other = schema) ∧
      schema.primitives.map (·.doc) = ["A\nB"] ∧ schema.types.map (·.name) = ["Point"] ∧
      ∀ schema, ¬ (SchemaOf (keyedDocument .null) schema ∧ schema.validate = .ok ()) := by
  have read : ofJson (keyedDocument (.bool false)) = .ok (ofDeclarations "Point" [⟨"Int", "A\nB"⟩]
      [⟨"Point", "", [⟨"x", "", "Point", false, false, [⟨"n", "", 0, "Int", false, none, none⟩]⟩]⟩]) := by
    decide +kernel
  obtain ⟨denoted, unique⟩ := ofJson_ok_iff_denoted (keyedDocument (.bool false)) _
  have denotes := (denoted.1 read).1
  refine ⟨_, denotes, fun other => unique other denotes, rfl, rfl, fun schema null => ?_⟩
  have refused : (ofJson (keyedDocument .null)).isOk = false := by decide +kernel
  rw [(ofJson_ok_iff_denoted (keyedDocument .null) schema).1.2 null] at refused
  cases refused

end Schema

end FieldTypes
