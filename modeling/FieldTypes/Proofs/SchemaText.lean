import FieldTypes.Proofs.Normalization
import FieldTypes.Proofs.PrintedText
import FieldTypes.Proofs.ReadingBounds
import FieldTypes.Proofs.StandardCatalog
import FieldTypes.Proofs.StrictReading

set_option autoImplicit false

namespace FieldTypes

namespace Json

/-- What the indented form of a value needs for being read back with some levels to open. -/
structure Rereadable (levels : Nat) (value : Json) : Prop where
  nesting_le : value.nesting ≤ levels
  distinct : value.KeysDistinct
  integers : value.EachNumber Number.IsInteger
  inRange : value.EachNumber Number.InRange

theorem rereadable_scalar (levels : Nat) {value : Json} (scalar : value.IsScalar)
    (other : ∀ number, value ≠ .number number) : value.Rereadable levels where
  nesting_le := by
    rw [nesting_scalar scalar]
    exact Nat.zero_le levels
  distinct := keysDistinct_scalar scalar
  integers := eachNumber_scalar scalar other
  inRange := eachNumber_scalar scalar other

theorem rereadable_natural (levels : Nat) {value : Nat} (inRange : value < 0x10000000000000000) :
    (natural value).Rereadable levels where
  nesting_le := Nat.zero_le levels
  distinct := keysDistinct_scalar trivial
  integers := eachNumber_number.2 trivial
  inRange := eachNumber_number.2 (by
    unfold Number.InRange
    omega)

theorem rereadable_array {levels : Nat} {items : List Json}
    (each : ∀ item ∈ items, item.Rereadable levels) : (Json.array items).Rereadable (levels + 1) where
  nesting_le := Nat.succ_le_succ (itemsNesting_le_iff.2 fun item mem => (each item mem).nesting_le)
  distinct := keysDistinct_array.2 fun item mem => (each item mem).distinct
  integers := eachNumber_array.2 fun item mem => (each item mem).integers
  inRange := eachNumber_array.2 fun item mem => (each item mem).inRange

theorem rereadable_object {levels : Nat} {members : Members} (own : (members.map (·.1)).Nodup)
    (each : ∀ member ∈ members, member.2.Rereadable levels) :
    (Json.object members).Rereadable (levels + 1) where
  nesting_le := Nat.succ_le_succ (membersNesting_le_iff.2 fun member mem => (each member mem).nesting_le)
  distinct := keysDistinct_object.2 ⟨own, fun member mem => (each member mem).distinct⟩
  integers := eachNumber_object.2 fun member mem => (each member mem).integers
  inRange := eachNumber_object.2 fun member mem => (each member mem).inRange

theorem rereadable_string (levels : Nat) (text : String) : (Json.string text).Rereadable levels :=
  rereadable_scalar levels trivial nofun

theorem rereadable_bool (levels : Nat) (value : Bool) : (Json.bool value).Rereadable levels :=
  rereadable_scalar levels trivial nofun

theorem rereadable_null (levels : Nat) : Json.null.Rereadable levels :=
  rereadable_scalar levels trivial nofun

theorem Rereadable.read_indented {value : Json} (rereadable : value.Rereadable deepest) :
    Document.read (value.indented ++ "\n") = .ok value :=
  Document.read_eq_ok_iff.2 ⟨Json.read_indented rereadable.integers rereadable.inRange rereadable.nesting_le,
    rereadable.distinct⟩

end Json

open Json

theorem Primitive.rereadable_toJson (levels : Nat) (primitive : Primitive) :
    primitive.toJson.Rereadable (levels + 1) := by
  have keys : ["name", "doc"].Nodup := by decide
  refine rereadable_object keys ?_
  simp only [List.forall_mem_cons]
  exact ⟨rereadable_string _ _, rereadable_string _ _, nofun⟩

/-- What a param needs for its part of the document: a default and an index that are read back. -/
structure Param.Rereadable (levels : Nat) (param : Param) : Prop where
  default : (param.defaultValue.getD .null).Rereadable levels
  index_lt : param.index < 0x10000000000000000

theorem Param.rereadable_toJson {levels : Nat} {param : Param} (rereadable : param.Rereadable levels) :
    param.toJson.Rereadable (levels + 1) := by
  have doc : ((param.defaultValueDoc.map Json.string).getD .null).Rereadable levels := by
    cases param.defaultValueDoc with
    | none => exact rereadable_null levels
    | some doc => exact rereadable_string levels doc
  have keys : ["name", "doc", "index", "type", "required", "default_value", "default_value_doc"].Nodup := by decide
  refine rereadable_object keys ?_
  simp only [List.forall_mem_cons]
  exact ⟨rereadable_string _ _, rereadable_string _ _, rereadable_natural _ rereadable.index_lt,
    rereadable_string _ _, rereadable_bool _ _, rereadable.default, doc, nofun⟩

theorem Field.rereadable_toJson {levels : Nat} {field : Field}
    (params : ∀ param ∈ field.params, param.Rereadable levels) :
    field.toJson.Rereadable (levels + 3) := by
  have written : (Json.array (field.params.map Param.toJson)).Rereadable (levels + 2) :=
    rereadable_array (List.forall_mem_map.2 fun param mem => Param.rereadable_toJson (params param mem))
  have keys : ["name", "doc", "return_type", "return_list", "null", "params"].Nodup := by decide
  refine rereadable_object keys ?_
  simp only [List.forall_mem_cons]
  exact ⟨rereadable_string _ _, rereadable_string _ _, rereadable_string _ _, rereadable_bool _ _,
    rereadable_bool _ _, written, nofun⟩

theorem TypeDecl.rereadable_toJson {levels : Nat} {type : TypeDecl}
    (params : ∀ field ∈ type.fields, ∀ param ∈ field.params, param.Rereadable levels) :
    type.toJson.Rereadable (levels + 5) := by
  have written : (Json.array (type.fields.map Field.toJson)).Rereadable (levels + 4) :=
    rereadable_array (List.forall_mem_map.2 fun field mem => Field.rereadable_toJson (params field mem))
  have keys : ["name", "doc", "fields"].Nodup := by decide
  refine rereadable_object keys ?_
  simp only [List.forall_mem_cons]
  exact ⟨rereadable_string _ _, rereadable_string _ _, written, nofun⟩

/-- Seven levels lead to a default value. -/
theorem Schema.rereadable_toJson {levels : Nat} {schema : Schema}
    (params : ∀ type ∈ schema.types, ∀ field ∈ type.fields, ∀ param ∈ field.params,
      param.Rereadable levels) :
    schema.toJson.Rereadable (levels + 7) := by
  have primitives : (Json.array (schema.primitives.map Primitive.toJson)).Rereadable (levels + 6) :=
    rereadable_array (List.forall_mem_map.2 fun primitive _ => primitive.rereadable_toJson (levels + 4))
  have types : (Json.array (schema.types.map TypeDecl.toJson)).Rereadable (levels + 6) :=
    rereadable_array (List.forall_mem_map.2 fun type mem => TypeDecl.rereadable_toJson (params type mem))
  have keys : ["primitive_types", "types", "root_type"].Nodup := by decide
  refine rereadable_object keys ?_
  simp only [List.forall_mem_cons]
  exact ⟨primitives, types, rereadable_string _ _, nofun⟩

namespace Decoding

theorem leads_of_entriesOf_ok {entity : Entity} {key : String} {collection : Json} {entries : List Entry}
    (success : entriesOf entity key collection = .ok entries) {entry : Entry} (mem : entry ∈ entries) :
    ∃ segment, collection.Leads [segment] entry.2 := by
  rw [entriesOf, ofKind_ok] at success
  cases collection with
  | null | bool | number | string => exact nomatch success
  | array items =>
    rw [entries?, Option.some.injEq] at success
    rw [← success] at mem
    obtain ⟨item, found, rfl⟩ := List.mem_map.1 mem
    obtain ⟨position, leads⟩ := leads_of_mem found
    exact ⟨_, leads⟩
  | object members =>
    rw [entries?, Option.some.injEq] at success
    rw [← success] at mem
    obtain ⟨⟨name, value⟩, found, rfl⟩ := List.mem_map.1 mem
    exact ⟨name, .member found (.here value)⟩

theorem leads_of_present? {members : Json.Members} {key : String} {value : Json}
    (found : present? members key = some value) : (Json.object members).Leads [key] value :=
  .member (mem_of_present? found) (.here value)

theorem param_of_field_ok {type : String} {position : Nat} {entry : Entry} {field : Field}
    (success : Decoding.field type position entry = .ok field) {param : Param} (mem : param ∈ field.params) :
    ∃ path value place, entry.2.Leads path value ∧ path.length = 2 ∧ place < entry.2.weight ∧
      Decoding.param type field.name place value = .ok param := by
  obtain ⟨members, object, -, -, -, -, -, decoded⟩ := field_ok.1 success
  rcases paramsKey_ok.1 decoded with ⟨-, none⟩ | ⟨items, found, decoded⟩
  · rw [none] at mem
    exact absurd mem List.not_mem_nil
  · obtain ⟨place, value, there, decoded⟩ := each_mem_ok decoded mem
    rw [Nat.zero_add] at decoded
    have toItems := leads_of_present? found
    have toItem := toItems.trans (.item there (.here value))
    rw [← object] at toItems toItem
    have within : place < entry.2.weight := by
      have below := toItems.weight_le
      have inside := (List.getElem?_eq_some_iff.1 there).1
      have counted := length_le_itemsWeight items
      rw [weight] at below
      omega
    exact ⟨_, value, place, toItem, rfl, within, decoded⟩

theorem param_of_type_ok {position : Nat} {entry : Entry} {type : TypeDecl}
    (success : Decoding.type position entry = .ok type) {field : Field} (fieldMem : field ∈ type.fields)
    {param : Param} (mem : param ∈ field.params) :
    ∃ path value place, entry.2.Leads path value ∧ path.length = 4 ∧ place < entry.2.weight ∧
      Decoding.param type.name field.name place value = .ok param := by
  obtain ⟨members, collection, entries, object, -, -, found, collected, decoded⟩ := type_ok.1 success
  obtain ⟨_, inner, there, decoded⟩ := each_mem_ok decoded fieldMem
  obtain ⟨segment, toInner⟩ := leads_of_entriesOf_ok collected (List.mem_of_getElem? there)
  obtain ⟨path, value, place, leads, length, within, decoded⟩ := param_of_field_ok decoded mem
  have toField := (leads_of_present? found).trans toInner
  rw [← object] at toField
  refine ⟨_, value, place, toField.trans leads, ?_, within.trans_le toField.weight_le, decoded⟩
  simp only [List.length_append, List.length_singleton, length]

/-- A param of a schema was decoded from a part six steps below the document. -/
theorem param_of_ofDocument_ok {document : Json} {schema : Schema}
    (success : Schema.ofDocument document = .ok schema) {type : TypeDecl} (typeMem : type ∈ schema.types)
    {field : Field} (fieldMem : field ∈ type.fields) {param : Param} (mem : param ∈ field.params) :
    ∃ path value place, document.Leads path value ∧ path.length = 6 ∧ place < document.weight ∧
      Decoding.param type.name field.name place value = .ok param := by
  obtain ⟨members, rootType, primitives, collection, entries, types, object, -, -, found, collected, decoded,
    same⟩ := Schema.ofDocument_ok.1 success
  rw [same, Schema.types_ofDeclarations] at typeMem
  obtain ⟨_, inner, there, decoded⟩ := each_mem_ok decoded typeMem
  obtain ⟨segment, toInner⟩ := leads_of_entriesOf_ok collected (List.mem_of_getElem? there)
  obtain ⟨path, value, place, leads, length, within, decoded⟩ := param_of_type_ok decoded fieldMem mem
  have toType := (leads_of_present? found).trans toInner
  rw [← object] at toType
  refine ⟨_, value, place, toType.trans leads, ?_, within.trans_le toType.weight_le, decoded⟩
  simp only [List.length_append, List.length_singleton, length]

theorem index_lt_of_param_ok {type field : String} {place : Nat} {value : Json} {param : Param}
    (success : Decoding.param type field place value = .ok param) (within : place < 0x10000000000000000)
    (inRange : value.EachNumber Number.InRange) : param.index < 0x10000000000000000 := by
  obtain ⟨members, object, -, placed, -⟩ := param_ok.1 success
  rw [indexKey] at placed
  split at placed
  · rw [Except.ok.injEq] at placed
    omega
  · rename_i index found
    rw [ofKind_ok] at placed
    have leads := leads_of_present? found
    rw [← object] at leads
    have bounded := inRange.part leads
    unfold Json.asNat? at placed
    split at placed
    · rename_i index
      rw [Option.some.injEq] at placed
      have numeric : (index : Int) < 0x10000000000000000 := (eachNumber_number.1 bounded).2
      omega
    · exact nomatch placed

/-- The default of a decoded param is a part of the document, one step below the param. -/
theorem leads_of_default {type field : String} {place : Nat} {value default : Json} {param : Param}
    (success : Decoding.param type field place value = .ok param)
    (found : param.defaultValue = some default) : value.Leads ["default_value"] default := by
  obtain ⟨members, object, -, -, -, -, -, -, same⟩ := param_ok.1 success
  rw [same] at found
  rw [object]
  exact leads_of_present? found

/-- What was read from a text, but for floating-point defaults, is written in a form that is read back. -/
theorem rereadable_of_parse_ok {text : String} {document : Json} {schema : Schema}
    (inMemory : text.length < 0x10000000000000000) (read : Json.read text = .ok document)
    (distinct : document.KeysDistinct)
    (success : Schema.ofDocument document = .ok schema)
    (integers : ∀ type ∈ schema.types, ∀ field ∈ type.fields, ∀ param ∈ field.params, ∀ default,
      param.defaultValue = some default → default.EachNumber Number.IsInteger) :
    schema.toJson.Rereadable deepest := by
  obtain ⟨nested, weighed, inRange⟩ := Json.read_bounded read
  have levels : deepest = 120 + 7 := rfl
  rw [levels] at nested ⊢
  refine Schema.rereadable_toJson fun type typeMem field fieldMem param mem => ?_
  obtain ⟨path, value, place, leads, length, within, decoded⟩ :=
    param_of_ofDocument_ok success typeMem fieldMem mem
  refine ⟨?_, index_lt_of_param_ok decoded (by omega) (inRange.part leads)⟩
  cases found : param.defaultValue with
  | none => exact rereadable_null 120
  | some default =>
    have toDefault := leads.trans (leads_of_default decoded found)
    have deep := toDefault.nesting_le
    rw [List.length_append, length, List.length_singleton] at deep
    rw [Option.getD_some]
    exact ⟨by omega, distinct.part toDefault, integers type typeMem field fieldMem param mem default found,
      inRange.part toDefault⟩

end Decoding

namespace Catalog

theorem render_schemaJson (schema : Schema) (options : Cpp.Options) :
    standard.renderSchema (.ofSchema schema options) "schema_json" =
      .ok (schema.toJson.indented ++ "\n") := by
  have found : standard.entries.lookup "schema_json" = some (.builtin .schemaJson) := by
    rw [lookup_standard]
    rfl
  rw [renderSchema_program found rfl]
  rfl

/-- The artifact of the normalized document spells the schema it was rendered for: of every schema that a
text in memory denotes, without floating-point numbers in its defaults, it is accepted, denotes the same
schema, and is rendered again for what was read back. -/
theorem parse_schemaJson {text : String} {schema : Schema} (inMemory : text.length < 0x10000000000000000)
    (accepted : Schema.parse text = .ok schema)
    (integers : ∀ type ∈ schema.types, ∀ field ∈ type.fields, ∀ param ∈ field.params, ∀ default,
      param.defaultValue = some default → default.EachNumber Number.IsInteger)
    (options : Cpp.Options) :
    ∃ artifact, standard.renderSchema (.ofSchema schema options) "schema_json" = .ok artifact ∧
      Schema.parse artifact = .ok schema ∧
      ∀ again, Schema.parse artifact = .ok again →
        standard.renderSchema (.ofSchema again options) "schema_json" = .ok artifact := by
  obtain ⟨document, strict, decoded⟩ := Schema.parse_ok.1 accepted
  obtain ⟨read, distinct⟩ := Document.read_eq_ok_iff.1 strict
  have rereadable := Decoding.rereadable_of_parse_ok inMemory read distinct (Schema.ofJson_ok.1 decoded).1
    integers
  have denoted : Schema.parse (schema.toJson.indented ++ "\n") = .ok schema :=
    Schema.parse_ok.2 ⟨schema.toJson, rereadable.read_indented, Schema.ofJson_toJson_of_ofJson decoded⟩
  refine ⟨_, render_schemaJson schema options, denoted, ?_⟩
  intro again same
  rw [denoted, Except.ok.injEq] at same
  rw [← same]
  exact render_schemaJson schema options

/-- A schema whose param has a default value with parts, and a document keyed by name that denotes it. -/
def nestedDefault : Schema :=
  .ofDeclarations "R" [] [⟨"R", "", [⟨"f", "", "R", false, false, [⟨"p", "", 0, "R", false,
    some (.array [.object [("\"", .number (.integer (-1)))]]), none⟩]⟩]⟩]

def nestedDefaultDocument : String :=
  "\x7b\"types\":\x7b\"R\":\x7b\"fields\":\x7b\"f\":\x7b\"return_type\":\"R\",\"params\":[\x7b\"name\":\"p\",
   \"type\":\"R\",\"required\":false,\"default_value\":
   [\x7b\"\\u0022\":-1\x7d]\x7d]\x7d\x7d\x7d\x7d,\"root_type\":\"R\"\x7d"

theorem parse_schemaJson_of_nested_default :
    (nestedDefaultDocument.length < 0x10000000000000000 ∧
        Schema.parse nestedDefaultDocument = .ok nestedDefault) ∧
      ∃ artifact, standard.renderSchema (.ofSchema nestedDefault .standard) "schema_json" = .ok artifact ∧
        Schema.parse artifact = .ok nestedDefault := by
  have read : nestedDefaultDocument.length < 0x10000000000000000 ∧
      Schema.parse nestedDefaultDocument = .ok nestedDefault := by decide +kernel
  refine ⟨read, ?_⟩
  obtain ⟨artifact, rendered, denoted, _⟩ := parse_schemaJson read.1 read.2
    (by
      intro type typeMem field fieldMem param mem default found
      rw [nestedDefault, Schema.types_ofDeclarations, List.mem_singleton] at typeMem
      rw [typeMem, List.mem_singleton] at fieldMem
      rw [fieldMem, List.mem_singleton] at mem
      rw [mem, Option.some.injEq] at found
      rw [← found]
      refine eachNumber_array.2 (List.forall_mem_singleton.2 (eachNumber_object.2 ?_))
      exact List.forall_mem_singleton.2 (eachNumber_number.2 trivial))
    .standard
  exact ⟨artifact, rendered, denoted⟩

end Catalog

end FieldTypes
