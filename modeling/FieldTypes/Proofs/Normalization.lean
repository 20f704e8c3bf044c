import FieldTypes.Proofs.Construction
import FieldTypes.Proofs.Decoding
import FieldTypes.Schema.Encoding
import Mathlib.Data.List.Basic

set_option autoImplicit false

namespace FieldTypes

/-- The param with a default value of null left out. -/
def Param.withoutNullDefault (param : Param) : Param :=
  { param with defaultValue := param.defaultValue.filter fun value => !value.isNull }

def Field.withoutNullDefaults (field : Field) : Field :=
  { field with params := field.params.map Param.withoutNullDefault }

def TypeDecl.withoutNullDefaults (type : TypeDecl) : TypeDecl :=
  { type with fields := type.fields.map Field.withoutNullDefaults }

/-- The schema with every default value of null left out. -/
def Schema.withoutNullDefaults (schema : Schema) : Schema :=
  { schema with types := schema.types.map TypeDecl.withoutNullDefaults }

namespace Decoding

theorem present?_string {members : Json.Members} {key text : String}
    (found : members.lookup key = some (.string text)) :
    present? members key = some (.string text) := by
  rw [present?_eq_filter, found]
  rfl

theorem nameOf_string {members : Json.Members} {entity : Entity} {name : String}
    (found : members.lookup "name" = some (.string name)) : nameOf members none entity = .ok name := by
  unfold nameOf
  rw [present?_string found]
  rfl

theorem docKey_string {members : Json.Members} {entity : Entity} {doc : String}
    (found : members.lookup "doc" = some (.string doc)) : docKey members entity = .ok doc := by
  unfold docKey
  rw [present?_string found]
  rfl

theorem stringKey_string {members : Json.Members} {entity : Entity} {key text : String}
    (found : members.lookup key = some (.string text)) : stringKey members entity key = .ok text := by
  unfold stringKey mandatory
  rw [present?_string found]
  rfl

theorem boolKey_bool {members : Json.Members} {entity : Entity} {key : String} {value : Bool}
    (found : members.lookup key = some (.bool value)) : boolKey members entity key = .ok value := by
  unfold boolKey
  rw [present?_eq_filter, found]
  rfl

theorem requiredKey_bool {members : Json.Members} {entity : Entity} {value : Bool}
    (found : members.lookup "required" = some (.bool value)) :
    requiredKey members entity = .ok value := by
  unfold requiredKey
  rw [found]
  rfl

theorem indexKey_natural {members : Json.Members} {entity : Entity} {position index : Nat}
    (found : members.lookup "index" = some (.natural index)) :
    indexKey members entity position = .ok index := by
  unfold indexKey
  rw [present?_eq_filter, found]
  rfl

theorem defaultDocKey_getD {members : Json.Members} {entity : Entity} {doc : Option String}
    (found : members.lookup "default_value_doc" = some ((doc.map .string).getD .null)) :
    defaultDocKey members entity = .ok doc := by
  unfold defaultDocKey
  rw [present?_eq_filter, found]
  cases doc <;> rfl

/-- An absent value is written as null, so a null is not read back. -/
theorem present?_getD {members : Json.Members} {key : String} {value : Option Json}
    (found : members.lookup key = some (value.getD .null)) :
    present? members key = value.filter fun value => !value.isNull := by
  rw [present?_eq_filter, found]
  cases value <;> rfl

theorem primitive_toJson (position : Nat) (primitive : Primitive) :
    Decoding.primitive position (none, primitive.toJson) = .ok primitive := by
  rw [primitive_ok]
  exact ⟨_, rfl, nameOf_string rfl, docKey_string rfl⟩

theorem param_toJson (type field : String) (position : Nat) (param : Param) :
    Decoding.param type field position param.toJson = .ok param.withoutNullDefault := by
  rw [param_ok]
  exact ⟨_, rfl, nameOf_string rfl, indexKey_natural rfl, stringKey_string rfl, requiredKey_bool rfl,
    docKey_string rfl, defaultDocKey_getD rfl, (present?_getD rfl).symm⟩

theorem paramsKey_array {members : Json.Members} {type field : String} {params : List Param}
    (found : members.lookup "params" = some (.array (params.map Param.toJson))) :
    paramsKey members type field = .ok (params.map Param.withoutNullDefault) := by
  rw [paramsKey_ok]
  refine .inr ⟨_, ?_, each_map_ok fun param _ position => param_toJson type field position param⟩
  rw [present?_eq_filter, found]
  rfl

theorem field_toJson (type : String) (position : Nat) (field : Field) :
    Decoding.field type position (none, field.toJson) = .ok field.withoutNullDefaults := by
  rw [field_ok]
  exact ⟨_, rfl, nameOf_string rfl, stringKey_string rfl, docKey_string rfl, boolKey_bool rfl,
    boolKey_bool rfl, paramsKey_array rfl⟩

theorem each_array_ok {α β : Type} {decode : Nat → Entry → Except ParseError β} {encode : α → Json}
    {result : α → β} (inverse : ∀ position value, decode position (none, encode value) = .ok (result value))
    (entity : Entity) (key : String) (values : List α) :
    ∃ entries, entriesOf entity key (.array (values.map encode)) = .ok entries ∧
      each decode 0 entries = .ok (values.map result) := by
  refine ⟨values.map fun value => (none, encode value), ?_, ?_⟩
  · rw [entriesOf_array, List.map_map]
    rfl
  · exact each_map_ok fun value _ position => inverse position value

theorem type_toJson (position : Nat) (type : TypeDecl) :
    Decoding.type position (none, type.toJson) = .ok type.withoutNullDefaults := by
  obtain ⟨entries, collected, decoded⟩ :=
    each_array_ok (field_toJson type.name) (.type type.name) "fields" type.fields
  rw [type_ok]
  exact ⟨_, _, entries, rfl, nameOf_string rfl, docKey_string rfl, rfl, collected, decoded⟩

theorem primitivesKey_array {members : Json.Members} {primitives : List Primitive}
    (found : members.lookup "primitive_types" = some (.array (primitives.map Primitive.toJson))) :
    primitivesKey members = .ok primitives := by
  have inverse : ∀ position (primitive : Primitive),
      Decoding.primitive position (none, primitive.toJson) = .ok (id primitive) := primitive_toJson
  obtain ⟨entries, collected, decoded⟩ :=
    each_array_ok inverse .schema "primitive_types" primitives
  unfold primitivesKey
  rw [present?_eq_filter, found]
  show (entriesOf _ _ _ >>= fun entries => each Decoding.primitive 0 entries) = _
  rw [collected, bind_eq_ok]
  exact ⟨entries, rfl, by rw [decoded, List.map_id]⟩

end Decoding

namespace Schema

theorem withoutNullDefaults_addType (schema : Schema) (type : TypeDecl) :
    (schema.addType type).withoutNullDefaults =
      schema.withoutNullDefaults.addType type.withoutNullDefaults := by
  unfold withoutNullDefaults addType
  simp only [List.map_append, List.map_cons, List.map_nil, List.length_map]
  rfl

theorem withoutNullDefaults_foldl_addType (schema : Schema) (types : List TypeDecl) :
    (types.foldl addType schema).withoutNullDefaults =
      (types.map TypeDecl.withoutNullDefaults).foldl addType schema.withoutNullDefaults := by
  induction types generalizing schema with
  | nil => rfl
  | cons type rest ih =>
    rw [List.foldl_cons, ih, withoutNullDefaults_addType, List.map_cons, List.foldl_cons]

@[simp] theorem withoutNullDefaults_ofDeclarations (rootType : String) (primitives : List Primitive)
    (types : List TypeDecl) :
    (ofDeclarations rootType primitives types).withoutNullDefaults =
      ofDeclarations rootType primitives (types.map TypeDecl.withoutNullDefaults) := by
  rw [ofDeclarations, withoutNullDefaults_foldl_addType, ofDeclarations, foldl_addPrimitive]
  rfl

/-- The normalized document denotes the schema without its null defaults. -/
theorem ofDocument_toJson {schema : Schema} (built : Built schema) :
    ofDocument schema.toJson = .ok schema.withoutNullDefaults := by
  obtain ⟨entries, collected, decoded⟩ :=
    Decoding.each_array_ok Decoding.type_toJson .schema "types" schema.types
  rw [ofDocument_ok]
  refine ⟨_, schema.rootType, schema.primitives, _, entries, _, rfl, Decoding.stringKey_string rfl,
    Decoding.primitivesKey_array rfl, rfl, collected, decoded, ?_⟩
  rw [← withoutNullDefaults_ofDeclarations, ← built.eq_ofDeclarations]

end Schema

namespace Decoding

theorem map_eq_self {α : Type} {change : α → α} {values : List α}
    (same : ∀ value ∈ values, change value = value) : values.map change = values := by
  rw [List.map_congr_left same, List.map_id']

theorem withoutNullDefault_of_param_ok {type field : String} {position : Nat} {value : Json} {param : Param}
    (success : Decoding.param type field position value = .ok param) : param.withoutNullDefault = param := by
  obtain ⟨members, -, -, -, -, -, -, -, default⟩ := param_ok.1 success
  have filtered : (param.defaultValue.filter fun value => !value.isNull) = param.defaultValue := by
    rw [default, present?_eq_filter, Option.filter_filter]
    simp only [Bool.and_self]
  rw [Param.withoutNullDefault, filtered]

theorem withoutNullDefaults_of_field_ok {type : String} {position : Nat} {entry : Entry} {field : Field}
    (success : Decoding.field type position entry = .ok field) : field.withoutNullDefaults = field := by
  obtain ⟨members, -, -, -, -, -, -, decoded⟩ := field_ok.1 success
  have same : field.params.map Param.withoutNullDefault = field.params := by
    rcases paramsKey_ok.1 decoded with ⟨-, none⟩ | ⟨items, -, decoded⟩
    · rw [none, List.map_nil]
    · refine map_eq_self fun param mem => ?_
      obtain ⟨_, _, _, decoded⟩ := each_mem_ok decoded mem
      exact withoutNullDefault_of_param_ok decoded
  rw [Field.withoutNullDefaults, same]

theorem withoutNullDefaults_of_type_ok {position : Nat} {entry : Entry} {type : TypeDecl}
    (success : Decoding.type position entry = .ok type) : type.withoutNullDefaults = type := by
  obtain ⟨members, collection, entries, -, -, -, -, -, decoded⟩ := type_ok.1 success
  have same : type.fields.map Field.withoutNullDefaults = type.fields := by
    refine map_eq_self fun field mem => ?_
    obtain ⟨_, _, _, decoded⟩ := each_mem_ok decoded mem
    exact withoutNullDefaults_of_field_ok decoded
  rw [TypeDecl.withoutNullDefaults, same]

end Decoding

namespace Schema

theorem withoutNullDefaults_of_ofDocument_ok {document : Json} {schema : Schema}
    (success : ofDocument document = .ok schema) : schema.withoutNullDefaults = schema := by
  obtain ⟨_, rootType, primitives, _, entries, types, -, -, -, -, -, decoded, rfl⟩ :=
    ofDocument_ok.1 success
  have same : types.map TypeDecl.withoutNullDefaults = types := by
    refine Decoding.map_eq_self fun type mem => ?_
    obtain ⟨_, _, _, decoded⟩ := Decoding.each_mem_ok decoded mem
    exact Decoding.withoutNullDefaults_of_type_ok decoded
  rw [withoutNullDefaults_ofDeclarations, same]

theorem built_of_ofDocument_ok {document : Json} {schema : Schema}
    (success : ofDocument document = .ok schema) : Built schema := by
  obtain ⟨_, rootType, primitives, _, _, types, -, -, -, -, -, -, rfl⟩ := ofDocument_ok.1 success
  exact built_ofDeclarations rootType primitives types

/-- Reading the normalized document back is checking the schema without its null defaults. -/
theorem ofJson_toJson_of_built {schema : Schema} (built : Built schema) :
    ofJson schema.toJson =
      (do schema.withoutNullDefaults.validate; .ok schema.withoutNullDefaults) := by
  rw [ofJson, ofDocument_toJson built]
  rfl

/-- A schema that a document denotes is denoted by its normalized document as well. -/
theorem ofJson_toJson_of_ofJson {document : Json} {schema : Schema}
    (success : ofJson document = .ok schema) : ofJson schema.toJson = .ok schema := by
  obtain ⟨decoded, valid⟩ := ofJson_ok.1 success
  have same : schema.withoutNullDefaults = schema := withoutNullDefaults_of_ofDocument_ok decoded
  rw [ofJson_toJson_of_built (built_of_ofDocument_ok decoded), same, valid]
  rfl

/-- However a schema was built, reading its normalized document back checks the schema without its null
defaults and yields that schema, with the same name index. What was read from a document or a text is
yielded unchanged. -/
theorem ofJson_toJson :
    (∀ schema, Built schema →
      ofJson schema.toJson =
        (do schema.withoutNullDefaults.validate; .ok schema.withoutNullDefaults)) ∧
    (∀ document schema, ofJson document = .ok schema → ofJson schema.toJson = .ok schema) ∧
    (∀ text schema, parse text = .ok schema → ofJson schema.toJson = .ok schema) := by
  refine ⟨fun schema built => ofJson_toJson_of_built built, ?_, ?_⟩
  · intro document schema success
    exact ofJson_toJson_of_ofJson success
  · intro text schema success
    obtain ⟨document, _, success⟩ := parse_ok.1 success
    exact ofJson_toJson_of_ofJson success

/-- A schema with one type, whose field takes one param. -/
def withDefault (defaultValue : Option Json) : Schema :=
  ofDeclarations "Root" [⟨"Int", ""⟩]
    [⟨"Root", "", [⟨"child", "", "Root", false, true,
      [⟨"depth", "", 0, "Int", false, defaultValue, none⟩]⟩]⟩]

/-- A null default that is dropped, a schema whose root is missing on both routes, and a text. -/
theorem ofJson_toJson_of_null_default :
    withDefault (some .null) ≠ withDefault none ∧
      ofJson (withDefault (some .null)).toJson = .ok (withDefault none) ∧
      ofJson (empty "Root").toJson = .error (.unknownRoot "Root") ∧
      ofJson (withDefault (some (.natural 1))).toJson = .ok (withDefault (some (.natural 1))) ∧
      ∃ schema, parse "\x7b\"root_type\":\"Root\",\"types\":\x7b\"Root\":\x7b\"fields\":[]\x7d\x7d\x7d" =
          .ok schema ∧ ofJson schema.toJson = .ok schema := by
  obtain ⟨ofBuilt, ofRead, ofParsed⟩ := ofJson_toJson
  refine ⟨by decide, ?_, ?_, ?_, ?_⟩
  · rw [ofBuilt (withDefault (some .null)) (built_ofDeclarations _ _ _)]
    decide +kernel
  · rw [ofBuilt (empty "Root") (.empty "Root")]
    decide +kernel
  · have accepted : ofJson (withDefault (some (.natural 1))).toJson =
        .ok (withDefault (some (.natural 1))) := by decide +kernel
    exact ofRead _ _ accepted
  · have accepted : parse
        "\x7b\"root_type\":\"Root\",\"types\":\x7b\"Root\":\x7b\"fields\":[]\x7d\x7d\x7d" =
        .ok (ofDeclarations "Root" [] [⟨"Root", "", []⟩]) := by decide +kernel
    exact ⟨_, accepted, ofParsed _ _ accepted⟩

end Schema

end FieldTypes
