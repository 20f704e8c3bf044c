import FieldTypes.Proofs.Results
import FieldTypes.Resolved
import FieldTypes.Schema.Validity
import Mathlib.Data.List.Nodup

set_option autoImplicit false

namespace FieldTypes

/-- A param that could stand in a field of the schema, wherever it stands there. -/
structure Param.Sound (schema : Schema) (param : Param) : Prop where
  identifier : isIdentifier param.name = true
  noDefault : param.required = true → param.hasDefault = false
  resolves : (schema.referenceKind? param.typeName).isSome = true

structure Field.Sound (schema : Schema) (field : Field) : Prop where
  identifier : isIdentifier field.name = true
  resolves : (schema.referenceKind? field.returnType).isSome = true
  params : ∀ param ∈ field.params, param.Sound schema
  paramNames : (field.params.map (·.name)).Nodup
  /-- Every param declares the position it stands at. -/
  positions : field.params.map (·.index) = List.range field.params.length

structure TypeDecl.Sound (schema : Schema) (type : TypeDecl) : Prop where
  identifier : isIdentifier type.name = true
  notPrimitive : schema.hasPrimitive type.name = false
  fields : ∀ field ∈ type.fields, field.Sound schema
  fieldNames : (type.fields.map (·.name)).Nodup

/-- The schema is consistent. -/
structure Schema.Sound (schema : Schema) : Prop where
  primitiveNames : (schema.primitives.map (·.name)).Nodup
  types : ∀ type ∈ schema.types, type.Sound schema
  typeNames : (schema.types.map (·.name)).Nodup
  root : schema.hasType schema.rootType = true

namespace Schema

/-- Names without repetition, none of them among those seen before. -/
def Fresh (seen names : List String) : Prop := names.Nodup ∧ ∀ name ∈ names, name ∉ seen

theorem fresh_cons {seen names : List String} {name : String} :
    Fresh seen (name :: names) ↔ name ∉ seen ∧ Fresh (name :: seen) names := by
  unfold Fresh
  rw [List.nodup_cons, List.forall_mem_cons]
  constructor
  · rintro ⟨⟨new, nodup⟩, unseen, others⟩
    refine ⟨unseen, nodup, fun other mem => ?_⟩
    rw [List.mem_cons, not_or]
    refine ⟨?_, others other mem⟩
    rintro rfl
    exact new mem
  · rintro ⟨unseen, nodup, others⟩
    refine ⟨⟨fun mem => others name mem List.mem_cons_self, nodup⟩, unseen, fun other mem known => ?_⟩
    exact others other mem (List.mem_cons_of_mem name known)

@[simp] theorem fresh_nil {names : List String} : Fresh [] names ↔ names.Nodup :=
  and_iff_left fun _ _ => List.not_mem_nil

theorem require_ok {holds : Bool} {error : SchemaError} : require holds error = .ok () ↔ holds = true := by
  unfold require
  cases holds <;> simp

theorem unseen_iff {seen : List String} {name : String} : (!seen.contains name) = true ↔ name ∉ seen := by
  rw [Bool.not_eq_true', List.contains_eq_mem, decide_eq_false_iff_not]

theorem check_bind_ok {check next : Except SchemaError Unit} :
    (check >>= fun _ => next) = .ok () ↔ check = .ok () ∧ next = .ok () := by
  rw [bind_eq_ok]
  constructor
  · rintro ⟨⟨⟩, first, second⟩
    exact ⟨first, second⟩
  · rintro ⟨first, second⟩
    exact ⟨(), first, second⟩

variable {schema : Schema}

theorem validateParams_ok {type field : String} {seen : List String} {position : Nat} {params : List Param} :
    schema.validateParams type field seen position params = .ok () ↔
      (∀ param ∈ params, param.Sound schema) ∧ Fresh seen (params.map (·.name)) ∧
        params.map (·.index) = List.range' position params.length := by
  induction params generalizing seen position with
  | nil => simp [validateParams, Fresh]
  | cons param params ih =>
    have sound : param.Sound schema ↔ isIdentifier param.name = true ∧
        (!(param.required && param.hasDefault)) = true ∧
        (schema.referenceKind? param.typeName).isSome = true := by
      constructor
      · rintro ⟨identifier, noDefault, resolves⟩
        refine ⟨identifier, ?_, resolves⟩
        cases required : param.required with
        | false => rfl
        | true => rw [noDefault required]; rfl
      · rintro ⟨identifier, noDefault, resolves⟩
        refine ⟨identifier, fun required => ?_, resolves⟩
        rw [required, Bool.true_and, Bool.not_eq_true'] at noDefault
        exact noDefault
    simp only [validateParams, check_bind_ok, require_ok, unseen_iff, ih, List.forall_mem_cons, sound,
      List.map_cons, fresh_cons, List.length_cons, List.range'_succ, List.cons.injEq, beq_iff_eq]
    constructor
    · rintro ⟨identifier, unseen, placed, noDefault, resolves, others, fresh, indexes⟩
      exact ⟨⟨⟨identifier, noDefault, resolves⟩, others⟩, ⟨unseen, fresh⟩, placed, indexes⟩
    · rintro ⟨⟨⟨identifier, noDefault, resolves⟩, others⟩, ⟨unseen, fresh⟩, placed, indexes⟩
      exact ⟨identifier, unseen, placed, noDefault, resolves, others, fresh, indexes⟩

theorem validateFields_ok {type : String} {seen : List String} {fields : List Field} :
    schema.validateFields type seen fields = .ok () ↔
      (∀ field ∈ fields, field.Sound schema) ∧ Fresh seen (fields.map (·.name)) := by
  induction fields generalizing seen with
  | nil => simp [validateFields, Fresh]
  | cons field fields ih =>
    simp only [validateFields, check_bind_ok, require_ok, unseen_iff, validateParams_ok, fresh_nil, ih,
      List.forall_mem_cons, List.map_cons, fresh_cons, ← List.range_eq_range']
    constructor
    · rintro ⟨identifier, unseen, resolves, ⟨params, names, positions⟩, others, fresh⟩
      exact ⟨⟨⟨identifier, resolves, params, names, positions⟩, others⟩, unseen, fresh⟩
    · rintro ⟨⟨⟨identifier, resolves, params, names, positions⟩, others⟩, unseen, fresh⟩
      exact ⟨identifier, unseen, resolves, ⟨params, names, positions⟩, others, fresh⟩

theorem validateTypes_ok {seen : List String} {types : List TypeDecl} :
    schema.validateTypes seen types = .ok () ↔
      (∀ type ∈ types, type.Sound schema) ∧ Fresh seen (types.map (·.name)) := by
  induction types generalizing seen with
  | nil => simp [validateTypes, Fresh]
  | cons type types ih =>
    simp only [validateTypes, check_bind_ok, require_ok, unseen_iff, validateFields_ok, fresh_nil, ih,
      List.forall_mem_cons, List.map_cons, fresh_cons]
    constructor
    · rintro ⟨identifier, unseen, notPrimitive, ⟨fields, names⟩, others, fresh⟩
      rw [Bool.not_eq_true'] at notPrimitive
      exact ⟨⟨⟨identifier, notPrimitive, fields, names⟩, others⟩, unseen, fresh⟩
    · rintro ⟨⟨⟨identifier, notPrimitive, fields, names⟩, others⟩, unseen, fresh⟩
      rw [← Bool.not_eq_true'] at notPrimitive
      exact ⟨identifier, unseen, notPrimitive, ⟨fields, names⟩, others, fresh⟩

theorem validatePrimitives_ok {seen : List String} {primitives : List Primitive} :
    validatePrimitives seen primitives = .ok () ↔ Fresh seen (primitives.map (·.name)) := by
  induction primitives generalizing seen with
  | nil => simp [validatePrimitives, Fresh]
  | cons primitive primitives ih =>
    simp only [validatePrimitives, check_bind_ok, require_ok, unseen_iff, ih, List.map_cons, fresh_cons]

/-- Validation accepts exactly the consistent schemas. -/
theorem validate_ok : schema.validate = .ok () ↔ schema.Sound := by
  simp only [validate, check_bind_ok, validatePrimitives_ok, validateTypes_ok, require_ok, fresh_nil]
  constructor
  · rintro ⟨primitiveNames, ⟨types, typeNames⟩, root⟩
    exact ⟨primitiveNames, types, typeNames, root⟩
  · rintro ⟨primitiveNames, types, typeNames, root⟩
    exact ⟨primitiveNames, ⟨types, typeNames⟩, root⟩

theorem find?_of_nodup_map {α : Type} {key : α → String} {values : List α} {value : α}
    (nodup : (values.map key).Nodup) (mem : value ∈ values) :
    values.find? (key · == key value) = some value := by
  cases found : values.find? (key · == key value) with
  | none =>
    rw [List.find?_eq_none] at found
    exact absurd (beq_self_eq_true _) (found value mem)
  | some other =>
    have same := List.find?_some found
    rw [beq_iff_eq] at same
    rw [List.inj_on_of_nodup_map nodup (List.mem_of_find?_eq_some found) mem same]

/-- A declared type of a consistent schema is the one that is found under its name. -/
theorem Sound.getType?_resolve {type : TypeDecl} (sound : schema.Sound) (declared : type ∈ schema.types) :
    schema.resolve.getType? type.name = some type.resolve := by
  have named := find?_of_nodup_map sound.typeNames declared
  rw [ResolvedSchema.getType?, Schema.resolve, List.find?_map]
  show (schema.types.find? (·.name == type.name)).map TypeDecl.resolve = _
  rw [named, Option.map_some]

end Schema

end FieldTypes
