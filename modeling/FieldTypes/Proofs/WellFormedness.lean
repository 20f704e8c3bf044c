import FieldTypes.Proofs.Consistency
import FieldTypes.Proofs.NameIndex

set_option autoImplicit false

namespace FieldTypes

/-- A param that may stand at a position of a field. -/
structure Param.WellFormed (schema : Schema) (position : Nat) (param : Param) : Prop where
  identifier : isIdentifier param.name = true
  index : param.index = position
  noDefault : param.required = true → param.defaultValue = none ∧ param.defaultValueDoc = none
  declared : schema.Declares param.typeName

structure Field.WellFormed (schema : Schema) (field : Field) : Prop where
  identifier : isIdentifier field.name = true
  declared : schema.Declares field.returnType
  paramNames : (field.params.map (·.name)).Nodup
  params : ∀ (position : Nat) (param : Param), field.params[position]? = some param →
    param.WellFormed schema position

structure TypeDecl.WellFormed (schema : Schema) (type : TypeDecl) : Prop where
  identifier : isIdentifier type.name = true
  fieldNames : (type.fields.map (·.name)).Nodup
  fields : ∀ field ∈ type.fields, field.WellFormed schema

/-- The conditions on a schema's declarations. -/
structure Schema.WellFormed (schema : Schema) : Prop where
  primitiveNames : (schema.primitives.map (·.name)).Nodup
  typeNames : (schema.types.map (·.name)).Nodup
  disjoint : ∀ name ∈ schema.types.map (·.name), name ∉ schema.primitives.map (·.name)
  types : ∀ type ∈ schema.types, type.WellFormed schema
  root : schema.rootType ∈ schema.types.map (·.name)

theorem Param.hasDefault_eq_false_iff {param : Param} :
    param.hasDefault = false ↔ param.defaultValue = none ∧ param.defaultValueDoc = none := by
  rw [hasDefault, Bool.or_eq_false_iff, Option.isSome_eq_false_iff, Option.isSome_eq_false_iff,
    Option.isNone_iff_eq_none, Option.isNone_iff_eq_none]

theorem positions_iff {params : List Param} :
    params.map (·.index) = List.range params.length ↔
      ∀ (position : Nat) (param : Param), params[position]? = some param → param.index = position := by
  constructor
  · intro placed position param found
    have at_ := congrArg (·[position]?) placed
    rw [List.getElem?_map, found, Option.map_some,
      List.getElem?_range (List.getElem?_eq_some_iff.1 found).1, Option.some.injEq] at at_
    exact at_
  · intro placed
    apply List.ext_getElem
    · rw [List.length_map, List.length_range]
    · intro position inside _
      rw [List.getElem_map, List.getElem_range]
      rw [List.length_map] at inside
      exact placed position _ (List.getElem?_eq_getElem inside)

namespace Schema

variable {schema : Schema}

theorem Built.param_sound_iff (built : Built schema) {param : Param} {position : Nat} :
    param.Sound schema ∧ param.index = position ↔ param.WellFormed schema position := by
  constructor
  · rintro ⟨sound, index⟩
    refine ⟨sound.identifier, index, fun required => ?_, built.referenceKind?_isSome_iff.1 sound.resolves⟩
    exact Param.hasDefault_eq_false_iff.1 (sound.noDefault required)
  · intro wellFormed
    refine ⟨⟨wellFormed.identifier, fun required => ?_, ?_⟩, wellFormed.index⟩
    · exact Param.hasDefault_eq_false_iff.2 (wellFormed.noDefault required)
    · exact built.referenceKind?_isSome_iff.2 wellFormed.declared

theorem Built.field_sound_iff (built : Built schema) {field : Field} :
    field.Sound schema ↔ field.WellFormed schema := by
  constructor
  · intro sound
    refine ⟨sound.identifier, built.referenceKind?_isSome_iff.1 sound.resolves, sound.paramNames, ?_⟩
    intro position param found
    have placed := positions_iff.1 sound.positions position param found
    exact built.param_sound_iff.1 ⟨sound.params param (List.mem_of_getElem? found), placed⟩
  · intro wellFormed
    refine ⟨wellFormed.identifier, built.referenceKind?_isSome_iff.2 wellFormed.declared, ?_,
      wellFormed.paramNames, ?_⟩
    · intro param mem
      obtain ⟨position, found⟩ := List.getElem?_of_mem mem
      exact (built.param_sound_iff.2 (wellFormed.params position param found)).1
    · exact positions_iff.2 fun position param found => (wellFormed.params position param found).index

theorem Built.type_sound_iff (built : Built schema) {type : TypeDecl} :
    type.Sound schema ↔ type.name ∉ schema.primitives.map (·.name) ∧ type.WellFormed schema := by
  rw [← hasPrimitive_iff, Bool.not_eq_true]
  constructor
  · intro sound
    refine ⟨sound.notPrimitive, sound.identifier, sound.fieldNames, fun field mem => ?_⟩
    exact built.field_sound_iff.1 (sound.fields field mem)
  · rintro ⟨notPrimitive, wellFormed⟩
    refine ⟨wellFormed.identifier, notPrimitive, fun field mem => ?_, wellFormed.fieldNames⟩
    exact built.field_sound_iff.2 (wellFormed.fields field mem)

theorem Built.sound_iff (built : Built schema) : schema.Sound ↔ schema.WellFormed := by
  constructor
  · intro sound
    refine ⟨sound.primitiveNames, sound.typeNames, ?_, ?_, built.hasType_iff.1 sound.root⟩
    · rw [List.forall_mem_map]
      exact fun type mem => (built.type_sound_iff.1 (sound.types type mem)).1
    · exact fun type mem => (built.type_sound_iff.1 (sound.types type mem)).2
  · intro wellFormed
    have disjoint := List.forall_mem_map.1 wellFormed.disjoint
    refine ⟨wellFormed.primitiveNames, fun type mem => ?_, wellFormed.typeNames,
      built.hasType_iff.2 wellFormed.root⟩
    exact built.type_sound_iff.2 ⟨disjoint type mem, wellFormed.types type mem⟩

def declaredNames (schema : Schema) : List String :=
  schema.primitives.map (·.name) ++ schema.types.map (·.name)

def references (schema : Schema) : List String :=
  schema.rootType :: schema.types.flatMap fun type =>
    type.fields.flatMap fun field => field.returnType :: field.params.map (·.typeName)

/-- Exactly one declaration has the name, either a primitive or the type that is found under it. -/
structure ResolvesOnce (schema : Schema) (name : String) : Prop where
  once : schema.declaredNames.count name = 1
  kind :
    ((∃ primitive ∈ schema.primitives, primitive.name = name) ∧
        schema.referenceKind? name = some .primitive ∧ schema.getType? name = none) ∨
      ∃ type ∈ schema.types, type.name = name ∧
        schema.referenceKind? name = some .type ∧ schema.getType? name = some type

theorem WellFormed.declares_of_mem_references (wellFormed : schema.WellFormed) {name : String}
    (mem : name ∈ schema.references) : schema.Declares name := by
  simp only [references, List.mem_cons, List.mem_flatMap, List.mem_map] at mem
  rcases mem with rfl | ⟨type, declared, field, fieldMem, rfl | ⟨param, paramMem, rfl⟩⟩
  · exact .inr wellFormed.root
  · exact ((wellFormed.types type declared).fields field fieldMem).declared
  · obtain ⟨position, found⟩ := List.getElem?_of_mem paramMem
    exact (((wellFormed.types type declared).fields field fieldMem).params position param found).declared

theorem WellFormed.nodup_declaredNames (wellFormed : schema.WellFormed) : schema.declaredNames.Nodup := by
  rw [declaredNames, List.nodup_append']
  refine ⟨wellFormed.primitiveNames, wellFormed.typeNames, ?_⟩
  intro name primitive type
  exact wellFormed.disjoint name type primitive

theorem WellFormed.getType?_of_mem (wellFormed : schema.WellFormed) (built : Built schema)
    {type : TypeDecl} (mem : type ∈ schema.types) : schema.getType? type.name = some type := by
  rw [built.getType?_eq_find?]
  exact find?_of_nodup_map wellFormed.typeNames mem

theorem WellFormed.resolvesOnce (wellFormed : schema.WellFormed) (built : Built schema) {name : String}
    (declared : schema.Declares name) : schema.ResolvesOnce name := by
  refine ⟨List.count_eq_one_of_mem wellFormed.nodup_declaredNames (List.mem_append.2 declared), ?_⟩
  rcases declared with primitive | type
  · refine .inl ⟨List.mem_map.1 primitive, referenceKind?_of_primitive primitive, ?_⟩
    rw [built.getType?_eq_find?, List.find?_eq_none]
    intro other mem same
    rw [beq_iff_eq] at same
    exact wellFormed.disjoint name (List.mem_map.2 ⟨other, mem, same⟩) primitive
  · have kind := built.referenceKind?_of_type type (wellFormed.disjoint name type)
    obtain ⟨found, mem, rfl⟩ := List.mem_map.1 type
    exact .inr ⟨found, mem, rfl, kind, wellFormed.getType?_of_mem built mem⟩

/-- Validation accepts exactly the well-formed schemas, and then every reference resolves to one
declaration and the root is a declared type. -/
theorem validate_ok_iff_wellFormed (built : Built schema) :
    (schema.validate = .ok () ↔ schema.WellFormed) ∧
      (schema.validate = .ok () →
        (∀ name ∈ schema.references, schema.ResolvesOnce name) ∧
          ∃ root ∈ schema.types, root.name = schema.rootType ∧ schema.root? = some root) := by
  have accepts : schema.validate = .ok () ↔ schema.WellFormed := validate_ok.trans built.sound_iff
  refine ⟨accepts, fun accepted => ?_⟩
  have wellFormed := accepts.1 accepted
  refine ⟨?_, ?_⟩
  · intro name mem
    exact wellFormed.resolvesOnce built (wellFormed.declares_of_mem_references mem)
  · obtain ⟨root, mem, named⟩ := List.mem_map.1 wellFormed.root
    refine ⟨root, mem, named, ?_⟩
    rw [root?, ← named, wellFormed.getType?_of_mem built mem]

/-- Two types that refer to themselves, forward, backward and to the primitive `Int`. -/
def mutualReferences (secondName : String) : Schema :=
  ofDeclarations "Branch" [⟨"Int", ""⟩]
    [ ⟨"Branch", "",
        [ ⟨"left", "", "Branch", false, true, []⟩
        , ⟨"leaf", "", secondName, false, true, [⟨"at", "", 0, "Int", true, none, none⟩]⟩ ]⟩
    , ⟨secondName, "", [⟨"parent", "", "Branch", false, false, [⟨"self", "", 0, secondName, false, none, none⟩]⟩]⟩ ]

/-- The schema is accepted as long as the second type does not take the name of the primitive. -/
theorem validate_ok_iff_wellFormed_of_mutualReferences :
    Built (mutualReferences "Leaf") ∧ (mutualReferences "Leaf").WellFormed ∧
      (mutualReferences "Leaf").ResolvesOnce "Int" ∧ (mutualReferences "Leaf").ResolvesOnce "Leaf" ∧
      (mutualReferences "Leaf").root?.isSome = true ∧ ¬ (mutualReferences "Int").WellFormed := by
  have built : ∀ name, Built (mutualReferences name) := fun _ => built_ofDeclarations _ _ _
  obtain ⟨accepts, resolves⟩ := validate_ok_iff_wellFormed (built "Leaf")
  have accepted : (mutualReferences "Leaf").validate = .ok () := by decide +kernel
  obtain ⟨once, root, _, _, found⟩ := resolves accepted
  refine ⟨built "Leaf", accepts.1 accepted, ?_, ?_, ?_, ?_⟩
  · exact once "Int" (by decide +kernel)
  · exact once "Leaf" (by decide +kernel)
  · rw [found, Option.isSome_some]
  · intro wellFormed
    have refused : (mutualReferences "Int").validate ≠ .ok () := by decide +kernel
    exact refused ((validate_ok_iff_wellFormed (built "Int")).1.2 wellFormed)

end Schema

end FieldTypes
