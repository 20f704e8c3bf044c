import FieldTypes.Proofs.Construction

set_option autoImplicit false

namespace FieldTypes.Schema

variable {schema : Schema}

theorem lookup_nameIndex_addType (schema : Schema) (type : TypeDecl) (name : String) :
    (schema.addType type).nameIndex.lookup name =
      (schema.nameIndex.lookup name).or
        (if type.name = name then some schema.types.length else none) := by
  unfold addType
  by_cases known : (schema.nameIndex.lookup type.name).isSome = true
  · rw [if_pos known]
    by_cases same : type.name = name
    · rw [same] at known
      obtain ⟨position, found⟩ := Option.isSome_iff_exists.1 known
      rw [found, Option.some_or]
    · rw [if_neg same, Option.or_none]
  · rw [if_neg known, List.lookup_append, List.lookup_cons, List.lookup_nil]
    by_cases same : type.name = name
    · rw [if_pos same, same, beq_self_eq_true]
    · rw [if_neg same, beq_eq_false_iff_ne.2 (Ne.symm same)]

/-- An index that leads to the first of the types added so far does so after one more. -/
theorem lookup_nameIndex_addType_of {added : List TypeDecl} {name : String}
    (index : schema.nameIndex.lookup name = added.findIdx? (·.name == name))
    (count : schema.types.length = added.length) (type : TypeDecl) :
    (schema.addType type).nameIndex.lookup name = (added ++ [type]).findIdx? (·.name == name) := by
  rw [lookup_nameIndex_addType, index, count, List.findIdx?_append, List.findIdx?_singleton]
  by_cases same : type.name = name
  · rw [if_pos same, same, beq_self_eq_true, if_pos rfl, Option.map_some, Nat.zero_add]
  · rw [if_neg same, beq_eq_false_iff_ne.2 same, if_neg Bool.false_ne_true, Option.map_none]

theorem Built.lookup_nameIndex (built : Built schema) (name : String) :
    schema.nameIndex.lookup name = schema.types.findIdx? (·.name == name) := by
  induction built with
  | empty rootType => rfl
  | addPrimitive primitive built ih => exact ih
  | addType type built ih => exact lookup_nameIndex_addType_of ih rfl type

/-- The type found under a name is the first declared one with that name. -/
theorem Built.getType?_eq_find? (built : Built schema) (name : String) :
    schema.getType? name = schema.types.find? (·.name == name) := by
  rw [getType?, built.lookup_nameIndex, List.find?_eq_bind_findIdx?_getElem?]

theorem Built.hasType_iff (built : Built schema) {name : String} :
    schema.hasType name = true ↔ name ∈ schema.types.map (·.name) := by
  rw [hasType, built.lookup_nameIndex, List.findIdx?_isSome, List.any_eq_true, List.mem_map]
  simp only [beq_iff_eq]

theorem hasPrimitive_iff {name : String} :
    schema.hasPrimitive name = true ↔ name ∈ schema.primitives.map (·.name) := by
  rw [hasPrimitive, List.any_eq_true, List.mem_map]
  simp only [beq_iff_eq]

theorem referenceKind?_of_primitive {name : String} (declared : name ∈ schema.primitives.map (·.name)) :
    schema.referenceKind? name = some .primitive := by
  rw [referenceKind?, if_pos (hasPrimitive_iff.2 declared)]

theorem Built.referenceKind?_of_type (built : Built schema) {name : String}
    (declared : name ∈ schema.types.map (·.name)) (other : name ∉ schema.primitives.map (·.name)) :
    schema.referenceKind? name = some .type := by
  rw [referenceKind?, if_neg (fun primitive => other (hasPrimitive_iff.1 primitive)),
    if_pos (built.hasType_iff.2 declared)]

def Declares (schema : Schema) (name : String) : Prop :=
  name ∈ schema.primitives.map (·.name) ∨ name ∈ schema.types.map (·.name)

theorem Built.referenceKind?_isSome_iff (built : Built schema) {name : String} :
    (schema.referenceKind? name).isSome = true ↔ schema.Declares name := by
  unfold referenceKind? Declares
  rw [← hasPrimitive_iff, ← built.hasType_iff]
  cases schema.hasPrimitive name <;> cases schema.hasType name <;> simp

end FieldTypes.Schema
