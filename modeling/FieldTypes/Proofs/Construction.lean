import FieldTypes.Schema.Basic

set_option autoImplicit false

namespace FieldTypes.Schema

/-- Built from an empty schema by any sequence of additions. -/
inductive Built : Schema → Prop where
  | empty (rootType : String) : Built (empty rootType)
  | addPrimitive {schema : Schema} (primitive : Primitive) (built : Built schema) :
      Built (schema.addPrimitive primitive)
  | addType {schema : Schema} (type : TypeDecl) (built : Built schema) : Built (schema.addType type)

theorem foldl_addType_addPrimitive (schema : Schema) (primitive : Primitive) (types : List TypeDecl) :
    types.foldl addType (schema.addPrimitive primitive) =
      (types.foldl addType schema).addPrimitive primitive := by
  induction types generalizing schema with
  | nil => rfl
  | cons type rest ih =>
    -- adding a primitive leaves alone what adding a type reads
    have swap : (schema.addPrimitive primitive).addType type =
        (schema.addType type).addPrimitive primitive := rfl
    rw [List.foldl_cons, List.foldl_cons, swap, ih]

@[simp] theorem addPrimitive_ofDeclarations (rootType : String) (primitives : List Primitive)
    (types : List TypeDecl) (primitive : Primitive) :
    (ofDeclarations rootType primitives types).addPrimitive primitive =
      ofDeclarations rootType (primitives ++ [primitive]) types := by
  rw [ofDeclarations, ofDeclarations, List.foldl_append, List.foldl_cons, List.foldl_nil,
    foldl_addType_addPrimitive]

@[simp] theorem addType_ofDeclarations (rootType : String) (primitives : List Primitive)
    (types : List TypeDecl) (type : TypeDecl) :
    (ofDeclarations rootType primitives types).addType type =
      ofDeclarations rootType primitives (types ++ [type]) := by
  rw [ofDeclarations, ofDeclarations, List.foldl_append, List.foldl_cons, List.foldl_nil]

/-- A built schema is the schema of its own declarations, its name index included. -/
theorem Built.eq_ofDeclarations {schema : Schema} (built : Built schema) :
    schema = ofDeclarations schema.rootType schema.primitives schema.types := by
  induction built with
  | empty rootType => rfl
  | @addPrimitive schema primitive built ih =>
    calc schema.addPrimitive primitive
        = (ofDeclarations schema.rootType schema.primitives schema.types).addPrimitive primitive := by
          rw [← ih]
      _ = _ := addPrimitive_ofDeclarations _ _ _ primitive
  | @addType schema type built ih =>
    calc schema.addType type
        = (ofDeclarations schema.rootType schema.primitives schema.types).addType type := by rw [← ih]
      _ = _ := addType_ofDeclarations _ _ _ type

theorem Built.foldl_addPrimitive {schema : Schema} (built : Built schema) (primitives : List Primitive) :
    Built (primitives.foldl Schema.addPrimitive schema) := by
  induction primitives generalizing schema with
  | nil => exact built
  | cons primitive rest ih => exact ih (.addPrimitive primitive built)

theorem Built.foldl_addType {schema : Schema} (built : Built schema) (types : List TypeDecl) :
    Built (types.foldl Schema.addType schema) := by
  induction types generalizing schema with
  | nil => exact built
  | cons type rest ih => exact ih (.addType type built)

theorem built_ofDeclarations (rootType : String) (primitives : List Primitive) (types : List TypeDecl) :
    Built (ofDeclarations rootType primitives types) :=
  ((Built.empty rootType).foldl_addPrimitive primitives).foldl_addType types

theorem nameIndex_foldl_addType {schema other : Schema} {types others : List TypeDecl}
    (index : schema.nameIndex = other.nameIndex) (count : schema.types.length = other.types.length)
    (names : types.map (·.name) = others.map (·.name)) :
    (types.foldl addType schema).nameIndex = (others.foldl addType other).nameIndex := by
  induction types generalizing schema other others with
  | nil =>
    rw [List.map_nil, List.nil_eq, List.map_eq_nil_iff] at names
    rw [names]
    exact index
  | cons type rest ih =>
    cases others with
    | nil => cases names
    | cons another more =>
      rw [List.map_cons, List.map_cons, List.cons.injEq] at names
      have next : (schema.addType type).nameIndex = (other.addType another).nameIndex := by
        unfold addType
        dsimp only
        rw [index, count, names.1]
      have longer : (schema.addType type).types.length = (other.addType another).types.length := by
        show (schema.types ++ [type]).length = (other.types ++ [another]).length
        rw [List.length_append, List.length_append, count]
        rfl
      rw [List.foldl_cons, List.foldl_cons]
      exact ih next longer names.2

theorem Built.nameIndex_eq {schema other : Schema} (built : Built schema) (otherBuilt : Built other)
    (names : schema.types.map (·.name) = other.types.map (·.name)) :
    schema.nameIndex = other.nameIndex := by
  have parts (rootType : String) (primitives : List Primitive) :
      (primitives.foldl Schema.addPrimitive (Schema.empty rootType)).nameIndex = [] ∧
        (primitives.foldl Schema.addPrimitive (Schema.empty rootType)).types = [] := by
    rw [Schema.foldl_addPrimitive]
    exact ⟨rfl, rfl⟩
  rw [built.eq_ofDeclarations, otherBuilt.eq_ofDeclarations]
  refine nameIndex_foldl_addType ?_ ?_ names
  · rw [(parts _ _).1, (parts _ _).1]
  · rw [(parts _ _).2, (parts _ _).2]

theorem Built.eq_of_parts {schema other : Schema} (built : Built schema) (otherBuilt : Built other)
    (rootType : schema.rootType = other.rootType) (primitives : schema.primitives = other.primitives)
    (types : schema.types = other.types) : schema = other := by
  rw [built.eq_ofDeclarations, otherBuilt.eq_ofDeclarations, rootType, primitives, types]

/-- A schema with the names and the index of a built one is as if it had been built itself. -/
theorem Built.of_names {schema other : Schema} (built : Built schema)
    (names : other.types.map (·.name) = schema.types.map (·.name))
    (index : other.nameIndex = schema.nameIndex) : Built other := by
  have declared := built_ofDeclarations other.rootType other.primitives other.types
  have same : other.nameIndex =
      (ofDeclarations other.rootType other.primitives other.types).nameIndex := by
    rw [index]
    refine built.nameIndex_eq declared ?_
    rw [types_ofDeclarations, names]
  have whole : other = ofDeclarations other.rootType other.primitives other.types := by
    calc other = ⟨other.primitives, other.types, other.rootType, other.nameIndex⟩ := rfl
      _ = ⟨(ofDeclarations other.rootType other.primitives other.types).primitives,
            (ofDeclarations other.rootType other.primitives other.types).types,
            (ofDeclarations other.rootType other.primitives other.types).rootType,
            (ofDeclarations other.rootType other.primitives other.types).nameIndex⟩ := by
        rw [primitives_ofDeclarations, types_ofDeclarations, rootType_ofDeclarations, ← same]
      _ = _ := rfl
  rw [whole]
  exact declared

theorem Built.modifyType {schema : Schema} (built : Built schema) (position : Nat)
    {edit : TypeDecl → TypeDecl} (keeps : ∀ type, (edit type).name = type.name) :
    Built (schema.modifyType position edit) := by
  refine built.of_names ?_ rfl
  show (schema.types.modify position edit).map (·.name) = _
  refine List.ext_getElem? fun place => ?_
  rw [List.getElem?_map, List.getElem?_map, List.getElem?_modify]
  cases schema.types[place]? with
  | none => rfl
  | some type =>
    by_cases same : position = place
    · simp [same, keeps]
    · simp [same]

theorem Built.setRoot {schema : Schema} (built : Built schema) (rootType : String) :
    Built (schema.setRoot rootType) :=
  built.of_names rfl rfl

end FieldTypes.Schema
