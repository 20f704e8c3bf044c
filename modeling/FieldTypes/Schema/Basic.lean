import FieldTypes.Json.Basic

set_option autoImplicit false

namespace FieldTypes

/-- A value type of the runtime library. -/
structure Primitive where
  name : String
  doc : String
  deriving DecidableEq, Repr

/-- An argument that a caller may pass to a field. -/
structure Param where
  name : String
  doc : String
  /-- The declared position, counted from zero. -/
  index : Nat
  typeName : String
  required : Bool
  /-- The value used when an optional param is omitted. -/
  defaultValue : Option Json
  defaultValueDoc : Option String
  deriving DecidableEq, Repr

def Param.hasDefault (param : Param) : Bool :=
  param.defaultValue.isSome || param.defaultValueDoc.isSome

/-- A named accessor on a field type. -/
structure Field where
  name : String
  doc : String
  returnType : String
  /-- Whether the field returns a sequence. -/
  returnList : Bool
  /-- Whether the field may yield no value. -/
  nullable : Bool
  params : List Param
  deriving DecidableEq, Repr

/-- A field type. -/
structure TypeDecl where
  name : String
  doc : String
  fields : List Field
  deriving DecidableEq, Repr

def TypeDecl.hasParams (type : TypeDecl) : Bool := type.fields.any (!·.params.isEmpty)

/-- What a type reference resolves to. -/
inductive ReferenceKind where
  | primitive
  | type
  deriving DecidableEq, Repr

structure Schema where
  primitives : List Primitive
  types : List TypeDecl
  rootType : String
  /-- Each name that a type was added under, with the position of the first such type. -/
  nameIndex : List (String × Nat)
  deriving DecidableEq, Repr

namespace Schema

def empty (rootType : String) : Schema := ⟨[], [], rootType, []⟩

def addPrimitive (schema : Schema) (primitive : Primitive) : Schema :=
  { schema with primitives := schema.primitives ++ [primitive] }

/-- Adds a type; a name that is in the index already keeps its position. -/
def addType (schema : Schema) (type : TypeDecl) : Schema :=
  { schema with
    types := schema.types ++ [type]
    nameIndex :=
      if (schema.nameIndex.lookup type.name).isSome then schema.nameIndex
      else schema.nameIndex ++ [(type.name, schema.types.length)] }

/-- Changes the type at a position in place; the name index stays as it is. -/
def modifyType (schema : Schema) (position : Nat) (change : TypeDecl → TypeDecl) : Schema :=
  { schema with types := schema.types.modify position change }

def addField (schema : Schema) (position : Nat) (field : Field) : Schema :=
  schema.modifyType position fun type => { type with fields := type.fields ++ [field] }

def renameType (schema : Schema) (position : Nat) (name : String) : Schema :=
  schema.modifyType position fun type => { type with name := name }

def setRoot (schema : Schema) (rootType : String) : Schema := { schema with rootType := rootType }

def ofDeclarations (rootType : String) (primitives : List Primitive) (types : List TypeDecl) : Schema :=
  types.foldl addType (primitives.foldl addPrimitive (empty rootType))

theorem foldl_addPrimitive (schema : Schema) (primitives : List Primitive) :
    primitives.foldl addPrimitive schema =
      { schema with primitives := schema.primitives ++ primitives } := by
  induction primitives generalizing schema with
  | nil => simp
  | cons primitive rest ih => simp [ih, addPrimitive]

theorem types_foldl_addType (schema : Schema) (types : List TypeDecl) :
    (types.foldl addType schema).types = schema.types ++ types := by
  induction types generalizing schema with
  | nil => simp
  | cons type rest ih => simp [ih, addType]

theorem primitives_foldl_addType (schema : Schema) (types : List TypeDecl) :
    (types.foldl addType schema).primitives = schema.primitives := by
  induction types generalizing schema with
  | nil => rfl
  | cons type rest ih => exact ih (schema.addType type)

theorem rootType_foldl_addType (schema : Schema) (types : List TypeDecl) :
    (types.foldl addType schema).rootType = schema.rootType := by
  induction types generalizing schema with
  | nil => rfl
  | cons type rest ih => exact ih (schema.addType type)

@[simp]
theorem types_ofDeclarations (rootType : String) (primitives : List Primitive) (types : List TypeDecl) :
    (ofDeclarations rootType primitives types).types = types := by
  simp [ofDeclarations, types_foldl_addType, foldl_addPrimitive, empty]

@[simp]
theorem primitives_ofDeclarations (rootType : String) (primitives : List Primitive)
    (types : List TypeDecl) : (ofDeclarations rootType primitives types).primitives = primitives := by
  simp [ofDeclarations, primitives_foldl_addType, foldl_addPrimitive, empty]

@[simp]
theorem rootType_ofDeclarations (rootType : String) (primitives : List Primitive)
    (types : List TypeDecl) : (ofDeclarations rootType primitives types).rootType = rootType := by
  simp [ofDeclarations, rootType_foldl_addType, foldl_addPrimitive, empty]

/-- The first type added under a name, as it is now. -/
def getType? (schema : Schema) (name : String) : Option TypeDecl :=
  (schema.nameIndex.lookup name).bind (schema.types[·]?)

def hasType (schema : Schema) (name : String) : Bool := (schema.nameIndex.lookup name).isSome

def hasPrimitive (schema : Schema) (name : String) : Bool := schema.primitives.any (·.name == name)

/-- What a reference resolves to; primitives come first. -/
def referenceKind? (schema : Schema) (name : String) : Option ReferenceKind :=
  if schema.hasPrimitive name then some .primitive
  else if schema.hasType name then some .type
  else none

def root? (schema : Schema) : Option TypeDecl := schema.getType? schema.rootType

end Schema

end FieldTypes
