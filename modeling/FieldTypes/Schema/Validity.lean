import FieldTypes.Schema.Basic
import FieldTypes.Schema.Error
import FieldTypes.Schema.Identifier

set_option autoImplicit false

namespace FieldTypes.Schema

/-- One check: nothing if it holds, otherwise its error. -/
def require (holds : Bool) (error : SchemaError) : Except SchemaError Unit :=
  if holds then .ok () else .error error

/-- Checks the params of a field from `position` on, after params with the names `seen`. -/
def validateParams (schema : Schema) (type field : String) (seen : List String) (position : Nat) :
    List Param → Except SchemaError Unit
  | [] => .ok ()
  | param :: rest => do
    let entity := Entity.param type field param.name
    require (isIdentifier param.name) (.invalidIdentifier entity param.name)
    require (!seen.contains param.name) (.duplicate .param param.name (Entity.field type field).label)
    require (param.index == position) (.indexMismatch entity param.index position)
    require (!(param.required && param.hasDefault)) (.requiredWithDefault entity)
    require (schema.referenceKind? param.typeName).isSome (.unknownType param.typeName entity)
    validateParams schema type field (param.name :: seen) (position + 1) rest

def validateFields (schema : Schema) (type : String) (seen : List String) :
    List Field → Except SchemaError Unit
  | [] => .ok ()
  | field :: rest => do
    let entity := Entity.field type field.name
    require (isIdentifier field.name) (.invalidIdentifier entity field.name)
    require (!seen.contains field.name) (.duplicate .field field.name (Entity.type type).label)
    require (schema.referenceKind? field.returnType).isSome (.unknownType field.returnType entity)
    validateParams schema type field.name [] 0 field.params
    validateFields schema type (field.name :: seen) rest

def validateTypes (schema : Schema) (seen : List String) : List TypeDecl → Except SchemaError Unit
  | [] => .ok ()
  | type :: rest => do
    require (isIdentifier type.name) (.invalidIdentifier (.type type.name) type.name)
    require (!seen.contains type.name) (.duplicate .type type.name Entity.schema.label)
    require (!schema.hasPrimitive type.name)
      (.duplicate .type type.name s!"{Entity.schema.label} (already a primitive type)")
    validateFields schema type.name [] type.fields
    validateTypes schema (type.name :: seen) rest

def validatePrimitives (seen : List String) : List Primitive → Except SchemaError Unit
  | [] => .ok ()
  | primitive :: rest => do
    require (!seen.contains primitive.name)
      (.duplicate .primitiveType primitive.name Entity.schema.label)
    validatePrimitives (primitive.name :: seen) rest

/-- Reports the first inconsistency of a schema. -/
def validate (schema : Schema) : Except SchemaError Unit := do
  validatePrimitives [] schema.primitives
  validateTypes schema [] schema.types
  require (schema.hasType schema.rootType) (.unknownRoot schema.rootType)

end FieldTypes.Schema
