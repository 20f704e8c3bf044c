import FieldTypes.Schema.Basic

set_option autoImplicit false

namespace FieldTypes

def Primitive.toJson (primitive : Primitive) : Json :=
  .object [("name", .string primitive.name), ("doc", .string primitive.doc)]

def Param.toJson (param : Param) : Json :=
  .object
    [ ("name", .string param.name)
    , ("doc", .string param.doc)
    , ("index", .natural param.index)
    , ("type", .string param.typeName)
    , ("required", .bool param.required)
    , ("default_value", param.defaultValue.getD .null)
    , ("default_value_doc", (param.defaultValueDoc.map .string).getD .null) ]

def Field.toJson (field : Field) : Json :=
  .object
    [ ("name", .string field.name)
    , ("doc", .string field.doc)
    , ("return_type", .string field.returnType)
    , ("return_list", .bool field.returnList)
    , ("null", .bool field.nullable)
    , ("params", .array (field.params.map Param.toJson)) ]

def TypeDecl.toJson (type : TypeDecl) : Json :=
  .object
    [ ("name", .string type.name)
    , ("doc", .string type.doc)
    , ("fields", .array (type.fields.map Field.toJson)) ]

def Schema.toJson (schema : Schema) : Json :=
  .object
    [ ("primitive_types", .array (schema.primitives.map Primitive.toJson))
    , ("types", .array (schema.types.map TypeDecl.toJson))
    , ("root_type", .string schema.rootType) ]

end FieldTypes
