import FieldTypes.Schema.Basic
import FieldTypes.Text.Lines

set_option autoImplicit false

namespace FieldTypes

/-- How a param reaches its getter. -/
inductive Passing where
  /-- Always present; by const reference. -/
  | required
  /-- Possibly absent; by const pointer. -/
  | optional
  deriving DecidableEq, Repr

namespace Passing

def ofRequired (required : Bool) : Passing := if required then .required else .optional

def isRequired : Passing → Bool
  | .required => true
  | .optional => false

def label : Passing → String
  | .required => "required"
  | .optional => "optional"

/-- The getter's parameter type for a param of a type. -/
def cppType (passing : Passing) (typeName : String) : String :=
  match passing with
  | .required => s!"const {typeName}&"
  | .optional => s!"const {typeName}*"

def extractor : Passing → String
  | .required => "get"
  | .optional => "get_optional"

end Passing

def getterName (field : String) : String := s!"get_{field}"

def implName (type : String) : String := s!"{type}Impl"

structure ResolvedParam where
  name : String
  index : Nat
  typeName : String
  required : Bool
  passing : Passing
  cppType : String
  extractor : String
  docLines : List String
  defaultValue : Option Json
  defaultValueDoc : Option String
  deriving DecidableEq, Repr

structure ResolvedField where
  name : String
  getter : String
  docLines : List String
  returnType : String
  returnList : Bool
  nullable : Bool
  params : List ResolvedParam
  deriving DecidableEq, Repr

structure ResolvedType where
  name : String
  /-- The name of the hand-written payload class. -/
  implName : String
  docLines : List String
  hasParams : Bool
  fields : List ResolvedField
  deriving DecidableEq, Repr

structure ResolvedSchema where
  rootType : String
  primitives : List String
  types : List ResolvedType
  deriving DecidableEq, Repr

def Param.resolve (param : Param) : ResolvedParam :=
  let passing := Passing.ofRequired param.required
  { name := param.name
    index := param.index
    typeName := param.typeName
    required := param.required
    passing := passing
    cppType := passing.cppType param.typeName
    extractor := passing.extractor
    docLines := Text.lines param.doc
    defaultValue := param.defaultValue
    defaultValueDoc := param.defaultValueDoc }

def Field.resolve (field : Field) : ResolvedField :=
  { name := field.name
    getter := getterName field.name
    docLines := Text.lines field.doc
    returnType := field.returnType
    returnList := field.returnList
    nullable := field.nullable
    params := field.params.map Param.resolve }

def TypeDecl.resolve (type : TypeDecl) : ResolvedType :=
  { name := type.name
    implName := FieldTypes.implName type.name
    docLines := Text.lines type.doc
    hasParams := type.hasParams
    fields := type.fields.map Field.resolve }

def Schema.resolve (schema : Schema) : ResolvedSchema :=
  { rootType := schema.rootType
    primitives := schema.primitives.map (·.name)
    types := schema.types.map TypeDecl.resolve }

def ResolvedSchema.getType? (schema : ResolvedSchema) (name : String) : Option ResolvedType :=
  schema.types.find? (·.name == name)

def ResolvedField.parameterList (field : ResolvedField) : String :=
  ", ".intercalate (field.params.map fun param => s!"{param.cppType} {param.name}")

namespace ResolvedParam

def toJson (param : ResolvedParam) : Json :=
  .object
    [ ("name", .string param.name)
    , ("index", .natural param.index)
    , ("type_name", .string param.typeName)
    , ("required", .bool param.required)
    , ("passing", .string param.passing.label)
    , ("cpp_type", .string param.cppType)
    , ("extractor", .string param.extractor)
    , ("doc_lines", .strings param.docLines)
    , ("default_value", param.defaultValue.getD .null)
    , ("default_value_doc", (param.defaultValueDoc.map .string).getD .null) ]

end ResolvedParam

namespace ResolvedField

def toJson (field : ResolvedField) : Json :=
  .object
    [ ("name", .string field.name)
    , ("getter_name", .string field.getter)
    , ("doc_lines", .strings field.docLines)
    , ("return_type", .string field.returnType)
    , ("return_list", .bool field.returnList)
    , ("nullable", .bool field.nullable)
    , ("params", .array (field.params.map ResolvedParam.toJson)) ]

end ResolvedField

namespace ResolvedType

def toJson (type : ResolvedType) : Json :=
  .object
    [ ("name", .string type.name)
    , ("impl_name", .string type.implName)
    , ("doc_lines", .strings type.docLines)
    , ("has_params", .bool type.hasParams)
    , ("fields", .array (type.fields.map ResolvedField.toJson)) ]

end ResolvedType

namespace ResolvedSchema

def toJson (schema : ResolvedSchema) : Json :=
  .object
    [ ("root_type", .string schema.rootType)
    , ("primitive_types", .strings schema.primitives)
    , ("types", .array (schema.types.map ResolvedType.toJson)) ]

end ResolvedSchema

end FieldTypes
