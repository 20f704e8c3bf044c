import FieldTypes.Cpp.Naming
import FieldTypes.Dispatch.Table
import FieldTypes.Schema.Encoding

set_option autoImplicit false

namespace FieldTypes.Catalog

/-- Whether a template renders once for each type or once for the schema. -/
inductive Scope where
  | type
  | schema
  deriving DecidableEq, Repr

def Scope.label : Scope → String
  | .type => "type"
  | .schema => "schema"

structure Context where
  schema : Schema
  resolved : ResolvedSchema
  options : Cpp.Options
  /-- The type being rendered; none for a whole-schema artifact. -/
  target : Option ResolvedType

def typeLabel (name : String) : String := s!"type '{name}'"

namespace Context

def ofSchema (schema : Schema) (options : Cpp.Options) : Context :=
  ⟨schema, schema.resolve, options, none⟩

def withTarget (context : Context) (target : ResolvedType) : Context :=
  { context with target := some target }

def label (context : Context) : String :=
  match context.target with
  | some target => typeLabel target.name
  | none => "schema"

def headers (context : Context) : List String :=
  context.resolved.types.map fun type => context.options.includePath (Cpp.headerFile type.name)

/-- The data of every template. -/
def commonData (context : Context) : Json.Members :=
  [ ("schema", context.schema.toJson)
  , ("types", .array (context.resolved.types.map (·.toJson)))
  , ("root_type", .string context.resolved.rootType)
  , ("headers", .strings context.headers)
  , ("cpp", context.options.toJson) ]

/-- The data that only a bound type has. -/
def targetData (context : Context) : Json.Members :=
  match context.target with
  | none => []
  | some type =>
    [ ("type", type.toJson)
    , ("dispatch", (Dispatch.Table.ofType type).toJson)
    , ("files", (Cpp.FileNames.ofType type context.options).toJson) ]

/-- The data that templates are rendered over. -/
def data (context : Context) : Json := .object (context.commonData ++ context.targetData)

end Context

end FieldTypes.Catalog
