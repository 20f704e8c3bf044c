import FieldTypes.Resolved

set_option autoImplicit false

namespace FieldTypes.Dispatch

/-- How one argument is taken from the call params. -/
structure Argument where
  index : Nat
  name : String
  typeName : String
  passing : Passing
  extractor : String
  deriving DecidableEq, Repr

/-- What happens when a member is requested. -/
structure Branch where
  member : String
  getter : String
  arguments : List Argument
  deriving DecidableEq, Repr

structure Table where
  typeName : String
  branches : List Branch
  deriving DecidableEq, Repr

structure Signature where
  name : String
  params : List (String × Bool)
  deriving DecidableEq, Repr

def Argument.ofParam (param : ResolvedParam) : Argument :=
  ⟨param.index, param.name, param.typeName, param.passing, param.extractor⟩

/-- The extraction as it is written in the generated code. -/
def Argument.expression (argument : Argument) : String :=
  s!"params.{argument.extractor}<{argument.typeName}>({argument.index}, \"" ++ argument.name ++ "\")"

theorem Argument.expression_eq (argument : Argument) :
    argument.expression = "params." ++ (argument.extractor ++ ("<" ++ (argument.typeName ++ (">(" ++
      (toString argument.index ++ (", \"" ++ (argument.name ++ "\")"))))))) := by
  show "params." ++ argument.extractor ++ "<" ++ argument.typeName ++ ">(" ++ toString argument.index ++ ", \"" ++
    argument.name ++ "\")" = _
  simp only [String.append_assoc]

def Branch.ofField (field : ResolvedField) : Branch :=
  ⟨field.name, field.getter, field.params.map Argument.ofParam⟩

/-- The getter call as it is written in the generated code. -/
def Branch.callExpression (branch : Branch) : String :=
  s!"{branch.getter}(" ++ ", ".intercalate (branch.arguments.map Argument.expression) ++ ")"

theorem Branch.callExpression_eq (branch : Branch) :
    branch.callExpression =
      branch.getter ++ ("(" ++ (", ".intercalate (branch.arguments.map Argument.expression) ++ ")")) := by
  show branch.getter ++ "(" ++ ", ".intercalate (branch.arguments.map Argument.expression) ++ ")" = _
  simp only [String.append_assoc]

theorem Branch.arguments_ofField (field : Field) :
    (Branch.ofField field.resolve).arguments = field.params.map fun param => Argument.ofParam param.resolve :=
  List.map_map

def Branch.signature (branch : Branch) : Signature :=
  ⟨branch.member, branch.arguments.map fun argument => (argument.name, argument.passing.isRequired)⟩

namespace Table

def ofType (type : ResolvedType) : Table := ⟨type.name, type.fields.map Branch.ofField⟩

theorem branches_ofType (type : TypeDecl) :
    (ofType type.resolve).branches = type.fields.map fun field => Branch.ofField field.resolve :=
  List.map_map

def usesParams (table : Table) : Bool := table.branches.any (!·.arguments.isEmpty)

def signatures (table : Table) : List Signature := table.branches.map Branch.signature

end Table

def Signature.ofField (field : Field) : Signature :=
  ⟨field.name, field.params.map fun param => (param.name, param.required)⟩

def Argument.toJson (argument : Argument) : Json :=
  .object
    [ ("index", .natural argument.index)
    , ("name", .string argument.name)
    , ("type_name", .string argument.typeName)
    , ("passing", .string argument.passing.label)
    , ("extractor", .string argument.extractor) ]

def Branch.toJson (branch : Branch) : Json :=
  .object
    [ ("member", .string branch.member)
    , ("getter", .string branch.getter)
    , ("arguments", .array (branch.arguments.map Argument.toJson)) ]

def Table.toJson (table : Table) : Json :=
  .object
    [ ("type_name", .string table.typeName)
    , ("branches", .array (table.branches.map Branch.toJson)) ]

end FieldTypes.Dispatch
