import FieldTypes.Dispatch.Table

set_option autoImplicit false

namespace FieldTypes.Dispatch

inductive Value where
  | string (value : String)
  | int (value : Int)
  | float (value : Binary64)
  | bool (value : Bool)
  deriving DecidableEq, Repr

def Value.typeName : Value → String
  | .string _ => "PrimitiveString"
  | .int _ => "PrimitiveInt"
  | .float _ => "PrimitiveFloat"
  | .bool _ => "PrimitiveBool"

inductive Error where
  | invalidField (type member : String)
  | argumentMissing (param type : String)
  | argumentType (param expected actual : String)
  deriving DecidableEq, Repr

def Error.message : Error → String
  | .invalidField type member => s!"invalid field '{member}' for type '{type}'"
  | .argumentMissing param type => s!"missing argument '{param}' of type {type}"
  | .argumentType param expected actual =>
    s!"argument '{param}' has type {actual}, expected {expected}"

/-- The arguments of one field access. -/
structure CallParams where
  byPosition : List Value
  /-- Named arguments, the latest first. -/
  byName : List (String × Value)
  deriving DecidableEq, Repr

namespace CallParams

def empty : CallParams := ⟨[], []⟩

def positional (params : CallParams) (value : Value) : CallParams :=
  { params with byPosition := params.byPosition ++ [value] }

/-- Adds a named argument in place of an earlier one of that name. -/
def named (params : CallParams) (name : String) (value : Value) : CallParams :=
  { params with byName := (name, value) :: params.byName }

/-- The argument at a position, or else the latest one under a name. -/
def lookup? (params : CallParams) (index : Nat) (name : String) : Option Value :=
  params.byPosition[index]? <|> params.byName.lookup name

/-- An argument that may be absent, but not of another type. -/
def getOptional (params : CallParams) (index : Nat) (name type : String) :
    Except Error (Option Value) :=
  match params.lookup? index name with
  | none => .ok none
  | some value =>
    if value.typeName = type then .ok (some value)
    else .error (.argumentType name type value.typeName)

/-- An argument that must be there. -/
def get (params : CallParams) (index : Nat) (name type : String) : Except Error Value := do
  match ← params.getOptional index name type with
  | none => .error (.argumentMissing name type)
  | some value => .ok value

end CallParams

def Argument.extract (argument : Argument) (params : CallParams) : Except Error (Option Value) :=
  match argument.passing with
  | .required => (params.get argument.index argument.name argument.typeName).map some
  | .optional => params.getOptional argument.index argument.name argument.typeName

theorem Argument.extract_of_required {argument : Argument} (required : argument.passing = .required)
    (params : CallParams) :
    argument.extract params = (params.get argument.index argument.name argument.typeName).map some := by
  rw [extract, required]

theorem Argument.extract_of_optional {argument : Argument} (optional : argument.passing = .optional)
    (params : CallParams) :
    argument.extract params = params.getOptional argument.index argument.name argument.typeName := by
  rw [extract, optional]

/-- A selected branch with its extracted arguments; an omitted optional one is `none`. -/
structure Call where
  branch : Branch
  arguments : List (Option Value)
  deriving DecidableEq, Repr

namespace Table

def resolve (table : Table) (member : String) : Except Error Branch :=
  match table.branches.find? (·.member == member) with
  | some branch => .ok branch
  | none => .error (.invalidField table.typeName member)

/-- Selects the branch of a member and extracts its arguments in order. -/
def dispatch (table : Table) (member : String) (params : CallParams) : Except Error Call := do
  let branch ← table.resolve member
  let arguments ← branch.arguments.mapM (·.extract params)
  .ok ⟨branch, arguments⟩

end Table

end FieldTypes.Dispatch
