import FieldTypes.Json.Basic
import FieldTypes.Template.Fault

set_option autoImplicit false

namespace FieldTypes.Template

/-- Where a path starts. -/
inductive Start where
  /-- The value of a scope, counted from the innermost one. -/
  | scope (outward : Nat)
  /-- The value of the outermost scope. -/
  | root
  /-- A variable of a scope, counted from the innermost one. -/
  | variable (outward : Nat) (name : String)
  deriving DecidableEq, Repr

/-- A start and the keys and positions that lead on from there. -/
structure Path where
  /-- What messages call the path. -/
  source : String
  start : Start
  keys : List String
  deriving DecidableEq, Repr

namespace Path

def ofKeys (keys : List String) : Path := ⟨".".intercalate keys, .scope 0, keys⟩

/-- The innermost scope's own value. -/
def this : Path := ⟨"this", .scope 0, []⟩

/-- A variable of the innermost scope. -/
def ofVariable (name : String) : Path := ⟨name, .variable 0 name, []⟩

end Path

/-- What is computed from values alone. -/
inductive Operation where
  | lookup
  | equal
  | different
  | greater
  | greaterOrEqual
  | less
  | lessOrEqual
  | both
  | either
  | negation
  | length
  deriving DecidableEq, Repr

inductive Helper where
  /-- Takes its first part if a value is true or, for the opposite sense, if it is not. -/
  | choose (sense : Bool)
  | each
  | within
  /-- Takes its part as it stands. -/
  | verbatim
  | log
  | operation (operation : Operation)
  /-- A name that no helper has; it can be written but not rendered. -/
  | unknown (name : String)
  deriving DecidableEq, Repr

namespace Helper

def named : List (String × Helper) :=
  [ ("if", .choose true), ("unless", .choose false), ("each", .each), ("with", .within)
  , ("raw", .verbatim), ("log", .log), ("lookup", .operation .lookup), ("eq", .operation .equal)
  , ("ne", .operation .different), ("gt", .operation .greater), ("gte", .operation .greaterOrEqual)
  , ("lt", .operation .less), ("lte", .operation .lessOrEqual), ("and", .operation .both)
  , ("or", .operation .either), ("not", .operation .negation), ("len", .operation .length) ]

def ofName (name : String) : Helper := (named.lookup name).getD (.unknown name)

def isName (name : String) : Bool := (named.lookup name).isSome

end Helper

/-- What has a value. -/
inductive Operand where
  | path (path : Path)
  | literal (value : Json)
  | call (helper : Helper) (arguments : List Operand) (named : List (String × Operand))

inductive Node where
  | text (text : String)
  /-- Prints a value. -/
  | value (position : Option Text.Position) (operand : Operand)
  /-- A helper with its arguments, the names for what it gives, its body and its else part, if it has
  one. -/
  | block (position : Option Text.Position) (helper : Helper) (arguments : List Operand)
    (named : List (String × Operand)) (params : List String) (body : List Node)
    (otherwise : Option (List Node))
  /-- A template or a part that is put in: its name, what it is rendered over, the blanks before it, and a
  body that it can put in itself. -/
  | inclusion (position : Option Text.Position) (name : Operand) (arguments : List Operand)
    (named : List (String × Operand)) (indent : String) (body : Option (List Node))
  /-- Prints nothing; may define its body as a part. -/
  | decorator (position : Option Text.Position) (name : String) (arguments : List Operand)
    (named : List (String × Operand)) (body : Option (List Node))

end FieldTypes.Template
