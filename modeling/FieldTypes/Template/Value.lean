import FieldTypes.Json.NumberText
import FieldTypes.Template.Basic

set_option autoImplicit false

namespace FieldTypes.Template

def isTrueNumber : Number → Bool
  | .integer value => value != 0
  | .float value => value.isNormal

/-- Null, false, zero and everything empty are false. -/
def isTrue : Json → Bool
  | .null => false
  | .bool value => value
  | .number value => isTrueNumber value
  | .string value => value != ""
  | .array items => !items.isEmpty
  | .object members => !members.isEmpty

mutual

def display : Json → String
  | .null => ""
  | .bool true => "true"
  | .bool false => "false"
  | .number value => String.ofList value.text
  | .string value => value
  | .array items => "[" ++ displayItems items ++ "]"
  | .object _ => "[object]"

def displayItems : List Json → String
  | [] => ""
  | [item] => display item
  | item :: items => display item ++ ", " ++ displayItems items

end

mutual

/-- Equality of values: members of objects in any order, and positive and negative zero alike. -/
def same : Json → Json → Bool
  | .null, .null => true
  | .bool a, .bool b => a == b
  | .number (.integer a), .number (.integer b) => a == b
  | .number (.float a), .number (.float b) => a == b || (a.isZero && b.isZero)
  | .string a, .string b => a == b
  | .array as, .array bs => sameItems as bs
  | .object as, .object bs => as.length == bs.length && sameMembers as bs
  | _, _ => false

def sameItems : List Json → List Json → Bool
  | [], [] => true
  | a :: as, b :: bs => same a b && sameItems as bs
  | _, _ => false

/-- Whether every member is one of an object with the same value. -/
def sameMembers : Json.Members → Json.Members → Bool
  | [], _ => true
  | (key, a) :: as, bs =>
    (match bs.lookup key with
    | some b => same a b
    | none => false) && sameMembers as bs

end

/-- The value of an argument, with the path that led to it; a path may lead nowhere. -/
structure Evaluated where
  path : Option String
  value? : Option Json

namespace Evaluated

/-- An argument without a value counts as null. -/
def value (argument : Evaluated) : Json := argument.value?.getD .null

def isTrue (argument : Evaluated) : Bool := Template.isTrue argument.value

def missing (argument : Evaluated) : RenderFailure := .missing argument.path

end Evaluated

namespace Operation

def name : Operation → String
  | .lookup => "lookup"
  | .equal => "eq"
  | .different => "ne"
  | .greater => "gt"
  | .greaterOrEqual => "gte"
  | .less => "lt"
  | .lessOrEqual => "lte"
  | .both => "and"
  | .either => "or"
  | .negation => "not"
  | .length => "len"

/-- The value of the argument at a place, which messages call by a name. -/
def param (operation : Operation) (arguments : List Evaluated) (index : Nat) (name : String) :
    Except RenderFailure Json :=
  match arguments[index]?.bind (·.value?) with
  | some value => .ok value
  | none => .error (.noParam operation.name name)

/-- A param that has to be an integer of 64 bits. -/
def integer (operation : Operation) (arguments : List Evaluated) (index : Nat) (name : String) :
    Except RenderFailure Int := do
  match ← operation.param arguments index name with
  | .number (.integer value) =>
    if value ≤ 0x7FFFFFFFFFFFFFFF then .ok value else .error (.notAnInteger operation.name name)
  | _ => .error (.notAnInteger operation.name name)

def onValues (operation : Operation) (arguments : List Evaluated) (compute : Json → Json → Bool) :
    Except RenderFailure Json := do
  let x ← operation.param arguments 0 "x"
  let y ← operation.param arguments 1 "y"
  .ok (.bool (compute x y))

def onIntegers (operation : Operation) (arguments : List Evaluated) (compute : Int → Int → Bool) :
    Except RenderFailure Json := do
  let x ← operation.integer arguments 0 "x"
  let y ← operation.integer arguments 1 "y"
  .ok (.bool (compute x y))

def sizeOf : Json → Nat
  | .array items => items.length
  | .object members => members.length
  | .string text => text.utf8ByteSize
  | _ => 0

def find? : Json → Json → Option Json
  | .array items, .number (.integer (.ofNat position)) => items[position]?
  | .object members, .string key => members.lookup key
  | _, _ => none

/-- The argument at a place, which a helper cannot do without. -/
def required (helper : String) (arguments : List Evaluated) (index : Nat) :
    Except RenderFailure Evaluated :=
  match arguments[index]? with
  | some argument => .ok argument
  | none => .error (.noArgument helper index)

def apply (operation : Operation) (arguments : List Evaluated) : Except RenderFailure Json :=
  match operation with
  | .lookup => do
    let collection ← required operation.name arguments 0
    let index ← required operation.name arguments 1
    match find? collection.value index.value with
    | none | some .null => .error (.missing none)
    | some value => .ok value
  | .equal => operation.onValues arguments same
  | .different => operation.onValues arguments fun x y => !same x y
  | .greater => operation.onIntegers arguments fun x y => decide (x > y)
  | .greaterOrEqual => operation.onIntegers arguments fun x y => decide (x ≥ y)
  | .less => operation.onIntegers arguments fun x y => decide (x < y)
  | .lessOrEqual => operation.onIntegers arguments fun x y => decide (x ≤ y)
  | .both => operation.onValues arguments fun x y => isTrue x && isTrue y
  | .either => operation.onValues arguments fun x y => isTrue x || isTrue y
  | .negation => (operation.param arguments 0 "x").map fun x => .bool (!isTrue x)
  | .length => (operation.param arguments 0 "x").map fun x => .natural (sizeOf x)

end Operation

end FieldTypes.Template
