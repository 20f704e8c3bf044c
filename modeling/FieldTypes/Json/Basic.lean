import FieldTypes.Binary64

set_option autoImplicit false

namespace FieldTypes

/-- Integers are kept exactly, every other number in the 64-bit binary format. -/
inductive Number where
  | integer (value : Int)
  | float (value : Binary64)
  deriving DecidableEq, Repr, Inhabited

inductive Json where
  | null
  | bool (value : Bool)
  | number (value : Number)
  | string (value : String)
  | array (items : List Json)
  | object (members : List (String × Json))
  deriving Repr, Inhabited

namespace Json

abbrev Members := List (String × Json)

mutual

def decideEq : (a b : Json) → Decidable (a = b)
  | .null, .null => .isTrue rfl
  | .bool a, .bool b =>
    if h : a = b then .isTrue (congrArg Json.bool h) else .isFalse fun e => h (Json.bool.inj e)
  | .number a, .number b =>
    if h : a = b then .isTrue (congrArg Json.number h) else .isFalse fun e => h (Json.number.inj e)
  | .string a, .string b =>
    if h : a = b then .isTrue (congrArg Json.string h) else .isFalse fun e => h (Json.string.inj e)
  | .array a, .array b =>
    match decideEqItems a b with
    | .isTrue h => .isTrue (congrArg Json.array h)
    | .isFalse h => .isFalse fun e => h (Json.array.inj e)
  | .object a, .object b =>
    match decideEqMembers a b with
    | .isTrue h => .isTrue (congrArg Json.object h)
    | .isFalse h => .isFalse fun e => h (Json.object.inj e)
  | .null, .bool _ | .null, .number _ | .null, .string _ | .null, .array _ | .null, .object _
  | .bool _, .null | .bool _, .number _ | .bool _, .string _ | .bool _, .array _ | .bool _, .object _
  | .number _, .null | .number _, .bool _ | .number _, .string _ | .number _, .array _
  | .number _, .object _
  | .string _, .null | .string _, .bool _ | .string _, .number _ | .string _, .array _
  | .string _, .object _
  | .array _, .null | .array _, .bool _ | .array _, .number _ | .array _, .string _
  | .array _, .object _
  | .object _, .null | .object _, .bool _ | .object _, .number _ | .object _, .string _
  | .object _, .array _ => .isFalse nofun

def decideEqItems : (a b : List Json) → Decidable (a = b)
  | [], [] => .isTrue rfl
  | a :: as, b :: bs =>
    match decideEq a b, decideEqItems as bs with
    | .isTrue h, .isTrue t => .isTrue (by rw [h, t])
    | .isFalse h, _ => .isFalse fun e => h (List.cons.inj e).1
    | _, .isFalse t => .isFalse fun e => t (List.cons.inj e).2
  | [], _ :: _ | _ :: _, [] => .isFalse nofun

def decideEqMembers : (a b : List (String × Json)) → Decidable (a = b)
  | [], [] => .isTrue rfl
  | (k, a) :: as, (l, b) :: bs =>
    if h : k = l then
      match decideEq a b, decideEqMembers as bs with
      | .isTrue v, .isTrue t => .isTrue (by rw [h, v, t])
      | .isFalse v, _ => .isFalse fun e => v (Prod.mk.inj (List.cons.inj e).1).2
      | _, .isFalse t => .isFalse fun e => t (List.cons.inj e).2
    else .isFalse fun e => h (Prod.mk.inj (List.cons.inj e).1).1
  | [], _ :: _ | _ :: _, [] => .isFalse nofun

end

instance : DecidableEq Json := decideEq

def natural (value : Nat) : Json := .number (.integer value)

def strings (values : List String) : Json := .array (values.map .string)

def isNull : Json → Bool
  | .null => true
  | _ => false

def asBool? : Json → Option Bool
  | .bool value => some value
  | _ => none

def asString? : Json → Option String
  | .string value => some value
  | _ => none

/-- The value of a number that is kept as a non-negative integer. -/
def asNat? : Json → Option Nat
  | .number (.integer (.ofNat value)) => some value
  | _ => none

def asArray? : Json → Option (List Json)
  | .array items => some items
  | _ => none

def asObject? : Json → Option Members
  | .object members => some members
  | _ => none

def get? (value : Json) (key : String) : Option Json := value.asObject?.bind (·.lookup key)

/-- Puts a member into an object, in place of a member with its key. -/
def putMember (key : String) (value : Json) : Members → Members
  | [] => [(key, value)]
  | (other, existing) :: rest =>
    if other = key then (key, value) :: rest else (other, existing) :: putMember key value rest

end Json

end FieldTypes
