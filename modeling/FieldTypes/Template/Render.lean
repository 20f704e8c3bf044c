import FieldTypes.Template.Value

set_option autoImplicit false

namespace FieldTypes.Template

/-- A value that paths start from, with the variables of its turn in a repetition and the names that a
block gave to what is in it. -/
structure Scope where
  value : Json
  bindings : List (String × Json)
  params : List (String × Json)

namespace Render

def isDigits (characters : List Char) : Bool := characters ≠ [] ∧ characters.all Char.isDigit

/-- Positions are below this. -/
def positionLimit : Nat := 0x10000000000000000

/-- The array position that a key spells; a plus may stand before it. -/
def position? (key : String) : Option Nat :=
  let digits := match key.toList with
    | '+' :: rest => rest
    | characters => characters
  let position := digits.foldl (fun value c => value * 10 + (c.toNat - 48)) 0
  if isDigits digits ∧ position < positionLimit then some position else none

/-- Follows keys into objects and positions into arrays. -/
def descend : Json → List String → Except RenderFailure (Option Json)
  | value, [] => .ok (some value)
  | .object members, key :: rest =>
    match members.lookup key with
    | some member => descend member rest
    | none => .ok none
  | .array items, key :: rest =>
    match position? key with
    | none => .error (.notAPosition key)
    | some position =>
      match items[position]? with
      | some item => descend item rest
      | none => .ok none
  | _, _ :: _ => .ok none

/-- The scope a number of steps outward; steps beyond the outermost scope lead back to the innermost. -/
def scopeAt (scopes : List Scope) (outward : Nat) : Option Scope :=
  match scopes[outward]? with
  | some scope => some scope
  | none => scopes.head?

/-- What a block named, the innermost block first. -/
def param? (scopes : List Scope) (name : String) : Option Json :=
  scopes.findSome? (·.params.lookup name)

def descendFrom (start : Option Json) (keys : List String) : Except RenderFailure (Option Json) :=
  match start with
  | none => .ok none
  | some value => descend value keys

/-- The value that a path leads to. A name that a block gave hides the members of every scope. -/
def find? (root : Json) (scopes : List Scope) (path : Path) : Except RenderFailure (Option Json) :=
  match path.start, path.keys with
  | .variable outward name, _ => .ok (scopes[outward]?.bind (·.bindings.lookup name))
  | .root, keys => descend root keys
  | .scope outward, [] => .ok ((scopeAt scopes outward).map (·.value))
  | .scope outward, name :: rest =>
    match param? scopes name with
    | some value => descend value rest
    | none => descendFrom ((scopeAt scopes outward).map (·.value)) (name :: rest)

structure Call where
  helper : Helper
  arguments : List Evaluated
  named : List (String × Evaluated)

namespace Call

/-- The first argument, which most blocks cannot do without. -/
def subject (call : Call) (name : String) : Except RenderFailure Evaluated :=
  Operation.required name call.arguments 0

/-- Whether a choice takes its first part. With `includeZero`, zero counts as true. -/
def holds (call : Call) (sense : Bool) (subject : Evaluated) : Bool :=
  let includeZero := ((call.named.lookup "includeZero").bind (·.value.asBool?)).getD false
  let isNumber := match subject.value with
    | .number _ => true
    | _ => false
  ((includeZero && isNumber) || subject.isTrue) == sense

def levels : List String := ["error", "warn", "info", "debug", "trace"]

/-- A log has a level, if one is given; nothing is printed. -/
def logged (call : Call) : Except RenderFailure String :=
  let level := ((call.named.lookup "level").bind (·.value.asString?)).getD "info"
  if levels.contains (String.ofList (level.toList.map Char.toLower)) then .ok ""
  else .error (.unknownLevel level)

def result (call : Call) : Except RenderFailure Json :=
  match call.helper with
  | .choose _ => (call.subject "if").map fun _ => .string ""
  | .each => (call.subject "each").map fun _ => .string ""
  | .within => do
    let subject ← call.subject "with"
    if subject.isTrue then .ok (.string "") else .error subject.missing
  | .verbatim => .ok (.string "")
  | .log => call.logged.map .string
  | .operation operation => operation.apply call.arguments
  | .unknown name => .error (.unknownHelper name)

end Call

section Evaluation

variable (root : Json) (scopes : List Scope)

mutual

def evaluate : Operand → Except RenderFailure Evaluated
  | .path path => (find? root scopes path).map fun value => ⟨some path.source, value⟩
  | .literal value => .ok ⟨none, some value⟩
  | .call helper arguments named => do
    let arguments ← evaluateAll arguments
    let named ← evaluateNamed named
    let value ← (Call.mk helper arguments named).result
    .ok ⟨none, some value⟩

def evaluateAll : List Operand → Except RenderFailure (List Evaluated)
  | [] => .ok []
  | operand :: rest => do
    let first ← evaluate operand
    let more ← evaluateAll rest
    .ok (first :: more)

def evaluateNamed : List (String × Operand) → Except RenderFailure (List (String × Evaluated))
  | [] => .ok []
  | (name, operand) :: rest => do
    let first ← evaluate operand
    let more ← evaluateNamed rest
    .ok ((name, first) :: more)

end

def printed (operand : Operand) : Except RenderFailure String := do
  let evaluated ← evaluate root scopes operand
  match evaluated.value? with
  | some value => .ok (display value)
  | none => .error evaluated.missing

end Evaluation

/-- The names that a block gives to an item and its key, if it has names for them. -/
def itemParams (params : List String) (key value : Json) : List (String × Json) :=
  match params with
  | [name] => [(name, value)]
  | name :: keyName :: _ => [(keyName, key), (name, value)]
  | [] => []

/-- The scopes of an array's elements from a position on; `last` is the position of the last one. -/
def itemScopes (params : List String) (last : Nat) (position : Nat) : List Json → List Scope
  | [] => []
  | item :: items =>
    ⟨item, [("index", .natural position), ("first", .bool (position == 0)),
        ("last", .bool (position == last))], itemParams params (.natural position) item⟩ ::
      itemScopes params last (position + 1) items

def memberScopes (params : List String) (last : Nat) (position : Nat) : Json.Members → List Scope
  | [] => []
  | (key, value) :: members =>
    ⟨value, [("key", .string key), ("first", .bool (position == 0)),
        ("last", .bool (position == last))], itemParams params (.string key) value⟩ ::
      memberScopes params last (position + 1) members

/-- The scopes that repeating over a value goes through; nothing for a value without parts. -/
def turns? (params : List String) : Json → Option (List Scope)
  | .array items => some (itemScopes params (items.length - 1) 0 items)
  | .object members => some (memberScopes params (members.length - 1) 0 members)
  | _ => none

/-- The scope of a value that is entered; a single name is given to the value. -/
def entered (params : List String) (value : Json) : Scope :=
  match params with
  | [name] => ⟨value, [], [(name, value)]⟩
  | _ => ⟨value, [], []⟩

/-- Renders once for each scope, in order. -/
def repeated {m : Type → Type} [Monad m] (render : Scope → m String) : List Scope → m String
  | [] => pure ""
  | scope :: rest => do
    let first ← render scope
    let more ← repeated render rest
    return first ++ more

/-- A failure of a part, without a place yet. -/
def unplaced {α : Type} (result : Except RenderFailure α) : Except RenderFault α :=
  result.mapError fun failure => ⟨none, none, failure⟩

/-- A result of a part that starts at a place. -/
def placedAt {α : Type} (position : Option Text.Position) (result : Except RenderFault α) :
    Except RenderFault α :=
  result.mapError (RenderFault.within position)

end Render

end FieldTypes.Template
