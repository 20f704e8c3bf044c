import FieldTypes.Json.Reader
import FieldTypes.Template.Basic

set_option autoImplicit false

namespace FieldTypes.Template

def Path.key? (part : Match) : Option String :=
  if (part.rule = .pathId ∨ part.rule = .pathRawId) ∧ part.text ≠ "this" then some part.text else none

def Path.ofParts (source : String) (parts : List Match) : Path :=
  let keys := parts.filterMap Path.key?
  let outward := (parts.filter (·.rule == .pathUp)).length
  match parts.head?.map Tree.rule, keys with
  | some .pathRoot, _ => ⟨source, .root, keys⟩
  | some .pathLocal, [] => ⟨source, .scope 0, []⟩
  | some .pathLocal, name :: _ => ⟨name, .variable outward name, []⟩
  | _, _ => ⟨source, .scope outward, keys⟩

def Path.ofReference (tree : Match) : Path :=
  .ofParts tree.text ((tree.children.head?.map Tree.children).getD [])

/-- A text in single quotes, written for double quotes. -/
def requoted : List Char → List Char
  | [] => []
  | '\\' :: '\'' :: rest => '\'' :: requoted rest
  | '"' :: rest => '\\' :: '"' :: requoted rest
  | c :: rest => c :: requoted rest

/-- The text that a text literal holds, if it is in single quotes. -/
def singleQuoted? (tree : Match) : Option (List Char) :=
  match tree with
  | .node .stringLiteral _ _ _ (inner :: _) =>
    if inner.rule = .singleQuotedInner then some inner.characters else none
  | _ => none

def literalText (tree : Match) : String :=
  match tree.children.head?.bind singleQuoted? with
  | some characters => String.ofList ('"' :: requoted characters ++ ['"'])
  | none => tree.text

mutual

/-- Where an object repeats a key, the last value counts, at the first place. -/
def settled : Json → Json
  | .array items => .array (settledItems items)
  | .object members => .object (settledMembers [] members)
  | value => value

def settledItems : List Json → List Json
  | [] => []
  | item :: rest => settled item :: settledItems rest

def settledMembers (done : Json.Members) : Json.Members → Json.Members
  | [] => done
  | (key, value) :: rest => settledMembers (Json.putMember key (settled value) done) rest

end

def literal (tree : Match) : Except Malformed Json :=
  match Json.read (literalText tree) with
  | .ok value => .ok (settled value)
  | .error _ => .error (.noValue tree.text)

/-- An argument by place, or by name. -/
structure Argument where
  name : Option String
  operand : Operand

def placed (arguments : List Argument) : List Operand :=
  (arguments.filter (·.name.isNone)).map (·.operand)

/-- Arguments by name; the last one of a name counts. -/
def named : List Argument → List (String × Operand)
  | [] => []
  | ⟨none, _⟩ :: rest => named rest
  | ⟨some name, operand⟩ :: rest =>
    if rest.any (·.name == some name) then named rest else (name, operand) :: named rest

/-- The call that a name and arguments make. -/
def callOf (name : String) (arguments : List Argument) : Operand :=
  .call (.ofName name) (placed arguments) (named arguments)

/-- The name that a tag or call starts with. -/
def nameOf (parts : List Match) : String := ((parts.head?).map Tree.text).getD ""

mutual

/-- The operand that a parameter, a path, a literal or a call in parentheses is. -/
def operand : Match → Except Malformed Operand
  | tree@(.node .reference _ _ _ _) => .ok (.path (.ofReference tree))
  | tree@(.node .literal _ _ _ _) => (literal tree).map .literal
  | .node .subexpression _ _ _ parts => do
    let arguments ← arguments parts
    .ok (callOf (nameOf parts) arguments)
  | .node .param _ _ _ parts => firstOperand parts
  | tree => .error (.noValue tree.text)

def firstOperand : List Match → Except Malformed Operand
  | [] => .error (.noValue "")
  | tree :: _ => operand tree

def arguments : List Match → Except Malformed (List Argument)
  | [] => .ok []
  | .node .param _ _ _ parts :: rest => do
    let operand ← firstOperand parts
    let more ← arguments rest
    .ok (⟨none, operand⟩ :: more)
  | .node .hash _ _ _ (name :: value) :: rest => do
    let operand ← firstOperand value
    let more ← arguments rest
    .ok (⟨some name.text, operand⟩ :: more)
  | _ :: rest => arguments rest

end

/-- The start of a block: a helper's name, its arguments, and names for what it gives. -/
structure Head where
  name : String
  arguments : List Argument
  params : List String

namespace Head

/-- The parts of a tag without its tildes and the word of an else tag. -/
def parts (tag : Match) : List Match :=
  tag.children.filter fun part => !([Rule.leadingTilde, .trailingTilde, .elseWord].contains part.rule)

def ofTag (tag : Match) : Except Malformed Head := do
  let parts := parts tag
  let arguments ← Template.arguments parts
  let params := (parts.filter (·.rule == .blockParam)).flatMap (·.children.map Tree.text)
  .ok ⟨nameOf parts, arguments, params⟩

end Head

/-- The name of what a tag puts in; it stands there, or a call gives it. -/
def inclusionName (tag : Match) : Except Malformed Operand :=
  match Head.parts tag with
  | part@(.node .subexpression _ _ _ _) :: _ => operand part
  | parts => .ok (.literal (.string (nameOf parts)))

/-- What a tag prints: the value of a path, or what a call gives. The name of a helper alone is a call. -/
def printed (tag : Match) : Except Malformed Operand :=
  match Head.parts tag with
  | [] => .error (.noValue tag.text)
  | part :: rest =>
    if part.rule = .identifier then (arguments rest).map (callOf part.text)
    else if part.rule = .reference ∧ Helper.isName part.text then .ok (callOf part.text [])
    else operand part

end FieldTypes.Template
