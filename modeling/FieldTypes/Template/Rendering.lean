import FieldTypes.Template.Render

set_option autoImplicit false

namespace FieldTypes.Template

/-- The templates that can be put in by their names. -/
abbrev Library := String → Option (List Node)

/-- How far a rendering has come. -/
structure Progress where
  /-- The parts that were defined on the way, the last one first. -/
  defined : List (String × List Node)
  /-- The template that is being rendered, until one of its parts is. -/
  current : Option String
  /-- Whether the text so far ends a line. -/
  lineEnded : Bool

/-- What surrounds the nodes that are rendered: the bodies of the inclusions around them, the innermost
first, how many of those are out of reach, and the blanks that indent a line. -/
structure Surroundings where
  bodies : List (List Node)
  skipped : Nat
  indent : String

/-- An inclusion with its name and its arguments evaluated. -/
structure Inclusion where
  name : String
  subject : Option Json
  named : Json.Members
  indent : String
  body : Option (List Node)

abbrev Rendering := StateT Progress (Except RenderFault)

/-- What becomes of an inclusion among some scopes. -/
abbrev Expansion := Surroundings → List Scope → Inclusion → Rendering String

namespace Surroundings

def outermost : Surroundings := ⟨[], 0, ""⟩

/-- The name under which the body of an inclusion is put in. -/
def bodyName : String := "@partial-block"

/-- The surroundings of what an inclusion puts in. A body that is put in does not see itself. -/
def inside (around : Surroundings) (inclusion : Inclusion) : Surroundings :=
  { bodies := inclusion.body.toList ++ around.bodies
    skipped := if inclusion.name = bodyName then around.skipped + 1 else around.skipped - 1
    indent := around.indent ++ inclusion.indent }

end Surroundings

namespace Inclusion

/-- What an inclusion is rendered over: the value that a path leads to. Other arguments do not count. -/
def subject? : List Operand → List Evaluated → Option Json
  | .path path :: _, argument :: _ =>
    match path.start with
    | .variable _ _ => none
    | .scope _ | .root => argument.value?
  | _, _ => none

/-- An object with more members; anything else gives way to them. -/
def extended (value : Json) (named : Json.Members) : Json :=
  .object (named.foldl (fun members item => Json.putMember item.1 item.2 members)
    (value.asObject?.getD []))

/-- The scopes of what is put in. A value that it is rendered over is all that it sees. -/
def scopes (inclusion : Inclusion) (outer : List Scope) : List Scope :=
  let seen := match inclusion.subject with
    | some value => [⟨value, [], []⟩]
    | none => outer
  if inclusion.named = [] then seen
  else (seen.take 1).map fun scope => { scope with value := extended scope.value inclusion.named }

/-- What an inclusion puts in, with its name if it is a template: a part that was defined, else the
template of the name, else its own body. -/
def part? (inclusion : Inclusion) (library : Library) (around : Surroundings) (progress : Progress) :
    Option (Option String × List Node) :=
  let own :=
    if inclusion.name = Surroundings.bodyName then around.bodies[around.skipped]?
    else progress.defined.lookup inclusion.name
  match own, library inclusion.name with
  | some nodes, _ => some (none, nodes)
  | none, some nodes => some (some inclusion.name, nodes)
  | none, none => inclusion.body.map fun nodes => (none, nodes)

end Inclusion

namespace Rendering

open Render

variable {α : Type}

def compute (result : Except RenderFailure α) : Rendering α := StateT.lift (unplaced result)

def fail (failure : RenderFailure) : Rendering α := compute (.error failure)

def located (position : Option Text.Position) (action : Rendering α) : Rendering α :=
  fun progress => placedAt position (action progress)

/-- Renders the nodes of a template, or of a part without a name. -/
def inTemplate (name : Option String) (action : Rendering α) : Rendering α := do
  modify fun progress => { progress with current := name }
  fun progress => (action progress).mapError (RenderFault.inTemplate name)

def isLineEnd (c : Char) : Bool := c == '\n' || c == '\r'

/-- Puts an indentation after every line feed but one at the end. -/
def indentLines (indent : List Char) : List Char → List Char
  | [] => []
  | ['\n'] => ['\n']
  | '\n' :: rest => '\n' :: (indent ++ indentLines indent rest)
  | c :: rest => c :: indentLines indent rest

/-- A text with its lines indented, the first one only where a line starts. -/
def indented (indent : String) (lineEnded : Bool) (text : String) : String :=
  let starts := lineEnded && (text.toList.head?.map isLineEnd) == some false
  (if starts then indent else "") ++ String.ofList (indentLines indent.toList text.toList)

def write (indent text : String) : Rendering String := do
  let progress ← get
  set { progress with lineEnded := (text.toList.getLast?.map isLineEnd).getD progress.lineEnded }
  return if indent = "" then text else indented indent progress.lineEnded text

/-- The decorator that defines a part. -/
def definition : String := "inline"

/-- Defines the body of a decorator as a part, under the text of its argument. -/
def define (root : Json) (scopes : List Scope) (name : String) (arguments : List Operand)
    (named : List (String × Operand)) (body : Option (List Node)) : Rendering Unit := do
  let arguments ← compute (evaluateAll root scopes arguments)
  let _ ← compute (evaluateNamed root scopes named)
  if name = definition then
    let argument ← compute (Operation.required definition arguments 0)
    match argument.value.asString?, body with
    | none, _ => fail .notAText
    | some _, none => fail .noBody
    | some part, some nodes =>
      modify fun progress => { progress with defined := (part, nodes) :: progress.defined }
  else fail (.unknownDecorator name)

/-- Defines the parts that a body defines outside of its own blocks. -/
def defineAll (root : Json) (scopes : List Scope) : List Node → Rendering Unit
  | [] => return ()
  | .decorator position name arguments named body :: rest => do
    located position (define root scopes name arguments named body)
    defineAll root scopes rest
  | _ :: rest => defineAll root scopes rest

section Nodes

variable (expand : Expansion) (root : Json) (around : Surroundings)

mutual

def node (scopes : List Scope) : Node → Rendering String
  | .text text => write around.indent text
  | .value position operand =>
    located position do
      let text ← compute (Render.printed root scopes operand)
      write around.indent text
  | .block position helper arguments named params body otherwise =>
    located position do
      let arguments ← compute (evaluateAll root scopes arguments)
      let named ← compute (evaluateNamed root scopes named)
      let call : Call := ⟨helper, arguments, named⟩
      match helper with
      | .choose sense =>
        let subject ← compute (call.subject "if")
        if call.holds sense subject then inTemplate none (nodes scopes body)
        else optional scopes otherwise
      | .each =>
        let subject ← compute (call.subject "each")
        match turns? params subject.value with
        | some (turn :: turns) =>
          repeated (fun scope => inTemplate none (nodes (scope :: scopes) body)) (turn :: turns)
        | some [] => optional scopes otherwise
        | none => orElse scopes subject.missing otherwise
      | .within =>
        let subject ← compute (call.subject "with")
        if subject.isTrue then inTemplate none (nodes (entered params subject.value :: scopes) body)
        else orElse scopes subject.missing otherwise
      | .verbatim => inTemplate none (nodes scopes body)
      | .log | .operation _ | .unknown _ =>
        let text ← compute (call.result.map display)
        write around.indent text
  | .inclusion position name arguments named indent body =>
    located position do
      let name ← compute (evaluate root scopes name)
      let given ← compute (evaluateAll root scopes arguments)
      let named ← compute (evaluateNamed root scopes named)
      defineAll root scopes (body.getD [])
      expand around scopes
        { name := display name.value
          subject := Inclusion.subject? arguments given
          named := named.map fun (key, value) => (key, value.value)
          indent := indent
          body := body }
  | .decorator position name arguments named body =>
    located position do
      define root scopes name arguments named body
      return ""

def nodes (scopes : List Scope) : List Node → Rendering String
  | [] => return ""
  | first :: rest => do
    let text ← node scopes first
    let more ← nodes scopes rest
    return text ++ more

def optional (scopes : List Scope) : Option (List Node) → Rendering String
  | none => return ""
  | some otherwise => inTemplate none (nodes scopes otherwise)

def orElse (scopes : List Scope) (failure : RenderFailure) : Option (List Node) → Rendering String
  | none => fail failure
  | some otherwise => inTemplate none (nodes scopes otherwise)

end

end Nodes

/-- Puts in what an inclusion asks for. What is put in may put in more, up to a depth; what it defines and
what it has come to is its own, but for the end of its text. -/
def expand (library : Library) (root : Json) : Nat → Expansion
  | 0 => fun _ _ _ => fail .tooDeep
  | depth + 1 => fun around scopes inclusion => do
    let before ← get
    if before.current = some inclusion.name then fail .includesItself
    else
      match inclusion.part? library around before with
      | none => fail (.unknownPartial inclusion.name)
      | some (template, part) =>
        let text ← inTemplate template
          (nodes (expand library root depth) root (around.inside inclusion) (inclusion.scopes scopes) part)
        modify fun after => { before with lineEnded := after.lineEnded }
        return text

/-- How deep inclusions may be nested. -/
def deepest : Nat := 1000

end Rendering

/-- Renders the template with a name over data. What it includes is looked up in a library. -/
def render (library : Library) (name : String) (template : List Node) (data : Json) :
    Except RenderFault String :=
  let expand := Rendering.expand library data Rendering.deepest
  (Rendering.inTemplate (some name) (Rendering.nodes expand data .outermost [⟨data, [], []⟩] template)).run'
    ⟨[], none, false⟩

end FieldTypes.Template
