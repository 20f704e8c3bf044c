import FieldTypes.Template.Grammar
import FieldTypes.Text.Position
import FieldTypes.Text.Visible

set_option autoImplicit false

namespace FieldTypes.Template

/-- Why a text is not a template. -/
inductive Malformed where
  /-- What the grammar expected at the furthest place, and what it found there but refuses. -/
  | ungrammatical (expected unexpected : List Rule)
  | mismatched (opened closed : String)
  | mismatchedDecorator (opened closed : String)
  /-- A literal that the grammar takes and that has no value. -/
  | noValue (literal : String)
  deriving DecidableEq, Repr

def alternatives : List String → String
  | [] => ""
  | [label] => label
  | [first, last] => first ++ " or " ++ last
  | label :: next :: rest =>
    ", ".intercalate ((label :: next :: rest).dropLast) ++ ", or " ++
      ((label :: next :: rest).getLast?.getD "")

namespace Malformed

def ofAttempts (attempts : Grammar.Attempts Rule) : Malformed :=
  .ungrammatical (Rule.all.filter (attempts.expected.contains ·))
    (Rule.all.filter (attempts.unexpected.contains ·))

def attempted (expected unexpected : List Rule) : String :=
  let labels (rules : List Rule) : String := alternatives (rules.map Rule.label)
  match unexpected, expected with
  | [], [] => "unknown parsing error"
  | [], _ => s!"expected {labels expected}"
  | _, [] => s!"unexpected {labels unexpected}"
  | _, _ => s!"unexpected {labels unexpected}; expected {labels expected}"

def message : Malformed → String
  | .ungrammatical expected unexpected =>
    s!"Template error: invalid handlebars syntax: {attempted expected unexpected}"
  | .mismatched opened closed =>
    s!"Template error: helper {Text.visible opened} was opened, but {Text.visible closed} is closing"
  | .mismatchedDecorator opened closed =>
    s!"Template error: decorator {Text.visible opened} was opened, but {Text.visible closed} is closing"
  | .noValue literal => s!"invalid parameter {Text.visible literal}"

end Malformed

/-- Why a part of a template cannot be rendered. -/
inductive RenderFailure where
  /-- There is no value; the path that should lead to it, if there is one. -/
  | missing (path : Option String)
  /-- A key of an array that is no position. -/
  | notAPosition (key : String)
  | noArgument (helper : String) (index : Nat)
  | noParam (helper name : String)
  | notAnInteger (helper name : String)
  | unknownHelper (name : String)
  | unknownLevel (name : String)
  | unknownPartial (name : String)
  | unknownDecorator (name : String)
  /-- A template that includes itself outside of its parts. -/
  | includesItself
  /-- Inclusions within inclusions without end. -/
  | tooDeep
  /-- A part that is to be defined under something else than a text. -/
  | notAText
  /-- A part that is to be defined without a body. -/
  | noBody
  deriving DecidableEq, Repr

namespace RenderFailure

def message : RenderFailure → String
  | .missing none => "Failed to access variable in strict mode None"
  | .missing (some path) =>
    s!"Failed to access variable in strict mode Some({Text.visible path})"
  | .notAPosition key => s!"Cannot access array/vector with string index, {key}"
  | .noArgument helper index =>
    s!"Helper/Decorator {helper} param at index {index} required but not found"
  | .noParam helper name => s!"Helper/Decorator {helper} param with name {name} required but not found"
  | .notAnInteger helper name =>
    s!"Helper/Decorator {helper} param with name {name} type mismatch for i64"
  | .unknownHelper name => s!"Helper not found {name}"
  | .unknownLevel name => s!"Invalid logging level: {name}"
  | .unknownPartial name => s!"Partial not found {name}"
  | .unknownDecorator name => s!"Decorator not found {name}"
  | .includesItself => "Can not include current template in partial"
  | .tooDeep => "Partials are nested too deeply"
  | .notAText => "Invalid param type, String expected"
  | .noBody => "Block content required"

end RenderFailure

/-- A failure with the place of the part that failed and the template that the part stands in. -/
structure RenderFault where
  template : Option String
  position : Option Text.Position
  failure : RenderFailure
  deriving DecidableEq, Repr

namespace RenderFault

/-- A fault without a place gets the place of what surrounds it. -/
def within (position : Option Text.Position) (fault : RenderFault) : RenderFault :=
  if fault.position.isNone then { fault with position := position } else fault

/-- A fault in a part without a name gets the template around it. -/
def inTemplate (name : Option String) (fault : RenderFault) : RenderFault :=
  if fault.template.isNone then { fault with template := name } else fault

def message (fault : RenderFault) : String :=
  match fault.position with
  | none => fault.failure.message
  | some position =>
    let name := fault.template.getD "Unnamed template"
    s!"Error rendering \"{name}\" line {position.line}, col {position.column}: " ++
      fault.failure.message

end RenderFault

end FieldTypes.Template
