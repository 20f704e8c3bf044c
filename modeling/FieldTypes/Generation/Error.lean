import FieldTypes.Schema.Error
import FieldTypes.Template.Fault

set_option autoImplicit false

namespace FieldTypes.Generation

/-- Why a template could not be rendered. -/
inductive RenderCause where
  | noSuchType
  | noTypeBound
  | fault (fault : Template.RenderFault)
  deriving DecidableEq, Repr

def RenderCause.message : RenderCause → String
  | .noSuchType => "no such type in schema"
  | .noTypeBound => "no type bound to render"
  | .fault inner => inner.message

/-- What is wrong with the settings of a run. -/
inductive ConfigFault where
  | noArtifacts
  /-- A whole-schema template was asked to render a type. -/
  | rendersSchema (template : String)
  /-- A per-type template was asked to render the whole schema. -/
  | rendersType (template : String)
  | notOnePlaceholder (pattern template : String) (found : Nat)
  | anyPlaceholder (pattern template : String)
  | unreadableDirectory (path : String) (cause : Store.Fault)
  deriving DecidableEq, Repr

def ConfigFault.message : ConfigFault → String
  | .noArtifacts => "no artifacts to generate"
  | .rendersSchema template => s!"template '{template}' renders the whole schema, not a type"
  | .rendersType template => s!"template '{template}' renders one type, not the whole schema"
  | .notOnePlaceholder pattern template found =>
    s!"output pattern '{pattern}' for per-type template '{template}' must contain exactly one '%s', " ++
      s!"found {found}"
  | .anyPlaceholder pattern template =>
    s!"output pattern '{pattern}' for whole-schema template '{template}' must not contain '%s'"
  | .unreadableDirectory path cause =>
    s!"cannot read template directory '{path}': {cause.message}"

inductive Error where
  | schema (error : SchemaError)
  /-- The template, what it was rendered for, and why that failed. -/
  | render (template target : String) (cause : RenderCause)
  | malformed (template : String) (cause : Template.Malformed)
  | unknownTemplate (name : String)
  | write (path : String) (cause : Store.Fault)
  | config (fault : ConfigFault)
  deriving DecidableEq, Repr

def Error.message : Error → String
  | .schema error => s!"schema error: {error.message}"
  | .render template target cause => s!"template '{template}' failed for {target}: {cause.message}"
  | .malformed template cause => s!"invalid template '{template}': {cause.message}"
  | .unknownTemplate name => s!"unknown template '{name}'"
  | .write path cause => s!"failed to write '{path}': {cause.message}"
  | .config fault => s!"invalid configuration: {fault.message}"

end FieldTypes.Generation
