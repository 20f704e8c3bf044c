import FieldTypes.Catalog.Basic
import FieldTypes.Schema.Decoding

set_option autoImplicit false

namespace FieldTypes.Catalog

def renderType (catalog : Catalog) (context : Context) (template name : String) :
    Except Generation.Error String := do
  match ← catalog.scope template with
  | .schema => .error (.config (.rendersSchema template))
  | .type =>
    match context.resolved.getType? name with
    | none => .error (.render template (typeLabel name) .noSuchType)
    | some type => catalog.render template (context.withTarget type)

def renderSchema (catalog : Catalog) (context : Context) (template : String) :
    Except Generation.Error String := do
  match ← catalog.scope template with
  | .type => .error (.config (.rendersType template))
  | .schema => catalog.render template context

/-- Renders a per-type template for every type, up to the first failure. -/
def renderAll (catalog : Catalog) (context : Context) (template : String) :
    Except Generation.Error (List (String × String)) :=
  context.resolved.types.mapM fun type => do
    let text ← catalog.renderType context template type.name
    .ok (type.name, text)

/-- Renders a standard per-type template for a type of the schema that a text denotes. -/
def renderText (document template name : String) : Except Generation.Error String := do
  let schema ← (Schema.parse document).mapError .schema
  standard.renderType (.ofSchema schema .standard) template name

end FieldTypes.Catalog
