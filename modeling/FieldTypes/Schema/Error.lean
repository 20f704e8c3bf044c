import FieldTypes.Document
import FieldTypes.Store.Fault

set_option autoImplicit false

namespace FieldTypes

/-- A place in a schema document. -/
inductive Entity where
  | document
  | schema
  | primitive (name : String)
  | type (name : String)
  | field (owner name : String)
  | param (owner parent name : String)
  | primitiveAt (position : Nat)
  | typeAt (position : Nat)
  | fieldAt (owner : String) (position : Nat)
  | paramAt (owner parent : String) (position : Nat)
  deriving DecidableEq, Repr

def Entity.label : Entity → String
  | .document => "schema document"
  | .schema => "schema"
  | .primitive name => s!"primitive type '{name}'"
  | .type name => s!"type '{name}'"
  | .field owner name => s!"type '{owner}' field '{name}'"
  | .param owner parent name => s!"type '{owner}' field '{parent}' param '{name}'"
  | .primitiveAt position => s!"primitive_types[{position}]"
  | .typeAt position => s!"types[{position}]"
  | .fieldAt owner position => s!"type '{owner}' fields[{position}]"
  | .paramAt owner parent position => s!"type '{owner}' field '{parent}' params[{position}]"

/-- What the value of a key must be. -/
inductive Expected where
  | string
  | boolean
  | natural
  | array
  /-- An array of entries or an object of entries under their names. -/
  | collection
  /-- A text, or its lines in an array. -/
  | lines
  /-- The name that the entry already has in its collection. -/
  | matching (key : String)
  deriving DecidableEq, Repr

def Expected.label : Expected → String
  | .string => "a string"
  | .boolean => "a boolean"
  | .natural => "a non-negative integer"
  | .array => "an array"
  | .collection => "an array or an object keyed by name"
  | .lines => "a string or an array of strings"
  | .matching key => s!"'{key}' to match its key"

/-- Why a document could not be taken apart into declarations. -/
inductive ParseError where
  | json (fault : Json.Fault)
  | unreadable (path : String) (cause : Store.Fault)
  | missingKey (entity : Entity) (key : String)
  | invalidValue (entity : Entity) (key : String) (expected : Expected)
  | notAnObject (entity : Entity)
  deriving DecidableEq, Repr

def ParseError.message : ParseError → String
  | .json fault => s!"JSON parsing error: {fault.message}"
  | .unreadable path cause => s!"failed to read schema '{path}': {cause.message}"
  | .missingKey entity key => s!"missing required key '{key}' on {entity.label}"
  | .invalidValue entity key expected =>
    s!"invalid value for key '{key}' on {entity.label}: expected {expected.label}"
  | .notAnObject entity => s!"invalid schema structure: {entity.label} must be a JSON object"

/-- Why a document is not a schema. -/
inductive SchemaError where
  | parse (error : ParseError)
  /-- Something declared twice; the context says where. -/
  | duplicate (kind : Kind) (name context : String)
  | unknownType (name : String) (referencedBy : Entity)
  | unknownRoot (name : String)
  | indexMismatch (entity : Entity) (declared position : Nat)
  | requiredWithDefault (entity : Entity)
  | invalidIdentifier (entity : Entity) (name : String)
  deriving DecidableEq, Repr

namespace SchemaError

def message : SchemaError → String
  | .parse error => s!"parse error: {error.message}"
  | .duplicate kind name context => s!"duplicate {kind.label} definition '{name}' in {context}"
  | .unknownType name referencedBy => s!"unknown type '{name}' referenced by {referencedBy.label}"
  | .unknownRoot name => s!"root type '{name}' is not a declared type"
  | .indexMismatch entity declared position =>
    s!"{entity.label} declares index {declared} but is at position {position}"
  | .requiredWithDefault entity => s!"{entity.label} is required but declares a default value"
  | .invalidIdentifier entity name => s!"invalid identifier '{name}' for {entity.label}"

def ofRepeatedKey (repeated : RepeatedKey) : SchemaError :=
  .duplicate repeated.kind repeated.key repeated.context

def ofDocumentFault : Document.Fault → SchemaError
  | .json fault => .parse (.json fault)
  | .repeated key => ofRepeatedKey key

end SchemaError

end FieldTypes
