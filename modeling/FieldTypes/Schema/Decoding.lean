import FieldTypes.Schema.Validity

set_option autoImplicit false

namespace FieldTypes

namespace Decoding

/-- The value of a key, unless it is absent or null. -/
def present? (members : Json.Members) (key : String) : Option Json :=
  match members.lookup key with
  | none => none
  | some .null => none
  | some value => some value

/-- An optional value, or the error of a wrong one. -/
def ofKind {α : Type} (entity : Entity) (key : String) (expected : Expected) :
    Option α → Except ParseError α
  | some value => .ok value
  | none => .error (.invalidValue entity key expected)

def membersOf (entity : Entity) (value : Json) : Except ParseError Json.Members :=
  match value.asObject? with
  | some members => .ok members
  | none => .error (.notAnObject entity)

def mandatory (members : Json.Members) (entity : Entity) (key : String) : Except ParseError Json :=
  match present? members key with
  | some value => .ok value
  | none => .error (.missingKey entity key)

def stringKey (members : Json.Members) (entity : Entity) (key : String) : Except ParseError String := do
  let value ← mandatory members entity key
  ofKind entity key .string value.asString?

def boolKey (members : Json.Members) (entity : Entity) (key : String) : Except ParseError Bool :=
  match present? members key with
  | none => .ok false
  | some value => ofKind entity key .boolean value.asBool?

/-- A text, or its lines in an array. -/
def linesValue? : Json → Option String
  | .string text => some text
  | .array lines => (lines.mapM Json.asString?).map (String.intercalate "\n")
  | _ => none

def docKey (members : Json.Members) (entity : Entity) : Except ParseError String :=
  match present? members "doc" with
  | none => .ok ""
  | some value => ofKind entity "doc" .lines (linesValue? value)

/-- An entry of a collection, with its key if the collection is an object. -/
abbrev Entry := Option String × Json

def entries? : Json → Option (List Entry)
  | .array items => some (items.map (none, ·))
  | .object members => some (members.map fun (key, value) => (some key, value))
  | _ => none

def entriesOf (entity : Entity) (key : String) (value : Json) : Except ParseError (List Entry) :=
  ofKind entity key .collection (entries? value)

/-- The name of an entry: its `name` key, which must agree with the key it stands under, or else that
key. -/
def nameOf (members : Json.Members) (key : Option String) (entity : Entity) : Except ParseError String :=
  match present? members "name", key with
  | some value, key => do
    let name ← ofKind entity "name" .string value.asString?
    match key with
    | none => .ok name
    | some key => if key = name then .ok name else .error (.invalidValue entity "name" (.matching key))
  | none, some key => .ok key
  | none, none => .error (.missingKey entity "name")

/-- Decodes entries in order, each with its position, up to the first error. -/
def each {α β : Type} (decode : Nat → α → Except ParseError β) (position : Nat) :
    List α → Except ParseError (List β)
  | [] => .ok []
  | entry :: rest => do
    let result ← decode position entry
    let results ← each decode (position + 1) rest
    .ok (result :: results)

def primitive (position : Nat) (entry : Entry) : Except ParseError Primitive := do
  let members ← membersOf (.primitiveAt position) entry.2
  let name ← nameOf members entry.1 (.primitiveAt position)
  let doc ← docKey members (.primitive name)
  .ok ⟨name, doc⟩

/-- The declared position of a param, by default the one it stands at. -/
def indexKey (members : Json.Members) (entity : Entity) (position : Nat) : Except ParseError Nat :=
  match present? members "index" with
  | none => .ok position
  | some value => ofKind entity "index" .natural value.asNat?

def requiredKey (members : Json.Members) (entity : Entity) : Except ParseError Bool :=
  match members.lookup "required" with
  | none => .error (.missingKey entity "required")
  | some value => ofKind entity "required" .boolean value.asBool?

def defaultDocKey (members : Json.Members) (entity : Entity) : Except ParseError (Option String) :=
  match present? members "default_value_doc" with
  | none => .ok none
  | some value => (ofKind entity "default_value_doc" .lines (linesValue? value)).map some

def param (type field : String) (position : Nat) (value : Json) : Except ParseError Param := do
  let members ← membersOf (.paramAt type field position) value
  let name ← nameOf members none (.paramAt type field position)
  let entity := Entity.param type field name
  let index ← indexKey members entity position
  let typeName ← stringKey members entity "type"
  let required ← requiredKey members entity
  let doc ← docKey members entity
  let defaultValueDoc ← defaultDocKey members entity
  .ok ⟨name, doc, index, typeName, required, present? members "default_value", defaultValueDoc⟩

def paramsKey (members : Json.Members) (type field : String) : Except ParseError (List Param) :=
  match present? members "params" with
  | none => .ok []
  | some value => do
    let items ← ofKind (.field type field) "params" .array value.asArray?
    each (param type field) 0 items

def field (type : String) (position : Nat) (entry : Entry) : Except ParseError Field := do
  let members ← membersOf (.fieldAt type position) entry.2
  let name ← nameOf members entry.1 (.fieldAt type position)
  let entity := Entity.field type name
  let returnType ← stringKey members entity "return_type"
  let doc ← docKey members entity
  let returnList ← boolKey members entity "return_list"
  let nullable ← boolKey members entity "null"
  let params ← paramsKey members type name
  .ok ⟨name, doc, returnType, returnList, nullable, params⟩

def type (position : Nat) (entry : Entry) : Except ParseError TypeDecl := do
  let members ← membersOf (.typeAt position) entry.2
  let name ← nameOf members entry.1 (.typeAt position)
  let doc ← docKey members (.type name)
  let value ← mandatory members (.type name) "fields"
  let entries ← entriesOf (.type name) "fields" value
  let fields ← each (field name) 0 entries
  .ok ⟨name, doc, fields⟩

def primitivesKey (members : Json.Members) : Except ParseError (List Primitive) :=
  match present? members "primitive_types" with
  | none => .ok []
  | some value => do
    let entries ← entriesOf .schema "primitive_types" value
    each primitive 0 entries

end Decoding

namespace Schema

/-- The schema that a document denotes, before its consistency is checked. -/
def ofDocument (document : Json) : Except ParseError Schema := do
  let members ← Decoding.membersOf .document document
  let rootType ← Decoding.stringKey members .schema "root_type"
  let primitives ← Decoding.primitivesKey members
  let value ← Decoding.mandatory members .schema "types"
  let entries ← Decoding.entriesOf .schema "types" value
  let types ← Decoding.each Decoding.type 0 entries
  .ok (ofDeclarations rootType primitives types)

/-- The consistent schema that a document denotes. -/
def ofJson (document : Json) : Except SchemaError Schema := do
  let schema ← (ofDocument document).mapError .parse
  schema.validate
  .ok schema

/-- The consistent schema that a text denotes. -/
def parse (text : String) : Except SchemaError Schema := do
  let document ← (Document.read text).mapError .ofDocumentFault
  ofJson document

end Schema

end FieldTypes
