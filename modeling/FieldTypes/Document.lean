import FieldTypes.Json.Reader

set_option autoImplicit false

namespace FieldTypes

inductive Kind where
  | primitiveType
  | type
  | field
  | param
  /-- A key of an object that is no collection of declarations. -/
  | key
  deriving DecidableEq, Repr, Inhabited

def Kind.label : Kind → String
  | .primitiveType => "primitive type"
  | .type => "type"
  | .field => "field"
  | .param => "param"
  | .key => "key"

/-- The kind of declarations that the collection under a key holds. -/
def Kind.ofCollection? (key : String) : Option Kind :=
  if key = "primitive_types" then some .primitiveType
  else if key = "types" then some .type
  else if key = "fields" then some .field
  else if key = "params" then some .param
  else none

/-- A key that stands twice in one object. -/
structure RepeatedKey where
  /-- Keys and array positions leading to the object. -/
  path : List String
  key : String
  deriving DecidableEq, Repr

namespace RepeatedKey

/-- Digits only, as an array position is spelled; so is the empty name. -/
def isPosition (segment : String) : Bool := segment.toList.all Char.isDigit

/-- The declarations that a path leads through, if it is made of collections and names in them. -/
def declarations? : List String → Option (List String)
  | [] => some []
  | [_] => none
  | collection :: name :: rest =>
    if isPosition name then none
    else do
      let kind ← Kind.ofCollection? collection
      let more ← declarations? rest
      some (s!"{kind.label} '{name}'" :: more)

def describe (path : List String) : String :=
  match path, declarations? path with
  | [], _ => "schema"
  | _, some declarations => " ".intercalate declarations
  | _, none => "'/" ++ "/".intercalate path ++ "'"

/-- What the key names: a declaration, if its object is a collection. -/
def kind (repeated : RepeatedKey) : Kind :=
  (repeated.path.getLast?.bind Kind.ofCollection?).getD .key

/-- Where the key stands: in the owner of its collection, or in its object itself. -/
def context (repeated : RepeatedKey) : String :=
  match repeated.path.getLast?.bind Kind.ofCollection? with
  | some _ => describe repeated.path.dropLast
  | none => describe repeated.path

end RepeatedKey

namespace Document

inductive Fault where
  | json (fault : Json.Fault)
  | repeated (key : RepeatedKey)
  deriving DecidableEq, Repr

/-- A part of the grammar that holds no keys. -/
def plainly {α : Type} : Except Json.Fault α → Except Fault α
  | .error fault => .error (.json fault)
  | .ok result => .ok result

mutual

/-- Reads the value at `path`, inside which `depth` more levels may be opened. -/
def value : Nat → Nat → List String → List Char → Except Fault (Json × List Char)
  | 0, _, _, _ => .error (.json .endInValue)
  | fuel + 1, depth, path, text =>
    match Json.Reader.skipBlank text with
    | '[' :: rest =>
      if depth = 0 then .error (.json .tooDeep)
      else
        match Json.Reader.firstElement rest with
        | .error fault => .error (.json fault)
        | .ok (.inr rest) => .ok (.array [], rest)
        | .ok (.inl rest) => do
          let (items, rest) ← elements fuel (depth - 1) path 0 rest
          .ok (.array items, rest)
    | '{' :: rest =>
      if depth = 0 then .error (.json .tooDeep)
      else
        match Json.Reader.firstMember rest with
        | .error fault => .error (.json fault)
        | .ok (.inr rest) => .ok (.object [], rest)
        | .ok (.inl rest) => do
          let (entries, rest) ← members fuel (depth - 1) path [] rest
          .ok (.object entries, rest)
    | text => plainly (Json.Reader.scalar text)

def elements : Nat → Nat → List String → Nat → List Char → Except Fault (List Json × List Char)
  | 0, _, _, _, _ => .error (.json .endInValue)
  | fuel + 1, depth, path, position, text => do
    let (item, rest) ← value fuel depth (path ++ [toString position]) text
    match Json.Reader.afterElement rest with
    | .error fault => .error (.json fault)
    | .ok (.inr rest) => .ok ([item], rest)
    | .ok (.inl rest) => do
      let (items, rest) ← elements fuel depth path (position + 1) rest
      .ok (item :: items, rest)

/-- Reads the members of the object at `path` that follow those with the keys `seen`. -/
def members : Nat → Nat → List String → List String → List Char → Except Fault (Json.Members × List Char)
  | 0, _, _, _, _ => .error (.json .endInValue)
  | fuel + 1, depth, path, seen, text => do
    let (key, rest) ← plainly (Json.Quoted.read text)
    if key ∈ seen then .error (.repeated ⟨path, key⟩)
    else do
      let rest ← plainly (Json.Reader.colon rest)
      let (item, rest) ← value fuel depth (path ++ [key]) rest
      match Json.Reader.afterMember rest with
      | .error fault => .error (.json fault)
      | .ok (.inr rest) => .ok ([(key, item)], rest)
      | .ok (.inl rest) => do
        let (entries, rest) ← members fuel depth path (key :: seen) rest
        .ok ((key, item) :: entries, rest)

end

/-- Reads a JSON text in which no object repeats a key. -/
def read (text : String) : Except Fault Json := do
  let characters := text.toList
  let (value, rest) ← value (Json.Reader.enough characters) Json.deepest [] characters
  plainly (Json.Reader.finish rest)
  .ok value

end Document

end FieldTypes
