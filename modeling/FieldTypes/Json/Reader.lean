import FieldTypes.Json.Numeral
import FieldTypes.Json.Quoted

set_option autoImplicit false

namespace FieldTypes.Json

/-- How many arrays and objects may be open at once. -/
def deepest : Nat := 127

namespace Reader

def isBlank (c : Char) : Bool := c == ' ' || c == '\t' || c == '\n' || c == '\r'

def skipBlank (text : List Char) : List Char := text.dropWhile isBlank

/-- Reads the remaining characters of a word that stands for `value`. -/
def word (value : Json) : List Char → List Char → Except Fault (Json × List Char)
  | [], rest => .ok (value, rest)
  | _ :: _, [] => .error .endInValue
  | expected :: more, c :: rest =>
    if c = expected then word value more rest else .error .expectedWord

def number (negative : Bool) (text : List Char) : Except Fault (Json × List Char) := do
  let (numeral, rest) ← Numeral.read negative text
  let value ← numeral.value
  .ok (.number value, rest)

def scalar : List Char → Except Fault (Json × List Char)
  | [] => .error .endInValue
  | c :: rest =>
    if c = 'n' then word .null ['u', 'l', 'l'] rest
    else if c = 't' then word (.bool true) ['r', 'u', 'e'] rest
    else if c = 'f' then word (.bool false) ['a', 'l', 's', 'e'] rest
    else if c = '"' then do
      let (text, rest) ← Quoted.read rest
      .ok (.string text, rest)
    else if c = '-' then number true rest
    else if c.isDigit then number false (c :: rest)
    else .error .expectedValue

def colon (text : List Char) : Except Fault (List Char) :=
  match skipBlank text with
  | [] => .error .endInObject
  | c :: rest => if c = ':' then .ok rest else .error .expectedColon

/-- After an element: the text of the next element, or what follows the closing bracket. -/
def afterElement (text : List Char) : Except Fault (List Char ⊕ List Char) :=
  match skipBlank text with
  | [] => .error .endInArray
  | c :: rest =>
    if c = ']' then .ok (.inr rest)
    else if c = ',' then
      match skipBlank rest with
      | [] => .error .endInValue
      | d :: more => if d = ']' then .error .trailingComma else .ok (.inl (d :: more))
    else .error .expectedCommaOrBracket

/-- After a member: the text after the next key's opening quote, or what follows the closing brace. -/
def afterMember (text : List Char) : Except Fault (List Char ⊕ List Char) :=
  match skipBlank text with
  | [] => .error .endInObject
  | c :: rest =>
    if c = '}' then .ok (.inr rest)
    else if c = ',' then
      match skipBlank rest with
      | [] => .error .endInValue
      | d :: more =>
        if d = '"' then .ok (.inl more)
        else if d = '}' then .error .trailingComma
        else .error .keyNotString
    else .error .expectedCommaOrBrace

/-- After an opening bracket: the text of the first element, or what follows the closing bracket. -/
def firstElement (text : List Char) : Except Fault (List Char ⊕ List Char) :=
  match skipBlank text with
  | [] => .error .endInArray
  | c :: rest => if c = ']' then .ok (.inr rest) else .ok (.inl (c :: rest))

/-- After an opening brace: the text after the first key's opening quote, or what follows the closing
brace. -/
def firstMember (text : List Char) : Except Fault (List Char ⊕ List Char) :=
  match skipBlank text with
  | [] => .error .endInObject
  | c :: rest =>
    if c = '}' then .ok (.inr rest)
    else if c = '"' then .ok (.inl rest)
    else .error .keyNotString

mutual

/-- Reads a value inside which `depth` more levels may be opened. -/
def value : Nat → Nat → List Char → Except Fault (Json × List Char)
  | 0, _, _ => .error .endInValue
  | fuel + 1, depth, text =>
    match skipBlank text with
    | '[' :: rest =>
      if depth = 0 then .error .tooDeep
      else
        match firstElement rest with
        | .error fault => .error fault
        | .ok (.inr rest) => .ok (.array [], rest)
        | .ok (.inl rest) => do
          let (items, rest) ← elements fuel (depth - 1) rest
          .ok (.array items, rest)
    | '{' :: rest =>
      if depth = 0 then .error .tooDeep
      else
        match firstMember rest with
        | .error fault => .error fault
        | .ok (.inr rest) => .ok (.object [], rest)
        | .ok (.inl rest) => do
          let (entries, rest) ← members fuel (depth - 1) rest
          .ok (.object entries, rest)
    | text => scalar text

/-- Reads the elements of an array from the first one to the closing bracket. -/
def elements : Nat → Nat → List Char → Except Fault (List Json × List Char)
  | 0, _, _ => .error .endInValue
  | fuel + 1, depth, text => do
    let (item, rest) ← value fuel depth text
    match afterElement rest with
    | .error fault => .error fault
    | .ok (.inr rest) => .ok ([item], rest)
    | .ok (.inl rest) => do
      let (items, rest) ← elements fuel depth rest
      .ok (item :: items, rest)

/-- Reads the members of an object from after the first key's opening quote to the closing brace. -/
def members : Nat → Nat → List Char → Except Fault (Members × List Char)
  | 0, _, _ => .error .endInValue
  | fuel + 1, depth, text => do
    let (key, rest) ← Quoted.read text
    let rest ← colon rest
    let (item, rest) ← value fuel depth rest
    match afterMember rest with
    | .error fault => .error fault
    | .ok (.inr rest) => .ok ([(key, item)], rest)
    | .ok (.inl rest) => do
      let (entries, rest) ← members fuel depth rest
      .ok ((key, item) :: entries, rest)

end

/-- Only blanks may follow a document. -/
def finish (text : List Char) : Except Fault Unit :=
  match skipBlank text with
  | [] => .ok ()
  | _ :: _ => .error .trailingCharacters

/-- Fuel that no reading of `text` uses up. -/
def enough (text : List Char) : Nat := 2 * text.length + 1

end Reader

/-- Reads a JSON text, keeping every member of every object. -/
def read (text : String) : Except Fault Json := do
  let characters := text.toList
  let (value, rest) ← Reader.value (Reader.enough characters) deepest characters
  Reader.finish rest
  .ok value

end FieldTypes.Json
