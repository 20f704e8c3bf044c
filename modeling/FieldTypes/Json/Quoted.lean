import FieldTypes.Json.Fault

set_option autoImplicit false

namespace FieldTypes.Json.Quoted

def hexValue? (c : Char) : Option Nat :=
  if '0' ≤ c ∧ c ≤ '9' then some (c.toNat - 48)
  else if 'a' ≤ c ∧ c ≤ 'f' then some (c.toNat - 87)
  else if 'A' ≤ c ∧ c ≤ 'F' then some (c.toNat - 55)
  else none

/-- A code unit in four hexadecimal digits. A text of fewer than four bytes ends inside the string. -/
def codeUnit : List Char → Except Fault Nat
  | a :: b :: c :: d :: _ =>
    match hexValue? a, hexValue? b, hexValue? c, hexValue? d with
    | some a, some b, some c, some d => .ok (((a * 16 + b) * 16 + c) * 16 + d)
    | _, _, _, _ => .error .invalidEscape
  | rest =>
    if 4 ≤ (String.ofList rest).utf8ByteSize then .error .invalidEscape else .error .endInString

def isHighSurrogate (unit : Nat) : Bool := decide (0xD800 ≤ unit ∧ unit ≤ 0xDBFF)

def isLowSurrogate (unit : Nat) : Bool := decide (0xDC00 ≤ unit ∧ unit ≤ 0xDFFF)

/-- The character that a pair of surrogates stands for. -/
def joinSurrogates (high low : Nat) : Char :=
  Char.ofNat (0x10000 + (high - 0xD800) * 0x400 + (low - 0xDC00))

/-- The second half of a surrogate pair, after the digits of the first. -/
def lowSurrogate : List Char → Except Fault Nat
  | [] => .error .endInString
  | '\\' :: [] => .error .endInString
  | '\\' :: 'u' :: rest => do
    let unit ← codeUnit rest
    if isLowSurrogate unit then .ok unit else .error .loneSurrogate
  | _ => .error .unpairedSurrogate

/-- The character of an escape without digits. -/
def named? (c : Char) : Option Char :=
  if c = '"' ∨ c = '\\' ∨ c = '/' then some c
  else if c = 'b' then some '\x08'
  else if c = 'f' then some '\x0c'
  else if c = 'n' then some '\n'
  else if c = 'r' then some '\r'
  else if c = 't' then some '\t'
  else none

/-- The escape after a backslash: the character it stands for and how many characters spell it. -/
def escape : List Char → Except Fault (Char × Nat)
  | [] => .error .endInString
  | c :: rest =>
    if c = 'u' then do
      let unit ← codeUnit rest
      if isLowSurrogate unit then .error .loneSurrogate
      else if isHighSurrogate unit then do
        let low ← lowSurrogate (rest.drop 4)
        .ok (joinSurrogates unit low, 11)
      else .ok (Char.ofNat unit, 5)
    else
      match named? c with
      | some character => .ok (character, 1)
      | none => .error .invalidEscape

/-- Reads up to the closing quote. The first `skip` characters belong to an escape already read, and
`done` holds the characters of the string so far, the last one first. -/
def readFrom (done : List Char) : Nat → List Char → Except Fault (List Char × List Char)
  | _, [] => .error .endInString
  | skip + 1, _ :: rest => readFrom done skip rest
  | 0, c :: rest =>
    if c = '"' then .ok (done.reverse, rest)
    else if c = '\\' then
      match escape rest with
      | .error fault => .error fault
      | .ok (character, spelled) => readFrom (character :: done) spelled rest
    else if c.toNat < 0x20 then .error .controlCharacter
    else readFrom (c :: done) 0 rest

def read (text : List Char) : Except Fault (String × List Char) := do
  let (characters, rest) ← readFrom [] 0 text
  .ok (String.ofList characters, rest)

def encodeChar (c : Char) : List Char :=
  if c = '"' then ['\\', '"']
  else if c = '\\' then ['\\', '\\']
  else if c = '\x08' then ['\\', 'b']
  else if c = '\x0c' then ['\\', 'f']
  else if c = '\n' then ['\\', 'n']
  else if c = '\r' then ['\\', 'r']
  else if c = '\t' then ['\\', 't']
  else if c.toNat < 0x20 then
    ['\\', 'u', '0', '0', Nat.digitChar (c.toNat / 16), Nat.digitChar (c.toNat % 16)]
  else [c]

def encode (s : String) : List Char := '"' :: s.toList.flatMap encodeChar ++ ['"']

end FieldTypes.Json.Quoted
