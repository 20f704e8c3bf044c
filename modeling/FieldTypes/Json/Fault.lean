set_option autoImplicit false

namespace FieldTypes.Json

inductive Fault where
  | endInValue
  | endInArray
  | endInObject
  | endInString
  | expectedValue
  | expectedWord
  | expectedCommaOrBracket
  | expectedCommaOrBrace
  | expectedColon
  | keyNotString
  | trailingComma
  | trailingCharacters
  | tooDeep
  | controlCharacter
  | invalidEscape
  | loneSurrogate
  | unpairedSurrogate
  | invalidNumber
  | numberOutOfRange
  deriving DecidableEq, Repr, Inhabited

def Fault.message : Fault → String
  | .endInValue => "EOF while parsing a value"
  | .endInArray => "EOF while parsing a list"
  | .endInObject => "EOF while parsing an object"
  | .endInString => "EOF while parsing a string"
  | .expectedValue => "expected value"
  | .expectedWord => "expected ident"
  | .expectedCommaOrBracket => "expected `,` or `]`"
  | .expectedCommaOrBrace => "expected `,` or `\x7d`"
  | .expectedColon => "expected `:`"
  | .keyNotString => "key must be a string"
  | .trailingComma => "trailing comma"
  | .trailingCharacters => "trailing characters"
  | .tooDeep => "recursion limit exceeded"
  | .controlCharacter => "control character (\\u0000-\\u001F) found while parsing a string"
  | .invalidEscape => "invalid escape"
  | .loneSurrogate => "lone leading surrogate in hex escape"
  | .unpairedSurrogate => "unexpected end of hex escape"
  | .invalidNumber => "invalid number"
  | .numberOutOfRange => "number out of range"

end FieldTypes.Json
