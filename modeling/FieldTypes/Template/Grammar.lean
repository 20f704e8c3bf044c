import FieldTypes.Grammar.Reading

set_option autoImplicit false

namespace FieldTypes.Template

/-- The rules that messages name, in the order in which they name them. -/
inductive Rule where
  | endOfText
  | keywords
  | escape
  | rawText
  | rawBlockText
  | literal
  | nullLiteral
  | booleanLiteral
  | numberLiteral
  | doubleQuotedChar
  | singleQuotedChar
  | doubleQuotedInner
  | singleQuotedInner
  | stringLiteral
  | arrayLiteral
  | objectLiteral
  | identifier
  | partialIdentifier
  | reference
  | param
  | hash
  | blockParam
  | subexpression
  | leadingTilde
  | trailingTilde
  | expression
  | htmlExpression
  | decoratorExpression
  | partialExpression
  | elseWord
  | elseTag
  | elseCall
  | blockStart
  | blockEnd
  | decoratorBlockStart
  | decoratorBlockEnd
  | partialBlockStart
  | partialBlockEnd
  | rawBlockStart
  | rawBlockEnd
  | comment
  | compactComment
  | template
  | pathId
  | pathRawId
  | pathUp
  | pathRoot
  | pathLocal
  | pathInline
  deriving DecidableEq, Repr

namespace Rule

def label : Rule → String
  | .endOfText => "EOI"
  | .keywords => "keywords"
  | .escape => "escape"
  | .rawText => "raw_text"
  | .rawBlockText => "raw_block_text"
  | .literal => "literal"
  | .nullLiteral => "null_literal"
  | .booleanLiteral => "boolean_literal"
  | .numberLiteral => "number_literal"
  | .doubleQuotedChar => "json_char_double_quote"
  | .singleQuotedChar => "json_char_single_quote"
  | .doubleQuotedInner => "string_inner_double_quote"
  | .singleQuotedInner => "string_inner_single_quote"
  | .stringLiteral => "string_literal"
  | .arrayLiteral => "array_literal"
  | .objectLiteral => "object_literal"
  | .identifier => "identifier"
  | .partialIdentifier => "partial_identifier"
  | .reference => "reference"
  | .param => "param"
  | .hash => "hash"
  | .blockParam => "block_param"
  | .subexpression => "subexpression"
  | .leadingTilde => "leading_tilde_to_omit_whitespace"
  | .trailingTilde => "trailing_tilde_to_omit_whitespace"
  | .expression => "expression"
  | .htmlExpression => "html_expression"
  | .decoratorExpression => "decorator_expression"
  | .partialExpression => "partial_expression"
  | .elseWord => "invert_tag_item"
  | .elseTag => "invert_tag"
  | .elseCall => "invert_chain_tag"
  | .blockStart => "helper_block_start"
  | .blockEnd => "helper_block_end"
  | .decoratorBlockStart => "decorator_block_start"
  | .decoratorBlockEnd => "decorator_block_end"
  | .partialBlockStart => "partial_block_start"
  | .partialBlockEnd => "partial_block_end"
  | .rawBlockStart => "raw_block_start"
  | .rawBlockEnd => "raw_block_end"
  | .comment => "hbs_comment"
  | .compactComment => "hbs_comment_compact"
  | .template => "template"
  | .pathId => "path_id"
  | .pathRawId => "path_raw_id"
  | .pathUp => "path_up"
  | .pathRoot => "path_root"
  | .pathLocal => "path_local"
  | .pathInline => "path_inline"

def all : List Rule :=
  [ .endOfText, .keywords, .escape, .rawText, .rawBlockText, .literal, .nullLiteral,
    .booleanLiteral, .numberLiteral, .doubleQuotedChar, .singleQuotedChar, .doubleQuotedInner,
    .singleQuotedInner, .stringLiteral, .arrayLiteral, .objectLiteral, .identifier,
    .partialIdentifier, .reference, .param, .hash, .blockParam, .subexpression, .leadingTilde,
    .trailingTilde, .expression, .htmlExpression, .decoratorExpression, .partialExpression,
    .elseWord, .elseTag, .elseCall, .blockStart, .blockEnd, .decoratorBlockStart,
    .decoratorBlockEnd, .partialBlockStart, .partialBlockEnd, .rawBlockStart, .rawBlockEnd,
    .comment, .compactComment, .template, .pathId, .pathRawId, .pathUp, .pathRoot, .pathLocal,
    .pathInline ]

def kind : Rule → RuleKind
  | .rawText | .rawBlockText | .stringLiteral | .reference | .pathInline => .joined
  | .escape | .nullLiteral | .booleanLiteral | .numberLiteral | .doubleQuotedInner
  | .singleQuotedInner | .identifier | .partialIdentifier | .pathId => .atomic
  | _ => .plain

def word (text : String) : Pattern Rule := .word text.toList

def openBraces : Pattern Rule := .word ['{', '{']

def closeBraces : Pattern Rule := .word ['}', '}']

def isWordChar (c : Char) : Bool :=
  c.isAlphanum || c == '_' || c == '-' || c == '$' || decide (0x80 ≤ c.toNat)

def wordChar : Pattern Rule := .character isWordChar

def pathSeparator : Pattern Rule := .oneOf [word "/", word "."]

def digit : Pattern Rule := .character Char.isDigit

def isHexDigit (c : Char) : Bool :=
  c.isDigit || (decide ('a' ≤ c) && decide (c ≤ 'f')) || (decide ('A' ≤ c) && decide (c ≤ 'F'))

def hexDigit : Pattern Rule := .character isHexDigit

/-- A character of a quoted text, or an escape. -/
def quotedChar (quote : String) : Pattern Rule :=
  .oneOf
    [ .otherThan (.oneOf [word quote, word "\\"])
    , .sequence (word "\\") (.oneOf
        [ word quote, word "\\", word "/", word "b", word "f", word "n", word "r", word "t" ])
    , .all [word "\\", word "u", hexDigit, hexDigit, hexDigit, hexDigit] ]

/-- A backslash that keeps the braces after it as text, or backslashes before a tag. -/
def escapePattern : Pattern Rule :=
  .oneOf
    [ .all [word "\\", openBraces, .optional openBraces]
    , .all [word "\\", .oneOrMore (word "\\"), .ahead openBraces] ]

/-- A list between two marks; the first item may be missing. -/
def listPattern (opening : String) (item : Pattern Rule) (closing : String) : Pattern Rule :=
  .all
    [ .word opening.toList, .optional item, .many (.sequence (word ",") item), .word closing.toList ]

def numberPattern : Pattern Rule :=
  .all
    [ .optional (word "-"), .oneOrMore digit, .optional (word "."), .many digit
    , .optional (.all [word "E", .optional (word "-"), .oneOrMore digit]), .notAhead wordChar ]

/-- A word, or anything between brackets or single quotes. -/
def partialIdentifierPattern : Pattern Rule :=
  .oneOf
    [ .oneOrMore (.oneOf [wordChar, word "/", word "."])
    , .all [word "[", .oneOrMore .anyCharacter, word "]"]
    , .all
        [ word "\'", .oneOrMore (.sequence (.notAhead (word "\'"))
            (.oneOf [word "\\\'", .anyCharacter])), word "\'" ] ]

def pathItem : Pattern Rule :=
  .oneOf [.rule .pathId, .all [word "[", .rule .pathRawId, word "]"]]

/-- Keys between separators, after steps outward or a start of its own. -/
def pathPattern : Pattern Rule :=
  .all
    [ .many (.oneOf [.sequence (word "this") pathSeparator, word "./"])
    , .optional (.sequence (.rule .pathRoot) pathSeparator)
    , .optional (.rule .pathLocal)
    , .many (.sequence (.rule .pathUp) pathSeparator)
    , pathItem
    , .many (.sequence pathSeparator pathItem) ]

def name : Pattern Rule := .oneOf [.rule .subexpression, .rule .reference]

def argument : Pattern Rule := .oneOf [.rule .hash, .rule .param]

def call : Pattern Rule := .sequence (.rule .identifier) (.oneOrMore argument)

def callOrName : Pattern Rule := .oneOf [call, name]

/-- What the start of a block says: a helper, its arguments, and names for what it gives. -/
def head : Pattern Rule :=
  .all [.rule .identifier, .many argument, .optional (.rule .blockParam)]

def partialHead : Pattern Rule :=
  .sequence (.oneOf [.rule .partialIdentifier, name]) (.many argument)

/-- A tag between two marks, with a mark of its own before its content. -/
def tagBetween (opening closing mark : List Char) (content : List (Pattern Rule)) : Pattern Rule :=
  .all ([.word opening, .optional (.rule .leadingTilde)] ++ (if mark = [] then [] else [.word mark]) ++
    content ++ [.optional (.rule .trailingTilde), .word closing])

def tag (mark : List Char) (content : List (Pattern Rule)) : Pattern Rule :=
  tagBetween ['{', '{'] ['}', '}'] mark content

def rawTag (mark : List Char) (content : List (Pattern Rule)) : Pattern Rule :=
  tagBetween ['{', '{', '{', '{'] ['}', '}', '}', '}'] mark content

/-- A value between three braces, with the tilde outside or inside the third. -/
def tripleTag : Pattern Rule :=
  .oneOf
    [ tagBetween ['{', '{', '{'] ['}', '}', '}'] [] [callOrName]
    , .all
        [ openBraces, .optional (.rule .leadingTilde), word "\x7b", callOrName, word "\x7d"
        , .optional (.rule .trailingTilde), closeBraces ] ]

def block : Pattern Rule :=
  .all
    [ .rule .blockStart, .rule .template
    , .many (.sequence (.rule .elseCall) (.rule .template))
    , .optional (.sequence (.rule .elseTag) (.rule .template)), .rule .blockEnd ]

def rawBlock : Pattern Rule := .all [.rule .rawBlockStart, .rule .rawBlockText, .rule .rawBlockEnd]

def decoratorBlock : Pattern Rule :=
  .all [.rule .decoratorBlockStart, .rule .template, .rule .decoratorBlockEnd]

def partialBlock : Pattern Rule :=
  .all [.rule .partialBlockStart, .rule .template, .rule .partialBlockEnd]

def pattern : Rule → Pattern Rule
  | .endOfText => .finish
  | .keywords => .oneOf [word "as", word "else"]
  | .escape => escapePattern
  | .rawText => .oneOrMore (.choice (.rule .escape) (.otherThan openBraces))
  | .rawBlockText => .many (.choice (.rule .escape) (.otherThan (.word ['{', '{', '{', '{'])))
  | .literal =>
    .oneOf
      [ .rule .stringLiteral, .rule .arrayLiteral, .rule .objectLiteral, .rule .numberLiteral
      , .rule .nullLiteral, .rule .booleanLiteral ]
  | .nullLiteral => .sequence (word "null") (.notAhead wordChar)
  | .booleanLiteral => .sequence (.oneOf [word "true", word "false"]) (.notAhead wordChar)
  | .numberLiteral => numberPattern
  | .doubleQuotedChar => quotedChar "\""
  | .singleQuotedChar => quotedChar "\'"
  | .doubleQuotedInner => .many (.rule .doubleQuotedChar)
  | .singleQuotedInner => .many (.rule .singleQuotedChar)
  | .stringLiteral =>
    .oneOf
      [ .all [word "\"", .rule .doubleQuotedInner, word "\""]
      , .all [word "\'", .rule .singleQuotedInner, word "\'"] ]
  | .arrayLiteral => listPattern "[" (.rule .literal) "]"
  | .objectLiteral =>
    listPattern "\x7b" (.all [.rule .stringLiteral, word ":", .rule .literal]) "\x7d"
  | .identifier => .oneOrMore wordChar
  | .partialIdentifier => partialIdentifierPattern
  | .reference => .rule .pathInline
  | .param =>
    .sequence (.notAhead (.sequence (.rule .keywords) (.notAhead wordChar)))
      (.oneOf [.rule .literal, .rule .reference, .rule .subexpression])
  | .hash => .all [.rule .identifier, word "=", .rule .param]
  | .blockParam =>
    .all
      [ word "as", word "|", .rule .identifier, .optional (.rule .identifier), word "|" ]
  | .subexpression => .all [word "(", .oneOf [call, .rule .reference], word ")"]
  | .leadingTilde => word "~"
  | .trailingTilde => word "~"
  | .expression =>
    .sequence (.notAhead (.oneOf [.rule .elseTag, .rule .elseCall])) (tag [] [callOrName])
  | .htmlExpression => .oneOf [tripleTag, tag ['&'] [name]]
  | .decoratorExpression => tag ['*'] [head]
  | .partialExpression => tag ['>'] [partialHead]
  | .elseWord => .oneOf [word "else", word "^"]
  | .elseTag => .sequence (.notAhead (.rule .escape)) (tag [] [.rule .elseWord])
  | .elseCall => .sequence (.notAhead (.rule .escape)) (tag [] [.rule .elseWord, head])
  | .blockStart => tag ['#'] [head]
  | .blockEnd => tag ['/'] [.rule .identifier]
  | .decoratorBlockStart => tag ['#'] [word "*", head]
  | .decoratorBlockEnd => tag ['/'] [.rule .identifier]
  | .partialBlockStart => tag ['#'] [word ">", partialHead]
  | .partialBlockEnd => tag ['/'] [.rule .partialIdentifier]
  | .rawBlockStart => rawTag [] [head]
  | .rawBlockEnd => rawTag ['/'] [.rule .identifier]
  | .comment =>
    .all
      [ .word ['{', '{', '!'], word "--", .many (.otherThan (.word ['-', '-', '}', '}'])), word "--"
      , closeBraces ]
  | .compactComment => .all [.word ['{', '{', '!'], .many (.otherThan closeBraces), closeBraces]
  | .template =>
    .many (.oneOf
      [ .rule .rawText, .rule .expression, .rule .htmlExpression, block, rawBlock, .rule .comment
      , .rule .compactComment, .rule .decoratorExpression, decoratorBlock, .rule .partialExpression
      , partialBlock ])
  | .pathId => .oneOrMore wordChar
  | .pathRawId => .many (.otherThan (word "]"))
  | .pathUp => word ".."
  | .pathRoot => word "@root"
  | .pathLocal => word "@"
  | .pathInline => pathPattern

end Rule

/-- A match of a rule in a template. -/
abbrev Match := Tree Rule

def isBlank (c : Char) : Bool := c == ' ' || c == '\t' || c == '\n' || c == '\r'

def grammar : Grammar Rule := ⟨Rule.kind, Rule.pattern, isBlank⟩

end FieldTypes.Template
