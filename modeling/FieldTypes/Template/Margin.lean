import FieldTypes.Template.Piece

set_option autoImplicit false

namespace FieldTypes.Template.Margin

def isSpace (c : Char) : Bool := c == ' ' || c == '\t'

def isLineEnd (c : Char) : Bool := c == '\n' || c == '\r'

/-- The ranges of characters that a tilde takes. -/
def whiteRanges : List (Nat × Nat) :=
  [ (0x9, 0xD), (0x20, 0x20), (0x85, 0x85), (0xA0, 0xA0), (0x1680, 0x1680), (0x2000, 0x200A)
  , (0x2028, 0x2029), (0x202F, 0x202F), (0x205F, 0x205F), (0x3000, 0x3000) ]

def isWhite (c : Char) : Bool :=
  whiteRanges.any fun (first, last) => decide (first ≤ c.toNat ∧ c.toNat ≤ last)

def dropEnd (test : Char → Bool) (characters : List Char) : List Char :=
  (characters.reverse.dropWhile test).reverse

def dropLine (characters : List Char) : List Char :=
  match characters.dropWhile isSpace with
  | '\r' :: '\n' :: rest => rest
  | '\n' :: rest => rest
  | rest => rest

/-- Tags that print something stay on their line. -/
def canStandAlone (rule : Rule) : Bool := rule != .expression && rule != .htmlExpression

def isComment (rule : Rule) : Bool := rule == .comment || rule == .compactComment

def hasTilde (tilde : Rule) (tag : Match) : Bool := tag.children.any (·.rule == tilde)

/-- Whether the line that some pieces continue holds nothing but blanks and then ends. -/
def endsBlank : List Piece → Bool
  | .text characters :: _ | .verbatim characters :: _ =>
    ((characters.dropWhile isSpace).head?.map isLineEnd).getD false
  | _ => false

/-- Whether the line after a text holds nothing but blanks so far, if that was so before the text. -/
def leavesBlank (blank : Bool) (characters : List Char) : Bool :=
  match characters.reverse.dropWhile isSpace with
  | [] => blank
  | c :: _ => isLineEnd c

/-- Whether a tag with what follows it stands alone on its line, which is blank so far or not. -/
def standsAlone (blank : Bool) (tag : Match) (rest : List Piece) : Bool :=
  canStandAlone tag.rule && blank && endsBlank rest

/-- What is left of a text that a tag may follow. -/
def beforeTag (blank : Bool) (characters : List Char) : List Piece → List Char
  | .tag _ tag :: rest =>
    let kept := if hasTilde .leadingTilde tag then dropEnd isWhite characters else characters
    if standsAlone blank tag rest then dropEnd isSpace kept else kept
  | _ => characters

/-- What the tags before leave to take from the text that comes next. -/
structure Pending where
  /-- A tilde: everything white. -/
  white : Bool
  /-- A standalone tag: the rest of its line. -/
  line : Bool
  deriving DecidableEq, Repr

namespace Pending

def none : Pending := ⟨false, false⟩

def apply (pending : Pending) (characters : List Char) : List Char :=
  if pending.white then characters.dropWhile isWhite
  else if pending.line then dropLine characters
  else characters

/-- What is still pending after a text. Blanks between two tags do not end a line that is to be taken if a
tilde has taken them before. -/
def afterText (pending : Pending) (characters : List Char) : Pending :=
  if pending.white && characters.all isBlank then pending else { pending with line := false }

def afterTag (pending : Pending) (tag : Match) (alone : Bool) : Pending :=
  { white := if isComment tag.rule then pending.white else hasTilde .trailingTilde tag
    line := if canStandAlone tag.rule then alone else pending.line }

end Pending

/-- Takes from every text what the tags around it take. `blank` says that the current line holds nothing
but blanks so far. -/
def settle (blank : Bool) (pending : Pending) : List Piece → List Piece
  | [] => []
  | .tag position tag :: rest =>
    .tag position tag :: settle false (pending.afterTag tag (standsAlone blank tag rest)) rest
  | .text characters :: rest =>
    let after := leavesBlank blank characters
    .text (beforeTag after (pending.apply characters) rest) ::
      settle after (pending.afterText characters) rest
  | .verbatim characters :: rest =>
    let after := leavesBlank blank characters
    .verbatim (beforeTag after (pending.apply (characters.dropWhile isBlank)) rest) ::
      settle after pending rest

end FieldTypes.Template.Margin
