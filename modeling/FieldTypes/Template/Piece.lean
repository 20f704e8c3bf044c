import FieldTypes.Template.Grammar
import FieldTypes.Text.Position

set_option autoImplicit false

namespace FieldTypes.Template

inductive Piece where
  | text (characters : List Char)
  /-- The text of a raw block, with the blanks before it. -/
  | verbatim (characters : List Char)
  | tag (position : Text.Position) (tree : Match)

namespace Piece

mutual

/-- The texts and tags of a template in order, whatever the blocks around them. -/
def leaves : Match → List Match
  | .node .template _ _ _ children => allLeaves children
  | tree => [tree]

def allLeaves : List Match → List Match
  | [] => []
  | tree :: rest => leaves tree ++ allLeaves rest

end

/-- A place in the source, with the text from there on. -/
structure Rest where
  start : Nat
  position : Text.Position
  source : List Char

namespace Rest

def ofSource (source : List Char) : Rest := ⟨0, .start, source⟩

/-- What stands before a later place. -/
def upTo (rest : Rest) (stop : Nat) : List Char := rest.source.take (stop - rest.start)

def skipTo (rest : Rest) (stop : Nat) : Rest :=
  ⟨stop, rest.position.after (rest.upTo stop), rest.source.drop (stop - rest.start)⟩

end Rest

/-- Drops the characters at some positions; the text starts at `start`. -/
def dropAt (positions : List Nat) (start : Nat) : List Char → List Char
  | [] => []
  | c :: rest =>
    if positions.contains start then dropAt positions (start + 1) rest
    else c :: dropAt positions (start + 1) rest

/-- What the source up to the end of a text stands for: an escape loses its first backslash. -/
def unescaped (rest : Rest) (text : Match) : List Char :=
  dropAt (text.children.map Tree.start) rest.start (rest.upTo text.stop)

def textBefore (characters : List Char) (pieces : List Piece) : List Piece :=
  if characters = [] then pieces else .text characters :: pieces

/-- The pieces of the source from a place on, where some matches follow. -/
def ofLeaves (rest : Rest) : List Match → List Piece
  | [] => textBefore rest.source []
  | tree :: trees =>
    match tree.rule with
    | .rawText => .text (unescaped rest tree) :: ofLeaves (rest.skipTo tree.stop) trees
    | .rawBlockText => .verbatim (unescaped rest tree) :: ofLeaves (rest.skipTo tree.stop) trees
    | .endOfText => textBefore rest.source []
    | _ =>
      let next := rest.skipTo tree.start
      textBefore (rest.upTo tree.start)
        (.tag next.position tree :: ofLeaves (next.skipTo tree.stop) trees)

def ofTrees (source : List Char) (trees : List Match) : List Piece :=
  ofLeaves (.ofSource source) (allLeaves trees)

end Piece

end FieldTypes.Template
