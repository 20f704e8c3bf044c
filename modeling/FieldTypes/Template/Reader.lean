import FieldTypes.Template.Margin
import FieldTypes.Template.Tag

set_option autoImplicit false

namespace FieldTypes.Template

namespace Reader

/-- A block or a branch of it that is still open, with its nodes so far, the last one first. -/
inductive Frame where
  /-- A block: where it starts, its head, and what stands before it. A branch of an else tag with a head
  is a block of its own, which starts nowhere and ends together with the branch before. -/
  | block (position : Option Text.Position) (head : Head) (chained : Bool) (outside : List Node)
  /-- The else part of a block, after its body. -/
  | otherwise (position : Option Text.Position) (head : Head) (chained : Bool) (outside : List Node)
      (body : List Node)
  | decorator (position : Text.Position) (head : Head) (outside : List Node)
  /-- An inclusion with a body. -/
  | inclusion (position : Text.Position) (name : Operand) (head : Head) (outside : List Node)

def blockNode (position : Option Text.Position) (head : Head) (body : List Node)
    (otherwise : Option (List Node)) : Node :=
  .block position (.ofName head.name) (placed head.arguments) (named head.arguments) head.params body
    otherwise

/-- The name that the end of a block has to repeat. -/
def openedName : List Frame → Option String
  | [] => none
  | .block _ head chained _ :: frames | .otherwise _ head chained _ _ :: frames =>
    if chained then openedName frames else some head.name
  | .decorator _ _ _ :: _ | .inclusion _ _ _ _ :: _ => none

/-- Ends the innermost block with the branches chained to it; gives the frames around it and the nodes
before it, with its own. -/
def close (done : List Node) : List Frame → List Frame × List Node
  | [] => ([], done)
  | .block position head chained outside :: frames =>
    let node := blockNode position head done.reverse none
    if chained then close [node] frames else (frames, node :: outside)
  | .otherwise position head chained outside body :: frames =>
    let node := blockNode position head body (some done.reverse)
    if chained then close [node] frames else (frames, node :: outside)
  | frames => (frames, done)

def decoratorNode (position : Text.Position) (head : Head) (body : Option (List Node)) : Node :=
  .decorator (some position) head.name (placed head.arguments) (named head.arguments) body

def inclusionNode (position : Text.Position) (name : Operand) (head : Head) (indent : String)
    (body : Option (List Node)) : Node :=
  .inclusion (some position) name (placed head.arguments) (named head.arguments) indent body

/-- The blanks right before a tag, unless a tilde takes them. -/
def blanksBefore (source : List Char) (tag : Match) : String :=
  if Margin.hasTilde .leadingTilde tag then ""
  else String.ofList ((source.take tag.start).reverse.takeWhile Margin.isSpace).reverse

def textNode (characters : List Char) (done : List Node) : List Node :=
  if characters = [] then done else .text (String.ofList characters) :: done

/-- Goes over one tag of a source: the frames and the nodes of the innermost one after it. -/
def step (source : List Char) (position : Text.Position) (tag : Match) (frames : List Frame) (done : List Node) :
    Except Malformed (List Frame × List Node) :=
  match tag.rule with
  | .expression | .htmlExpression => do
    let operand ← printed tag
    .ok (frames, .value (some position) operand :: done)
  | .blockStart | .rawBlockStart => do
    let head ← Head.ofTag tag
    .ok (.block (some position) head false done :: frames, [])
  | .elseTag =>
    match frames with
    | .block position head chained outside :: frames =>
      .ok (.otherwise position head chained outside done.reverse :: frames, [])
    | frames => .ok (frames, done)
  | .elseCall => do
    let head ← Head.ofTag tag
    match frames with
    | .block position outer chained outside :: frames =>
      .ok (.block none head true [] :: .otherwise position outer chained outside done.reverse :: frames,
        [])
    | frames => .ok (frames, done)
  | .blockEnd | .rawBlockEnd =>
    let opened := (openedName frames).getD ""
    let closed := nameOf (Head.parts tag)
    if opened = closed then .ok (close done frames) else .error (.mismatched opened closed)
  | .decoratorExpression => do
    let head ← Head.ofTag tag
    .ok (frames, decoratorNode position head none :: done)
  | .partialExpression => do
    let name ← inclusionName tag
    let head ← Head.ofTag tag
    .ok (frames, inclusionNode position name head (blanksBefore source tag) none :: done)
  | .decoratorBlockStart => do
    let head ← Head.ofTag tag
    .ok (.decorator position head done :: frames, [])
  | .partialBlockStart => do
    let name ← inclusionName tag
    let head ← Head.ofTag tag
    .ok (.inclusion position name head done :: frames, [])
  | .decoratorBlockEnd | .partialBlockEnd =>
    let closed := nameOf (Head.parts tag)
    match frames with
    | .decorator position head outside :: frames =>
      if head.name = closed then .ok (frames, decoratorNode position head (some done.reverse) :: outside)
      else .error (.mismatchedDecorator head.name closed)
    | .inclusion position name head outside :: frames =>
      if head.name = closed then
        .ok (frames, inclusionNode position name head "" (some done.reverse) :: outside)
      else .error (.mismatchedDecorator head.name closed)
    | frames => .ok (frames, done)
  | _ => .ok (frames, done)

/-- Matches up the tags of blocks. The grammar has seen to it that every block ends, so no frame is left
at the end. -/
def nest (source : List Char) (frames : List Frame) (done : List Node) :
    List Piece → Except Malformed (List Node)
  | [] => .ok done.reverse
  | .text characters :: rest | .verbatim characters :: rest =>
    nest source frames (textNode characters done) rest
  | .tag position tag :: rest => do
    let (frames, done) ← step source position tag frames done
    nest source frames done rest

end Reader

def read (text : String) : Except Malformed (List Node) :=
  let source := text.toList
  let whole : Pattern Rule := .sequence (.rule .template) (.rule .endOfText)
  match grammar.read 100 whole source with
  | .error attempts => .error (.ofAttempts attempts)
  | .ok trees =>
    Reader.nest source [] [] (Margin.settle true .none (Piece.ofTrees source trees))

end FieldTypes.Template
