import FieldTypes.Grammar.Basic

set_option autoImplicit false

namespace FieldTypes.Grammar

variable {Rule : Type}

/-- What was tried at the furthest place. -/
structure Attempts (Rule : Type) where
  position : Nat
  /-- Rules that did not match, the last one first. -/
  expected : List Rule
  /-- Rules that matched where they must not, the last one first. -/
  unexpected : List Rule
  deriving Repr

namespace Attempts

def none : Attempts Rule := ⟨0, [], []⟩

def countAt (attempts : Attempts Rule) (position : Nat) : Nat :=
  if attempts.position = position then attempts.expected.length + attempts.unexpected.length else 0

/-- Notes a rule that was tried at a place. `before` is what had been tried when the rule started, and
the attempts since then, if they are at that place, give way to the rule. -/
def note (before after : Attempts Rule) (position : Nat) (rule : Rule) (refused : Bool) :
    Attempts Rule :=
  if after.countAt position - before.countAt position = 1 ∨ position < after.position then after
  else
    let kept := if before.position = position then before else ⟨position, [], []⟩
    if refused then { kept with unexpected := rule :: kept.unexpected }
    else { kept with expected := rule :: kept.expected }

end Attempts

/-- Whether a pattern is only looked for, and whether it is there to be refused. -/
inductive Purpose where
  | take
  | find
  | refuse
  deriving DecidableEq, Repr

namespace Purpose

def ahead : Purpose → Purpose
  | .take | .find => .find
  | .refuse => .refuse

def notAhead : Purpose → Purpose
  | .take | .find => .refuse
  | .refuse => .find

end Purpose

/-- A place in a text, with the characters from there on and the matches so far, the last one first. -/
structure Cursor (Rule : Type) where
  position : Nat
  rest : List Char
  trees : List (Tree Rule)
  attempts : Attempts Rule

namespace Cursor

def ofText (text : List Char) : Cursor Rule := ⟨0, text, [], .none⟩

def advance (cursor : Cursor Rule) (count : Nat) : Cursor Rule :=
  { cursor with position := cursor.position + count, rest := cursor.rest.drop count }

end Cursor

/-- The cursor after a match, or what was tried. -/
abbrev Outcome (Rule : Type) := Except (Attempts Rule) (Cursor Rule)

/-- Goes over the blanks between two parts. -/
def skip (grammar : Grammar Rule) (mode : Mode) (cursor : Cursor Rule) : Cursor Rule :=
  match mode with
  | .spaced => cursor.advance (cursor.rest.takeWhile grammar.isBlank).length
  | .joined | .atomic => cursor

/-- Repeats a step as often as it succeeds. -/
def repeated (step : Cursor Rule → Outcome Rule) : Nat → Cursor Rule → Cursor Rule
  | 0, cursor => cursor
  | fuel + 1, cursor =>
    match step cursor with
    | .ok next => repeated step fuel next
    | .error attempts => { cursor with attempts := attempts }

/-- Notes the outcome of a rule that started at `cursor`, and keeps its match. The rule's pattern was
matched from no trees on. -/
def record (mode : Mode) (purpose : Purpose) (rule : Rule) (cursor : Cursor Rule) :
    Outcome Rule → Outcome Rule
  | .ok next =>
    let noted :=
      if mode ≠ .atomic ∧ purpose = .refuse then
        cursor.attempts.note next.attempts cursor.position rule true
      else next.attempts
    let trees :=
      if mode ≠ .atomic ∧ purpose = .take then
        .node rule cursor.position cursor.rest (next.position - cursor.position)
          next.trees.reverse :: cursor.trees
      else next.trees ++ cursor.trees
    .ok { next with trees := trees, attempts := noted }
  | .error attempts =>
    .error (if mode ≠ .atomic ∧ purpose ≠ .refuse then
      cursor.attempts.note attempts cursor.position rule false else attempts)

/-- Matches a pattern from a cursor on. -/
def run (grammar : Grammar Rule) : Nat → Mode → Purpose → Pattern Rule → Cursor Rule → Outcome Rule
  | 0, _, _, _, cursor => .error cursor.attempts
  | fuel + 1, mode, purpose, pattern, cursor =>
    match pattern with
    | .word characters =>
      if characters.isPrefixOf cursor.rest then .ok (cursor.advance characters.length)
      else .error cursor.attempts
    | .character test =>
      match cursor.rest with
      | [] => .error cursor.attempts
      | c :: _ => if test c then .ok (cursor.advance 1) else .error cursor.attempts
    | .finish => if cursor.rest.isEmpty then .ok cursor else .error cursor.attempts
    | .rule name =>
      let kind := grammar.kind name
      record (kind.outer mode) purpose name cursor
        (run grammar fuel (kind.inner mode) purpose (grammar.pattern name) { cursor with trees := [] })
    | .sequence first second =>
      match run grammar fuel mode purpose first cursor with
      | .error attempts => .error attempts
      | .ok next => run grammar fuel mode purpose second (grammar.skip mode next)
    | .choice first second =>
      match run grammar fuel mode purpose first cursor with
      | .error attempts => run grammar fuel mode purpose second { cursor with attempts := attempts }
      | .ok next => .ok next
    | .optional body =>
      match run grammar fuel mode purpose body cursor with
      | .error attempts => .ok { cursor with attempts := attempts }
      | .ok next => .ok next
    | .many body =>
      match run grammar fuel mode purpose body cursor with
      | .error attempts => .ok { cursor with attempts := attempts }
      | .ok next =>
        .ok (repeated (fun cursor => run grammar fuel mode purpose body (grammar.skip mode cursor))
          fuel next)
    | .ahead body =>
      match run grammar fuel mode purpose.ahead body cursor with
      | .error attempts => .error attempts
      | .ok next => .ok { cursor with attempts := next.attempts }
    | .notAhead body =>
      match run grammar fuel mode purpose.notAhead body cursor with
      | .error attempts => .ok { cursor with attempts := attempts }
      | .ok next => .error next.attempts

/-- Fuel for a text, if no rule leads back to itself in more than `depth` steps. -/
def enough (depth : Nat) (text : List Char) : Nat := depth * (text.length + 2)

/-- The matches of a rule's parts on the whole of a text that `pattern` describes. -/
def read (grammar : Grammar Rule) (depth : Nat) (pattern : Pattern Rule) (text : List Char) :
    Except (Attempts Rule) (List (Tree Rule)) :=
  (run grammar (enough depth text) .spaced .take pattern (.ofText text)).map fun cursor =>
    cursor.trees.reverse

end FieldTypes.Grammar
