set_option autoImplicit false

namespace FieldTypes

/-- What a rule of a grammar matches, in terms of the rules. -/
inductive Pattern (Rule : Type) where
  | word (characters : List Char)
  | character (test : Char → Bool)
  /-- The end of the text. -/
  | finish
  | rule (name : Rule)
  | sequence (first second : Pattern Rule)
  | choice (first second : Pattern Rule)
  | optional (body : Pattern Rule)
  | many (body : Pattern Rule)
  /-- Matches where the body would match, and takes nothing. -/
  | ahead (body : Pattern Rule)
  /-- Matches where the body would not match, and takes nothing. -/
  | notAhead (body : Pattern Rule)

namespace Pattern

variable {Rule : Type}

def all : List (Pattern Rule) → Pattern Rule
  | [] => .word []
  | [pattern] => pattern
  | pattern :: rest => .sequence pattern (all rest)

def oneOf : List (Pattern Rule) → Pattern Rule
  | [] => .notAhead (.word [])
  | [pattern] => pattern
  | pattern :: rest => .choice pattern (oneOf rest)

def oneOrMore (body : Pattern Rule) : Pattern Rule := .sequence body (.many body)

def anyCharacter : Pattern Rule := .character fun _ => true

/-- Any character that a pattern does not start at. -/
def otherThan (stop : Pattern Rule) : Pattern Rule := .sequence (.notAhead stop) anyCharacter

end Pattern

/-- How the parts of a pattern follow each other, and what becomes of the rules among them. -/
inductive Mode where
  /-- Blanks may stand between the parts. -/
  | spaced
  /-- The parts follow each other directly. -/
  | joined
  /-- The parts follow each other directly, and the rules among them leave no trace. -/
  | atomic
  deriving DecidableEq, Repr

inductive RuleKind where
  /-- In the mode of its surroundings. -/
  | plain
  /-- With its parts joined. -/
  | joined
  /-- As one piece. -/
  | atomic
  deriving DecidableEq, Repr

namespace RuleKind

/-- The mode in which the rule itself is noted. -/
def outer : RuleKind → Mode → Mode
  | .plain, mode => mode
  | .joined, _ => .joined
  | .atomic, mode => mode

/-- The mode of the rule's pattern. -/
def inner : RuleKind → Mode → Mode
  | .plain, mode => mode
  | .joined, _ => .joined
  | .atomic, _ => .atomic

end RuleKind

structure Grammar (Rule : Type) where
  kind : Rule → RuleKind
  pattern : Rule → Pattern Rule
  /-- The characters that may stand between the parts of a spaced pattern. -/
  isBlank : Char → Bool

/-- A match of a rule: where it starts, the text from there on, how many characters of it the rule took,
and the matches of the rules inside. -/
inductive Tree (Rule : Type) where
  | node (rule : Rule) (start : Nat) (source : List Char) (length : Nat) (children : List (Tree Rule))

namespace Tree

variable {Rule : Type}

def rule : Tree Rule → Rule
  | .node rule _ _ _ _ => rule

def start : Tree Rule → Nat
  | .node _ start _ _ _ => start

def stop : Tree Rule → Nat
  | .node _ start _ length _ => start + length

def characters : Tree Rule → List Char
  | .node _ _ source length _ => source.take length

def children : Tree Rule → List (Tree Rule)
  | .node _ _ _ _ children => children

def text (tree : Tree Rule) : String := String.ofList tree.characters

end Tree

end FieldTypes
