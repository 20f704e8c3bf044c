import FieldTypes.Dispatch.Call
import FieldTypes.Proofs.IntegerText
import FieldTypes.Schema.Identifier
import Mathlib.Data.List.Basic

set_option autoImplicit false

namespace FieldTypes

/-- A name without any character that has a meaning in generated code. -/
def Plain (name : String) : Prop := ∀ c ∈ name.toList, Identifier.isRest c = true

theorem Plain.not_mem {name : String} (plain : Plain name) {c : Char} (mark : Identifier.isRest c = false) :
    c ∉ name.toList := by
  intro mem
  rw [plain c mem] at mark
  exact Bool.noConfusion mark

theorem Plain.append {first second : String} (plainFirst : Plain first) (plainSecond : Plain second) :
    Plain (first ++ second) := by
  intro c mem
  rw [String.toList_append, List.mem_append] at mem
  rcases mem with inFirst | inSecond
  · exact plainFirst c inFirst
  · exact plainSecond c inSecond

theorem Identifier.isRest_of_isStart {c : Char} (start : isStart c = true) : isRest c = true := by
  simp only [isStart, isRest, Char.isAlphanum, Bool.or_eq_true] at start ⊢
  exact start.imp_left .inl

theorem plain_of_isIdentifier {name : String} (identifier : isIdentifier name = true) : Plain name := by
  unfold isIdentifier at identifier
  intro c mem
  cases chars : name.toList with
  | nil => simp only [chars, List.not_mem_nil] at mem
  | cons first rest =>
    simp only [chars, Bool.and_eq_true, List.all_eq_true] at identifier
    rw [chars, List.mem_cons] at mem
    rcases mem with rfl | inRest
    · exact Identifier.isRest_of_isStart identifier.1
    · exact identifier.2 c inRest

/-- The way of passing that an extractor belongs to. -/
def Passing.ofExtractor? (extractor : String) : Option Passing :=
  if extractor = "get" then some .required
  else if extractor = "get_optional" then some .optional
  else none

theorem Passing.ofExtractor?_extractor (passing : Passing) : ofExtractor? passing.extractor = some passing := by
  cases passing <;> decide

theorem Passing.plain_extractor (passing : Passing) : Plain passing.extractor := by
  cases passing <;> exact plain_of_isIdentifier (by decide)

namespace Dispatch

/-- A written statement of a cascade. -/
inductive Statement where
  /-- The comparison of the requested member with a name. -/
  | condition (member : String)
  | call (getter : String) (arguments : List Argument)
  /-- The refusal of every other member. -/
  | refusal (typeName : String)
  deriving DecidableEq, Repr

namespace Reading

/-- What follows a piece at the start of a text. -/
def after (piece : String) (text : List Char) : Option (List Char) := piece.toList.isPrefixOf? text

/-- A text up to the first stop, and what follows the stop. -/
def upTo (stop : Char) : List Char → Option (List Char × List Char)
  | [] => none
  | c :: rest => if c = stop then some ([], rest) else (upTo stop rest).map fun (word, more) => (c :: word, more)

def natural? (digits : List Char) : Option Nat :=
  if digits ≠ [] ∧ digits.all Char.isDigit then some (Json.Numeral.digitsValue digits) else none

/-- One extraction, at the start of a text. -/
def argument? (text : List Char) : Option (Argument × List Char) := do
  let text ← after "params." text
  let (extractor, text) ← upTo '<' text
  let passing ← Passing.ofExtractor? (String.ofList extractor)
  let (typeName, text) ← upTo '>' text
  let text ← after "(" text
  let (digits, text) ← upTo ',' text
  let index ← natural? digits
  let text ← after " \"" text
  let (name, text) ← upTo '"' text
  let text ← after ")" text
  some (⟨index, String.ofList name, String.ofList typeName, passing, String.ofList extractor⟩, text)

/-- The extractions after the first one, up to the end of their list; each takes some of the fuel. -/
def furtherArguments? : Nat → List Char → Option (List Argument × List Char)
  | 0, _ => none
  | fuel + 1, text =>
    match after ", " text with
    | some text => do
      let (argument, text) ← argument? text
      let (arguments, text) ← furtherArguments? fuel text
      some (argument :: arguments, text)
    | none => (after ")" text).map fun text => ([], text)

def arguments? (text : List Char) : Option (List Argument × List Char) :=
  match after ")" text with
  | some text => some ([], text)
  | none => do
    let (argument, text) ← argument? text
    let (arguments, text) ← furtherArguments? text.length text
    some (argument :: arguments, text)

def condition? (line : List Char) : Option Statement := do
  let text ← after "if (member == \"" line
  let (member, text) ← upTo '"' text
  if text = ")".toList then some (.condition (String.ofList member)) else none

def call? (line : List Char) : Option Statement := do
  let text ← after "return " line
  let (getter, text) ← upTo '(' text
  let (arguments, text) ← arguments? text
  if text = ";".toList then some (.call (String.ofList getter) arguments) else none

def refusal? (line : List Char) : Option Statement := do
  let text ← after "throw InvalidFieldError(\"" line
  let (typeName, text) ← upTo '"' text
  if text = ", member);".toList then some (.refusal (String.ofList typeName)) else none

/-- The statement on a line, whatever its indentation. -/
def statement? (line : List Char) : Option Statement :=
  let text := line.dropWhile (· == ' ')
  (condition? text).or ((call? text).or (refusal? text))

def statements (text : String) : List Statement :=
  (Text.lines text).filterMap fun line => statement? line.toList

def table? : List Statement → Option Table
  | [.refusal typeName] => some ⟨typeName, []⟩
  | .condition member :: .call getter arguments :: rest =>
    (table? rest).map fun table => ⟨table.typeName, ⟨member, getter, arguments⟩ :: table.branches⟩
  | _ => none

end Reading

def Table.ofText? (text : String) : Option Table := Reading.table? (Reading.statements text)

def Branch.statements (branch : Branch) : List Statement :=
  [.condition branch.member, .call branch.getter branch.arguments]

def Table.statements (table : Table) : List Statement :=
  table.branches.flatMap Branch.statements ++ [.refusal table.typeName]

/-- The statements of a cascade have one reading. -/
theorem Reading.table?_statements (table : Table) : table? table.statements = some table := by
  obtain ⟨typeName, branches⟩ := table
  induction branches with
  | nil => rfl
  | cons branch branches ih =>
    show (table? (Table.statements ⟨typeName, branches⟩)).map _ = _
    rw [ih]
    rfl

/-- An extraction as the code asks for it: by the name of the extractor. -/
def Argument.perform (argument : Argument) (params : CallParams) : Except Error (Option Value) :=
  if argument.extractor = "get" then (params.get argument.index argument.name argument.typeName).map some
  else params.getOptional argument.index argument.name argument.typeName

/-- Goes through comparisons until one holds; behind the last one every member is refused. -/
def runBranches (typeName member : String) (params : CallParams) : List Branch → Except Error Call
  | [] => .error (.invalidField typeName member)
  | branch :: rest =>
    if member = branch.member then do
      let arguments ← branch.arguments.mapM (·.perform params)
      .ok ⟨branch, arguments⟩
    else runBranches typeName member params rest

/-- Runs the cascade of a table for a requested member. -/
def Table.run (table : Table) (member : String) (params : CallParams) : Except Error Call :=
  runBranches table.typeName member params table.branches

structure Argument.Legible (argument : Argument) : Prop where
  name : Plain argument.name
  typeName : Plain argument.typeName
  extractor : argument.extractor = argument.passing.extractor

structure Branch.Legible (branch : Branch) : Prop where
  member : Plain branch.member
  getter : Plain branch.getter
  arguments : ∀ argument ∈ branch.arguments, argument.Legible

structure Table.Legible (table : Table) : Prop where
  typeName : Plain table.typeName
  branches : ∀ branch ∈ table.branches, branch.Legible

theorem Argument.Legible.perform_eq {argument : Argument} (legible : argument.Legible) (params : CallParams) :
    argument.perform params = argument.extract params := by
  rw [perform, legible.extractor]
  cases passing : argument.passing with
  | required =>
    rw [extract_of_required passing]
    exact if_pos rfl
  | optional =>
    rw [extract_of_optional passing]
    exact if_neg (by decide)

theorem Branch.Legible.mapM_perform {branch : Branch} (legible : branch.Legible) (params : CallParams) :
    branch.arguments.mapM (·.perform params) = branch.arguments.mapM (·.extract params) := by
  apply mapM_congr
  intro argument mem
  exact (legible.arguments argument mem).perform_eq params

/-- Running the written cascade is dispatching through the table. -/
theorem Table.Legible.run_eq_dispatch {table : Table} (legible : table.Legible) (member : String)
    (params : CallParams) : table.run member params = table.dispatch member params := by
  obtain ⟨typeName, branches⟩ := table
  have each := legible.branches
  clear legible
  unfold Table.run Table.dispatch Table.resolve
  induction branches with
  | nil => rfl
  | cons branch branches ih =>
    rw [List.forall_mem_cons] at each
    rw [runBranches, List.find?_cons]
    by_cases same : member = branch.member
    · rw [if_pos same, same, beq_self_eq_true, each.1.mapM_perform]
      rfl
    · rw [if_neg same, beq_eq_false_iff_ne.2 (Ne.symm same)]
      exact ih each.2

namespace Reading

theorem after_append (piece : String) (rest : List Char) : after piece (piece.toList ++ rest) = some rest :=
  List.isPrefixOf?_eq_some_iff_append_eq.2 rfl

theorem after_isSome_iff {piece : String} {text : List Char} :
    (after piece text).isSome = true ↔ ∃ rest, text = piece.toList ++ rest := by
  rw [Option.isSome_iff_exists]
  exact exists_congr fun rest => List.isPrefixOf?_eq_some_iff_append_eq.trans eq_comm

theorem after_isSome_append {piece : String} {text : List Char} (starts : (after piece text).isSome = true)
    (rest : List Char) : (after piece (text ++ rest)).isSome = true := by
  obtain ⟨more, rfl⟩ := after_isSome_iff.1 starts
  exact after_isSome_iff.2 ⟨more ++ rest, List.append_assoc _ _ _⟩

theorem upTo_append {stop : Char} {word : List Char} (absent : stop ∉ word) (rest : List Char) :
    upTo stop (word ++ stop :: rest) = some (word, rest) := by
  induction word with
  | nil => rw [List.nil_append, upTo, if_pos rfl]
  | cons c word ih =>
    rw [List.mem_cons, not_or] at absent
    rw [List.cons_append, upTo, if_neg (Ne.symm absent.1), ih absent.2]
    rfl

theorem natural?_toDigits (n : Nat) : natural? (Nat.toDigits 10 n) = some n := by
  have digits : Nat.toDigits 10 n ≠ [] ∧ (Nat.toDigits 10 n).all Char.isDigit = true :=
    ⟨Nat.toDigits_ne_nil, List.all_eq_true.2 (Json.digits_isDigit n)⟩
  rw [natural?, if_pos digits, Json.Numeral.digitsValue_toDigits]

theorem toList_toString_natural (n : Nat) : (toString n).toList = Nat.toDigits 10 n := by
  rw [Nat.toString_eq_ofList_toDigits, String.toList_ofList]

theorem toList_expression (argument : Argument) (rest : List Char) :
    argument.expression.toList ++ rest =
      "params.".toList ++ (argument.extractor.toList ++ '<' :: (argument.typeName.toList ++ '>' ::
        ("(".toList ++ (Nat.toDigits 10 argument.index ++ ',' ::
          (" \"".toList ++ (argument.name.toList ++ '"' :: (")".toList ++ rest))))))) := by
  rw [Argument.expression_eq]
  simp only [String.toList_append, List.append_assoc, toList_toString_natural]
  rfl

theorem argument?_expression {argument : Argument} (legible : argument.Legible) (rest : List Char) :
    argument? (argument.expression.toList ++ rest) = some (argument, rest) := by
  have extractor : '<' ∉ argument.extractor.toList := by
    rw [legible.extractor]
    exact (Passing.plain_extractor argument.passing).not_mem (by decide)
  have typeName : '>' ∉ argument.typeName.toList := legible.typeName.not_mem (by decide)
  have name : '"' ∉ argument.name.toList := legible.name.not_mem (by decide)
  have index : ',' ∉ Nat.toDigits 10 argument.index := by
    intro mem
    exact absurd (Json.digits_isDigit _ _ mem) (by decide)
  have passing : Passing.ofExtractor? argument.extractor = some argument.passing := by
    rw [legible.extractor, Passing.ofExtractor?_extractor]
  simp only [toList_expression, argument?, after_append, upTo_append extractor, upTo_append typeName,
    upTo_append name, upTo_append index, natural?_toDigits, String.ofList_toList, passing, bind, Option.bind]

/-- Separated extractions, from the separator before the first of them on. -/
def furtherText (arguments : List Argument) : List Char :=
  arguments.flatMap fun argument => ", ".toList ++ argument.expression.toList

theorem furtherArguments?_furtherText {arguments : List Argument}
    (legible : ∀ argument ∈ arguments, argument.Legible) {fuel : Nat} (enough : arguments.length < fuel)
    (rest : List Char) :
    furtherArguments? fuel (furtherText arguments ++ ')' :: rest) = some (arguments, rest) := by
  induction arguments generalizing fuel with
  | nil =>
    cases fuel with
    | zero => exact absurd enough (by simp)
    | succ fuel => rfl
  | cons argument arguments ih =>
    cases fuel with
    | zero => exact absurd enough (by simp)
    | succ fuel =>
      rw [List.forall_mem_cons] at legible
      rw [List.length_cons] at enough
      have text : furtherText (argument :: arguments) ++ ')' :: rest =
          ", ".toList ++ (argument.expression.toList ++ (furtherText arguments ++ ')' :: rest)) := by
        rw [furtherText, List.flatMap_cons, List.append_assoc, List.append_assoc]
        rfl
      have further := ih legible.2 (Nat.lt_of_succ_lt_succ enough)
      simp only [text, furtherArguments?, after_append, argument?_expression legible.1, further, bind, Option.bind]

theorem length_le_furtherText (arguments : List Argument) : arguments.length ≤ (furtherText arguments).length := by
  induction arguments with
  | nil => exact Nat.zero_le _
  | cons argument arguments ih =>
    have comma : (", ".toList).length = 2 := rfl
    rw [furtherText, List.flatMap_cons, List.length_append, List.length_append, List.length_cons, comma]
    rw [furtherText] at ih
    omega

theorem toList_intercalate_expression (argument : Argument) (arguments : List Argument) :
    (", ".intercalate ((argument :: arguments).map Argument.expression)).toList =
      argument.expression.toList ++ furtherText arguments := by
  induction arguments generalizing argument with
  | nil =>
    rw [List.map_singleton, String.intercalate_singleton]
    exact (List.append_nil _).symm
  | cons second arguments ih =>
    rw [List.map_cons, List.map_cons, String.intercalate_cons_cons, String.toList_append, String.toList_append,
      ← List.map_cons, ih]
    simp only [furtherText, List.flatMap_cons, List.append_assoc]

/-- The extractions of a call are read back up to the bracket that closes them. -/
theorem arguments?_expressions {arguments : List Argument} (legible : ∀ argument ∈ arguments, argument.Legible)
    (rest : List Char) :
    arguments? ((", ".intercalate (arguments.map Argument.expression)).toList ++ ')' :: rest) =
      some (arguments, rest) := by
  cases arguments with
  | nil => rfl
  | cons argument arguments =>
    rw [List.forall_mem_cons] at legible
    rw [toList_intercalate_expression, List.append_assoc]
    have noEnd : after ")" (argument.expression.toList ++ (furtherText arguments ++ ')' :: rest)) = none := by
      rw [toList_expression]
      rfl
    -- every further extraction is longer than the one unit of fuel it takes
    have enough : arguments.length < (furtherText arguments ++ ')' :: rest).length := by
      have atLeast := length_le_furtherText arguments
      rw [List.length_append, List.length_cons]
      omega
    have further := furtherArguments?_furtherText legible.2 enough rest
    simp only [arguments?, noEnd, argument?_expression legible.1, further, bind, Option.bind]

theorem statement?_indented (depth : Nat) (line : List Char) :
    statement? (List.replicate depth ' ' ++ line) = statement? line := by
  rw [statement?, statement?, List.dropWhile_append_of_pos (by simp)]

theorem statement?_of_head {line : List Char} {c : Char} (head : line.head? = some c) (dark : c ≠ ' ') :
    statement? line = (condition? line).or ((call? line).or (refusal? line)) := by
  obtain ⟨rest, rfl⟩ := List.head?_eq_some_iff.1 head
  rw [statement?, List.dropWhile_cons, beq_eq_false_iff_ne.2 dark, if_neg Bool.false_ne_true]

theorem statement?_condition {member : String} (plain : Plain member) :
    statement? ("if (member == \"" ++ (member ++ "\")")).toList = some (.condition member) := by
  have name : '"' ∉ member.toList := plain.not_mem (by decide)
  have chars : ("if (member == \"" ++ (member ++ "\")")).toList =
      "if (member == \"".toList ++ (member.toList ++ '"' :: ")".toList) := by
    rw [String.toList_append, String.toList_append]
    rfl
  have read : condition? ("if (member == \"".toList ++ (member.toList ++ '"' :: ")".toList)) =
      some (.condition member) := by
    simp only [condition?, after_append, upTo_append name, ↓reduceIte, String.ofList_toList, bind, Option.bind]
  rw [chars, statement?_of_head (c := 'i') rfl (by decide), read, Option.some_or]

theorem statement?_call {branch : Branch} (legible : branch.Legible) :
    statement? ("return " ++ (branch.callExpression ++ ";")).toList =
      some (.call branch.getter branch.arguments) := by
  have getter : '(' ∉ branch.getter.toList := legible.getter.not_mem (by decide)
  have chars : ("return " ++ (branch.callExpression ++ ";")).toList =
      "return ".toList ++ (branch.getter.toList ++ '(' ::
        ((", ".intercalate (branch.arguments.map Argument.expression)).toList ++ ')' :: ";".toList)) := by
    simp only [Branch.callExpression_eq, String.toList_append, List.append_assoc]
    rfl
  rw [chars]
  generalize tail : branch.getter.toList ++ '(' :: _ = text
  have other : condition? ("return ".toList ++ text) = none := rfl
  have read : call? ("return ".toList ++ text) = some (.call branch.getter branch.arguments) := by
    simp only [← tail, call?, after_append, upTo_append getter, arguments?_expressions legible.arguments, ↓reduceIte,
      String.ofList_toList, bind, Option.bind]
  rw [statement?_of_head (c := 'r') rfl (by decide), other, read, Option.none_or, Option.some_or]

theorem statement?_refusal {typeName : String} (plain : Plain typeName) :
    statement? ("throw InvalidFieldError(\"" ++ (typeName ++ "\", member);")).toList =
      some (.refusal typeName) := by
  have name : '"' ∉ typeName.toList := plain.not_mem (by decide)
  have chars : ("throw InvalidFieldError(\"" ++ (typeName ++ "\", member);")).toList =
      "throw InvalidFieldError(\"".toList ++ (typeName.toList ++ '"' :: ", member);".toList) := by
    rw [String.toList_append, String.toList_append]
    rfl
  rw [chars]
  generalize tail : typeName.toList ++ '"' :: _ = text
  have noCondition : condition? ("throw InvalidFieldError(\"".toList ++ text) = none := rfl
  have noCall : call? ("throw InvalidFieldError(\"".toList ++ text) = none := rfl
  have read : refusal? ("throw InvalidFieldError(\"".toList ++ text) = some (.refusal typeName) := by
    simp only [← tail, refusal?, after_append, upTo_append name, ↓reduceIte, String.ofList_toList, bind, Option.bind]
  rw [statement?_of_head (c := 't') rfl (by decide), noCondition, noCall, read, Option.none_or, Option.none_or]

end Reading

end Dispatch

end FieldTypes
