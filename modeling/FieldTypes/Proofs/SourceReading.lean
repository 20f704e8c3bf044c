import FieldTypes.Proofs.CascadeReading
import FieldTypes.Proofs.NameIndex
import FieldTypes.Proofs.SourceAgreement
import FieldTypes.Proofs.TextLines

set_option autoImplicit false

namespace FieldTypes

open Text (SingleLine unlines dropReturn)
open Dispatch

namespace Cpp.MemberDefinitions

def conditionLine (branch : Branch) : String := "if (member == \"" ++ (branch.member ++ "\")")

def callLine (branch : Branch) : String := "return " ++ (branch.callExpression ++ ";")

def branchLines (branch : Branch) : List String :=
  [ indented 1 (conditionLine branch), indented 1 "\x7b", indented 2 (callLine branch), indented 1 "\x7d" ]

def signatureLine (table : Table) : String :=
  "Result " ++ (table.typeName ++ ("::get(std::string_view member, " ++ (unusedMark table ++
    "const FieldCallParams& params) const")))

def refusalLine (table : Table) : String := "throw InvalidFieldError(\"" ++ (table.typeName ++ "\", member);")

def cascadeLines (table : Table) : List String :=
  [indented 0 (signatureLine table), indented 0 "\x7b"] ++ table.branches.flatMap branchLines ++
    [indented 1 (refusalLine table), indented 0 "\x7d"]

def destructorLine (typeName : String) : String :=
  typeName ++ ("::~" ++ (typeName ++ "() noexcept = default;"))

def preamble (files : FileNames) (namespaceName typeName : String) : List String :=
  [ indented 0 (includeText files.headerInclude), indented 0 (includeText files.implHeaderInclude), ""
  , indented 0 (includeText invalidFieldErrorInclude), "", indented 0 "#include <string_view>", ""
  , indented 0 ("namespace " ++ (namespaceName ++ " \x7b")), "", indented 0 (destructorLine typeName), "" ]

def sourceLines (type : ResolvedType) (options : Options) : List String :=
  preamble (FileNames.ofType type options) options.namespaceName type.name ++
    cascadeLines (Table.ofType type) ++ ["", indented 0 ("\x7d // namespace " ++ options.namespaceName)]

theorem linesAll_branch (branch : Branch) :
    Step.linesAll 1 (MemberDefinitions.branch branch) = (branchLines branch, 1) := by
  have condition : "if (member == \"" ++ branch.member ++ "\")" = conditionLine branch := by
    unfold conditionLine
    simp only [String.append_assoc]
  have call : s!"return {branch.callExpression};" = callLine branch := by
    show "return " ++ branch.callExpression ++ ";" = _
    unfold callLine
    simp only [String.append_assoc]
  simp only [MemberDefinitions.branch, condition, call, Step.linesAll, Step.lines, branchLines, Nat.reduceAdd,
    Nat.reduceSub, List.cons_append, List.nil_append]

theorem linesAll_cascade (table : Table) : Step.linesAll 0 (cascade table) = (cascadeLines table, 0) := by
  have signature : "Result " ++ table.typeName ++ "::get(std::string_view member, " ++ unusedMark table ++
      "const FieldCallParams& params) const" = signatureLine table := by
    unfold signatureLine
    simp only [String.append_assoc]
  have refusal : "throw InvalidFieldError(\"" ++ table.typeName ++ "\", member);" = refusalLine table := by
    unfold refusalLine
    simp only [String.append_assoc]
  have steps : cascade table =
      [ .line (signatureLine table)
      , .braced "\x7d" (table.branches.flatMap MemberDefinitions.branch ++ [.line (refusalLine table)]) ] := by
    rw [← signature, ← refusal]
    rfl
  simp only [steps, Step.linesAll, Step.lines, Step.linesAll_append, Step.linesAll_flatMap linesAll_branch,
    Nat.zero_add, Nat.sub_self, cascadeLines, List.append_assoc, List.cons_append, List.nil_append]

theorem text_eq_unlines (type : ResolvedType) (options : Options) :
    text type options = unlines (sourceLines type options) := by
  have destructor : toString type.name ++ (toString "::~" ++ (toString type.name ++
      toString "() noexcept = default;")) = destructorLine type.name := rfl
  have lines : (Step.linesAll 0 (steps type options)).1 = sourceLines type options := by
    unfold sourceLines preamble
    simp only [steps, inNamespace, includeLine_eq, Step.linesAll_append, Step.linesAll, Step.lines,
      linesAll_cascade, String.append_assoc, destructor, List.cons_append, List.nil_append]
  rw [text, layout_eq, lines]

end Cpp.MemberDefinitions

namespace Dispatch.Reading

open Cpp (includeText indented)
open Cpp.MemberDefinitions

/-- The statement on a line of a text, whose end may be taken for a part of the line's ending. -/
def lineStatement? (line : String) : Option Statement := statement? (dropReturn line.toList)

theorem lineStatement?_empty : lineStatement? "" = none := rfl

theorem lineStatement?_opening : lineStatement? "\x7b" = none := rfl

theorem lineStatement?_closing : lineStatement? "\x7d" = none := rfl

theorem statements_unlines {lines : List String} (single : ∀ line ∈ lines, SingleLine line) :
    statements (unlines lines) = lines.filterMap lineStatement? := by
  rw [statements, Text.lines_unlines single, List.filterMap_map]
  apply List.filterMap_congr
  intro line _
  rw [lineStatement?, Function.comp, String.toList_ofList]

theorem lineStatement?_indented (level : Nat) (text : String) :
    lineStatement? (indented level text) = lineStatement? text := by
  by_cases empty : text = ""
  · rw [indented, if_pos empty, empty]
  · have noReturn : '\r' ∉ List.replicate (4 * level) ' ' := by
      intro mem
      exact absurd (List.mem_replicate.1 mem).2 (by decide)
    rw [Cpp.indented_of_ne_empty empty, lineStatement?, lineStatement?, String.toList_append, Cpp.Page.indentation,
      String.toList_ofList, Text.dropReturn_append _ noReturn, statement?_indented]

theorem getLast?_append {ending : String} {c : Char} (last : ending.toList.getLast? = some c) (line : String) :
    (line ++ ending).toList.getLast? = some c := by
  rw [String.toList_append, List.getLast?_append, last, Option.some_or]

theorem head?_append {start : String} {c : Char} (head : start.toList.head? = some c) (rest : String) :
    (start ++ rest).toList.head? = some c := by
  rw [String.toList_append, List.head?_append, head, Option.some_or]

theorem lineStatement?_of_last {line : String} {c : Char} (last : line.toList.getLast? = some c)
    (other : c ≠ '\r') : lineStatement? line = statement? line.toList := by
  rw [lineStatement?, Text.dropReturn_of_last last other]

theorem statement?_eq_none {line : List Char} {c : Char} (head : line.head? = some c) (dark : c ≠ ' ')
    (noCondition : after "if (member == \"" line = none) (noCall : after "return " line = none)
    (noRefusal : after "throw InvalidFieldError(\"" line = none) : statement? line = none := by
  have condition : condition? line = none := by
    rw [condition?, noCondition]
    rfl
  have call : call? line = none := by
    rw [call?, noCall]
    rfl
  have refusal : refusal? line = none := by
    rw [refusal?, noRefusal]
    rfl
  rw [statement?_of_head head dark, condition, call, refusal]
  rfl

theorem after_of_head {piece : String} {c first : Char} {rest : List Char} (starts : piece.toList.head? = some first)
    (differs : c ≠ first) : after piece (c :: rest) = none := by
  cases found : after piece (c :: rest) with
  | none => rfl
  | some more =>
    have text := List.isPrefixOf?_eq_some_iff_append_eq.1 found
    obtain ⟨tail, same⟩ := List.head?_eq_some_iff.1 starts
    rw [same, List.cons_append, List.cons.injEq] at text
    exact absurd text.1.symm differs

theorem after_of_head? {piece text : String} {c first : Char} (starts : piece.toList.head? = some first)
    (head : text.toList.head? = some c) (differs : c ≠ first) : after piece text.toList = none := by
  obtain ⟨rest, chars⟩ := List.head?_eq_some_iff.1 head
  rw [chars]
  exact after_of_head starts differs

theorem after_isSome_of_head? {piece text : String} {c first : Char} (starts : piece.toList.head? = some first)
    (head : text.toList.head? = some c) (differs : c ≠ first) : (after piece text.toList).isSome = false := by
  rw [after_of_head? starts head differs, Option.isSome_none]

theorem lineStatement?_of_head {start rest : String} {c : Char} (head : start.toList.head? = some c)
    (foreign : c ∉ [' ', '\r', 'i', 'r', 't']) : lineStatement? (start ++ rest) = none := by
  simp only [List.mem_cons, List.not_mem_nil, or_false, not_or] at foreign
  obtain ⟨notBlank, notReturn, notI, notR, notT⟩ := foreign
  obtain ⟨tail, text⟩ := List.head?_eq_some_iff.1 head
  rw [lineStatement?, String.toList_append, text, List.cons_append, Text.dropReturn_cons notReturn]
  exact statement?_eq_none List.head?_cons notBlank (after_of_head rfl notI) (after_of_head rfl notR)
    (after_of_head rfl notT)

/-- A plain word before a colon is not the word that a piece starts with. -/
theorem after_of_word {piece word : String} (plain : Plain word) (rest : List Char)
    (blank : (piece.toList.dropWhile Identifier.isRest).head? = some ' ') :
    after piece (word.toList ++ ':' :: rest) = none := by
  cases found : after piece (word.toList ++ ':' :: rest) with
  | none => rfl
  | some more =>
    have text := List.isPrefixOf?_eq_some_iff_append_eq.1 found
    obtain ⟨tail, same⟩ := List.head?_eq_some_iff.1 blank
    have ofWord : (word.toList ++ ':' :: rest).dropWhile Identifier.isRest = ':' :: rest := by
      rw [List.dropWhile_append_of_pos plain]
      rfl
    have ofPiece : (piece.toList ++ more).dropWhile Identifier.isRest = ' ' :: (tail ++ more) := by
      rw [List.dropWhile_append, same]
      rfl
    rw [text, ofWord, List.cons.injEq] at ofPiece
    exact absurd ofPiece.1 (by decide)

/-- A type may be named like the keyword of a statement, but its destructor goes on with a colon. -/
theorem lineStatement?_destructor {typeName : String} (plain : Plain typeName) :
    lineStatement? (destructorLine typeName) = none := by
  have last : (destructorLine typeName).toList.getLast? = some ';' := by
    unfold destructorLine
    exact getLast?_append (getLast?_append (getLast?_append rfl _) _) _
  have text : (destructorLine typeName).toList =
      typeName.toList ++ ':' :: (":~".toList ++ (typeName ++ "() noexcept = default;").toList) := by
    unfold destructorLine
    rw [String.toList_append, String.toList_append]
    rfl
  have head : ∃ c, (destructorLine typeName).toList.head? = some c ∧ c ≠ ' ' := by
    rw [text]
    cases chars : typeName.toList with
    | nil => exact ⟨':', rfl, by decide⟩
    | cons c rest =>
      refine ⟨c, rfl, ?_⟩
      intro blank
      have rest := plain c (chars ▸ List.mem_cons_self)
      rw [blank] at rest
      exact absurd rest (by decide)
  obtain ⟨c, starts, dark⟩ := head
  rw [lineStatement?_of_last last (by decide)]
  rw [text] at starts ⊢
  exact statement?_eq_none starts dark (after_of_word plain _ rfl) (after_of_word plain _ rfl)
    (after_of_word plain _ rfl)

theorem filterMap_branchLines {branch : Branch} (legible : branch.Legible) :
    (branchLines branch).filterMap lineStatement? = branch.statements := by
  have condition : lineStatement? (conditionLine branch) = some (.condition branch.member) := by
    have last : (conditionLine branch).toList.getLast? = some ')' := getLast?_append (getLast?_append rfl _) _
    rw [lineStatement?_of_last last (by decide)]
    exact statement?_condition legible.member
  have call : lineStatement? (callLine branch) = some (.call branch.getter branch.arguments) := by
    have last : (callLine branch).toList.getLast? = some ';' := getLast?_append (getLast?_append rfl _) _
    rw [lineStatement?_of_last last (by decide)]
    exact statement?_call legible
  simp only [branchLines, List.filterMap_cons, lineStatement?_indented, condition, call, lineStatement?_opening,
    lineStatement?_closing, List.filterMap_nil, Branch.statements]

theorem filterMap_branches {branches : List Branch} (legible : ∀ branch ∈ branches, branch.Legible) :
    (branches.flatMap branchLines).filterMap lineStatement? = branches.flatMap Branch.statements := by
  induction branches with
  | nil => rfl
  | cons branch branches ih =>
    rw [List.forall_mem_cons] at legible
    rw [List.flatMap_cons, List.filterMap_append, filterMap_branchLines legible.1, ih legible.2, List.flatMap_cons]

theorem filterMap_cascadeLines {table : Table} (legible : table.Legible) :
    (cascadeLines table).filterMap lineStatement? = table.statements := by
  have signature : lineStatement? (signatureLine table) = none := by
    unfold signatureLine
    exact lineStatement?_of_head (c := 'R') rfl (by decide)
  have refusal : lineStatement? (refusalLine table) = some (.refusal table.typeName) := by
    have last : (refusalLine table).toList.getLast? = some ';' := getLast?_append (getLast?_append rfl _) _
    rw [lineStatement?_of_last last (by decide)]
    exact statement?_refusal legible.typeName
  simp only [cascadeLines, List.filterMap_append, filterMap_branches legible.branches, List.filterMap_cons,
    lineStatement?_indented, signature, refusal, lineStatement?_opening, lineStatement?_closing, List.filterMap_nil,
    List.nil_append, Table.statements]

theorem filterMap_preamble (files : Cpp.FileNames) (namespaceName : String) {typeName : String}
    (plain : Plain typeName) : (preamble files namespaceName typeName).filterMap lineStatement? = [] := by
  have include_ : ∀ path, lineStatement? (includeText path) = none := by
    intro path
    unfold includeText
    exact lineStatement?_of_head (c := '#') rfl (by decide)
  have standard : lineStatement? "#include <string_view>" = none := rfl
  have opening : lineStatement? ("namespace " ++ (namespaceName ++ " \x7b")) = none :=
    lineStatement?_of_head (c := 'n') rfl (by decide)
  simp only [preamble, List.filterMap_cons, List.filterMap_nil, lineStatement?_indented, include_, standard,
    opening, lineStatement?_empty, lineStatement?_destructor plain]

/-- In the lines of a source nothing but its cascade is read. -/
theorem filterMap_sourceLines {type : ResolvedType} (legible : (Table.ofType type).Legible)
    (options : Cpp.Options) :
    (sourceLines type options).filterMap lineStatement? = (Table.ofType type).statements := by
  have closing : lineStatement? ("\x7d // namespace " ++ options.namespaceName) = none :=
    lineStatement?_of_head (c := '}') rfl (by decide)
  have plain : Plain type.name := legible.typeName
  simp only [sourceLines, List.filterMap_append, filterMap_preamble _ _ plain, filterMap_cascadeLines legible,
    List.filterMap_cons, lineStatement?_indented, closing, lineStatement?_empty, List.filterMap_nil,
    List.nil_append, List.append_nil]

end Dispatch.Reading

theorem Plain.singleLine {name : String} (plain : Plain name) : SingleLine name := plain.not_mem (by decide)

theorem singleLine_natural (n : Nat) : SingleLine (toString n) := by
  intro mem
  rw [Dispatch.Reading.toList_toString_natural] at mem
  exact absurd (Json.digits_isDigit _ _ mem) (by decide)

namespace Dispatch

theorem Argument.singleLine {argument : Argument} (extractor : argument.extractor = argument.passing.extractor)
    (typeName : SingleLine argument.typeName) (name : SingleLine argument.name) :
    SingleLine argument.expression := by
  have extractor : SingleLine argument.extractor := by
    rw [extractor]
    exact (Passing.plain_extractor argument.passing).singleLine
  have index : SingleLine (toString argument.index) := singleLine_natural argument.index
  rw [Argument.expression_eq]
  apply SingleLine.append (by decide)
  apply extractor.append
  apply SingleLine.append (by decide)
  apply typeName.append
  apply SingleLine.append (by decide)
  apply index.append
  apply SingleLine.append (by decide)
  exact name.append (by decide)

/-- A branch whose comparison and call are single lines. -/
structure Branch.SingleLines (branch : Branch) : Prop where
  member : SingleLine branch.member
  call : SingleLine branch.callExpression

theorem Branch.singleLines {branch : Branch} (member : SingleLine branch.member) (getter : SingleLine branch.getter)
    (arguments : ∀ argument ∈ branch.arguments, SingleLine argument.expression) : branch.SingleLines := by
  have arguments : SingleLine (", ".intercalate (branch.arguments.map Argument.expression)) := by
    apply SingleLine.intercalate (by decide)
    intro text mem
    obtain ⟨argument, declared, rfl⟩ := List.mem_map.1 mem
    exact arguments argument declared
  refine ⟨member, ?_⟩
  rw [Branch.callExpression_eq]
  apply getter.append
  apply SingleLine.append (by decide)
  exact arguments.append (by decide)

theorem Branch.Legible.singleLines {branch : Branch} (legible : branch.Legible) : branch.SingleLines := by
  refine Branch.singleLines legible.member.singleLine legible.getter.singleLine fun argument declared => ?_
  have argument := legible.arguments argument declared
  exact Argument.singleLine argument.extractor argument.typeName.singleLine argument.name.singleLine

end Dispatch

namespace Cpp

open MemberDefinitions

theorem lacks_includePath {options : Options} {c : Char} (other : c ≠ '/') (lacks : Text.Lacks c options.includePrefix)
    {file : String} (lacksFile : Text.Lacks c file) : Text.Lacks c (options.includePath file) := by
  have slash : Text.Lacks c "/" := fun mem => other (List.mem_singleton.1 mem)
  unfold Options.includePath
  split
  · exact lacksFile
  · exact (lacks.append slash).append lacksFile

theorem singleLine_includePath {options : Options} (single : SingleLine options.includePrefix) {file : String}
    (singleFile : SingleLine file) : SingleLine (options.includePath file) :=
  lacks_includePath (by decide) single singleFile

theorem singleLine_headerFile {typeName : String} (plain : Plain typeName) : SingleLine (headerFile typeName) :=
  plain.singleLine.append (by decide)

theorem singleLine_implHeaderFile {typeName : String} (plain : Plain typeName) :
    SingleLine (implHeaderFile (implName typeName)) :=
  (plain.singleLine.append (by decide)).append (by decide)

namespace MemberDefinitions

theorem singleLine_branchLines {branch : Branch} (single : branch.SingleLines) :
    ∀ line ∈ branchLines branch, SingleLine line := by
  have condition : SingleLine (conditionLine branch) :=
    SingleLine.append (by decide) (single.member.append (by decide))
  have call : SingleLine (callLine branch) := SingleLine.append (by decide) (single.call.append (by decide))
  simp only [branchLines, List.forall_mem_cons]
  exact ⟨singleLine_indented condition 1, singleLine_indented (by decide) 1, singleLine_indented call 2,
    singleLine_indented (by decide) 1, List.forall_mem_nil _⟩

theorem singleLine_cascadeLines {table : Table} (typeName : SingleLine table.typeName)
    (branches : ∀ branch ∈ table.branches, branch.SingleLines) : ∀ line ∈ cascadeLines table, SingleLine line := by
  have unused : SingleLine (unusedMark table) := by
    unfold unusedMark
    split <;> decide
  have signature : SingleLine (signatureLine table) := by
    apply SingleLine.append (by decide)
    apply typeName.append
    apply SingleLine.append (by decide)
    exact unused.append (by decide)
  have refusal : SingleLine (refusalLine table) := SingleLine.append (by decide) (typeName.append (by decide))
  intro line mem
  simp only [cascadeLines, List.mem_append, List.mem_cons, List.not_mem_nil, or_false, List.mem_flatMap] at mem
  rcases mem with ((rfl | rfl) | ⟨branch, declared, inBranch⟩) | rfl | rfl
  · exact singleLine_indented signature 0
  · exact singleLine_indented (by decide) 0
  · exact singleLine_branchLines (branches branch declared) line inBranch
  · exact singleLine_indented refusal 1
  · exact singleLine_indented (by decide) 0

theorem singleLine_sourceLines_of_branches {type : ResolvedType} {options : Options} (plain : Plain type.name)
    (branches : ∀ branch ∈ (Table.ofType type).branches, branch.SingleLines)
    (impl : type.implName = implName type.name) (namespace_ : SingleLine options.namespaceName)
    (includes : SingleLine options.includePrefix) : ∀ line ∈ sourceLines type options, SingleLine line := by
  have include_ : ∀ path, SingleLine path → SingleLine (includeText path) := fun path single =>
    SingleLine.append (by decide) (single.append (by decide))
  have header := include_ _ (singleLine_includePath includes (singleLine_headerFile plain))
  have implHeader := include_ _ (singleLine_includePath includes (singleLine_implHeaderFile plain))
  have destructor : SingleLine (destructorLine type.name) :=
    plain.singleLine.append (SingleLine.append (by decide) (plain.singleLine.append (by decide)))
  have opening : SingleLine ("namespace " ++ (options.namespaceName ++ " \x7b")) :=
    SingleLine.append (by decide) (namespace_.append (by decide))
  have closing : SingleLine ("\x7d // namespace " ++ options.namespaceName) :=
    SingleLine.append (by decide) namespace_
  rw [← impl] at implHeader
  have blank : SingleLine "" := by decide
  have error : SingleLine (includeText invalidFieldErrorInclude) := include_ _ (by decide)
  have typeName : SingleLine (Table.ofType type).typeName := plain.singleLine
  have cascade := singleLine_cascadeLines typeName branches
  simp only [sourceLines, preamble, List.forall_mem_append, List.forall_mem_cons, indented_zero]
  refine ⟨⟨⟨header, implHeader, blank, error, blank, by decide, blank, opening, blank, destructor, blank, ?_⟩,
    cascade⟩, blank, closing, ?_⟩
  · exact List.forall_mem_nil _
  · exact List.forall_mem_nil _

theorem singleLine_sourceLines {type : ResolvedType} {options : Options} (legible : (Table.ofType type).Legible)
    (impl : type.implName = implName type.name) (namespace_ : SingleLine options.namespaceName)
    (includes : SingleLine options.includePrefix) : ∀ line ∈ sourceLines type options, SingleLine line :=
  singleLine_sourceLines_of_branches legible.typeName
    (fun branch declared => (legible.branches branch declared).singleLines) impl namespace_ includes

end MemberDefinitions

end Cpp

variable {schema : Schema} {type : TypeDecl}

theorem Schema.Sound.plain_typeName (sound : schema.Sound) (declared : type ∈ schema.types) : Plain type.name :=
  plain_of_isIdentifier (sound.types type declared).identifier

/-- The name index of a built schema only holds names of its types. -/
theorem Schema.Sound.isIdentifier_of_hasType (sound : schema.Sound) (built : schema.Built) {name : String}
    (indexed : schema.hasType name = true) : isIdentifier name = true := by
  obtain ⟨type, mem, rfl⟩ := List.mem_map.1 (built.hasType_iff.1 indexed)
  exact (sound.types type mem).identifier

/-- What holds of every primitive and of every name in the index holds of what can be referred to. -/
theorem Schema.of_referenceKind? {holds : String → Prop}
    (primitives : ∀ primitive ∈ schema.primitives, holds primitive.name)
    (indexed : ∀ name, schema.hasType name = true → holds name) {name : String}
    (resolves : (schema.referenceKind? name).isSome = true) : holds name := by
  by_cases isPrimitive : schema.hasPrimitive name = true
  · obtain ⟨primitive, mem, rfl⟩ := List.mem_map.1 (hasPrimitive_iff.1 isPrimitive)
    exact primitives primitive mem
  · apply indexed
    by_cases isType : schema.hasType name = true
    · exact isType
    · rw [referenceKind?, if_neg isPrimitive, if_neg isType] at resolves
      exact Bool.noConfusion resolves

theorem Schema.isIdentifier_of_referenceKind?
    (primitives : ∀ primitive ∈ schema.primitives, isIdentifier primitive.name = true)
    (indexed : ∀ name, schema.hasType name = true → isIdentifier name = true) {name : String}
    (resolves : (schema.referenceKind? name).isSome = true) : isIdentifier name = true :=
  @of_referenceKind? schema (isIdentifier · = true) primitives indexed name resolves

namespace Dispatch

/-- A sound type has a legible table, if only identifiers can be referred to. -/
theorem legible_ofType (sound : type.Sound schema)
    (references : ∀ name, (schema.referenceKind? name).isSome = true → isIdentifier name = true) :
    (Table.ofType type.resolve).Legible := by
  refine ⟨plain_of_isIdentifier sound.identifier, ?_⟩
  intro branch mem
  rw [Table.branches_ofType] at mem
  obtain ⟨field, declared, rfl⟩ := List.mem_map.1 mem
  have fieldSound := sound.fields field declared
  have name := plain_of_isIdentifier fieldSound.identifier
  have get : Plain "get_" := plain_of_isIdentifier (by decide)
  refine ⟨name, get.append name, ?_⟩
  intro argument extracted
  rw [Branch.arguments_ofField] at extracted
  obtain ⟨param, isParam, rfl⟩ := List.mem_map.1 extracted
  have paramSound := fieldSound.params param isParam
  exact ⟨plain_of_isIdentifier paramSound.identifier, plain_of_isIdentifier (references _ paramSound.resolves), rfl⟩

theorem signatures_ofType (type : TypeDecl) :
    (Table.ofType type.resolve).signatures = type.fields.map Signature.ofField := by
  have isRequired : ∀ required, (Passing.ofRequired required).isRequired = required := by decide
  rw [Table.signatures, Table.branches_ofType, List.map_map]
  apply List.map_congr_left
  intro field _
  rw [Function.comp, Branch.signature, Branch.arguments_ofField, List.map_map]
  apply congrArg (Signature.mk field.name)
  apply List.map_congr_left
  intro param _
  exact congrArg (Prod.mk param.name) (isRequired param.required)

/-- The source of a declared type determines its dispatch table. Read line by line, the text holds exactly
the statements of the table's cascade; the table they make has the signatures of the declared fields, and
running it is dispatching through the type's table. A schema whose types were renamed may still refer to
names that types were added under; those must be identifiers, too. -/
theorem table_read_from_source (type : TypeDecl) (options : Cpp.Options)
    (origin : schema.Built ∨ ∀ name, schema.hasType name = true → isIdentifier name = true)
    (accepted : schema.validate = .ok ())
    (primitives : ∀ primitive ∈ schema.primitives, isIdentifier primitive.name = true)
    (declared : type ∈ schema.types) (namespace_ : SingleLine options.namespaceName)
    (includes : SingleLine options.includePrefix) :
    ∃ text, Catalog.standard.renderType (.ofSchema schema options) "source" type.name = .ok text ∧
      Reading.statements text = (Table.ofType type.resolve).statements ∧
      ∃ table, Table.ofText? text = some table ∧ table = Table.ofType type.resolve ∧
        table.signatures = type.fields.map Signature.ofField ∧
        table.signatures = (Table.ofType type.resolve).signatures ∧
        ∀ member params, table.run member params = (Table.ofType type.resolve).dispatch member params := by
  have sound := Schema.validate_ok.1 accepted
  have indexed : ∀ name, schema.hasType name = true → isIdentifier name = true := by
    rcases origin with built | identifiers
    · intro name
      exact sound.isIdentifier_of_hasType built
    · exact identifiers
  have legible : (Table.ofType type.resolve).Legible :=
    legible_ofType (sound.types type declared) fun _ => Schema.isIdentifier_of_referenceKind? primitives indexed
  have single := Cpp.MemberDefinitions.singleLine_sourceLines legible rfl namespace_ includes
  have read : Reading.statements (Cpp.MemberDefinitions.text type.resolve options) =
      (Table.ofType type.resolve).statements := by
    rw [Cpp.MemberDefinitions.text_eq_unlines, Reading.statements_unlines single,
      Reading.filterMap_sourceLines legible]
  have table : Table.ofText? (Cpp.MemberDefinitions.text type.resolve options) =
      some (Table.ofType type.resolve) := by
    rw [Table.ofText?, read, Reading.table?_statements]
  refine ⟨_, Catalog.render_source sound declared options, read, _, table, rfl, signatures_ofType type, rfl, ?_⟩
  intro member params
  exact legible.run_eq_dispatch member params

/-- A type that is named like a keyword of its own source, with params that are named like its extractors. -/
def keywordNames : Schema :=
  .ofDeclarations "throw" [⟨"PrimitiveInt", ""⟩]
    [ ⟨"throw", "",
        [ ⟨"get", "", "throw", false, false,
            [ ⟨"get_optional", "", 0, "PrimitiveInt", true, none, none⟩
            , ⟨"params", "", 1, "throw", false, none, none⟩ ]⟩
        , ⟨"if", "", "PrimitiveInt", true, true, []⟩ ]⟩ ]

/-- The options look like statements themselves, and the last line ends in a carriage return. -/
theorem table_read_from_source_of_keywordNames :
    ∃ text table,
      Catalog.standard.renderType (.ofSchema keywordNames ⟨"if (member == \"if\")\r", "return get_if();", ""⟩)
        "source" "throw" = .ok text ∧
      Table.ofText? text = some table ∧
      table.signatures = [⟨"get", [("get_optional", true), ("params", false)]⟩, ⟨"if", []⟩] ∧
      table.run "get" .empty = .error (.argumentMissing "get_optional" "PrimitiveInt") ∧
      (table.run "if" .empty).toOption.isSome = true := by
  have accepted : keywordNames.validate = .ok () := by decide +kernel
  obtain ⟨text, rendered, _, table, read, _, signatures, _, runs⟩ :=
    table_read_from_source keywordNames.types[0] ⟨"if (member == \"if\")\r", "return get_if();", ""⟩
      (.inl (Schema.built_ofDeclarations _ _ _)) accepted (by decide +kernel) (List.getElem_mem _) (by decide)
      (by decide)
  refine ⟨text, table, rendered, read, signatures, ?_, ?_⟩
  · rw [runs]
    rfl
  · rw [runs]
    rfl

end Dispatch

end FieldTypes
