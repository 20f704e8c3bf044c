import FieldTypes.Proofs.HeaderText
import FieldTypes.Proofs.StandardRendering

set_option autoImplicit false

namespace FieldTypes

open Text (Lacks SingleLine unlines dropReturn)
open Dispatch.Reading (after after_isSome_append after_isSome_iff after_isSome_of_head? getLast?_append head?_append)

namespace Cpp

/-- Lines are kept as they were written if the kept ones do not end in a carriage return, and if what is
dropped from the end of a line does not matter. -/
theorem filter_lines_unlines {keep : List Char → Bool} {lines : List String}
    (single : ∀ line ∈ lines, SingleLine line)
    (start : ∀ line rest, keep line = true → keep (line ++ rest) = true)
    (whole : ∀ line ∈ lines, keep line.toList = true → dropReturn line.toList = line.toList) :
    (Text.lines (unlines lines)).filter (keep ·.toList) = lines.filter (keep ·.toList) := by
  have same : ∀ line ∈ lines, keep (dropReturn line.toList) = keep line.toList := by
    intro line mem
    cases kept : keep line.toList with
    | true => rw [whole line mem kept, kept]
    | false =>
      obtain ⟨rest, text⟩ := Text.dropReturn_append_rest line.toList
      rw [← Bool.not_eq_true] at kept ⊢
      intro short
      apply kept
      rw [text]
      exact start _ rest short
  have filtered : lines.filter ((keep ·.toList) ∘ fun line => String.ofList (dropReturn line.toList)) =
      lines.filter (keep ·.toList) := by
    refine List.filter_congr fun line mem => ?_
    rw [Function.comp, String.toList_ofList, same line mem]
  calc (Text.lines (unlines lines)).filter (keep ·.toList)
      = (lines.filter (keep ·.toList)).map fun line => String.ofList (dropReturn line.toList) := by
        rw [Text.lines_unlines single, List.filter_map, filtered]
    _ = lines.filter (keep ·.toList) := by
        refine (List.map_congr_left fun line mem => ?_).trans (List.map_id _)
        obtain ⟨mem, kept⟩ := List.mem_filter.1 mem
        rw [whole line mem kept, String.ofList_toList, id]

/-- Whether a line declares a getter of a class. -/
def isDeclaration (line : List Char) : Bool := (after "    [[nodiscard]] Result get_" line).isSome

/-- Whether a line returns what a getter gives, whatever its indentation. -/
def isCall (line : List Char) : Bool := (after "return get_" (line.dropWhile (· == ' '))).isSome

/-- The lines of a text that declare a getter. -/
def getterDeclarations (text : String) : List String := (Text.lines text).filter (isDeclaration ·.toList)

/-- The lines of a text that return what a getter gives. -/
def getterCalls (text : String) : List String := (Text.lines text).filter (isCall ·.toList)

theorem isDeclaration_empty : isDeclaration "".toList = false := rfl

theorem isCall_empty : isCall "".toList = false := rfl

theorem isCall_opening : isCall "\x7b".toList = false := rfl

theorem isCall_closing : isCall "\x7d".toList = false := rfl

theorem isDeclaration_append (line rest : List Char) (declares : isDeclaration line = true) :
    isDeclaration (line ++ rest) = true :=
  after_isSome_append declares rest

theorem isCall_append (line rest : List Char) (calls : isCall line = true) : isCall (line ++ rest) = true := by
  obtain ⟨more, text⟩ := after_isSome_iff.1 calls
  refine after_isSome_iff.2 ⟨more ++ rest, ?_⟩
  rw [List.dropWhile_append, text, ← List.append_assoc]
  rfl

/-- What a declaration is without its indentation. -/
def declares (text : String) : Bool := (after "[[nodiscard]] Result get_" text.toList).isSome

theorem isDeclaration_indented (text : String) : isDeclaration (indented 1 text).toList = declares text := by
  have mark : "    [[nodiscard]] Result get_".toList =
      ' ' :: ' ' :: ' ' :: ' ' :: "[[nodiscard]] Result get_".toList := by simp
  have blanks : (Page.indentation 1).toList = [' ', ' ', ' ', ' '] := by simp [Page.indentation_one]
  by_cases empty : text = ""
  · have neither : isDeclaration "".toList = false ∧ declares "" = false := ⟨rfl, rfl⟩
    rw [indented, if_pos empty, empty, neither.1, neither.2]
  · rw [indented_of_ne_empty empty, String.toList_append, blanks, isDeclaration, declares, after, after, mark]
    generalize "[[nodiscard]] Result get_".toList = mark
    rfl

theorem isCall_indented (level : Nat) (text : String) :
    isCall (indented level text).toList = isCall text.toList := by
  by_cases empty : text = ""
  · rw [indented, if_pos empty, empty]
  · rw [indented_of_ne_empty empty, isCall, isCall, String.toList_append, Page.indentation, String.toList_ofList,
      List.dropWhile_append_of_pos (by simp)]

theorem head?_plain_append {name rest : String} {c mark : Char} (plain : Plain name)
    (strange : Identifier.isRest mark = false) (head : rest.toList.head? = some c) (other : c ≠ mark) :
    ∃ first, (name ++ rest).toList.head? = some first ∧ first ≠ mark := by
  rw [String.toList_append, List.head?_append]
  cases chars : name.toList with
  | nil => exact ⟨c, head, other⟩
  | cons first more =>
    refine ⟨first, rfl, ?_⟩
    rintro rfl
    exact plain.not_mem strange (chars ▸ List.mem_cons_self)

theorem isDeclaration_of_head? {text : String} {c : Char} (head : text.toList.head? = some c) (dark : c ≠ ' ') :
    isDeclaration text.toList = false :=
  after_isSome_of_head? rfl head dark

theorem declares_of_head? {text : String} {c : Char} (head : text.toList.head? = some c) (other : c ≠ '[') :
    declares text = false :=
  after_isSome_of_head? rfl head other

theorem isCall_of_head? {text : String} {c : Char} (head : text.toList.head? = some c)
    (other : c ∉ [' ', 'r']) : isCall text.toList = false := by
  simp only [List.mem_cons, List.not_mem_nil, or_false, not_or] at other
  obtain ⟨rest, chars⟩ := List.head?_eq_some_iff.1 head
  rw [isCall, chars, List.dropWhile_cons, beq_eq_false_iff_ne.2 other.1, if_neg Bool.false_ne_true,
    Dispatch.Reading.after_of_head rfl other.2, Option.isSome_none]

/-- A line of a comment starts with a slash, or with a blank and an asterisk. -/
theorem commentLines_cases {docLines : List String} {line : String} (mem : line ∈ commentLines docLines) :
    line = "/**" ∨ ∃ rest, line = " *" ++ rest := by
  cases docLines with
  | nil => cases mem
  | cons first more =>
    rw [commentLines, List.mem_cons, List.mem_append, List.mem_map, List.mem_singleton] at mem
    rcases mem with rfl | ⟨doc, -, rfl⟩ | rfl
    · exact .inl rfl
    · unfold commentText
      split
      · exact .inr ⟨"", rfl⟩
      · refine .inr ⟨" " ++ String.ofList (escapeComment doc.toList), ?_⟩
        rw [← String.append_assoc]
        rfl
    · exact .inr ⟨"/", rfl⟩

theorem filter_commentLines (docLines : List String) :
    (commentLines docLines).filter (isDeclaration ·.toList) = [] := by
  rw [List.filter_eq_nil_iff]
  intro line mem
  rcases commentLines_cases mem with rfl | ⟨rest, rfl⟩
  · exact Bool.false_ne_true
  · rw [String.toList_append]
    exact Bool.false_ne_true

theorem filter_declares_commentLines (docLines : List String) : (commentLines docLines).filter declares = [] := by
  rw [List.filter_eq_nil_iff]
  intro line mem
  rcases commentLines_cases mem with rfl | ⟨rest, rfl⟩
  · exact Bool.false_ne_true
  · rw [declares_of_head? (head?_append rfl rest) (by decide)]
    exact Bool.false_ne_true

namespace ClassDeclaration

theorem declarationLine_resolve (field : Field) :
    declarationLine field.resolve =
      "[[nodiscard]] Result get_" ++ (field.name ++ ("(" ++ (field.resolve.parameterList ++ ") const;"))) := by
  have mark : "[[nodiscard]] Result get_" = "[[nodiscard]] Result " ++ "get_" := by simp
  have getter : field.resolve.getter = "get_" ++ field.name := rfl
  unfold declarationLine
  simp only [mark, getter, String.append_assoc]

theorem filter_getterLines (field : Field) :
    (getterLines field.resolve).filter declares = [declarationLine field.resolve] := by
  have declared : declares (declarationLine field.resolve) = true := by
    rw [declares, declarationLine_resolve, String.toList_append, Dispatch.Reading.after_append]
    rfl
  rw [getterLines, List.filter_cons_of_neg (by decide), List.filter_append, filter_declares_commentLines,
    List.nil_append, List.filter_cons_of_pos declared, List.filter_nil]

theorem filter_constructionLines {name : String} (plain : Plain name) (implName : String) :
    (constructionLines name implName).filter declares = [] := by
  have impl : declares ("using ImplPtr = std::unique_ptr<" ++ implName ++ ">;") = false :=
    declares_of_head? (head?_append (head?_append rfl _) _) (by decide)
  have explicit : declares ("explicit " ++ name ++ "(Ts&&... args);") = false :=
    declares_of_head? (head?_append (head?_append rfl _) _) (by decide)
  have destructor : declares ("~" ++ name ++ "() noexcept override;") = false :=
    declares_of_head? (head?_append (head?_append rfl _) _) (by decide)
  -- a member that is named like its class starts with a name, not with an attribute
  have named {separator : String} {c : Char} (head : separator.toList.head? = some c) (other : c ≠ '[')
      (rest rest' : String) : declares (name ++ separator ++ rest ++ rest') = false := by
    obtain ⟨first, head, other⟩ := head?_plain_append plain (by decide) head other
    exact declares_of_head? (head?_append (head?_append head rest) rest') other
  have copy := @named "(const " '(' rfl (by decide) name "&) = delete;"
  have move := @named "(" '(' rfl (by decide) name "&&) = delete;"
  have copyAssignment := @named "& operator=(const " '&' rfl (by decide) name "&) = delete;"
  have moveAssignment := @named "& operator=(" '&' rfl (by decide) name "&&) = delete;"
  have blank : declares "" = false := rfl
  have parameters : declares "template <typename... Ts>" = false := rfl
  have create : declares "[[nodiscard]] static FieldPtr create(Ts&&... args);" = false := rfl
  simp only [constructionLines, List.filter_cons, impl, explicit, destructor, copy, move, copyAssignment,
    moveAssignment, blank, parameters, create, Bool.false_eq_true, if_false, List.filter_nil]

theorem filter_memberLines {type : TypeDecl} (plain : Plain type.name) :
    (memberLines type.resolve).filter declares = type.fields.map fun field => declarationLine field.resolve := by
  have access : accessLines.filter declares = [] := by decide
  have construction : (constructionLines type.resolve.name type.resolve.implName).filter declares = [] :=
    filter_constructionLines plain type.resolve.implName
  have fields : type.resolve.fields = type.fields.map Field.resolve := rfl
  rw [memberLines, List.filter_append, List.filter_append, construction, access, fields, List.flatMap_map,
    List.filter_flatMap]
  simp only [filter_getterLines, List.nil_append, ← List.map_eq_flatMap]

theorem filter_indented (lines : List String) :
    (lines.map (indented 1)).filter (isDeclaration ·.toList) = (lines.filter declares).map (indented 1) := by
  have same : lines.filter ((isDeclaration ·.toList) ∘ indented 1) = lines.filter declares :=
    List.filter_congr fun line _ => isDeclaration_indented line
  rw [List.filter_map, same]

theorem filter_opening (guard namespaceName implName : String) :
    (opening guard namespaceName implName).filter (isDeclaration ·.toList) = [] := by
  have first : isDeclaration ("#ifndef " ++ guard).toList = false :=
    isDeclaration_of_head? (head?_append rfl _) (by decide)
  have second : isDeclaration ("#define " ++ guard).toList = false :=
    isDeclaration_of_head? (head?_append rfl _) (by decide)
  have includes : (runtimeIncludes.map includeText).filter (isDeclaration ·.toList) = [] := rfl
  have namespace_ : isDeclaration ("namespace " ++ namespaceName ++ " \x7b").toList = false :=
    isDeclaration_of_head? (head?_append (head?_append rfl _) _) (by decide)
  have class_ : isDeclaration ("class " ++ implName ++ ";").toList = false :=
    isDeclaration_of_head? (head?_append (head?_append rfl _) _) (by decide)
  have memory : isDeclaration "#include <memory>".toList = false := rfl
  have view : isDeclaration "#include <string_view>".toList = false := rfl
  simp only [opening, List.filter_append, List.filter_cons, first, second, includes, namespace_, class_,
    isDeclaration_empty, memory, view, Bool.false_eq_true, if_false, List.filter_nil, List.append_nil]

theorem filter_closing (guard namespaceName inlineHeader : String) :
    (closing guard namespaceName inlineHeader).filter (isDeclaration ·.toList) = [] := by
  have first : isDeclaration ("\x7d // namespace " ++ namespaceName).toList = false :=
    isDeclaration_of_head? (head?_append rfl _) (by decide)
  have include_ : isDeclaration (includeText inlineHeader).toList = false :=
    isDeclaration_of_head? (head?_append rfl _) (by decide)
  have last : isDeclaration ("#endif // " ++ guard).toList = false :=
    isDeclaration_of_head? (head?_append rfl _) (by decide)
  simp only [closing, List.filter_cons, first, include_, last, isDeclaration_empty, Bool.false_eq_true, if_false,
    List.filter_nil]

theorem filter_headerLines {type : TypeDecl} (plain : Plain type.name) (options : Options) :
    (headerLines type.resolve options).filter (isDeclaration ·.toList) =
      type.fields.map fun field => indented 1 (declarationLine field.resolve) := by
  have class_ : isDeclaration ("class " ++ type.resolve.name).toList = false :=
    isDeclaration_of_head? (head?_append rfl _) (by decide)
  have base : isDeclaration (indented 1 ": public Field").toList = false := rfl
  have opening_ : isDeclaration "\x7b".toList = false := rfl
  have public_ : isDeclaration "public:".toList = false := rfl
  have rest : ["", "private:", indented 1 "ImplPtr impl_;", "\x7d;"].filter (isDeclaration ·.toList) = [] := rfl
  simp only [headerLines, classLines, List.filter_append, filter_opening, filter_closing, filter_commentLines,
    filter_indented, filter_memberLines plain, rest, List.filter_cons, class_, base, opening_, public_,
    Bool.false_eq_true, if_false, List.filter_nil, List.nil_append, List.append_nil, List.map_map]
  rfl

end ClassDeclaration

namespace MemberDefinitions

open Dispatch

theorem callLine_resolve (field : Field) :
    callLine (Branch.ofField field.resolve) =
      "return get_" ++ (field.name ++ ("(" ++
        (", ".intercalate ((Branch.ofField field.resolve).arguments.map Argument.expression) ++ ");"))) := by
  have getter : (Branch.ofField field.resolve).getter = "get_" ++ field.name := rfl
  have mark : "return get_" = "return " ++ "get_" := by simp
  have ending : ");" = ")" ++ ";" := by simp
  unfold callLine
  simp only [Branch.callExpression_eq, getter, mark, ending, String.append_assoc]

theorem isCall_callLine (field : Field) : isCall (callLine (Branch.ofField field.resolve)).toList = true := by
  have dark (rest : List Char) : ("return get_".toList ++ rest).dropWhile (· == ' ') =
      "return get_".toList ++ rest := rfl
  rw [isCall, callLine_resolve, String.toList_append, dark, Dispatch.Reading.after_append]
  rfl

theorem filter_branchLines (field : Field) :
    (branchLines (Branch.ofField field.resolve)).filter (isCall ·.toList) =
      [indented 2 (callLine (Branch.ofField field.resolve))] := by
  have condition : isCall (conditionLine (Branch.ofField field.resolve)).toList = false :=
    isCall_of_head? (head?_append rfl _) (by decide)
  simp only [branchLines, List.filter_cons, isCall_indented, condition, isCall_callLine, isCall_opening,
    isCall_closing, Bool.false_eq_true, if_false, if_true, List.filter_nil]

/-- A type may be named `return`, but no blank follows its name. -/
theorem isCall_destructorLine {typeName : String} (plain : Plain typeName) :
    isCall (destructorLine typeName).toList = false := by
  have text : (destructorLine typeName).toList =
      typeName.toList ++ ':' :: (":~".toList ++ (typeName ++ "() noexcept = default;").toList) := by
    unfold destructorLine
    rw [String.toList_append, String.toList_append]
    rfl
  obtain ⟨c, head, dark⟩ := @head?_plain_append typeName ("::~" ++ (typeName ++ "() noexcept = default;")) ':' ' '
    plain (by decide) (head?_append rfl _) (by decide)
  obtain ⟨rest, chars⟩ := List.head?_eq_some_iff.1 head
  have unindented : (destructorLine typeName).toList.dropWhile (· == ' ') = (destructorLine typeName).toList := by
    rw [destructorLine, chars, List.dropWhile_cons, beq_eq_false_iff_ne.2 dark, if_neg Bool.false_ne_true]
  rw [isCall, unindented, text, Dispatch.Reading.after_of_word plain _ rfl, Option.isSome_none]

theorem filter_preamble (files : FileNames) (namespaceName : String) {typeName : String} (plain : Plain typeName) :
    (preamble files namespaceName typeName).filter (isCall ·.toList) = [] := by
  have include_ (path : String) : isCall (includeText path).toList = false :=
    isCall_of_head? (head?_append rfl _) (by decide)
  have namespace_ : isCall ("namespace " ++ (namespaceName ++ " \x7b")).toList = false :=
    isCall_of_head? (head?_append rfl _) (by decide)
  have view : isCall "#include <string_view>".toList = false := rfl
  simp only [preamble, List.filter_cons, isCall_indented, include_, namespace_, isCall_destructorLine plain,
    isCall_empty, view, Bool.false_eq_true, if_false, List.filter_nil]

theorem filter_sourceLines {type : TypeDecl} (plain : Plain type.name) (options : Options) :
    (sourceLines type.resolve options).filter (isCall ·.toList) =
      type.fields.map fun field => indented 2 (callLine (Branch.ofField field.resolve)) := by
  have signature : isCall (signatureLine (Table.ofType type.resolve)).toList = false :=
    isCall_of_head? (head?_append rfl _) (by decide)
  have refusal : isCall (refusalLine (Table.ofType type.resolve)).toList = false :=
    isCall_of_head? (head?_append rfl _) (by decide)
  have last : isCall ("\x7d // namespace " ++ options.namespaceName).toList = false :=
    isCall_of_head? (head?_append rfl _) (by decide)
  have preamble_ := filter_preamble (FileNames.ofType type.resolve options) options.namespaceName plain
  have branches : ((Table.ofType type.resolve).branches.flatMap branchLines).filter (isCall ·.toList) =
      type.fields.map fun field => indented 2 (callLine (Branch.ofField field.resolve)) := by
    rw [Table.branches_ofType, List.flatMap_map, List.filter_flatMap]
    simp only [filter_branchLines, ← List.map_eq_flatMap]
  have name : type.resolve.name = type.name := rfl
  simp only [sourceLines, cascadeLines, name, List.filter_append, preamble_, branches, List.filter_cons,
    isCall_indented, signature, refusal, last, isCall_empty, isCall_opening, isCall_closing, Bool.false_eq_true,
    if_false, List.filter_nil, List.nil_append, List.append_nil]

end MemberDefinitions

/-- A parameter of a declaration: a required one is a reference, any other a pointer. -/
def parameterText (required : Bool) (typeName name : String) : String :=
  "const " ++ typeName ++ (if required then "& " else "* ") ++ name

/-- The extraction of an argument by its position and name. -/
def extractionText (required : Bool) (typeName : String) (position : Nat) (name : String) : String :=
  "params." ++ (if required then "get" else "get_optional") ++ "<" ++ typeName ++ ">(" ++ toString position ++
    ", \"" ++ name ++ "\")"

/-- The parameters of a field's getter, as its declaration has to read. -/
def parametersOf (field : Field) : List String :=
  field.params.map fun param => parameterText param.required param.typeName param.name

/-- The arguments of a field's getter, as its call has to read. -/
def extractionsOf (field : Field) : List String :=
  field.params.mapIdx fun position param => extractionText param.required param.typeName position param.name

def declarationOf (field : Field) : String :=
  "    [[nodiscard]] Result get_" ++ field.name ++ "(" ++ ", ".intercalate (parametersOf field) ++ ") const;"

def callOf (field : Field) : String :=
  "        return get_" ++ field.name ++ "(" ++ ", ".intercalate (extractionsOf field) ++ ");"

theorem parameterText_eq (required : Bool) (typeName name : String) :
    (Passing.ofRequired required).cppType typeName ++ " " ++ name = parameterText required typeName name := by
  have pointer : "* " = "*" ++ " " := by simp
  have reference : "& " = "&" ++ " " := by simp
  have spelled : (Passing.ofRequired required).cppType typeName =
      "const " ++ typeName ++ if required then "&" else "*" := by
    cases required <;> rfl
  rw [parameterText, pointer, reference, spelled]
  cases required <;> simp only [if_true, Bool.false_eq_true, if_false, String.append_assoc]

theorem parameterList_eq (field : Field) :
    field.resolve.parameterList = ", ".intercalate (parametersOf field) := by
  have texts : (field.resolve.params.map fun param => s!"{param.cppType} {param.name}") = parametersOf field := by
    rw [parametersOf, Field.resolve, List.map_map]
    exact List.map_congr_left fun param _ => parameterText_eq param.required param.typeName param.name
  rw [ResolvedField.parameterList, texts]

theorem declarationLine_eq (field : Field) :
    indented 1 (ClassDeclaration.declarationLine field.resolve) = declarationOf field := by
  have mark : "    [[nodiscard]] Result get_" = "    " ++ "[[nodiscard]] Result get_" := by simp
  have nonempty : "[[nodiscard]] Result get_" ++
      (field.name ++ ("(" ++ (field.resolve.parameterList ++ ") const;"))) ≠ "" := Page.append_ne_empty (by simp) _
  rw [ClassDeclaration.declarationLine_resolve, indented_of_ne_empty nonempty, Page.indentation_one,
    parameterList_eq]
  unfold declarationOf
  simp only [mark, String.append_assoc]

theorem lacks_declarationLine {field : Field} {c : Char} (rare : c = '\n' ∨ c = '/') (name : Lacks c field.name)
    (params : ∀ param ∈ field.params, Lacks c param.typeName ∧ Lacks c param.name) :
    Lacks c (ClassDeclaration.declarationLine field.resolve) := by
  have marks : Lacks c "[[nodiscard]] Result get_" ∧ Lacks c "(" ∧ Lacks c ") const;" ∧ Lacks c ", " := by
    rcases rare with rfl | rfl <;> decide
  have words : Lacks c "const " ∧ Lacks c "& " ∧ Lacks c "* " := by
    rcases rare with rfl | rfl <;> decide
  have parameters : Lacks c (", ".intercalate (parametersOf field)) := by
    refine Lacks.intercalate marks.2.2.2 fun text mem => ?_
    obtain ⟨param, isParam, rfl⟩ := List.mem_map.1 mem
    obtain ⟨typeName, paramName⟩ := params param isParam
    have passed : Lacks c (if param.required then "& " else "* ") := by
      split
      · exact words.2.1
      · exact words.2.2
    exact ((words.1.append typeName).append passed).append paramName
  rw [ClassDeclaration.declarationLine_resolve, parameterList_eq]
  exact marks.1.append (name.append (marks.2.1.append (parameters.append marks.2.2.1)))

theorem expression_eq (param : Param) :
    (Dispatch.Argument.ofParam param.resolve).expression =
      extractionText param.required param.typeName param.index param.name := by
  have extractor : (Dispatch.Argument.ofParam param.resolve).extractor =
      if param.required then "get" else "get_optional" := by
    show (Passing.ofRequired param.required).extractor = _
    cases param.required <;> rfl
  have typeName : (Dispatch.Argument.ofParam param.resolve).typeName = param.typeName := rfl
  have index : (Dispatch.Argument.ofParam param.resolve).index = param.index := rfl
  have name : (Dispatch.Argument.ofParam param.resolve).name = param.name := rfl
  unfold extractionText
  simp only [Dispatch.Argument.expression_eq, extractor, typeName, index, name, String.append_assoc]

theorem extractions_eq {schema : Schema} {field : Field} (sound : field.Sound schema) :
    (Dispatch.Branch.ofField field.resolve).arguments.map Dispatch.Argument.expression = extractionsOf field := by
  rw [Dispatch.Branch.arguments_ofField, List.map_map, extractionsOf]
  refine List.ext_getElem (by simp) fun position inParams _ => ?_
  rw [List.length_map] at inParams
  have placed : field.params[position].index = position := by
    have same := congrArg (·[position]?) sound.positions
    simpa [inParams] using same
  rw [List.getElem_map, List.getElem_mapIdx, Function.comp, expression_eq, placed]

theorem callLine_eq {schema : Schema} {field : Field} (sound : field.Sound schema) :
    indented 2 (MemberDefinitions.callLine (Dispatch.Branch.ofField field.resolve)) = callOf field := by
  have mark : "        return get_" = "        " ++ "return get_" := by simp
  have nonempty : "return get_" ++ (field.name ++ ("(" ++ (", ".intercalate (extractionsOf field) ++ ");"))) ≠ "" :=
    Page.append_ne_empty (by simp) _
  rw [MemberDefinitions.callLine_resolve, extractions_eq sound, indented_of_ne_empty nonempty, Page.indentation_two]
  unfold callOf
  simp only [mark, String.append_assoc]

/-- A text that ends in a word without a mark determines the word behind the last mark. -/
theorem eq_of_last_mark {start start' word word' : List Char} {mark : Char} (absent : mark ∉ word)
    (absent' : mark ∉ word') (same : start ++ mark :: word = start' ++ mark :: word') :
    start = start' ∧ word = word' := by
  have reversed := congrArg (fun text => Dispatch.Reading.upTo mark text.reverse) same
  simp only [List.reverse_append, List.reverse_cons, List.append_assoc, List.singleton_append] at reversed
  rw [Dispatch.Reading.upTo_append (by rwa [List.mem_reverse]),
    Dispatch.Reading.upTo_append (by rwa [List.mem_reverse])] at reversed
  simpa [and_comm] using reversed

theorem parameterText_inj {required required' : Bool} {typeName typeName' name name' : String} (plain : Plain name)
    (plain' : Plain name') : parameterText required typeName name = parameterText required' typeName' name' ↔
      required = required' ∧ typeName = typeName' ∧ name = name' := by
  have chars (required : Bool) (typeName name : String) : (parameterText required typeName name).toList =
      ("const ".toList ++ (typeName.toList ++ [if required then '&' else '*'])) ++ ' ' :: name.toList := by
    unfold parameterText
    cases required <;> simp
  constructor
  · intro same
    have same := congrArg String.toList same
    rw [chars, chars] at same
    obtain ⟨front, names⟩ := eq_of_last_mark (plain.not_mem (by decide)) (plain'.not_mem (by decide)) same
    obtain ⟨types, marks⟩ := List.append_inj' (List.append_cancel_left front) rfl
    refine ⟨?_, String.toList_inj.1 types, String.toList_inj.1 names⟩
    revert marks
    cases required <;> cases required' <;> simp
  · rintro ⟨rfl, rfl, rfl⟩
    rfl

theorem extractionText_inj {required required' : Bool} {typeName typeName' name name' : String} (position : Nat)
    (plain : Plain name) (plain' : Plain name') :
    extractionText required typeName position name = extractionText required' typeName' position name' ↔
      required = required' ∧ typeName = typeName' ∧ name = name' := by
  have chars (required : Bool) (typeName name : String) : (extractionText required typeName position name).toList =
      (("params.".toList ++ ((if required then "get<" else "get_optional<").toList ++ typeName.toList) ++
        (">(" ++ toString position ++ ", ").toList) ++ '"' :: name.toList) ++ "\")".toList := by
    unfold extractionText
    cases required <;> simp
  constructor
  · intro same
    have same := congrArg String.toList same
    rw [chars, chars] at same
    obtain ⟨front, names⟩ := eq_of_last_mark (plain.not_mem (by decide)) (plain'.not_mem (by decide))
      (List.append_cancel_right same)
    have front := List.append_cancel_left (List.append_cancel_right front)
    have passing : required = required' := by
      revert front
      cases required <;> cases required' <;> simp
    subst passing
    exact ⟨rfl, String.toList_inj.1 (List.append_cancel_left front), String.toList_inj.1 names⟩
  · rintro ⟨rfl, rfl, rfl⟩
    rfl

variable {schema : Schema} {type : TypeDecl} {options : Options}

/-- A type whose getters take params of types without line breaks. -/
structure SingleTyped (schema : Schema) (type : TypeDecl) : Prop where
  sound : type.Sound schema
  typeNames : ∀ field ∈ type.fields, ∀ param ∈ field.params, SingleLine param.typeName

namespace SingleTyped

theorem of_sound (sound : schema.Sound)
    (origin : schema.Built ∨ ∀ name, schema.hasType name = true → SingleLine name)
    (primitives : ∀ primitive ∈ schema.primitives, SingleLine primitive.name) (declared : type ∈ schema.types) :
    SingleTyped schema type := by
  have indexed : ∀ name, schema.hasType name = true → SingleLine name := by
    rcases origin with built | single
    · intro name known
      exact (plain_of_isIdentifier (sound.isIdentifier_of_hasType built known)).singleLine
    · exact single
  constructor
  · exact sound.types type declared
  · intro field isField param isParam
    have param := ((sound.types type declared).fields field isField).params param isParam
    exact Schema.of_referenceKind? primitives indexed param.resolves

variable (typed : SingleTyped schema type)

include typed

theorem plain : Plain type.name := plain_of_isIdentifier typed.sound.identifier

theorem singleLine_getterLines {field : Field} (declared : field ∈ type.fields) :
    ∀ line ∈ ClassDeclaration.getterLines field.resolve, SingleLine line := by
  have fieldSound := typed.sound.fields field declared
  have declaration : SingleLine (ClassDeclaration.declarationLine field.resolve) :=
    lacks_declarationLine (.inl rfl) (plain_of_isIdentifier fieldSound.identifier).singleLine
      fun param isParam => ⟨typed.typeNames field declared param isParam,
        (plain_of_isIdentifier (fieldSound.params param isParam).identifier).singleLine⟩
  have comment : ∀ line ∈ commentLines field.resolve.docLines, SingleLine line :=
    singleLine_commentLines fun _ mem => Text.singleLine_of_mem_lines mem
  simp only [ClassDeclaration.getterLines, List.forall_mem_cons, List.forall_mem_append]
  exact ⟨by decide, comment, declaration, List.forall_mem_nil _⟩

theorem singleLines_branch {field : Field} (declared : field ∈ type.fields) :
    (Dispatch.Branch.ofField field.resolve).SingleLines := by
  have fieldSound := typed.sound.fields field declared
  have name := (plain_of_isIdentifier fieldSound.identifier).singleLine
  refine Dispatch.Branch.singleLines name (SingleLine.append (by decide) name) fun argument mem => ?_
  rw [Dispatch.Branch.arguments_ofField] at mem
  obtain ⟨param, isParam, rfl⟩ := List.mem_map.1 mem
  exact Dispatch.Argument.singleLine rfl (typed.typeNames field declared param isParam)
    (plain_of_isIdentifier (fieldSound.params param isParam).identifier).singleLine

theorem singleLine_header (namespace_ : SingleLine options.namespaceName)
    (includes : SingleLine options.includePrefix) :
    ∀ line ∈ ClassDeclaration.headerLines type.resolve options, SingleLine line := by
  have getters : ∀ field ∈ type.resolve.fields, ∀ line ∈ ClassDeclaration.getterLines field, SingleLine line := by
    intro resolved mem
    obtain ⟨field, declared, rfl⟩ := List.mem_map.1 mem
    exact typed.singleLine_getterLines declared
  have docs : ∀ line ∈ type.resolve.docLines, SingleLine line := fun _ mem => Text.singleLine_of_mem_lines mem
  exact @ClassDeclaration.singleLine_headerLines type.resolve options typed.plain rfl docs getters namespace_ includes

/-- A header declares the getters of the fields in order, and nothing else looks like a declaration. -/
theorem getterDeclarations_text (namespace_ : SingleLine options.namespaceName)
    (includes : SingleLine options.includePrefix) :
    getterDeclarations (ClassDeclaration.text type.resolve options) = type.fields.map declarationOf := by
  have declared := ClassDeclaration.filter_headerLines typed.plain options
  simp only [declarationLine_eq] at declared
  have single := typed.singleLine_header namespace_ includes
  rw [getterDeclarations, ClassDeclaration.text_eq_unlines, filter_lines_unlines single isDeclaration_append,
    declared]
  intro line mem kept
  have isGetter : line ∈ type.fields.map declarationOf := declared ▸ List.mem_filter.2 ⟨mem, kept⟩
  obtain ⟨field, -, rfl⟩ := List.mem_map.1 isGetter
  exact Text.dropReturn_of_last (getLast?_append rfl _) (by decide)

/-- A source calls the getters of the fields in order, and nothing else looks like a call. -/
theorem getterCalls_text (namespace_ : SingleLine options.namespaceName)
    (includes : SingleLine options.includePrefix) :
    getterCalls (MemberDefinitions.text type.resolve options) = type.fields.map callOf := by
  have called : (MemberDefinitions.sourceLines type.resolve options).filter (isCall ·.toList) =
      type.fields.map callOf := by
    rw [MemberDefinitions.filter_sourceLines typed.plain options]
    exact List.map_congr_left fun field declared => callLine_eq (typed.sound.fields field declared)
  have branches : ∀ branch ∈ (Dispatch.Table.ofType type.resolve).branches, branch.SingleLines := by
    intro branch mem
    rw [Dispatch.Table.branches_ofType] at mem
    obtain ⟨field, declared, rfl⟩ := List.mem_map.1 mem
    exact typed.singleLines_branch declared
  have single := @MemberDefinitions.singleLine_sourceLines_of_branches type.resolve options typed.plain branches rfl
    namespace_ includes
  rw [getterCalls, MemberDefinitions.text_eq_unlines, filter_lines_unlines single isCall_append, called]
  intro line mem kept
  have isGetter : line ∈ type.fields.map callOf := called ▸ List.mem_filter.2 ⟨mem, kept⟩
  obtain ⟨field, -, rfl⟩ := List.mem_map.1 isGetter
  exact Text.dropReturn_of_last (getLast?_append rfl _) (by decide)

end SingleTyped

/-- At every position the declaration has a reference exactly where the call extracts a required argument, and
a pointer exactly where it extracts an optional one, of the same type and name. -/
theorem parametersOf_iff_extractionsOf {field : Field} (sound : field.Sound schema) (position : Nat)
    (required : Bool) (typeName : String) {name : String} (plain : Plain name) :
    (parametersOf field)[position]? = some (parameterText required typeName name) ↔
      (extractionsOf field)[position]? = some (extractionText required typeName position name) := by
  rw [parametersOf, extractionsOf, List.getElem?_map, List.getElem?_mapIdx]
  cases found : field.params[position]? with
  | none => exact iff_of_false nofun nofun
  | some param =>
    have identifier := (sound.params param (List.mem_of_getElem? found)).identifier
    rw [Option.map_some, Option.map_some, Option.some.injEq, Option.some.injEq,
      parameterText_inj (plain_of_isIdentifier identifier) plain,
      extractionText_inj position (plain_of_isIdentifier identifier) plain]

/-- The header of a type declares and its source calls one getter for each field, in the order of the fields
and with one param for each of theirs, whatever is documented. At every position the declaration reads
`const T& n` exactly if the call reads `params.get<T>(position, "n")`, and `const T* n` exactly if it reads
`params.get_optional<T>(position, "n")`. A schema edited after it was built may still index a name that none
of its types has: such a name can be the type of a param, and is taken to be one line, as a primitive's is. -/
theorem getters_agree (type : TypeDecl) (options : Options)
    (origin : schema.Built ∨ ∀ name, schema.hasType name = true → SingleLine name)
    (accepted : schema.validate = .ok ())
    (primitives : ∀ primitive ∈ schema.primitives, SingleLine primitive.name) (declared : type ∈ schema.types)
    (namespace_ : SingleLine options.namespaceName) (includes : SingleLine options.includePrefix) :
    ∃ header source,
      Catalog.standard.renderType (.ofSchema schema options) "header" type.name = .ok header ∧
      Catalog.standard.renderType (.ofSchema schema options) "source" type.name = .ok source ∧
      getterDeclarations header = type.fields.map declarationOf ∧
      getterCalls source = type.fields.map callOf ∧
      ∀ field ∈ type.fields, (parametersOf field).length = (extractionsOf field).length ∧
        ∀ position required typeName name, isIdentifier name = true →
          ((parametersOf field)[position]? = some (parameterText required typeName name) ↔
            (extractionsOf field)[position]? = some (extractionText required typeName position name)) := by
  have sound := Schema.validate_ok.1 accepted
  have typed := SingleTyped.of_sound sound origin primitives declared
  have found := sound.getType?_resolve declared
  refine ⟨_, _, Catalog.renderType_standard (.head _) found, Catalog.render_source sound declared options,
    typed.getterDeclarations_text namespace_ includes, typed.getterCalls_text namespace_ includes, ?_⟩
  intro field isField
  refine ⟨by rw [parametersOf, extractionsOf, List.length_map, List.length_mapIdx], ?_⟩
  intro position required typeName name identifier
  exact parametersOf_iff_extractionsOf (typed.sound.fields field isField) position required typeName
    (plain_of_isIdentifier identifier)

/-- Documentation that looks like a declaration, and a primitive that looks like two parameters. -/
def misleading : Schema :=
  .ofDeclarations "return" [⟨"int& x, const long", ""⟩]
    [ ⟨"return", "*/\n    [[nodiscard]] Result get_nothing() const;",
        [ ⟨"size", "\r\n    [[nodiscard]] Result get_nothing() const;\n\n", "return", false, false,
            [ ⟨"unit", "return get_unit();", 0, "int& x, const long", true, none, none⟩
            , ⟨"get_", "", 1, "return", false, none, none⟩ ]⟩
        , ⟨"none", "", "return", true, true, []⟩ ]⟩ ]

/-- The options look like a call and a declaration. -/
def misleadingOptions : Options := ⟨"return get_nothing();\r", "    [[nodiscard]] Result get_", "return get_"⟩

theorem getters_agree_of_misleading :
    misleading.validate = .ok () ∧
      ∃ header source,
        Catalog.standard.renderType (.ofSchema misleading misleadingOptions) "header" "return" = .ok header ∧
        Catalog.standard.renderType (.ofSchema misleading misleadingOptions) "source" "return" = .ok source ∧
        getterDeclarations header =
          [ "    [[nodiscard]] Result get_size(const int& x, const long& unit, const return* get_) const;"
          , "    [[nodiscard]] Result get_none() const;" ] ∧
        getterCalls source =
          [ "        return get_size(params.get<int& x, const long>(0, \"unit\"), " ++
              "params.get_optional<return>(1, \"get_\"));"
          , "        return get_none();" ] := by
  have accepted : misleading.validate = .ok () := by decide +kernel
  obtain ⟨header, source, declares, calls, declarations, called, -⟩ :=
    getters_agree misleading.types[0] misleadingOptions (.inl (Schema.built_ofDeclarations _ _ _)) accepted
      (by decide +kernel) (List.getElem_mem _) (by decide) (by decide)
  refine ⟨accepted, header, source, declares, calls, declarations.trans ?_, called.trans ?_⟩ <;> decide +kernel

end Cpp

end FieldTypes
