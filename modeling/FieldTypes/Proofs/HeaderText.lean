import FieldTypes.Cpp.ClassDeclaration
import FieldTypes.Proofs.SourceReading

set_option autoImplicit false

namespace FieldTypes

open Text (Lacks SingleLine unlines)

namespace Cpp

/-- A documentation line between the marks of a comment. -/
def commentText (line : String) : String :=
  if line = "" then " *" else " * " ++ String.ofList (escapeComment line.toList)

/-- The lines of a documentation comment. -/
def commentLines : List String → List String
  | [] => []
  | line :: lines => "/**" :: ((line :: lines).map commentText ++ [" */"])

theorem commentLine_eq (line : String) : commentLine line = .line (commentText line) := by
  unfold commentLine commentText
  split <;> rfl

theorem docComment_eq (docLines : List String) : docComment docLines = (commentLines docLines).map .line := by
  cases docLines with
  | nil => rfl
  | cons line lines =>
    have each : commentLine = Step.line ∘ commentText := funext commentLine_eq
    simp only [docComment, commentLines, each, List.map_cons, List.map_append, List.map_map, List.map_nil,
      List.cons_append, List.nil_append, Function.comp_apply]

theorem linesAll_docComment (level : Nat) (docLines : List String) :
    Step.linesAll level (docComment docLines) = ((commentLines docLines).map (indented level), level) := by
  rw [docComment_eq, Step.linesAll_map_line]

namespace ClassDeclaration

def declarationLine (field : ResolvedField) : String :=
  "[[nodiscard]] Result " ++ field.getter ++ "(" ++ field.parameterList ++ ") const;"

def getterLines (field : ResolvedField) : List String :=
  "" :: (commentLines field.docLines ++ [declarationLine field])

def constructionLines (name implName : String) : List String :=
  [ "using ImplPtr = std::unique_ptr<" ++ implName ++ ">;", ""
  , "template <typename... Ts>", "explicit " ++ name ++ "(Ts&&... args);", ""
  , "template <typename... Ts>", "[[nodiscard]] static FieldPtr create(Ts&&... args);", ""
  , name ++ "(const " ++ name ++ "&) = delete;", name ++ "(" ++ name ++ "&&) = delete;"
  , name ++ "& operator=(const " ++ name ++ "&) = delete;", name ++ "& operator=(" ++ name ++ "&&) = delete;"
  , "~" ++ name ++ "() noexcept override;", "" ]

def accessLines : List String :=
  [ "[[nodiscard]] Result get(std::string_view member, const FieldCallParams& params) const override;"
  , "[[nodiscard]] Primitive to_primitive() const override;" ]

def memberLines (type : ResolvedType) : List String :=
  constructionLines type.name type.implName ++ accessLines ++ type.fields.flatMap getterLines

def classLines (type : ResolvedType) : List String :=
  commentLines type.docLines ++ ["class " ++ type.name, indented 1 ": public Field", "\x7b", "public:"] ++
    (memberLines type).map (indented 1) ++ ["", "private:", indented 1 "ImplPtr impl_;", "\x7d;"]

def opening (guard namespaceName implName : String) : List String :=
  ["#ifndef " ++ guard, "#define " ++ guard, ""] ++ runtimeIncludes.map includeText ++
    [ "", "#include <memory>", "#include <string_view>", "", "namespace " ++ namespaceName ++ " \x7b", ""
    , "class " ++ implName ++ ";", "" ]

def closing (guard namespaceName inlineHeader : String) : List String :=
  ["", "\x7d // namespace " ++ namespaceName, "", includeText inlineHeader, "", "#endif // " ++ guard]

def headerLines (type : ResolvedType) (options : Options) : List String :=
  let files := FileNames.ofType type options
  opening files.headerGuard options.namespaceName type.implName ++ classLines type ++
    closing files.headerGuard options.namespaceName files.inlineHeaderInclude

theorem linesAll_getter (field : ResolvedField) :
    Step.linesAll 1 (.blank :: getter field) = ((getterLines field).map (indented 1), 1) := by
  have declaration : s!"[[nodiscard]] Result {field.getter}({field.parameterList}) const;" =
      declarationLine field := rfl
  have blank : indented 1 "" = "" := rfl
  simp only [getter, declaration, Step.linesAll, Step.linesAll_append, Step.lines, linesAll_docComment,
    getterLines, blank, List.map_append, List.map_cons, List.map_nil, List.singleton_append]

theorem linesAll_construction (name implName : String) :
    Step.linesAll 1 (construction name implName) =
      ("public:" :: (constructionLines name implName).map (indented 1), 1) := rfl

theorem linesAll_class (type : ResolvedType) : Step.linesAll 0 (classSteps type) = (classLines type, 0) := by
  have name : s!"class {type.name}" = "class " ++ type.name := rfl
  have accessed : Step.linesAll 1 access = (accessLines.map (indented 1), 1) := rfl
  have kept : Step.linesAll 1 state = (["", "private:", indented 1 "ImplPtr impl_;"], 1) := rfl
  have getters : Step.linesAll 1 (getters type.fields) =
      ((type.fields.flatMap getterLines).map (indented 1), 1) := by
    rw [ClassDeclaration.getters, Step.linesAll_flatMap linesAll_getter, List.map_flatMap]
  simp only [classSteps, name, Step.linesAll, Step.lines, Step.linesAll_append, linesAll_docComment,
    linesAll_construction, accessed, getters, kept, Nat.zero_add, Nat.add_one_sub_one, classLines, memberLines,
    indented_zero, map_indented_zero, List.map_append, List.append_assoc, List.cons_append, List.nil_append,
    List.append_nil]

theorem linesAll_includes :
    Step.linesAll 0 (runtimeIncludes.map includeLine) = (runtimeIncludes.map includeText, 0) := by
  have each : includeLine = Step.line ∘ includeText := funext includeLine_eq
  rw [each, ← List.map_map, Step.linesAll_map_line, map_indented_zero]

theorem text_eq_unlines (type : ResolvedType) (options : Options) :
    text type options = unlines (headerLines type options) := by
  have lines : (Step.linesAll 0 (steps type options)).1 = headerLines type options := by
    unfold headerLines opening closing
    simp only [steps, guarded, inNamespace, includeLine_eq, Step.linesAll_append, Step.linesAll, Step.lines,
      linesAll_class, linesAll_includes, indented_zero, List.append_assoc, List.cons_append, List.nil_append,
      List.append_nil]
    rfl
  rw [text, layout_eq, lines]

end ClassDeclaration

theorem newline_not_mem_escapeComment (line : List Char) (single : '\n' ∉ line) : '\n' ∉ escapeComment line := by
  induction line using escapeComment.induct with
  | case1 => exact single
  | case2 rest ih =>
    simp only [List.mem_cons, not_or] at single
    simp only [escapeComment, List.mem_cons, not_or]
    exact ⟨by decide, by decide, by decide, ih single.2.2⟩
  | case3 c rest other ih =>
    rw [List.mem_cons, not_or] at single
    rw [escapeComment, List.mem_cons, not_or]
    · exact ⟨single.1, ih single.2⟩
    · exact other

theorem singleLine_commentText {line : String} (single : SingleLine line) : SingleLine (commentText line) := by
  unfold commentText
  split
  · decide
  · refine SingleLine.append (by decide) ?_
    unfold SingleLine
    rw [String.toList_ofList]
    exact newline_not_mem_escapeComment _ single

theorem singleLine_commentLines {docLines : List String} (single : ∀ line ∈ docLines, SingleLine line) :
    ∀ line ∈ commentLines docLines, SingleLine line := by
  cases docLines with
  | nil => exact single
  | cons first rest =>
    rw [commentLines, List.forall_mem_cons, List.forall_mem_append, List.forall_mem_map]
    exact ⟨by decide, fun line mem => singleLine_commentText (single line mem), by decide⟩

theorem Options.isRest_guardChar (c : Char) : Identifier.isRest (guardChar c) = true := by
  unfold guardChar
  split
  · rename_i plain
    rw [Identifier.isRest, plain, Bool.true_or]
  · rfl

theorem plain_guard (options : Options) (file : String) : Plain (options.guard file) := by
  intro c mem
  rw [Options.guard, String.toList_map] at mem
  obtain ⟨original, -, rfl⟩ := List.mem_map.1 mem
  exact Options.isRest_guardChar original

theorem singleLine_guard (options : Options) (file : String) : SingleLine (options.guard file) :=
  (plain_guard options file).singleLine

namespace ClassDeclaration

/-- What a class declares before its getters has a character only if its name does. -/
theorem lacks_constructionLines {name : String} {c : Char} (rare : c = '\n' ∨ c = '/') (plain : Lacks c name) :
    ∀ line ∈ constructionLines name (implName name), Lacks c line := by
  rcases rare with rfl | rfl <;>
  · have impl : Lacks _ (implName name) := plain.append (by decide)
    simp only [constructionLines, List.forall_mem_cons]
    exact ⟨(Lacks.append (by decide) impl).append (by decide), by decide, by decide,
      (Lacks.append (by decide) plain).append (by decide), by decide, by decide, by decide, by decide,
      ((plain.append (by decide)).append plain).append (by decide),
      ((plain.append (by decide)).append plain).append (by decide),
      ((plain.append (by decide)).append plain).append (by decide),
      ((plain.append (by decide)).append plain).append (by decide),
      (Lacks.append (by decide) plain).append (by decide), by decide, List.forall_mem_nil _⟩

theorem lacks_accessLines {c : Char} (rare : c = '\n' ∨ c = '/') : ∀ line ∈ accessLines, Lacks c line := by
  rcases rare with rfl | rfl <;> simp [accessLines, Lacks]

theorem singleLine_classLines {type : ResolvedType} (plain : Plain type.name)
    (impl : type.implName = implName type.name) (docs : ∀ line ∈ type.docLines, SingleLine line)
    (getters : ∀ field ∈ type.fields, ∀ line ∈ getterLines field, SingleLine line) :
    ∀ line ∈ classLines type, SingleLine line := by
  have construction := lacks_constructionLines (.inl rfl) plain.singleLine
  rw [← impl] at construction
  have members : ∀ line ∈ memberLines type, SingleLine (indented 1 line) := by
    intro line mem
    refine singleLine_indented ?_ 1
    simp only [memberLines, List.mem_append, List.mem_flatMap] at mem
    rcases mem with (inConstruction | inAccess) | ⟨field, declared, inGetter⟩
    · exact construction line inConstruction
    · exact lacks_accessLines (.inl rfl) line inAccess
    · exact getters field declared line inGetter
  have opening : SingleLine ("class " ++ type.name) := SingleLine.append (by decide) plain.singleLine
  simp only [classLines, List.forall_mem_append, List.forall_mem_cons, List.forall_mem_map]
  exact ⟨⟨⟨singleLine_commentLines docs, opening, by decide, by decide, by decide, List.forall_mem_nil _⟩, members⟩,
    by decide, by decide, by decide, by decide, List.forall_mem_nil _⟩

theorem singleLine_headerLines {type : ResolvedType} {options : Options} (plain : Plain type.name)
    (impl : type.implName = implName type.name) (docs : ∀ line ∈ type.docLines, SingleLine line)
    (getters : ∀ field ∈ type.fields, ∀ line ∈ getterLines field, SingleLine line)
    (namespace_ : SingleLine options.namespaceName) (includes : SingleLine options.includePrefix) :
    ∀ line ∈ headerLines type options, SingleLine line := by
  have guard := singleLine_guard options (headerFile type.name)
  have inlineHeader : SingleLine (options.includePath (inlineHeaderFile type.name)) :=
    singleLine_includePath includes (plain.singleLine.append (by decide))
  have class_ : SingleLine type.implName := impl ▸ plain.singleLine.append (by decide)
  have runtime : ∀ path ∈ runtimeIncludes, SingleLine (includeText path) := by decide
  have blank : SingleLine "" := by decide
  simp only [headerLines, opening, closing, List.forall_mem_append, List.forall_mem_cons, List.forall_mem_map]
  refine ⟨⟨⟨⟨⟨?_, ?_, blank, List.forall_mem_nil _⟩, runtime⟩, blank, by decide, by decide, blank, ?_, blank, ?_,
    blank, List.forall_mem_nil _⟩, singleLine_classLines plain impl docs getters⟩, blank, ?_, blank, ?_, blank, ?_,
    List.forall_mem_nil _⟩
  · exact SingleLine.append (by decide) guard
  · exact SingleLine.append (by decide) guard
  · exact (SingleLine.append (by decide) namespace_).append (by decide)
  · exact (SingleLine.append (by decide) class_).append (by decide)
  · exact SingleLine.append (by decide) namespace_
  · exact SingleLine.append (by decide) (inlineHeader.append (by decide))
  · exact SingleLine.append (by decide) guard

end ClassDeclaration

end Cpp

end FieldTypes
