import FieldTypes.Proofs.GetterAgreement

set_option autoImplicit false

namespace FieldTypes

open Text (Lacks unlines)

theorem Text.lines_eq_nil_iff {text : String} : Text.lines text = [] ↔ text = "" := by
  rw [Text.lines, List.map_eq_nil_iff, splitLines_eq_nil_iff, String.toList_eq_nil_iff]

namespace Cpp

/-- How often a text holds the two characters that end a comment. -/
def commentEnds (text : List Char) : Nat := text.tails.countP (['*', '/'].isPrefixOf ·)

theorem commentEnds_cons (c : Char) (rest : List Char) :
    commentEnds (c :: rest) = commentEnds rest + if c = '*' ∧ rest.head? = some '/' then 1 else 0 := by
  rw [commentEnds, List.tails, List.countP_cons, ← commentEnds]
  refine congrArg (commentEnds rest + ·) (if_congr ?_ rfl rfl)
  cases rest with
  | nil => simp
  | cons d rest =>
    simp only [List.cons_prefix_cons, List.isPrefixOf_iff_prefix, List.nil_prefix, and_true, List.head?_cons,
      Option.some.injEq]
    exact and_congr eq_comm eq_comm

/-- An end comes about between two texts only where one ends in an asterisk and the other starts with a slash. -/
theorem commentEnds_append {first second : List Char}
    (apart : first.getLast? ≠ some '*' ∨ second.head? ≠ some '/') :
    commentEnds (first ++ second) = commentEnds first + commentEnds second := by
  induction first with
  | nil => simp [commentEnds]
  | cons c rest ih =>
    rw [List.cons_append, commentEnds_cons, commentEnds_cons]
    cases rest with
    | nil =>
      have between : ¬ (c = '*' ∧ second.head? = some '/') := by
        rintro ⟨rfl, slash⟩
        exact apart.elim (fun other => other rfl) fun other => other slash
      simp [commentEnds, between]
    | cons d more =>
      have head : ((d :: more) ++ second).head? = (d :: more).head? := rfl
      rw [ih (by simpa using apart), head, Nat.add_right_comm]

theorem commentEnds_of_not_mem {text : List Char} (absent : '*' ∉ text ∨ '/' ∉ text) : commentEnds text = 0 := by
  induction text with
  | nil => rfl
  | cons c rest ih =>
    have further : '*' ∉ rest ∨ '/' ∉ rest := absent.imp List.not_mem_of_not_mem_cons List.not_mem_of_not_mem_cons
    have here : ¬ (c = '*' ∧ rest.head? = some '/') := by
      rintro ⟨rfl, slash⟩
      exact absent.elim (fun other => other List.mem_cons_self)
        fun other => other (List.mem_cons_of_mem _ (List.mem_of_head? slash))
    rw [commentEnds_cons, ih further, if_neg here]

theorem head?_escapeComment (line : List Char) : (escapeComment line).head? = line.head? := by
  fun_cases escapeComment line <;> rfl

/-- An escaped line has no end of a comment, whatever overlaps in it. -/
theorem commentEnds_escapeComment (line : List Char) : commentEnds (escapeComment line) = 0 := by
  induction line using escapeComment.induct with
  | case1 => rfl
  | case2 rest ih => simp [escapeComment, commentEnds_cons, ih]
  | case3 c rest other ih =>
    rw [escapeComment, commentEnds_cons, ih, head?_escapeComment, if_neg]
    · rintro ⟨rfl, slash⟩
      obtain ⟨more, rfl⟩ := List.head?_eq_some_iff.1 slash
      exact other more rfl rfl
    · exact other

theorem commentEnds_commentText (line : String) : commentEnds (commentText line).toList = 0 := by
  unfold commentText
  split
  · decide
  · have marks : " * ".toList = [' ', '*', ' '] := by simp
    rw [String.toList_append, marks, String.toList_ofList, commentEnds_append (.inl (by decide)),
      commentEnds_escapeComment]
    rfl

/-- How often the lines of a text hold the end of a comment. -/
def endsOf (lines : List String) : Nat := commentEnds (unlines lines).toList

@[simp] theorem endsOf_cons (line : String) (lines : List String) :
    endsOf (line :: lines) = commentEnds line.toList + endsOf lines := by
  have ending : ¬ ('\n' = '*' ∧ (unlines lines).toList.head? = some '/') := fun mark => by cases mark.1
  have other : ('\n' :: (unlines lines).toList).head? ≠ some '/' := by simp
  rw [endsOf, Text.toList_unlines_cons, commentEnds_append (.inr other), commentEnds_cons, if_neg ending,
    Nat.add_zero, endsOf]

@[simp] theorem endsOf_append (first second : List String) :
    endsOf (first ++ second) = endsOf first + endsOf second := by
  induction first with
  | nil => exact (Nat.zero_add _).symm
  | cons line rest ih => rw [List.cons_append, endsOf_cons, endsOf_cons, ih, Nat.add_assoc]

theorem endsOf_of_none {lines : List String} (none : ∀ line ∈ lines, commentEnds line.toList = 0) :
    endsOf lines = 0 := by
  induction lines with
  | nil => rfl
  | cons line rest ih =>
    rw [List.forall_mem_cons] at none
    rw [endsOf_cons, none.1, ih none.2]

@[simp] theorem commentEnds_indented (level : Nat) (text : String) :
    commentEnds (indented level text).toList = commentEnds text.toList := by
  by_cases empty : text = ""
  · rw [indented, if_pos empty, empty]
  · have blanks : '*' ∉ (Page.indentation level).toList := by
      rw [Page.indentation, String.toList_ofList, List.mem_replicate]
      exact fun mem => absurd mem.2 (by decide)
    have last : (Page.indentation level).toList.getLast? ≠ some '*' := fun same =>
      blanks (List.mem_of_getLast? same)
    rw [indented_of_ne_empty empty, String.toList_append, commentEnds_append (.inl last),
      commentEnds_of_not_mem (.inl blanks), Nat.zero_add]

@[simp] theorem endsOf_indented (level : Nat) (lines : List String) :
    endsOf (lines.map (indented level)) = endsOf lines := by
  induction lines with
  | nil => rfl
  | cons line rest ih => rw [List.map_cons, endsOf_cons, endsOf_cons, ih, commentEnds_indented]

theorem endsOf_of_lacks {lines : List String} (lacks : ∀ line ∈ lines, Lacks '*' line ∨ Lacks '/' line) :
    endsOf lines = 0 :=
  endsOf_of_none fun line mem => commentEnds_of_not_mem (lacks line mem)

/-- How often a documentation ends: its comment has the end of its last line and no other. -/
theorem endsOf_commentLines (doc : String) : endsOf (commentLines (Text.lines doc)) = if doc = "" then 0 else 1 := by
  cases lines : Text.lines doc with
  | nil => rw [if_pos (Text.lines_eq_nil_iff.1 lines), commentLines]; rfl
  | cons line rest =>
    have given : doc ≠ "" := by
      rw [Ne, ← Text.lines_eq_nil_iff, lines]
      exact List.cons_ne_nil _ _
    have inner : endsOf ((line :: rest).map commentText) = 0 := by
      refine endsOf_of_none fun text mem => ?_
      obtain ⟨docLine, -, rfl⟩ := List.mem_map.1 mem
      exact commentEnds_commentText docLine
    have marks : commentEnds "/**".toList = 0 ∧ endsOf [" */"] = 1 := by decide
    rw [commentLines, endsOf_cons, endsOf_append, inner, marks.1, marks.2, if_neg given]

namespace ClassDeclaration

theorem endsOf_getterLines {field : Field} (declaration : Lacks '/' (declarationLine field.resolve)) :
    endsOf (getterLines field.resolve) = if field.doc = "" then 0 else 1 := by
  have blank : commentEnds "".toList = 0 := rfl
  have comment : endsOf (commentLines field.resolve.docLines) = _ := endsOf_commentLines field.doc
  have declares : endsOf [declarationLine field.resolve] = 0 :=
    endsOf_of_lacks (List.forall_mem_singleton.2 (.inr declaration))
  rw [getterLines, endsOf_cons, endsOf_append, comment, blank, declares, Nat.zero_add, Nat.add_zero]

theorem endsOf_getters {fields : List Field}
    (declarations : ∀ field ∈ fields, Lacks '/' (declarationLine field.resolve)) :
    endsOf ((fields.map Field.resolve).flatMap getterLines) = (fields.map (·.doc)).countP (· ≠ "") := by
  induction fields with
  | nil => rfl
  | cons field rest ih =>
    rw [List.forall_mem_cons] at declarations
    rw [List.map_cons, List.flatMap_cons, endsOf_append, endsOf_getterLines declarations.1, ih declarations.2,
      List.map_cons, List.countP_cons, Nat.add_comm]
    by_cases empty : field.doc = "" <;> simp [empty]

theorem endsOf_classLines {type : TypeDecl} (plain : Plain type.name)
    (declarations : ∀ field ∈ type.fields, Lacks '/' (declarationLine field.resolve)) :
    endsOf (classLines type.resolve) = (type.doc :: type.fields.map (·.doc)).countP (· ≠ "") := by
  have name : Lacks '/' type.name := plain.not_mem (by decide)
  have comment : endsOf (commentLines type.resolve.docLines) = _ := endsOf_commentLines type.doc
  have opening : endsOf ["class " ++ type.resolve.name, indented 1 ": public Field", "\x7b", "public:"] = 0 := by
    have class_ : Lacks '/' ("class " ++ type.name) := Lacks.append (by decide) name
    refine endsOf_of_lacks ?_
    simp only [List.forall_mem_cons]
    exact ⟨.inr class_, by decide, by decide, by decide, List.forall_mem_nil _⟩
  have construction : endsOf (constructionLines type.resolve.name type.resolve.implName) = 0 :=
    endsOf_of_lacks fun line mem => .inr (lacks_constructionLines (.inr rfl) name line mem)
  have access : endsOf accessLines = 0 :=
    endsOf_of_lacks fun line mem => .inr (lacks_accessLines (.inr rfl) line mem)
  have state : endsOf ["", "private:", indented 1 "ImplPtr impl_;", "\x7d;"] = 0 := by decide
  have getters : endsOf (type.resolve.fields.flatMap getterLines) = _ := endsOf_getters declarations
  rw [classLines, endsOf_append, endsOf_append, endsOf_append, endsOf_indented, memberLines, endsOf_append,
    endsOf_append, comment, opening, construction, access, state, getters, List.countP_cons]
  by_cases empty : type.doc = "" <;> simp [empty, Nat.add_comm]

/-- Nothing outside the class has the end of a comment, if no option has an asterisk. -/
theorem endsOf_headerLines {type : TypeDecl} {options : Options} (plain : Plain type.name)
    (declarations : ∀ field ∈ type.fields, Lacks '/' (declarationLine field.resolve))
    (namespace_ : Lacks '*' options.namespaceName) (includes : Lacks '*' options.includePrefix) :
    endsOf (headerLines type.resolve options) = (type.doc :: type.fields.map (·.doc)).countP (· ≠ "") := by
  have name : Lacks '*' type.name := plain.not_mem (by decide)
  have guard : Lacks '*' (FileNames.ofType type.resolve options).headerGuard :=
    (plain_guard options _).not_mem (by decide)
  have class_ : Lacks '*' type.resolve.implName := name.append (by decide)
  have inlineHeader : Lacks '*' (FileNames.ofType type.resolve options).inlineHeaderInclude :=
    lacks_includePath (by decide) includes (name.append (by decide))
  have before : ∀ line ∈ opening (FileNames.ofType type.resolve options).headerGuard options.namespaceName
      type.resolve.implName, Lacks '*' line := by
    have runtime : ∀ path ∈ runtimeIncludes, Lacks '*' (includeText path) := by decide
    simp only [opening, List.forall_mem_append, List.forall_mem_cons, List.forall_mem_map]
    exact ⟨⟨⟨Lacks.append (by decide) guard, Lacks.append (by decide) guard, by decide, List.forall_mem_nil _⟩,
      runtime⟩, by decide, by decide, by decide, by decide, (Lacks.append (by decide) namespace_).append (by decide),
      by decide, (Lacks.append (by decide) class_).append (by decide), by decide, List.forall_mem_nil _⟩
  have behind : ∀ line ∈ closing (FileNames.ofType type.resolve options).headerGuard options.namespaceName
      (FileNames.ofType type.resolve options).inlineHeaderInclude, Lacks '*' line := by
    simp only [closing, List.forall_mem_cons]
    exact ⟨by decide, Lacks.append (by decide) namespace_, by decide,
      Lacks.append (by decide) (inlineHeader.append (by decide)), by decide, Lacks.append (by decide) guard,
      List.forall_mem_nil _⟩
  unfold headerLines
  dsimp only
  rw [endsOf_append, endsOf_append, endsOf_of_lacks fun line mem => .inl (before line mem),
    endsOf_of_lacks fun line mem => .inl (behind line mem), endsOf_classLines plain declarations, Nat.zero_add,
    Nat.add_zero]

end ClassDeclaration

/-- The lines of a comment at a level of indentation, between the opening and the closing one. -/
def commentAround (level : Nat) (inner : List String) : List String :=
  (Page.indentation level ++ "/**") :: (inner ++ [Page.indentation level ++ " */"])

/-- Below what is on a page a comment writes its lines, of which only the last one has the end of a comment. -/
theorem writeAll_docComment (page : Page) {doc : String} (given : doc ≠ "") :
    ∃ inner, Step.writeAll page (docComment (Text.lines doc)) =
        ⟨page.text ++ unlines (commentAround page.level inner), page.level⟩ ∧
      endsOf (commentAround page.level inner) = 1 := by
  have ends := endsOf_indented page.level (commentLines (Text.lines doc))
  rw [endsOf_commentLines, if_neg given] at ends
  obtain ⟨line, rest, lines⟩ := List.exists_cons_of_ne_nil (mt Text.lines_eq_nil_iff.1 given)
  have written : (commentLines (Text.lines doc)).map (indented page.level) =
      commentAround page.level (((line :: rest).map commentText).map (indented page.level)) := by
    rw [lines, commentLines, List.map_cons, List.map_append, List.map_singleton,
      indented_of_ne_empty (by decide), indented_of_ne_empty (by decide), commentAround]
  refine ⟨((line :: rest).map commentText).map (indented page.level), ?_, written ▸ ends⟩
  rw [Step.writeAll_eq, linesAll_docComment, written]

/-- No documentation ends its own comment. Written at any level of indentation it opens a comment, and the end of
that comment stands in the last line and nowhere else; an empty one writes nothing. So a header has an end of
a comment for each documentation of its type and of the fields that is not empty, and no more. -/
theorem documentation_stays_in_comments :
    (∀ (page : Page) (doc : String),
      (doc = "" → Step.writeAll page (docComment (Text.lines doc)) = page) ∧
      (doc ≠ "" → ∃ inner written,
        written = unlines (commentAround page.level inner) ∧
        Step.writeAll page (docComment (Text.lines doc)) = ⟨page.text ++ written, page.level⟩ ∧
        commentEnds written.toList = 1)) ∧
    ∀ (schema : Schema) (type : TypeDecl),
      (schema.Built ∨ ∀ name, schema.hasType name = true → isIdentifier name = true) →
      schema.validate = .ok () → (∀ primitive ∈ schema.primitives, isIdentifier primitive.name = true) →
      type ∈ schema.types →
        ∃ header, Catalog.standard.renderType (.ofSchema schema .standard) "header" type.name = .ok header ∧
          commentEnds header.toList = (type.doc :: type.fields.map (·.doc)).countP (· ≠ "") := by
  refine ⟨fun page doc => ⟨?_, fun given => ?_⟩, ?_⟩
  · rintro rfl
    rfl
  · obtain ⟨inner, writes, ends⟩ := writeAll_docComment page given
    exact ⟨inner, _, rfl, writes, ends⟩
  · intro schema type origin accepted primitives declared
    have sound := Schema.validate_ok.1 accepted
    have indexed : ∀ name, schema.hasType name = true → isIdentifier name = true :=
      origin.elim (fun built _ => sound.isIdentifier_of_hasType built) id
    have typeSound := sound.types type declared
    have declarations : ∀ field ∈ type.fields, Lacks '/' (ClassDeclaration.declarationLine field.resolve) := by
      intro field isField
      have fieldSound := typeSound.fields field isField
      refine lacks_declarationLine (.inr rfl) ((plain_of_isIdentifier fieldSound.identifier).not_mem (by decide)) ?_
      intro param isParam
      have paramSound := fieldSound.params param isParam
      have typeName := Schema.isIdentifier_of_referenceKind? primitives indexed paramSound.resolves
      exact ⟨(plain_of_isIdentifier typeName).not_mem (by decide),
        (plain_of_isIdentifier paramSound.identifier).not_mem (by decide)⟩
    refine ⟨_, Catalog.renderType_standard (.head _) (sound.getType?_resolve declared), ?_⟩
    show commentEnds (ClassDeclaration.text type.resolve .standard).toList = _
    rw [ClassDeclaration.text_eq_unlines]
    exact ClassDeclaration.endsOf_headerLines (plain_of_isIdentifier typeSound.identifier) declarations
      (by decide) (by decide)

/-- Documentation made of the characters that end comments. -/
def breakouts : Schema :=
  .ofDeclarations "Point" [⟨"PrimitiveInt", "*/"⟩]
    [ ⟨"Point", "**/\n/",
        [ ⟨"x", "*/*/", "PrimitiveInt", false, false, [⟨"unit", "*/", 0, "Point", false, none, none⟩]⟩
        , ⟨"y", "*\r\n/\r", "PrimitiveInt", false, false, []⟩
        , ⟨"z", "", "PrimitiveInt", false, false, []⟩
        , ⟨"w", "\n", "PrimitiveInt", false, false, []⟩ ]⟩ ]

theorem documentation_stays_in_comments_of_breakouts :
    breakouts.validate = .ok () ∧
      (∃ header, Catalog.standard.renderType (.ofSchema breakouts .standard) "header" "Point" = .ok header ∧
        commentEnds header.toList = 4) ∧
      ∃ written, Step.writeAll ⟨"", 1⟩ (docComment (Text.lines "**/\n/")) = ⟨written, 1⟩ ∧
        written = "    /**\n     * **\\/\n     * /\n     */\n" ∧ commentEnds written.toList = 1 := by
  have accepted : breakouts.validate = .ok () := by decide +kernel
  obtain ⟨comments, headers⟩ := documentation_stays_in_comments
  obtain ⟨header, rendered, ends⟩ := headers breakouts breakouts.types[0]
    (.inl (Schema.built_ofDeclarations _ _ _)) accepted (by decide +kernel) (List.getElem_mem _)
  obtain ⟨inner, written, -, writes, once⟩ := (comments ⟨"", 1⟩ "**/\n/").2 (by decide)
  rw [String.empty_append] at writes
  refine ⟨accepted, ⟨header, rendered, ends.trans (by decide +kernel)⟩, written, writes, ?_, once⟩
  have text : (Step.writeAll ⟨"", 1⟩ (docComment (Text.lines "**/\n/"))).text =
      "    /**\n     * **\\/\n     * /\n     */\n" := by decide +kernel
  rw [writes] at text
  exact text

end Cpp

end FieldTypes
