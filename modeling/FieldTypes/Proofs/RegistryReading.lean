import FieldTypes.Proofs.FileNames
import FieldTypes.Proofs.SourceReading

set_option autoImplicit false

namespace FieldTypes

open Text (Lacks SingleLine unlines dropReturn)

namespace Text

/-- A line that is read as it was written, whatever stands below it. -/
def Stays (line : String) : Prop := SingleLine line ∧ dropReturn line.toList = line.toList

theorem stays_of_last {line : String} {c : Char} (single : SingleLine line) (last : line.toList.getLast? = some c)
    (other : c ≠ '\r') : Stays line :=
  ⟨single, dropReturn_of_last last other⟩

theorem lines_unlines_of_stays {front : List String} (stay : ∀ line ∈ front, Stays line) (rest : List String) :
    Text.lines (unlines (front ++ rest)) = front ++ Text.lines (unlines rest) := by
  have whole : ∀ line ∈ front, dropReturn line.toList = line.toList := fun line mem => (stay line mem).2
  have single : ∀ line ∈ front, SingleLine line := fun line mem => (stay line mem).1
  rw [lines_unlines_append, (lines_unlines_iff whole).2 single]

/-- The lines in front of the first that is a mark. -/
def before? (mark : String) (lines : List String) : Option (List String) :=
  if mark ∈ lines then some (lines.takeWhile (· != mark)) else none

/-- The lines behind the first that is a mark. -/
def behind? (mark : String) (lines : List String) : Option (List String) :=
  match lines.dropWhile (· != mark) with
  | [] => none
  | _ :: rest => some rest

section Marks

variable {mark : String} {front : List String}

theorem before?_append (absent : mark ∉ front) (rest : List String) :
    before? mark (front ++ mark :: rest) = some front := by
  have other : ∀ line ∈ front, (line != mark) = true := fun line mem =>
    bne_iff_ne.2 fun same => absent (same ▸ mem)
  rw [before?, if_pos (by simp), List.takeWhile_append_of_pos other, List.takeWhile_cons_of_neg (by simp),
    List.append_nil]

theorem behind?_append (absent : mark ∉ front) (rest : List String) :
    behind? mark (front ++ mark :: rest) = some rest := by
  have other : ∀ line ∈ front, (line != mark) = true := fun line mem =>
    bne_iff_ne.2 fun same => absent (same ▸ mem)
  rw [behind?, List.dropWhile_append_of_pos other, List.dropWhile_cons_of_neg (by simp)]

end Marks

end Text

namespace Cpp

def isInclude (line : String) : Bool := "#include".toList.isPrefixOf line.toList

def rootMark : String := "inline constexpr std::string_view ROOT_TYPE = "

def isRoot (line : List Char) : Bool := (Dispatch.Reading.after rootMark line).isSome

def namesOpening : String := "inline constexpr std::string_view TYPE_NAMES[] = \x7b"

/-- The lines of a text that include files, up to the one that includes the library's own. -/
def includesOf? (text : String) : Option (List String) :=
  (Text.before? "#include <string_view>" (Text.lines text)).map (·.filter isInclude)

/-- The lines of a text that say its root type. -/
def rootsOf (text : String) : List String := (Text.lines text).filter (isRoot ·.toList)

/-- The lines of a text between the opening of the names and the next closing brace. -/
def entriesOf? (text : String) : Option (List String) :=
  (Text.behind? namesOpening (Text.lines text)).bind (Text.before? "\x7d;")

def rootText (name : String) : String := rootMark ++ ("\"" ++ (name ++ "\";"))

def entryText (name : String) : String := "    \"" ++ (name ++ "\",")

namespace Registry

def upperLines (guardPrefix : String) (headers : List String) : List String :=
  ["#ifndef " ++ (guardPrefix ++ "_FIELD_REGISTRY_"), "#define " ++ (guardPrefix ++ "_FIELD_REGISTRY_"), ""] ++
    headers.map includeText ++ [""]

def rootLines (namespaceName rootType : String) : List String :=
  ["", "namespace " ++ (namespaceName ++ " \x7b"), "", rootText rootType, ""]

def closingLines (guardPrefix namespaceName : String) : List String :=
  ["", "\x7d // namespace " ++ namespaceName, "", "#endif // " ++ (guardPrefix ++ "_FIELD_REGISTRY_")]

theorem registryLines_eq (options : Options) (headers : List String) (rootType : String) (types : List String) :
    Catalog.BuiltinTemplate.registryLines options headers rootType types =
      (upperLines options.guardPrefix headers ++ "#include <string_view>" ::
        rootLines options.namespaceName rootType ++ namesOpening :: types.map entryText ++ ["\x7d;"]) ++
          closingLines options.guardPrefix options.namespaceName := by
  have root : "inline constexpr std::string_view ROOT_TYPE = \"" = rootMark ++ "\"" := rfl
  simp only [Catalog.BuiltinTemplate.registryLines, root, upperLines, rootLines, closingLines, namesOpening,
    String.append_assoc, List.append_assoc, List.cons_append, List.nil_append]
  rfl

theorem append_ne {start mark : String} (other : start.toList.isPrefixOf mark.toList = false) (rest : String) :
    mark ≠ start ++ rest := by
  rintro rfl
  rw [String.toList_append, List.isPrefixOf_iff_prefix.2 (List.prefix_append _ _)] at other
  cases other

theorem isRoot_of_head? {line : List Char} (other : line.head? ≠ some 'i') : isRoot line = false := by
  cases line with
  | nil => rfl
  | cons c rest =>
    have differs : c ≠ 'i' := fun same => other (congrArg some same)
    rw [isRoot, Dispatch.Reading.after_of_head rfl differs, Option.isSome_none]

theorem isRoot_rootText (name : String) : isRoot (rootText name).toList = true := by
  rw [isRoot, rootText, String.toList_append, Dispatch.Reading.after_append]
  rfl

theorem head?_dropReturn {line : List Char} {c : Char} (head : (dropReturn line).head? = some c) :
    line.head? = some c := by
  obtain ⟨rest, same⟩ := Text.dropReturn_append_rest line
  rw [same, List.head?_append, head, Option.some_or]

section Lines

variable {guardPrefix namespaceName rootType : String} {headers types : List String}

open Dispatch.Reading (getLast?_append head?_append)

theorem stays_upperLines (guard : SingleLine guardPrefix) (includes : ∀ path ∈ headers, SingleLine path) :
    ∀ line ∈ upperLines guardPrefix headers, Text.Stays line := by
  have guarded : SingleLine (guardPrefix ++ "_FIELD_REGISTRY_") := guard.append (by decide)
  have ends : (guardPrefix ++ "_FIELD_REGISTRY_").toList.getLast? = some '_' := getLast?_append rfl _
  have blank : Text.Stays "" := ⟨by decide, rfl⟩
  simp only [upperLines, List.forall_mem_append, List.forall_mem_cons, List.forall_mem_map]
  refine ⟨⟨⟨?_, ?_, blank, List.forall_mem_nil _⟩, fun path mem => ?_⟩, blank, List.forall_mem_nil _⟩
  · exact Text.stays_of_last (SingleLine.append (by decide) guarded) (getLast?_append ends _) (by decide)
  · exact Text.stays_of_last (SingleLine.append (by decide) guarded) (getLast?_append ends _) (by decide)
  · exact Text.stays_of_last (SingleLine.append (by decide) ((includes path mem).append (by decide)))
      (getLast?_append (getLast?_append rfl path) _) (by decide)

theorem stays_rootLines (namespace_ : SingleLine namespaceName) (root : SingleLine rootType) :
    ∀ line ∈ rootLines namespaceName rootType, Text.Stays line := by
  have blank : Text.Stays "" := ⟨by decide, rfl⟩
  simp only [rootLines, List.forall_mem_cons]
  refine ⟨blank, ?_, blank, ?_, blank, List.forall_mem_nil _⟩
  · exact Text.stays_of_last (SingleLine.append (by decide) (namespace_.append (by decide)))
      (getLast?_append (getLast?_append rfl _) _) (by decide)
  · exact Text.stays_of_last
      (SingleLine.append (by decide) (SingleLine.append (by decide) (root.append (by decide))))
      (getLast?_append (getLast?_append (getLast?_append rfl _) _) _) (by decide)

theorem stays_entries (names : ∀ name ∈ types, SingleLine name) : ∀ line ∈ types.map entryText, Text.Stays line := by
  rw [List.forall_mem_map]
  intro name mem
  exact Text.stays_of_last (SingleLine.append (by decide) ((names name mem).append (by decide)))
    (getLast?_append (getLast?_append rfl _) _) (by decide)

/-- In front of the library's own header every include is one of a type. -/
theorem filter_upperLines : (upperLines guardPrefix headers).filter isInclude = headers.map includeText := by
  have guards : ∀ text, isInclude ("#ifndef " ++ text) = false ∧ isInclude ("#define " ++ text) = false := by
    intro text
    simp [isInclude, String.toList_append, List.isPrefixOf]
  have blank : isInclude "" = false := rfl
  have each : (headers.map includeText).filter isInclude = headers.map includeText := by
    refine List.filter_eq_self.2 fun line mem => ?_
    obtain ⟨path, -, rfl⟩ := List.mem_map.1 mem
    simp [isInclude, includeText, String.toList_append]
  simp only [upperLines, List.filter_append, each, List.filter_cons, guards, blank, Bool.false_eq_true, if_false,
    List.filter_nil, List.nil_append, List.append_nil]

/-- A mark that starts neither like a guard nor like the include of a file is not among the upper lines. -/
theorem not_mem_upperLines {mark : String} (asks : "#ifndef ".toList.isPrefixOf mark.toList = false)
    (defines : "#define ".toList.isPrefixOf mark.toList = false)
    (includes : "#include \"".toList.isPrefixOf mark.toList = false) (given : mark ≠ "") :
    mark ∉ upperLines guardPrefix headers := by
  simp only [upperLines, List.mem_append, List.mem_cons, List.mem_map, List.not_mem_nil, or_false, not_or,
    not_exists, not_and]
  exact ⟨⟨⟨append_ne asks _, append_ne defines _, given⟩, fun path _ same => append_ne includes _ same.symm⟩, given⟩

theorem namesOpening_not_mem : namesOpening ∉ upperLines guardPrefix headers ++ "#include <string_view>" ::
    rootLines namespaceName rootType := by
  simp only [rootLines, List.mem_append, List.mem_cons, List.not_mem_nil, or_false, not_or]
  exact ⟨not_mem_upperLines (by decide) (by decide) (by decide) (by decide), by decide, by decide,
    append_ne (by decide) _, by decide, append_ne (by decide) _, by decide⟩

theorem brace_not_mem_entries : "\x7d;" ∉ types.map entryText := by
  rw [List.mem_map]
  rintro ⟨name, -, same⟩
  exact append_ne (by decide) _ same.symm

theorem filter_isRoot_of_head? {lines : List String} (others : ∀ line ∈ lines, line.toList.head? ≠ some 'i') :
    lines.filter (isRoot ·.toList) = [] := by
  refine List.filter_eq_nil_iff.2 fun line mem => ?_
  rw [isRoot_of_head? (others line mem)]
  exact Bool.false_ne_true

theorem filter_isRoot_upperLines : (upperLines guardPrefix headers).filter (isRoot ·.toList) = [] := by
  have hash {start : String} (head : start.toList.head? = some '#') (rest : String) :
      (start ++ rest).toList.head? ≠ some 'i' := by
    rw [head?_append head]
    decide
  apply filter_isRoot_of_head?
  simp only [upperLines, List.forall_mem_append, List.forall_mem_cons, List.forall_mem_map]
  exact ⟨⟨⟨hash rfl _, hash rfl _, by decide, List.forall_mem_nil _⟩, fun path _ => hash rfl _⟩, by decide,
    List.forall_mem_nil _⟩

theorem filter_isRoot_rootLines :
    (rootLines namespaceName rootType).filter (isRoot ·.toList) = [rootText rootType] := by
  have blank : isRoot "".toList = false := rfl
  have namespace_ : isRoot ("namespace " ++ (namespaceName ++ " \x7b")).toList = false := by
    apply isRoot_of_head?
    rw [head?_append (c := 'n') rfl]
    decide
  simp only [rootLines, List.filter_cons, blank, namespace_, isRoot_rootText, Bool.false_eq_true, if_false, if_true,
    List.filter_nil]

theorem filter_isRoot_entries : (types.map entryText).filter (isRoot ·.toList) = [] := by
  apply filter_isRoot_of_head?
  rw [List.forall_mem_map]
  intro name _
  rw [entryText, head?_append (c := ' ') rfl]
  decide

theorem filter_isRoot_closingLines (guard : SingleLine guardPrefix) (namespace_ : SingleLine namespaceName) :
    (Text.lines (unlines (closingLines guardPrefix namespaceName))).filter (isRoot ·.toList) = [] := by
  have single : ∀ line ∈ closingLines guardPrefix namespaceName, SingleLine line := by
    simp only [closingLines, List.forall_mem_cons]
    exact ⟨by decide, SingleLine.append (by decide) namespace_, by decide,
      SingleLine.append (by decide) (guard.append (by decide)), List.forall_mem_nil _⟩
  have heads : ∀ line ∈ closingLines guardPrefix namespaceName, line.toList.head? ≠ some 'i' := by
    simp only [closingLines, List.forall_mem_cons]
    refine ⟨by decide, ?_, by decide, ?_, List.forall_mem_nil _⟩
    · rw [head?_append (c := '\x7d') rfl]
      decide
    · rw [head?_append (c := '#') rfl]
      decide
  apply filter_isRoot_of_head?
  rw [Text.lines_unlines single, List.forall_mem_map]
  intro line mem head
  rw [String.toList_ofList] at head
  exact heads line mem (head?_dropReturn head)

end Lines

theorem lines_registry {options : Options} {headers types : List String} {rootType : String}
    (guard : SingleLine options.guardPrefix) (namespace_ : SingleLine options.namespaceName)
    (includes : ∀ path ∈ headers, SingleLine path) (root : SingleLine rootType)
    (names : ∀ name ∈ types, SingleLine name) :
    Text.lines (unlines (Catalog.BuiltinTemplate.registryLines options headers rootType types)) =
      (upperLines options.guardPrefix headers ++ "#include <string_view>" ::
        rootLines options.namespaceName rootType ++ namesOpening :: types.map entryText ++ ["\x7d;"]) ++
          Text.lines (unlines (closingLines options.guardPrefix options.namespaceName)) := by
  rw [registryLines_eq]
  refine Text.lines_unlines_of_stays ?_ _
  simp only [List.forall_mem_append, List.forall_mem_cons]
  exact ⟨⟨⟨stays_upperLines guard includes, ⟨by decide, by decide⟩, stays_rootLines namespace_ root⟩,
    ⟨by decide, by decide⟩, stays_entries names⟩, ⟨by decide, by decide⟩, List.forall_mem_nil _⟩

/-- What is read from a registry is what it was made of. -/
theorem registry_reads {options : Options} {headers types : List String} {rootType : String}
    (guard : SingleLine options.guardPrefix) (namespace_ : SingleLine options.namespaceName)
    (includes : ∀ path ∈ headers, SingleLine path) (root : SingleLine rootType)
    (names : ∀ name ∈ types, SingleLine name) :
    let registry := unlines (Catalog.BuiltinTemplate.registryLines options headers rootType types)
    entriesOf? registry = some (types.map entryText) ∧ rootsOf registry = [rootText rootType] ∧
      includesOf? registry = some (headers.map includeText) := by
  intro registry
  have lines := lines_registry guard namespace_ includes root names
  have upper : "#include <string_view>" ∉ upperLines options.guardPrefix headers :=
    not_mem_upperLines (by decide) (by decide) (by decide) (by decide)
  refine ⟨?_, ?_, ?_⟩
  · rw [entriesOf?, lines, List.append_assoc, List.append_assoc, List.cons_append,
      Text.behind?_append namesOpening_not_mem, Option.bind_some, List.singleton_append,
      Text.before?_append brace_not_mem_entries]
  · have library : isRoot "#include <string_view>".toList = false ∧ isRoot namesOpening.toList = false ∧
        isRoot "\x7d;".toList = false := by
      decide
    rw [rootsOf, lines]
    simp only [List.filter_append, List.filter_cons, List.filter_nil, library, filter_isRoot_upperLines,
      filter_isRoot_rootLines, filter_isRoot_entries, filter_isRoot_closingLines guard namespace_, Bool.false_eq_true,
      if_false, List.nil_append, List.append_nil]
  · rw [includesOf?, lines, List.append_assoc, List.append_assoc, List.append_assoc, List.cons_append,
      Text.before?_append upper, Option.map_some, filter_upperLines]

end Registry

theorem find?_include_source {type : ResolvedType} {options : Options}
    (single : SingleLine (FileNames.ofType type options).headerInclude) :
    (Text.lines (MemberDefinitions.text type options)).find? isInclude =
      some (includeText (FileNames.ofType type options).headerInclude) := by
  have stays : Text.Stays (includeText (FileNames.ofType type options).headerInclude) :=
    Text.stays_of_last (SingleLine.append (by decide) (single.append (by decide)))
      (Dispatch.Reading.getLast?_append (Dispatch.Reading.getLast?_append rfl _) _) (by decide)
  have first : ∃ rest, MemberDefinitions.sourceLines type options =
      [includeText (FileNames.ofType type options).headerInclude] ++ rest := by
    rw [MemberDefinitions.sourceLines, MemberDefinitions.preamble, indented_zero]
    exact ⟨_, rfl⟩
  obtain ⟨rest, lines⟩ := first
  have includes : isInclude (includeText (FileNames.ofType type options).headerInclude) = true := by
    simp [isInclude, includeText, String.toList_append]
  rw [MemberDefinitions.text_eq_unlines, lines,
    Text.lines_unlines_of_stays (List.forall_mem_singleton.2 stays), List.singleton_append,
    List.find?_cons_of_pos includes]

/-- The registry of a schema lists it exactly, also when the templates are read from their texts. Between the
opening of the names and the next closing brace stand the names of the types in order, one line says the root
type, and the includes in front of the library's own are those of the types' headers in order, each the one
that the type's own source starts with. A schema edited after it was built may still have a root that none of
its types has: such a name is taken to be one line. -/
theorem registry_lists_schema (schema : Schema) (options : Options)
    (origin : schema.Built ∨ SingleLine schema.rootType) (accepted : schema.validate = .ok ())
    (guard : SingleLine options.guardPrefix) (namespace_ : SingleLine options.namespaceName)
    (includes : SingleLine options.includePrefix) :
    ∃ registry, Catalog.standard.renderSchema (.ofSchema schema options) "registry" = .ok registry ∧
      (∃ catalog, Catalog.ofTexts = .ok catalog ∧
        catalog.renderSchema (.ofSchema schema options) "registry" = .ok registry) ∧
      entriesOf? registry = some (schema.types.map fun type => entryText type.name) ∧
      rootsOf registry = [rootText schema.rootType] ∧
      includesOf? registry = some (schema.types.map fun type =>
        includeText (FileNames.ofType type.resolve options).headerInclude) ∧
      ∀ type ∈ schema.types, ∃ source,
        Catalog.standard.renderType (.ofSchema schema options) "source" type.name = .ok source ∧
        (Text.lines source).find? isInclude =
          some (includeText (FileNames.ofType type.resolve options).headerInclude) := by
  have sound := Schema.validate_ok.1 accepted
  have name : ∀ type ∈ schema.types, SingleLine type.name := fun _ declared =>
    (sound.plain_typeName declared).singleLine
  have include_ : ∀ type ∈ schema.types, SingleLine (FileNames.ofType type.resolve options).headerInclude :=
    fun type declared => singleLine_includePath includes ((name type declared).append (by decide))
  have root : SingleLine schema.rootType :=
    origin.elim (fun built => (plain_of_isIdentifier (sound.isIdentifier_of_hasType built sound.root)).singleLine) id
  have names : ∀ text ∈ schema.resolve.types.map (·.name), SingleLine text := by
    rw [Schema.resolve, List.map_map, List.forall_mem_map]
    exact name
  have headers : ∀ path ∈ (Catalog.Context.ofSchema schema options).headers, SingleLine path := by
    show ∀ path ∈ (schema.types.map TypeDecl.resolve).map _, SingleLine path
    rw [List.map_map, List.forall_mem_map]
    exact include_
  have rendered : Catalog.standard.renderSchema (.ofSchema schema options) "registry" = .ok _ :=
    Catalog.renderSchema_standard (.tail _ (.head _))
  obtain ⟨catalog, made, alike⟩ := Catalog.ofTexts_alike
  -- no name breaks a line, so the text is read back line by line
  obtain ⟨entries, roots, included⟩ := Registry.registry_reads guard namespace_ headers root names
  refine ⟨_, rendered, ⟨catalog, made, alike.renderSchema_ok rendered⟩, entries.trans ?_, roots, included.trans ?_,
    fun type declared => ⟨_, Catalog.render_source sound declared options,
      find?_include_source (include_ type declared)⟩⟩
  · rw [Schema.resolve, List.map_map, List.map_map]
    rfl
  · show some (((schema.types.map TypeDecl.resolve).map _).map includeText) = _
    rw [List.map_map, List.map_map]
    rfl

/-- Options that look like lines of a registry themselves, one with a carriage return at its end. -/
def markedOptions : Options := ⟨"\x7d;\r", "#include <string_view>", "inline constexpr std::string_view ROOT_TYPE = "⟩

theorem registry_lists_schema_of_markedOptions :
    lookalikes.validate = .ok () ∧
      ∃ registry, Catalog.standard.renderSchema (.ofSchema lookalikes markedOptions) "registry" = .ok registry ∧
        entriesOf? registry = some ["    \"Point\",", "    \"Point_gen_inl\","] ∧
        rootsOf registry = ["inline constexpr std::string_view ROOT_TYPE = \"Point\";"] ∧
        includesOf? registry =
          some ["#include \"#include <string_view>/Point.gen.h\"",
            "#include \"#include <string_view>/Point_gen_inl.gen.h\""] ∧
        ∃ source, Catalog.standard.renderType (.ofSchema lookalikes markedOptions) "source" "Point_gen_inl" =
            .ok source ∧
          (Text.lines source).find? isInclude = some "#include \"#include <string_view>/Point_gen_inl.gen.h\"" := by
  have accepted : lookalikes.validate = .ok () := by decide +kernel
  obtain ⟨registry, rendered, -, entries, roots, included, sources⟩ :=
    registry_lists_schema lookalikes markedOptions (.inl (Schema.built_ofDeclarations _ _ _)) accepted (by decide)
      (by decide) (by decide)
  obtain ⟨source, renderedSource, first⟩ := sources lookalikes.types[1] (List.getElem_mem _)
  exact ⟨accepted, registry, rendered, entries.trans (by decide +kernel), roots.trans (by decide +kernel),
    included.trans (by decide +kernel), source, renderedSource, first.trans (by decide +kernel)⟩

end Cpp

end FieldTypes
