import FieldTypes.Proofs.DocumentGrammar
import FieldTypes.Proofs.GetterAgreement
import FieldTypes.Proofs.StandardRendering
import FieldTypes.Proofs.WellFormedness

set_option autoImplicit false

namespace FieldTypes

namespace Text

/-- Joined lines are a single line exactly if there is only one to be joined. -/
theorem singleLine_intercalate_iff (lines : List String) :
    SingleLine ("\n".intercalate lines) ↔ lines.length ≤ 1 ∧ ∀ line ∈ lines, SingleLine line := by
  match lines with
  | [] => decide
  | [line] =>
    rw [String.intercalate_singleton, List.forall_mem_singleton, List.length_singleton]
    exact (and_iff_right (Nat.le_refl 1)).symm
  | line :: next :: rest =>
    have broken : ¬ SingleLine "\n" := by decide
    apply iff_of_false
    · rw [String.intercalate_cons_cons, singleLine_append_iff, singleLine_append_iff]
      intro single
      exact broken single.1.2
    · intro few
      have atMost := few.1
      rw [List.length_cons, List.length_cons] at atMost
      omega

end Text

/-- A default documented by lines has these lines joined as its documentation. -/
theorem Decoding.defaultDocKey_of_lines {members : Json.Members} (entity : Entity) {lines : List String}
    (given : present? members "default_value_doc" = some (.strings lines)) :
    defaultDocKey members entity = .ok (some ("\n".intercalate lines)) := by
  rw [defaultDocKey, given]
  simp only [linesValue?_strings, ofKind]
  rfl

namespace Catalog

open Text (SingleLine unlines dropReturn)

namespace BuiltinTemplate

def tableHead : List String :=
  ["| Param | Index | Type | Required | Default |", "|-------|-------|------|----------|---------|"]

def rowText (position : Nat) (param : Param) : String :=
  "| `" ++ param.name ++ "` | " ++ toString position ++ " | `" ++ param.typeName ++ "` | " ++
    (if param.required then "yes" else "no") ++ " | " ++ param.defaultValueDoc.getD "" ++ " |"

def rowTexts (field : Field) : List String := field.params.mapIdx rowText

def introduction (field : ResolvedField) : List String :=
  ["", "## `" ++ field.name ++ "`", "", returnLine field] ++ field.docLines ++ [""]

/-- What stands above the table of a field: the page of a type with the fields before this one only, and what is
said about this one. -/
def aboveTable (type : TypeDecl) (before : List Field) (field : Field) : List String :=
  pageLines { type with fields := before }.resolve ++ introduction field.resolve

/-- What stands below the table of a field: the fields behind it. -/
def belowTable (after : List Field) : List String := (after.map Field.resolve).flatMap fieldLines

theorem paramLine_resolve (param : Param) : paramLine param.resolve = rowText param.index param := rfl

/-- A table has a row for each param, in order, with the position at which the param stands. -/
theorem paramLine_eq_rowTexts {field : Field}
    (positions : field.params.map (·.index) = List.range field.params.length) :
    field.resolve.params.map paramLine = rowTexts field := by
  have placed := positions_iff.1 positions
  apply List.ext_getElem?
  intro position
  show ((field.params.map Param.resolve).map paramLine)[position]? = _
  rw [rowTexts, List.getElem?_mapIdx, List.getElem?_map, List.getElem?_map]
  cases found : field.params[position]? with
  | none => rfl
  | some param =>
    rw [Option.map_some, Option.map_some, Option.map_some, paramLine_resolve, placed position param found]

theorem fieldLines_of_params {field : Field} (given : field.params ≠ [])
    (positions : field.params.map (·.index) = List.range field.params.length) :
    fieldLines field.resolve = introduction field.resolve ++ tableHead ++ rowTexts field := by
  have params : field.resolve.params ≠ [] := mt List.map_eq_nil_iff.1 given
  rw [fieldLines, paramLines, if_neg params, paramLine_eq_rowTexts positions, introduction, tableHead]
  simp only [List.append_assoc, List.cons_append, List.nil_append]

/-- The page of a type around the table of one of its fields. -/
theorem pageLines_of_split {type : TypeDecl} {before after : List Field} {field : Field}
    (split : type.fields = before ++ field :: after) (given : field.params ≠ [])
    (positions : field.params.map (·.index) = List.range field.params.length) :
    pageLines type.resolve = aboveTable type before field ++ tableHead ++ rowTexts field ++ belowTable after := by
  have fields : type.resolve.fields = before.map Field.resolve ++ field.resolve :: after.map Field.resolve := by
    rw [TypeDecl.resolve, split, List.map_append, List.map_cons]
  rw [pageLines, fields, List.flatMap_append, List.flatMap_cons, fieldLines_of_params given positions, aboveTable,
    belowTable, pageLines]
  simp only [List.append_assoc]
  rfl

theorem lines_tableHead : Text.lines (unlines tableHead) = tableHead := by
  have whole : ∀ line ∈ tableHead, dropReturn line.toList = line.toList := by decide
  have single : ∀ line ∈ tableHead, SingleLine line := by decide
  exact (Text.lines_unlines_iff whole).2 single

/-- A table ends where the page ends or with an empty line. -/
theorem lines_belowTable (after : List Field) :
    Text.lines (unlines (belowTable after)) = [] ∨ (Text.lines (unlines (belowTable after))).head? = some "" := by
  cases after with
  | nil => exact .inl rfl
  | cons field after =>
    right
    have empty : SingleLine "" := by decide
    have starts : ∃ rest, belowTable (field :: after) = "" :: rest := ⟨_, rfl⟩
    obtain ⟨rest, split⟩ := starts
    rw [split, Text.lines_unlines_cons empty]
    rfl

theorem singleLine_rowText_iff (position : Nat) {param : Param} (name : SingleLine param.name)
    (typeName : SingleLine param.typeName) :
    SingleLine (rowText position param) ↔ SingleLine (param.defaultValueDoc.getD "") := by
  have required : SingleLine (if param.required then "yes" else "no") := by split <;> decide
  have number : SingleLine (toString position) := singleLine_natural position
  have start : SingleLine "| `" := by decide
  have ended : SingleLine "` | " := by decide
  have typed : SingleLine " | `" := by decide
  have bar : SingleLine " | " := by decide
  have last : SingleLine " |" := by decide
  unfold rowText
  simp only [Text.singleLine_append_iff, name, typeName, required, number, start, ended, typed, bar, last, true_and,
    and_true]

theorem dropReturn_rowText (position : Nat) (param : Param) :
    dropReturn (rowText position param).toList = (rowText position param).toList := by
  have last : " |".toList = [' '] ++ ['|'] := rfl
  have row : (rowText position param).toList = _ ++ " |".toList := String.toList_append
  rw [row, last, ← List.append_assoc]
  exact Text.dropReturn_append_singleton (by decide) _

theorem mem_rowTexts_iff {field : Field} {row : String} :
    row ∈ rowTexts field ↔ ∃ position, ∃ param, field.params[position]? = some param ∧ rowText position param = row := by
  rw [rowTexts, List.mem_mapIdx]
  constructor
  · intro found
    obtain ⟨position, inside, same⟩ := found
    exact ⟨position, _, List.getElem?_eq_getElem inside, same⟩
  · intro found
    obtain ⟨position, param, known, same⟩ := found
    obtain ⟨inside, rfl⟩ := List.getElem?_eq_some_iff.1 known
    exact ⟨position, inside, same⟩

theorem dropReturn_of_mem_rowTexts {field : Field} :
    ∀ row ∈ rowTexts field, dropReturn row.toList = row.toList := by
  intro row mem
  obtain ⟨position, param, -, rfl⟩ := mem_rowTexts_iff.1 mem
  exact dropReturn_rowText position param

/-- The rows of a table have no line breaks exactly if the documentation of no default has one. -/
theorem singleLine_rowTexts_iff {schema : Schema} {type : TypeDecl} {field : Field}
    (typed : Cpp.SingleTyped schema type) (declared : field ∈ type.fields) :
    (∀ row ∈ rowTexts field, SingleLine row) ↔
      ∀ param ∈ field.params, SingleLine (param.defaultValueDoc.getD "") := by
  have row : ∀ param ∈ field.params, ∀ position,
      SingleLine (rowText position param) ↔ SingleLine (param.defaultValueDoc.getD "") := by
    intro param isParam position
    have sound := (typed.sound.fields field declared).params param isParam
    have name := (plain_of_isIdentifier sound.identifier).singleLine
    exact singleLine_rowText_iff position name (typed.typeNames field declared param isParam)
  constructor
  · intro rows param isParam
    obtain ⟨position, known⟩ := List.mem_iff_getElem?.1 isParam
    apply (row param isParam position).1
    exact rows _ (mem_rowTexts_iff.2 ⟨position, param, known, rfl⟩)
  · intro params text mem
    obtain ⟨position, param, known, rfl⟩ := mem_rowTexts_iff.1 mem
    have isParam := List.mem_of_getElem? known
    exact (row param isParam position).2 (params param isParam)

theorem lines_page {type : TypeDecl} {before after : List Field} {field : Field}
    (split : type.fields = before ++ field :: after) (given : field.params ≠ [])
    (positions : field.params.map (·.index) = List.range field.params.length) :
    Text.lines (unlines (pageLines type.resolve)) =
      Text.lines (unlines (aboveTable type before field)) ++ tableHead ++ Text.lines (unlines (rowTexts field)) ++
        Text.lines (unlines (belowTable after)) := by
  rw [pageLines_of_split split given positions, Text.lines_unlines_append, Text.lines_unlines_append,
    Text.lines_unlines_append, lines_tableHead]

end BuiltinTemplate

open BuiltinTemplate

theorem render_page {schema : Schema} {type : TypeDecl} (sound : schema.Sound) (declared : type ∈ schema.types)
    (options : Cpp.Options) :
    standard.renderType (.ofSchema schema options) "doc" type.name = .ok (unlines (pageLines type.resolve)) := by
  have mem : ("doc", fun type _ => unlines (pageLines type)) ∈ typeTexts :=
    .tail _ (.tail _ (.tail _ (.tail _ (.head _))))
  have found : (Context.ofSchema schema options).resolved.getType? type.name = some type.resolve :=
    sound.getType?_resolve declared
  exact renderType_standard mem found

/-- The documentation page of a declared type, also of the catalog read from texts. Directly below the two lines at the
head of the table of each field with params stand the rows of these params, in order and with their positions, and
below the rows an empty line or nothing. The rows take as many lines as there are params, and are exactly these
lines, if and only if the documentation of each default is a single line. Documentation given as lines is one if
and only if there is at most one of them, without a line break in it. -/
theorem param_tables {schema : Schema} (type : TypeDecl) (options : Cpp.Options)
    (origin : schema.Built ∨ ∀ name, schema.hasType name = true → SingleLine name)
    (accepted : schema.validate = .ok ())
    (primitives : ∀ primitive ∈ schema.primitives, SingleLine primitive.name) (declared : type ∈ schema.types) :
    (∃ catalog page, ofTexts = .ok catalog ∧
      standard.renderType (.ofSchema schema options) "doc" type.name = .ok page ∧
      catalog.renderType (.ofSchema schema options) "doc" type.name = .ok page ∧
      ∀ before field after, type.fields = before ++ field :: after → field.params ≠ [] → ∃ rows below,
        Text.lines page = Text.lines (unlines (aboveTable type before field)) ++ tableHead ++ rows ++ below ∧
        (below = [] ∨ below.head? = some "") ∧
        rows = Text.lines (unlines (rowTexts field)) ∧
        (rows = rowTexts field ↔ ∀ param ∈ field.params, SingleLine (param.defaultValueDoc.getD "")) ∧
        (rows.length = field.params.length ↔
          ∀ param ∈ field.params, SingleLine (param.defaultValueDoc.getD ""))) ∧
    ∀ (members : Json.Members) (entity : Entity) (lines : List String),
      Decoding.present? members "default_value_doc" = some (.strings lines) → ∃ doc,
        Decoding.defaultDocKey members entity = .ok (some doc) ∧
        (SingleLine doc ↔ lines.length ≤ 1 ∧ ∀ line ∈ lines, SingleLine line) := by
  have sound := Schema.validate_ok.1 accepted
  have typed := Cpp.SingleTyped.of_sound sound origin primitives declared
  have rendered := render_page sound declared options
  obtain ⟨catalog, made, alike⟩ := ofTexts_alike
  constructor
  · refine ⟨catalog, _, made, rendered, alike.renderType_ok rendered, ?_⟩
    intro before field after split given
    have isField : field ∈ type.fields := by
      rw [split]
      exact List.mem_append_right before List.mem_cons_self
    have positions := (typed.sound.fields field isField).positions
    have single := singleLine_rowTexts_iff typed isField
    have count : (rowTexts field).length = field.params.length := List.length_mapIdx
    refine ⟨_, _, lines_page split given positions, lines_belowTable after, rfl, ?_, ?_⟩
    · rw [Text.lines_unlines_iff dropReturn_of_mem_rowTexts, single]
    · rw [← count, Text.length_lines_unlines_iff, single]
  · intro members entity lines given
    exact ⟨_, Decoding.defaultDocKey_of_lines entity given, Text.singleLine_intercalate_iff lines⟩

/-- Documentation that looks like tables, and defaults documented by a bar, by carriage returns and by two lines. -/
def tabled : Schema :=
  .ofDeclarations "Point" [⟨"Int", ""⟩]
    [⟨"Point", "| Param | Index | Type | Required | Default |",
      [ ⟨"x", "| `y` | 7 | `Int` | no |  |\n\n## `y`", "Int", false, false,
          [⟨"scale", "", 0, "Int", false, none, some "one |\rtwo\r"⟩, ⟨"unit", "", 1, "Point", true, none, none⟩]⟩
      , ⟨"y", "", "Int", true, false, [⟨"depth", "", 0, "Int", false, none, some "one\ntwo"⟩]⟩ ]⟩]

theorem param_tables_of_tabled :
    tabled.validate = .ok () ∧ ∃ page,
      standard.renderType (.ofSchema tabled .standard) "doc" "Point" = .ok page ∧
      (∃ above below, Text.lines page =
        above ++ tableHead ++ ["| `scale` | 0 | `Int` | no | one |\rtwo\r |", "| `unit` | 1 | `Point` | yes |  |"] ++
          below) ∧
      ∃ above below, Text.lines page =
        above ++ tableHead ++ ["| `depth` | 0 | `Int` | no | one", "two |"] ++ below := by
  have accepted : tabled.validate = .ok () := by decide
  have built : tabled.Built := Schema.built_ofDeclarations _ _ _
  have single : ∀ primitive ∈ tabled.primitives, SingleLine primitive.name := by decide
  have declared : tabled.types[0] ∈ tabled.types := List.getElem_mem _
  obtain ⟨⟨_, page, -, rendered, -, tables⟩, -⟩ :=
    param_tables tabled.types[0] .standard (.inl built) accepted single declared
  refine ⟨accepted, page, rendered, ?_, ?_⟩
  · obtain ⟨rows, below, lines, -, -, whole, -⟩ := tables [] tabled.types[0].fields[0] [_] rfl (by decide)
    have defaults : ∀ param ∈ tabled.types[0].fields[0].params, SingleLine (param.defaultValueDoc.getD "") := by
      decide
    have texts : rowTexts tabled.types[0].fields[0] =
        ["| `scale` | 0 | `Int` | no | one |\rtwo\r |", "| `unit` | 1 | `Point` | yes |  |"] := by decide
    rw [whole.2 defaults, texts] at lines
    exact ⟨_, below, lines⟩
  · obtain ⟨rows, below, lines, -, broken, -⟩ := tables [_] tabled.types[0].fields[1] [] rfl (by decide)
    have texts : Text.lines (unlines (rowTexts tabled.types[0].fields[1])) =
        ["| `depth` | 0 | `Int` | no | one", "two |"] := by decide
    rw [broken, texts] at lines
    exact ⟨_, below, lines⟩

/-- A document with a param whose default is documented by two lines. -/
def linedDefault : Json :=
  .object
    [ ("types", .array
        [.object [("name", .string "Point"), ("fields", .array
          [.object [("name", .string "x"), ("return_type", .string "Point"), ("params", .array
            [.object [("name", .string "n"), ("type", .string "Point"), ("required", .bool false),
              ("default_value_doc", .strings ["none", "see below"])]])]])]])
    , ("root_type", .string "Point") ]

def linedType : TypeDecl :=
  ⟨"Point", "", [⟨"x", "", "Point", false, false,
    [⟨"n", "", 0, "Point", false, none, some "none\nsee below"⟩]⟩]⟩

/-- The schema is accepted and has no primitives. The row of its only param is broken in two. -/
theorem broken_row_of_linedDefault :
    Schema.ofJson linedDefault = .ok (.ofDeclarations "Point" [] [linedType]) ∧
      (Schema.ofDeclarations "Point" [] [linedType]).validate = .ok () ∧ ∃ page,
        standard.renderType (.ofSchema (.ofDeclarations "Point" [] [linedType]) .standard) "doc" "Point" = .ok page ∧
        Text.lines page =
          ["# Point", "", "## `x`", "", "Returns `Point`.", ""] ++ tableHead ++
            ["| `n` | 0 | `Point` | no | none", "see below |"] := by
  have decoded : Schema.ofJson linedDefault = .ok (.ofDeclarations "Point" [] [linedType]) := by decide
  have accepted : (Schema.ofDeclarations "Point" [] [linedType]).validate = .ok () := by decide
  have rendered := render_page (Schema.validate_ok.1 accepted) (List.mem_singleton_self linedType) .standard
  refine ⟨decoded, accepted, _, rendered, ?_⟩
  rw [Text.lines_unlines_flatMap]
  decide

end Catalog

end FieldTypes
