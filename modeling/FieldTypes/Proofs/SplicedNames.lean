import FieldTypes.Proofs.GetterAgreement
import FieldTypes.Proofs.Normalization
import FieldTypes.Proofs.SourceText
import FieldTypes.Proofs.TextOutline

set_option autoImplicit false

namespace FieldTypes

open Text (outline outlines outline_append outline_append_of outline_eq_nil_iff outline_of_isIdentifier
  outline_of_plain)

/-- The names that stand in the header and the source of a type as parts of the code. -/
def ResolvedType.splicedNames (type : ResolvedType) : List String :=
  type.name :: type.implName :: type.fields.flatMap fun field =>
    field.name :: field.getter :: field.params.flatMap fun param => [param.name, param.typeName]

def Param.rename (newName : String → String) (param : Param) : Param :=
  { param with name := newName param.name, typeName := newName param.typeName }

def Field.rename (newName : String → String) (field : Field) : Field :=
  { field with
    name := newName field.name
    returnType := newName field.returnType
    params := field.params.map (·.rename newName) }

/-- The type with its name, those of its fields and params and those it refers to replaced. -/
def TypeDecl.rename (newName : String → String) (type : TypeDecl) : TypeDecl :=
  { type with name := newName type.name, fields := type.fields.map (·.rename newName) }

/-- The names of a field and of its params are identifiers, and so are the types of the params. -/
structure Field.Spelled (field : Field) : Prop where
  name : isIdentifier field.name = true
  params : ∀ param ∈ field.params, isIdentifier param.name = true ∧ isIdentifier param.typeName = true

structure TypeDecl.Spelled (type : TypeDecl) : Prop where
  name : isIdentifier type.name = true
  fields : ∀ field ∈ type.fields, field.Spelled

theorem isIdentifier_getterName {name : String} (identifier : isIdentifier name = true) :
    isIdentifier (getterName name) = true :=
  isIdentifier_append (by decide) (plain_of_isIdentifier identifier)

theorem isIdentifier_implName {name : String} (identifier : isIdentifier name = true) :
    isIdentifier (implName name) = true :=
  isIdentifier_append identifier (plain_of_isIdentifier (by decide))

/-- The names that are spliced are identifiers exactly if those of the declarations are. -/
theorem spelled_iff {type : TypeDecl} :
    type.Spelled ↔ ∀ name ∈ type.resolve.splicedNames, isIdentifier name = true := by
  have names : type.resolve.splicedNames = type.name :: implName type.name :: type.fields.flatMap fun field =>
      field.name :: getterName field.name :: field.params.flatMap fun param => [param.name, param.typeName] := by
    simp only [ResolvedType.splicedNames, TypeDecl.resolve, List.flatMap_map, Field.resolve, Param.resolve]
  rw [names]
  simp only [List.forall_mem_cons, List.forall_mem_flatMap, List.not_mem_nil, IsEmpty.forall_iff, implies_true,
    and_true]
  constructor
  · rintro ⟨name, fields⟩
    refine ⟨name, isIdentifier_implName name, fun field mem => ?_⟩
    have spelled := fields field mem
    exact ⟨spelled.name, isIdentifier_getterName spelled.name, spelled.params⟩
  · rintro ⟨name, -, fields⟩
    exact ⟨name, fun field mem => ⟨(fields field mem).1, (fields field mem).2.2⟩⟩

/-- Names that are identifiers are renamed to identifiers. -/
def Spells (newName : String → String) : Prop :=
  ∀ name, isIdentifier name = true → isIdentifier (newName name) = true

theorem Spells.outline_eq {newName : String → String} (spells : Spells newName) {name : String}
    (identifier : isIdentifier name = true) : outline (newName name) = outline name := by
  rw [outline_of_isIdentifier identifier, outline_of_isIdentifier (spells name identifier)]

namespace Cpp

open Dispatch (Argument Branch Table)

theorem outline_indented (level : Nat) (text : String) :
    outline (indented level text) =
      if outline text = [] then [] else outlines (outline (Page.indentation level)) (outline text) := by
  unfold indented
  by_cases empty : text = ""
  · rw [if_pos empty, if_pos (outline_eq_nil_iff.2 empty)]
    rfl
  · rw [if_neg empty, if_neg (mt outline_eq_nil_iff.1 empty), outline_append]

theorem outlines_indented {lines others : List String} (same : lines.map outline = others.map outline)
    (level : Nat) : (lines.map (indented level)).map outline = (others.map (indented level)).map outline := by
  have each (list : List String) : (list.map (indented level)).map outline = (list.map outline).map fun shape =>
      if shape = [] then [] else outlines (outline (Page.indentation level)) shape := by
    rw [List.map_map, List.map_map]
    exact List.map_congr_left fun line _ => outline_indented level line
  rw [each, each, same]

theorem outline_includePath (options : Options) {file other : String} (same : outline file = outline other) :
    outline (options.includePath file) = outline (options.includePath other) := by
  unfold Options.includePath
  split
  · exact same
  · show outline (options.includePrefix ++ "/" ++ file) = outline (options.includePrefix ++ "/" ++ other)
    rw [outline_append, outline_append _ other, same]

theorem outline_guard (options : Options) (file : String) : outline (options.guard file) = [none] := by
  refine outline_of_plain (plain_guard options file) ?_
  rw [Options.guard, ne_eq, ← String.toList_eq_nil_iff, String.toList_map, List.map_eq_nil_iff,
    String.toList_eq_nil_iff]
  exact Page.append_ne_empty_right (by decide) _

section Field

variable {newName : String → String} {field : Field}

theorem outline_getter (spells : Spells newName) (spelled : field.Spelled) :
    outline (field.rename newName).resolve.getter = outline field.resolve.getter := by
  show outline ("get_" ++ newName field.name) = outline ("get_" ++ field.name)
  rw [outline_append, outline_append _ field.name, spells.outline_eq spelled.name]

theorem outline_parameterList (spells : Spells newName) (spelled : field.Spelled) :
    outline (field.rename newName).resolve.parameterList = outline field.resolve.parameterList := by
  rw [parameterList_eq, parameterList_eq, parametersOf, parametersOf, Field.rename, List.map_map]
  refine Text.outline_intercalate ", " fun param mem => ?_
  obtain ⟨name, typeName⟩ := spelled.params param mem
  simp only [Function.comp_apply, Param.rename, parameterText, outline_append, spells.outline_eq name,
    spells.outline_eq typeName]

theorem outline_expression (spells : Spells newName) {param : Param} (name : isIdentifier param.name = true)
    (typeName : isIdentifier param.typeName = true) :
    outline (Argument.ofParam (param.rename newName).resolve).expression =
      outline (Argument.ofParam param.resolve).expression := by
  rw [Argument.expression_eq, Argument.expression_eq]
  simp only [Argument.ofParam, Param.resolve, Param.rename, outline_append, spells.outline_eq name,
    spells.outline_eq typeName]

theorem outline_branchText_congr {first second : Branch} (member : outline first.member = outline second.member)
    (getter : outline first.getter = outline second.getter)
    (arguments : outline (", ".intercalate (first.arguments.map Argument.expression)) =
      outline (", ".intercalate (second.arguments.map Argument.expression))) :
    outline (MemberDefinitions.branchText first) = outline (MemberDefinitions.branchText second) := by
  have call : outline first.callExpression = outline second.callExpression := by
    rw [Branch.callExpression_eq, Branch.callExpression_eq]
    exact outline_append_of getter (outline_append_of rfl (outline_append_of arguments rfl))
  exact outline_append_of (outline_append_of (outline_append_of (outline_append_of rfl member) rfl) call) rfl

theorem outline_branchText (spells : Spells newName) (spelled : field.Spelled) :
    outline (MemberDefinitions.branchText (Branch.ofField (field.rename newName).resolve)) =
      outline (MemberDefinitions.branchText (Branch.ofField field.resolve)) := by
  refine outline_branchText_congr ?_ (outline_getter spells spelled) ?_
  · show outline (newName field.name) = outline field.name
    exact spells.outline_eq spelled.name
  · rw [Branch.arguments_ofField, Branch.arguments_ofField, Field.rename, List.map_map, List.map_map, List.map_map]
    refine Text.outline_intercalate ", " fun param mem => ?_
    obtain ⟨name, typeName⟩ := spelled.params param mem
    exact outline_expression spells name typeName

theorem outline_getterLines (spells : Spells newName) (spelled : field.Spelled) :
    (ClassDeclaration.getterLines (field.rename newName).resolve).map outline =
      (ClassDeclaration.getterLines field.resolve).map outline := by
  have declaration : outline (ClassDeclaration.declarationLine (field.rename newName).resolve) =
      outline (ClassDeclaration.declarationLine field.resolve) :=
    outline_append_of (outline_append_of (outline_append_of (outline_append_of rfl
      (outline_getter spells spelled)) rfl) (outline_parameterList spells spelled)) rfl
  have docs : (field.rename newName).resolve.docLines = field.resolve.docLines := rfl
  simp only [ClassDeclaration.getterLines, docs, declaration, List.map_cons, List.map_append, List.map_nil]

end Field

namespace ClassDeclaration

variable {name other impl otherImpl guard otherGuard : String}

theorem outline_constructionLines (named : outline name = outline other)
    (implemented : outline impl = outline otherImpl) :
    (constructionLines name impl).map outline = (constructionLines other otherImpl).map outline := by
  simp only [constructionLines, List.map_cons, List.map_nil, outline_append, named, implemented]

theorem outline_opening (guarded : outline guard = outline otherGuard)
    (implemented : outline impl = outline otherImpl) (namespaceName : String) :
    (opening guard namespaceName impl).map outline = (opening otherGuard namespaceName otherImpl).map outline := by
  simp only [opening, List.map_append, List.map_cons, List.map_nil, outline_append, guarded, implemented]

theorem outline_closing {include_ otherInclude : String} (guarded : outline guard = outline otherGuard)
    (included : outline include_ = outline otherInclude) (namespaceName : String) :
    (closing guard namespaceName include_).map outline =
      (closing otherGuard namespaceName otherInclude).map outline := by
  simp only [closing, includeText, List.map_cons, List.map_nil, outline_append, guarded, included]

end ClassDeclaration

namespace MemberDefinitions

theorem outline_cascadeText {table other : Table} (named : outline table.typeName = outline other.typeName)
    (used : table.usesParams = other.usesParams)
    (branches : outline (String.join (table.branches.map branchText)) =
      outline (String.join (other.branches.map branchText))) :
    outline (cascadeText table) = outline (cascadeText other) := by
  unfold cascadeText unusedMark
  rw [used]
  generalize table.typeName = name, other.typeName = otherName at *
  generalize String.join (table.branches.map branchText) = text,
    String.join (other.branches.map branchText) = otherText at *
  simp only [outline_append, named, branches]

theorem outline_sourceText {files otherFiles : FileNames} {name other : String} {table otherTable : Table}
    (header : outline files.headerInclude = outline otherFiles.headerInclude)
    (impl : outline files.implHeaderInclude = outline otherFiles.implHeaderInclude)
    (named : outline name = outline other)
    (cascade : outline (cascadeText table) = outline (cascadeText otherTable)) (namespaceName : String) :
    outline (sourceText files namespaceName name table) =
      outline (sourceText otherFiles namespaceName other otherTable) := by
  unfold sourceText
  generalize files.headerInclude = include_, otherFiles.headerInclude = otherInclude at *
  generalize files.implHeaderInclude = implInclude, otherFiles.implHeaderInclude = otherImplInclude at *
  simp only [outline_append, header, impl, named, cascade]

end MemberDefinitions

section File

variable {newName : String → String} {type : TypeDecl} (spells : Spells newName) (spelled : type.Spelled)

include spells spelled

theorem outline_file (ending : String) : outline (newName type.name ++ ending) = outline (type.name ++ ending) :=
  outline_append_of (spells.outline_eq spelled.name) rfl

theorem outline_classLines :
    (ClassDeclaration.classLines (type.rename newName).resolve).map outline =
      (ClassDeclaration.classLines type.resolve).map outline := by
  have getters : ((type.rename newName).resolve.fields.flatMap ClassDeclaration.getterLines).map outline =
      (type.resolve.fields.flatMap ClassDeclaration.getterLines).map outline := by
    simp only [TypeDecl.resolve, TypeDecl.rename, List.flatMap_map, List.map_flatMap]
    exact List.flatMap_congr fun field declared => outline_getterLines spells (spelled.fields field declared)
  have members : (ClassDeclaration.memberLines (type.rename newName).resolve).map outline =
      (ClassDeclaration.memberLines type.resolve).map outline := by
    have construction : (ClassDeclaration.constructionLines (type.rename newName).resolve.name
          (type.rename newName).resolve.implName).map outline =
        (ClassDeclaration.constructionLines type.resolve.name type.resolve.implName).map outline :=
      ClassDeclaration.outline_constructionLines (spells.outline_eq spelled.name) (outline_file spells spelled "Impl")
    rw [ClassDeclaration.memberLines, ClassDeclaration.memberLines, List.map_append, List.map_append,
      List.map_append, List.map_append, getters, construction]
  have docs : (type.rename newName).resolve.docLines = type.resolve.docLines := rfl
  have class_ : outline ("class " ++ (type.rename newName).resolve.name) = outline ("class " ++ type.resolve.name) :=
    outline_append_of rfl (spells.outline_eq spelled.name)
  simp only [ClassDeclaration.classLines, List.map_append, List.map_cons, outlines_indented members 1, docs, class_]

/-- A header says the same of a renamed type, but for the names. -/
theorem outline_header (options : Options) :
    outline (ClassDeclaration.text (type.rename newName).resolve options) =
      outline (ClassDeclaration.text type.resolve options) := by
  have guard : outline (FileNames.ofType (type.rename newName).resolve options).headerGuard =
      outline (FileNames.ofType type.resolve options).headerGuard :=
    (outline_guard options _).trans (outline_guard options _).symm
  have inlineHeader : outline (FileNames.ofType (type.rename newName).resolve options).inlineHeaderInclude =
      outline (FileNames.ofType type.resolve options).inlineHeaderInclude :=
    outline_includePath options (outline_file spells spelled ".gen.inl.h")
  have impl : outline (type.rename newName).resolve.implName = outline type.resolve.implName :=
    outline_file spells spelled "Impl"
  rw [ClassDeclaration.text_eq_unlines, ClassDeclaration.text_eq_unlines]
  refine Text.outline_unlines ?_
  rw [ClassDeclaration.headerLines, ClassDeclaration.headerLines]
  simp only [List.map_append]
  rw [outline_classLines spells spelled, ClassDeclaration.outline_opening guard impl,
    ClassDeclaration.outline_closing guard inlineHeader]

theorem outline_cascade :
    outline (MemberDefinitions.cascadeText (Table.ofType (type.rename newName).resolve)) =
      outline (MemberDefinitions.cascadeText (Table.ofType type.resolve)) := by
  refine MemberDefinitions.outline_cascadeText (spells.outline_eq spelled.name) ?_ ?_
  · simp only [Table.usesParams, Table.branches_ofType, TypeDecl.rename, List.map_map, List.any_map]
    congr 1
    funext field
    simp [Branch.arguments_ofField, Field.rename]
  · rw [Table.branches_ofType, Table.branches_ofType, TypeDecl.rename, List.map_map, List.map_map, List.map_map]
    exact Text.outline_join fun field declared => outline_branchText spells (spelled.fields field declared)

theorem outline_source (options : Options) :
    outline (MemberDefinitions.text (type.rename newName).resolve options) =
      outline (MemberDefinitions.text type.resolve options) := by
  rw [MemberDefinitions.text_eq_sourceText, MemberDefinitions.text_eq_sourceText]
  have header : outline (FileNames.ofType (type.rename newName).resolve options).headerInclude =
      outline (FileNames.ofType type.resolve options).headerInclude :=
    outline_includePath options (outline_file spells spelled ".gen.h")
  have impl : outline (FileNames.ofType (type.rename newName).resolve options).implHeaderInclude =
      outline (FileNames.ofType type.resolve options).implHeaderInclude :=
    outline_includePath options (outline_append_of (outline_file spells spelled "Impl") rfl)
  have name : outline (type.rename newName).resolve.name = outline type.resolve.name :=
    spells.outline_eq spelled.name
  exact MemberDefinitions.outline_sourceText header impl name (outline_cascade spells spelled) options.namespaceName

end File

end Cpp

namespace Schema

variable {schema : Schema} {type : TypeDecl}

/-- What a declared type refers to is an identifier or the name of a primitive. -/
theorem isIdentifier_or_primitive (built : schema.Built) (sound : schema.Sound) {name : String}
    (resolves : (schema.referenceKind? name).isSome = true) :
    isIdentifier name = true ∨ name ∈ schema.primitives.map (·.name) :=
  @of_referenceKind? schema (fun name => isIdentifier name = true ∨ name ∈ schema.primitives.map (·.name))
    (fun _ mem => .inr (List.mem_map_of_mem mem))
    (fun _ indexed => .inl (sound.isIdentifier_of_hasType built indexed)) name resolves

/-- The names of a declared type are identifiers as far as they are not those of primitives. -/
theorem spelled_iff_of_sound (built : schema.Built) (sound : schema.Sound) (declared : type ∈ schema.types) :
    type.Spelled ↔ ∀ field ∈ type.fields, ∀ param ∈ field.params,
      param.typeName ∈ schema.primitives.map (·.name) → isIdentifier param.typeName = true := by
  have typeSound := sound.types type declared
  refine ⟨fun spelled field mem param among _ => ((spelled.fields field mem).params param among).2,
    fun primitives => ⟨typeSound.identifier, fun field mem => ?_⟩⟩
  have fieldSound := typeSound.fields field mem
  refine ⟨fieldSound.identifier, fun param among => ?_⟩
  have paramSound := fieldSound.params param among
  exact ⟨paramSound.identifier,
    (isIdentifier_or_primitive built sound paramSound.resolves).elim id (primitives field mem param among)⟩

end Schema

/-- The names that an accepted schema brings into the header and the source of a type are identifiers, but for
param types that are primitives. Where these are identifiers, too, both texts are those of the renamed type in
everything but names, however it is renamed: no name brings a token, a quote or a line break of its own. -/
theorem spliced_names {document : Json} {schema : Schema} {type : TypeDecl}
    (decoded : Schema.ofJson document = .ok schema) (declared : type ∈ schema.types) :
    isIdentifier type.resolve.name = true ∧ isIdentifier type.resolve.implName = true ∧
      (∀ field ∈ type.resolve.fields, isIdentifier field.name = true ∧ isIdentifier field.getter = true ∧
        ∀ param ∈ field.params, isIdentifier param.name = true ∧
          (isIdentifier param.typeName = true ∨ param.typeName ∈ schema.primitives.map (·.name))) ∧
      ((∀ name ∈ type.resolve.splicedNames, isIdentifier name = true) ↔
        ∀ field ∈ type.fields, ∀ param ∈ field.params,
          param.typeName ∈ schema.primitives.map (·.name) → isIdentifier param.typeName = true) ∧
      ((∀ name ∈ type.resolve.splicedNames, isIdentifier name = true) →
        ∀ newName, Spells newName → ∀ options,
          outline (Cpp.ClassDeclaration.text (type.rename newName).resolve options) =
              outline (Cpp.ClassDeclaration.text type.resolve options) ∧
            outline (Cpp.MemberDefinitions.text (type.rename newName).resolve options) =
              outline (Cpp.MemberDefinitions.text type.resolve options)) := by
  obtain ⟨read, accepted⟩ := Schema.ofJson_ok.1 decoded
  have built := Schema.built_of_ofDocument_ok read
  have sound := Schema.validate_ok.1 accepted
  have typeSound := sound.types type declared
  refine ⟨typeSound.identifier, isIdentifier_implName typeSound.identifier, ?_, ?_, ?_⟩
  · intro resolved listed
    obtain ⟨field, mem, rfl⟩ := List.mem_map.1 listed
    have fieldSound := typeSound.fields field mem
    refine ⟨fieldSound.identifier, isIdentifier_getterName fieldSound.identifier, fun resolved listed => ?_⟩
    obtain ⟨param, among, rfl⟩ := List.mem_map.1 listed
    have paramSound := fieldSound.params param among
    exact ⟨paramSound.identifier, Schema.isIdentifier_or_primitive built sound paramSound.resolves⟩
  · rw [← spelled_iff]
    exact Schema.spelled_iff_of_sound built sound declared
  · intro identifiers newName spells options
    have spelled := spelled_iff.2 identifiers
    exact ⟨Cpp.outline_header spells spelled options, Cpp.outline_source spells spelled options⟩

/-- A document with one type whose field takes one argument of a primitive. -/
def pointWith (primitive : String) : Json :=
  .object
    [ ("primitive_types", .array [.object [("name", .string primitive)]])
    , ("types", .array
        [.object [("name", .string "Point"), ("fields", .array
          [.object [("name", .string "x"), ("return_type", .string "Point"), ("params", .array
            [.object [("name", .string "n"), ("type", .string primitive), ("required", .bool true)]])]])]])
    , ("root_type", .string "Point") ]

def pointType (primitive : String) : TypeDecl :=
  ⟨"Point", "", [⟨"x", "", "Point", false, false, [⟨"n", "", 0, primitive, true, none, none⟩]⟩]⟩

theorem spliced_names_of_point :
    Schema.ofJson (pointWith "PrimitiveInt") =
        .ok (.ofDeclarations "Point" [⟨"PrimitiveInt", ""⟩] [pointType "PrimitiveInt"]) ∧
      outline (Cpp.ClassDeclaration.text ((pointType "PrimitiveInt").rename fun _ => "name").resolve .standard) =
        outline (Cpp.ClassDeclaration.text (pointType "PrimitiveInt").resolve .standard) := by
  have decoded : Schema.ofJson (pointWith "PrimitiveInt") =
      .ok (.ofDeclarations "Point" [⟨"PrimitiveInt", ""⟩] [pointType "PrimitiveInt"]) := by decide +kernel
  obtain ⟨-, -, -, -, renamed⟩ := spliced_names decoded (List.mem_singleton_self _)
  have identifiers : ∀ name ∈ (pointType "PrimitiveInt").resolve.splicedNames, isIdentifier name = true := by
    decide +kernel
  have named : isIdentifier "name" = true := by decide
  have spells : Spells fun _ => "name" := fun _ _ => named
  exact ⟨decoded, (renamed identifiers _ spells .standard).1⟩

/-- A primitive whose name is no identifier is accepted, and the getter declares one parameter more. -/
theorem injected_parameter_of_point :
    Schema.ofJson (pointWith "int& x, const long") =
        .ok (.ofDeclarations "Point" [⟨"int& x, const long", ""⟩] [pointType "int& x, const long"]) ∧
      "int& x, const long" ∈ (pointType "int& x, const long").resolve.splicedNames ∧
      isIdentifier "int& x, const long" = false ∧
      (pointType "int& x, const long").resolve.fields.map (·.parameterList) = ["const int& x, const long& n"] ∧
      ((pointType "int& x, const long").rename fun _ => "name").resolve.fields.map (outline ·.parameterList) ≠
        (pointType "int& x, const long").resolve.fields.map (outline ·.parameterList) :=
  ⟨by decide +kernel, by decide +kernel, by decide +kernel, by decide +kernel, by decide +kernel⟩

end FieldTypes
