import FieldTypes.Proofs.GetterAgreement
import FieldTypes.Proofs.WellFormedness

set_option autoImplicit false

namespace FieldTypes

open Text (Lacks SingleLine unlines dropReturn)
open Dispatch.Reading (after after_append after_isSome_append after_isSome_of_head? head?_append)

def ResolvedType.classNames (type : ResolvedType) : List String := [type.implName, type.name]

def ResolvedSchema.classNames (schema : ResolvedSchema) : List String :=
  schema.types.flatMap ResolvedType.classNames

namespace Cpp

def declaresClass (line : List Char) : Bool := (after "class " line).isSome

/-- The name behind the mark of a class. -/
def classNameOf (line : String) : String :=
  String.ofList (((after "class " line.toList).getD []).takeWhile Identifier.isRest)

def declaredClasses (text : String) : List String :=
  ((Text.lines text).filter (declaresClass ·.toList)).map classNameOf

theorem declaresClass_append (line rest : List Char) (declares : declaresClass line = true) :
    declaresClass (line ++ rest) = true :=
  after_isSome_append declares rest

theorem declaresClass_class (rest : String) : declaresClass ("class " ++ rest).toList = true := by
  rw [declaresClass, String.toList_append, after_append, Option.isSome_some]

theorem classNameOf_class {name : String} (plain : Plain name) {rest : String}
    (stop : rest.toList.takeWhile Identifier.isRest = []) : classNameOf ("class " ++ (name ++ rest)) = name := by
  rw [classNameOf, String.toList_append, after_append, Option.getD_some, String.toList_append,
    List.takeWhile_append_of_pos plain, stop, List.append_nil, String.ofList_toList]

theorem declaresClass_of_head? {text : String} {c : Char} (head : text.toList.head? = some c) (other : c ≠ 'c') :
    declaresClass text.toList = false :=
  after_isSome_of_head? rfl head other

theorem declaresClass_empty : declaresClass "".toList = false := rfl

/-- No class is declared inside another. -/
theorem declaresClass_indented (text : String) : declaresClass (indented 1 text).toList = false := by
  by_cases empty : text = ""
  · rw [indented, if_pos empty]
    exact declaresClass_empty
  · rw [indented_of_ne_empty empty, Page.indentation_one]
    exact declaresClass_of_head? (head?_append rfl text) (by decide)

namespace ClassDeclaration

theorem filter_class_indented (lines : List String) :
    (lines.map (indented 1)).filter (declaresClass ·.toList) = [] := by
  apply List.filter_eq_nil_iff.2
  intro line mem
  obtain ⟨text, -, rfl⟩ := List.mem_map.1 mem
  simp [declaresClass_indented]

theorem filter_class_commentLines (docLines : List String) :
    (commentLines docLines).filter (declaresClass ·.toList) = [] := by
  apply List.filter_eq_nil_iff.2
  intro line mem
  rcases commentLines_cases mem with rfl | ⟨rest, rfl⟩
  · decide
  · have other : declaresClass (" *" ++ rest).toList = false :=
      declaresClass_of_head? (head?_append rfl rest) (by decide)
    rw [other]
    exact Bool.false_ne_true

theorem filter_class_opening (guard namespaceName implName : String) :
    (opening guard namespaceName implName).filter (declaresClass ·.toList) = ["class " ++ (implName ++ ";")] := by
  have asks : declaresClass ("#ifndef " ++ guard).toList = false :=
    declaresClass_of_head? (head?_append rfl _) (by decide)
  have defines : declaresClass ("#define " ++ guard).toList = false :=
    declaresClass_of_head? (head?_append rfl _) (by decide)
  have includes : (runtimeIncludes.map includeText).filter (declaresClass ·.toList) = [] := rfl
  have namespace_ : declaresClass ("namespace " ++ (namespaceName ++ " \x7b")).toList = false :=
    declaresClass_of_head? (head?_append rfl _) (by decide)
  have memory : declaresClass "#include <memory>".toList = false := rfl
  have view : declaresClass "#include <string_view>".toList = false := rfl
  simp only [opening, String.append_assoc, List.filter_append, List.filter_cons, asks, defines, includes, namespace_,
    declaresClass_class, declaresClass_empty, memory, view, Bool.false_eq_true, if_false, if_true, List.filter_nil,
    List.nil_append, List.append_nil]

theorem filter_class_closing (guard namespaceName inlineHeader : String) :
    (closing guard namespaceName inlineHeader).filter (declaresClass ·.toList) = [] := by
  have ends : declaresClass ("\x7d // namespace " ++ namespaceName).toList = false :=
    declaresClass_of_head? (head?_append rfl _) (by decide)
  have include_ : declaresClass (includeText inlineHeader).toList = false :=
    declaresClass_of_head? (head?_append rfl _) (by decide)
  have last : declaresClass ("#endif // " ++ guard).toList = false :=
    declaresClass_of_head? (head?_append rfl _) (by decide)
  simp only [closing, List.filter_cons, ends, include_, last, declaresClass_empty, Bool.false_eq_true, if_false,
    List.filter_nil]

theorem filter_class_headerLines (type : ResolvedType) (options : Options) :
    (headerLines type options).filter (declaresClass ·.toList) =
      ["class " ++ (type.implName ++ ";"), "class " ++ type.name] := by
  have base : declaresClass (indented 1 ": public Field").toList = false := declaresClass_indented _
  have brace : declaresClass "\x7b".toList = false := rfl
  have public_ : declaresClass "public:".toList = false := rfl
  have rest : ["", "private:", indented 1 "ImplPtr impl_;", "\x7d;"].filter (declaresClass ·.toList) = [] := rfl
  simp only [headerLines, classLines, List.filter_append, filter_class_opening, filter_class_closing,
    filter_class_commentLines, filter_class_indented, rest, List.filter_cons, declaresClass_class, base, brace, public_,
    Bool.false_eq_true, if_false, if_true, List.filter_nil, List.nil_append, List.append_nil, List.singleton_append]

end ClassDeclaration

theorem plain_implName {name : String} (plain : Plain name) : Plain (implName name) :=
  plain.append (plain_of_isIdentifier (by decide))

theorem declaredClasses_text {schema : Schema} {type : TypeDecl} {options : Options} (typed : SingleTyped schema type)
    (namespace_ : SingleLine options.namespaceName) (includes : SingleLine options.includePrefix) :
    declaredClasses (ClassDeclaration.text type.resolve options) = type.resolve.classNames := by
  have kept := ClassDeclaration.filter_class_headerLines type.resolve options
  have single := typed.singleLine_header namespace_ includes
  have name : Plain type.resolve.name := typed.plain
  have impl : Plain type.resolve.implName := plain_implName typed.plain
  have lacks : ∀ line ∈ ["class " ++ (type.resolve.implName ++ ";"), "class " ++ type.resolve.name],
      Lacks '\r' line := by
    simp only [List.forall_mem_cons]
    exact ⟨Lacks.append (by decide) (Lacks.append (impl.not_mem (by decide)) (by decide)),
      Lacks.append (by decide) (name.not_mem (by decide)), List.forall_mem_nil _⟩
  have whole : ∀ line ∈ ClassDeclaration.headerLines type.resolve options, declaresClass line.toList = true →
      dropReturn line.toList = line.toList := by
    intro line mem declares
    apply Text.dropReturn_of_lacks
    apply lacks line
    rw [← kept]
    exact List.mem_filter.2 ⟨mem, declares⟩
  have payload : classNameOf ("class " ++ (type.resolve.implName ++ ";")) = type.resolve.implName :=
    classNameOf_class impl rfl
  have class_ : classNameOf ("class " ++ type.resolve.name) = type.resolve.name := by
    have alone := @classNameOf_class _ name "" rfl
    rwa [String.append_empty] at alone
  rw [declaredClasses, ClassDeclaration.text_eq_unlines, filter_lines_unlines single declaresClass_append whole, kept,
    List.map_cons, List.map_cons, List.map_nil, payload, class_, ResolvedType.classNames]

end Cpp

namespace Schema

variable {schema : Schema}

theorem implName_injective {first second : String} (same : implName first = implName second) : first = second := by
  have appended : first ++ "Impl" = second ++ "Impl" := same
  exact (String.append_left_inj "Impl").1 appended

theorem classNames_perm (schema : Schema) :
    schema.resolve.classNames.Perm
      (schema.types.map (fun type => implName type.name) ++ schema.types.map (·.name)) := by
  unfold ResolvedSchema.classNames Schema.resolve
  induction schema.types with
  | nil => exact .nil
  | cons type types ih =>
    rw [List.map_cons, List.flatMap_cons, List.map_cons, List.map_cons, List.cons_append]
    apply List.Perm.cons
    exact (ih.cons type.name).trans List.perm_middle.symm

theorem nodup_implNames (distinct : (schema.types.map (·.name)).Nodup) :
    (schema.types.map fun type => implName type.name).Nodup := by
  have names : (schema.types.map fun type => implName type.name) = (schema.types.map (·.name)).map implName := by
    rw [List.map_map]
    rfl
  rw [names]
  exact distinct.map fun _ _ same => implName_injective same

theorem notPrimitive_of_sound (sound : schema.Sound) :
    ∀ type ∈ schema.types, type.name ∉ schema.primitives.map (·.name) := by
  intro type declared
  rw [← hasPrimitive_iff, (sound.types type declared).notPrimitive]
  exact Bool.false_ne_true

/-- The classes have names of their own exactly if no payload class has that of a declaration. -/
theorem classNames_apart_iff (accepted : schema.validate = .ok ()) :
    (schema.resolve.classNames.Nodup ∧ ∀ name ∈ schema.resolve.classNames, name ∉ schema.primitives.map (·.name)) ↔
      ∀ type ∈ schema.types, implName type.name ∉ schema.declaredNames := by
  have sound := Schema.validate_ok.1 accepted
  have perm := classNames_perm schema
  have each (property : String → Prop) : (∀ name ∈ schema.resolve.classNames, property name) ↔
      (∀ type ∈ schema.types, property (implName type.name)) ∧ ∀ type ∈ schema.types, property type.name := by
    simp only [perm.mem_iff]
    rw [List.forall_mem_append, List.forall_mem_map, List.forall_mem_map]
  rw [perm.nodup_iff, List.nodup_append', each]
  constructor
  · intro apart type declared
    obtain ⟨⟨-, -, disjoint⟩, payloads, -⟩ := apart
    rw [declaredNames, List.mem_append, not_or]
    constructor
    · exact payloads type declared
    · exact disjoint (List.mem_map_of_mem declared)
  · intro unused
    simp only [declaredNames, List.mem_append, not_or] at unused
    refine ⟨⟨nodup_implNames sound.typeNames, sound.typeNames, ?_⟩, ?_, notPrimitive_of_sound sound⟩
    · intro name payload class_
      obtain ⟨type, declared, rfl⟩ := List.mem_map.1 payload
      exact (unused type declared).2 class_
    · intro type declared
      exact (unused type declared).1

theorem exists_header (accepted : schema.validate = .ok ())
    (origin : schema.Built ∨ ∀ name, schema.hasType name = true → SingleLine name)
    (primitives : ∀ primitive ∈ schema.primitives, SingleLine primitive.name) {options : Cpp.Options}
    (namespace_ : SingleLine options.namespaceName) (includes : SingleLine options.includePrefix) {type : TypeDecl}
    (declared : type ∈ schema.types) :
    ∃ header, Catalog.standard.renderType (.ofSchema schema options) "header" type.name = .ok header ∧
      Cpp.declaredClasses header = type.resolve.classNames := by
  have sound := Schema.validate_ok.1 accepted
  have typed := Cpp.SingleTyped.of_sound sound origin primitives declared
  refine ⟨_, Catalog.renderType_standard (.head _) (sound.getType?_resolve declared), ?_⟩
  exact Cpp.declaredClasses_text typed namespace_ includes

/-- The classes of an accepted schema. The header of each type declares its payload class and its own class and no
other, if neither the options nor the primitives bring a line break with them. Among the payload classes and
among the types' own classes no name comes twice, and no type's own class is named like a primitive. So all
names are told apart, and from the primitives, exactly if no payload class is named like a declaration. -/
theorem class_names (accepted : schema.validate = .ok ()) :
    ((schema.Built ∨ ∀ name, schema.hasType name = true → SingleLine name) →
      (∀ primitive ∈ schema.primitives, SingleLine primitive.name) →
      ∀ options : Cpp.Options, SingleLine options.namespaceName → SingleLine options.includePrefix →
      ∀ type ∈ schema.types, ∃ header,
        Catalog.standard.renderType (.ofSchema schema options) "header" type.name = .ok header ∧
          Cpp.declaredClasses header = type.resolve.classNames) ∧
    (schema.types.map fun type => type.resolve.name).Nodup ∧
    (schema.types.map fun type => type.resolve.implName).Nodup ∧
    (∀ type ∈ schema.types, type.resolve.name ∉ schema.primitives.map (·.name)) ∧
    ((schema.resolve.classNames.Nodup ∧
        ∀ name ∈ schema.resolve.classNames, name ∉ schema.primitives.map (·.name)) ↔
      ∀ type ∈ schema.types, type.resolve.implName ∉ schema.declaredNames) := by
  have sound := Schema.validate_ok.1 accepted
  refine ⟨?_, sound.typeNames, nodup_implNames sound.typeNames, ?_, classNames_apart_iff accepted⟩
  · intro origin primitives options namespace_ includes type declared
    exact exists_header accepted origin primitives namespace_ includes declared
  · exact notPrimitive_of_sound sound

/-- Names that come close to payload classes. -/
def closeNames : Schema :=
  .ofDeclarations "Point" [⟨"Pointimpl", ""⟩, ⟨"Impl", ""⟩]
    [⟨"Point", "class PointImpl;", []⟩, ⟨"PointImp", "\nclass Point", []⟩, ⟨"ImplPoint", "", []⟩]

theorem class_names_of_closeNames :
    closeNames.validate = .ok () ∧ closeNames.resolve.classNames.Nodup ∧
      ∃ header, Catalog.standard.renderType (.ofSchema closeNames .standard) "header" "PointImp" = .ok header ∧
        Cpp.declaredClasses header = ["PointImpImpl", "PointImp"] := by
  have accepted : closeNames.validate = .ok () := by decide
  have built : closeNames.Built := built_ofDeclarations _ _ _
  have single : ∀ primitive ∈ closeNames.primitives, SingleLine primitive.name := by decide
  have unused : ∀ type ∈ closeNames.types, type.resolve.implName ∉ closeNames.declaredNames := by decide
  have declared : closeNames.types[1] ∈ closeNames.types := List.getElem_mem _
  obtain ⟨headers, -, -, -, apart⟩ := class_names accepted
  obtain ⟨header, rendered, classes⟩ :=
    headers (.inl built) single .standard (by decide) (by decide) closeNames.types[1] declared
  have names : closeNames.types[1].resolve.classNames = ["PointImpImpl", "PointImp"] := by decide
  exact ⟨accepted, (apart.2 unused).1, header, rendered, classes.trans names⟩

/-- A document with a type and a primitive that are named like payload classes. -/
def payloadNames : Json :=
  .object
    [ ("primitive_types", .array [.object [("name", .string "PointImplImpl")]])
    , ("types", .array
        [ .object [("name", .string "Point"), ("fields", .array [])]
        , .object [("name", .string "PointImpl"), ("fields", .array [])] ])
    , ("root_type", .string "Point") ]

def payloadSchema : Schema :=
  .ofDeclarations "Point" [⟨"PointImplImpl", ""⟩] [⟨"Point", "", []⟩, ⟨"PointImpl", "", []⟩]

/-- The schema is accepted. Two of its headers declare the class `PointImpl`, one of them as a payload class, and the
payload class of the other is named like the primitive. -/
theorem classes_clash_of_payloadNames :
    ofJson payloadNames = .ok payloadSchema ∧ payloadSchema.validate = .ok () ∧
      (∀ type ∈ payloadSchema.types, ∃ header,
        Catalog.standard.renderType (.ofSchema payloadSchema .standard) "header" type.name = .ok header ∧
          Cpp.declaredClasses header = type.resolve.classNames) ∧
      payloadSchema.resolve.classNames = ["PointImpl", "Point", "PointImplImpl", "PointImpl"] ∧
      ¬ payloadSchema.resolve.classNames.Nodup ∧
      "PointImplImpl" ∈ payloadSchema.primitives.map (·.name) := by
  have decoded : ofJson payloadNames = .ok payloadSchema := by decide
  have accepted : payloadSchema.validate = .ok () := by decide
  have single : ∀ primitive ∈ payloadSchema.primitives, SingleLine primitive.name := by decide
  have names : payloadSchema.resolve.classNames = ["PointImpl", "Point", "PointImplImpl", "PointImpl"] := by
    decide
  refine ⟨decoded, accepted, ?_, names, ?_, ?_⟩
  · intro type declared
    exact exists_header accepted (.inl (built_ofDeclarations _ _ _)) single (by decide) (by decide) declared
  · rw [names]
    decide
  · decide

end Schema

end FieldTypes
