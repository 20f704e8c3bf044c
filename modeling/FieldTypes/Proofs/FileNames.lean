import FieldTypes.Proofs.HeaderText
import FieldTypes.Proofs.StandardRendering
import Mathlib.Data.List.Nodup
import Mathlib.Data.List.Pairwise

set_option autoImplicit false

namespace FieldTypes

open Text (unlines)

/-- Neither ending ends in the other. -/
def Apart (first second : String) : Prop := ¬ first.toList <:+ second.toList ∧ ¬ second.toList <:+ first.toList

instance (first second : String) : Decidable (Apart first second) :=
  inferInstanceAs (Decidable (¬ first.toList <:+ second.toList ∧ ¬ second.toList <:+ first.toList))

instance : Std.Symm Apart := ⟨fun _ _ => And.symm⟩

/-- What stands in front of endings that are apart does not matter. -/
theorem Apart.ne {first second : String} (apart : Apart first second) (start other : String) :
    start ++ first ≠ other ++ second := by
  intro same
  have ends : first.toList <:+ (start ++ first).toList := String.toList_append ▸ List.suffix_append _ _
  have endsToo : second.toList <:+ (start ++ first).toList := by
    rw [same, String.toList_append]
    exact List.suffix_append _ _
  exact (List.suffix_or_suffix_of_suffix ends endsToo).elim apart.1 apart.2

theorem nodup_endings {names endings : List String} (distinct : names.Nodup) (apart : endings.Pairwise Apart) :
    (names.flatMap fun name => endings.map (name ++ ·)).Nodup := by
  rw [List.nodup_flatMap]
  constructor
  · intro name _
    exact apart.map _ fun _ _ apart => apart.ne name name
  · refine distinct.imp fun {name other} different => ?_
    refine List.disjoint_left.2 ?_
    intro text inFirst inSecond
    obtain ⟨ending, mem, rfl⟩ := List.mem_map.1 inFirst
    obtain ⟨otherEnding, otherMem, same⟩ := List.mem_map.1 inSecond
    by_cases equal : otherEnding = ending
    · rw [equal, String.append_left_inj] at same
      exact different same.symm
    · exact (apart.forall otherMem mem equal).ne other name same

namespace Cpp

theorem Options.guardChar_of_isRest {c : Char} (plain : Identifier.isRest c = true) : guardChar c = c := by
  unfold guardChar
  split
  · rfl
  · rename_i other
    rw [Identifier.isRest, Bool.or_eq_true, beq_iff_eq] at plain
    exact (plain.resolve_left other).symm

/-- What every guard of a file starts with. -/
def guardStart (options : Options) : String :=
  (options.guardPrefix ++ "_" ++ options.includePrefix ++ "_").map Options.guardChar

/-- The guard of a file that is named after a type shows the type's name. -/
theorem guard_append {name : String} (plain : Plain name) (options : Options) (ending : String) :
    options.guard (name ++ ending) =
      guardStart options ++ name ++ (ending ++ "_").map Options.guardChar := by
  have same : name.toList.map Options.guardChar = name.toList :=
    (List.map_congr_left fun c mem => Options.guardChar_of_isRest (plain c mem)).trans (List.map_id _)
  rw [← String.toList_inj]
  show ((options.guardPrefix ++ "_" ++ options.includePrefix ++ "_" ++ (name ++ ending) ++ "_").map _).toList = _
  simp only [guardStart, String.toList_map, String.toList_append, List.map_append, same, List.append_assoc]

/-- The include guard of the registry of a schema. Unlike those of files it is taken as it is. -/
def registryGuard (options : Options) : String := options.guardPrefix ++ "_FIELD_REGISTRY_"

def headerGuards (schema : Schema) (options : Options) : List String :=
  schema.types.flatMap fun type =>
    let files := FileNames.ofType type.resolve options
    [files.headerGuard, files.inlineHeaderGuard]

theorem headerGuards_eq {schema : Schema} (plain : ∀ type ∈ schema.types, Plain type.name) (options : Options) :
    headerGuards schema options =
      ((schema.types.map (·.name)).map (guardStart options ++ ·)).flatMap fun start =>
        ["_gen_h_", "_gen_inl_h_"].map (start ++ ·) := by
  rw [headerGuards, List.flatMap_map, List.flatMap_map]
  refine List.flatMap_congr fun type declared => ?_
  have header := guard_append (plain type declared) options ".gen.h"
  have inlineHeader := guard_append (plain type declared) options ".gen.inl.h"
  have endings : (".gen.h" ++ "_").map Options.guardChar = "_gen_h_" ∧
      (".gen.inl.h" ++ "_").map Options.guardChar = "_gen_inl_h_" := by decide +kernel
  rw [endings.1] at header
  rw [endings.2] at inlineHeader
  exact congrArg₂ (fun first second => [first, second]) header inlineHeader

/-- A text that says something only once: its first lines ask for its guard and define it, and its last line is
the end of the question. -/
def GuardedBy (guard text : String) : Prop :=
  ∃ lines, text = unlines lines ∧ ["#ifndef " ++ guard, "#define " ++ guard] <+: lines ∧
    ["#endif // " ++ guard] <:+ lines

/-- A file is guarded if its steps leave the level of indentation as they find it. -/
theorem guardedBy_layout {body : List Step} (balanced : (Step.linesAll 0 body).2 = 0) (guard : String) :
    GuardedBy guard (layout (guarded guard body)) := by
  have marks : s!"#ifndef {guard}" = "#ifndef " ++ guard ∧ s!"#define {guard}" = "#define " ++ guard ∧
      s!"#endif // {guard}" = "#endif // " ++ guard := ⟨rfl, rfl, rfl⟩
  have lines : (Step.linesAll 0 (guarded guard body)).1 =
      ["#ifndef " ++ guard, "#define " ++ guard] ++ (Step.linesAll 0 body).1 ++ ["", "#endif // " ++ guard] := by
    simp only [guarded, marks, Step.linesAll_append, Step.linesAll, Step.lines, balanced, indented_zero,
      List.cons_append, List.nil_append]
  refine ⟨_, layout_eq _, ?_, ?_⟩
  · rw [lines, List.append_assoc]
    exact List.prefix_append _ _
  · rw [lines]
    exact List.suffix_append_of_suffix (List.suffix_append [""] _)

theorem ClassDeclaration.guardedBy_text (type : ResolvedType) (options : Options) :
    GuardedBy (FileNames.ofType type options).headerGuard (text type options) := by
  refine guardedBy_layout ?_ _
  simp only [inNamespace, includeLine_eq, Step.linesAll_append, Step.linesAll, Step.lines, linesAll_class,
    linesAll_includes]

theorem TemplateDefinitions.guardedBy_text (type : ResolvedType) (options : Options) :
    GuardedBy (FileNames.ofType type options).inlineHeaderGuard (text type options) :=
  guardedBy_layout rfl _

theorem guardedBy_registryLines (options : Options) (headers : List String) (rootType : String)
    (types : List String) :
    GuardedBy (registryGuard options)
      (unlines (Catalog.BuiltinTemplate.registryLines options headers rootType types)) := by
  refine ⟨_, rfl, ?_, ?_⟩
  · simp only [Catalog.BuiltinTemplate.registryLines, registryGuard, String.append_assoc, List.append_assoc,
      List.cons_append]
    exact List.prefix_append _ _
  · simp only [Catalog.BuiltinTemplate.registryLines, registryGuard, String.append_assoc]
    exact List.suffix_append_of_suffix (List.suffix_append ["\x7d;", "", _, ""] _)

/-- The include guards of a schema's headers and inline headers are different macros, and none of them is that
of the registry. They are the guards that the texts ask for. -/
theorem guards_never_clash (schema : Schema) (options : Options) (accepted : schema.validate = .ok ()) :
    (headerGuards schema options).Nodup ∧ registryGuard options ∉ headerGuards schema options ∧
      (∀ guard ∈ headerGuards schema options, Plain guard) ∧
      (∃ registry, Catalog.standard.renderSchema (.ofSchema schema options) "registry" = .ok registry ∧
        GuardedBy (registryGuard options) registry) ∧
      ∀ type ∈ schema.types, ∃ header inlineHeader,
        Catalog.standard.renderType (.ofSchema schema options) "header" type.name = .ok header ∧
        Catalog.standard.renderType (.ofSchema schema options) "inline_header" type.name = .ok inlineHeader ∧
        GuardedBy (FileNames.ofType type.resolve options).headerGuard header ∧
        GuardedBy (FileNames.ofType type.resolve options).inlineHeaderGuard inlineHeader := by
  have sound := Schema.validate_ok.1 accepted
  have plain : ∀ type ∈ schema.types, Plain type.name := fun _ => sound.plain_typeName
  have started : ((schema.types.map (·.name)).map (guardStart options ++ ·)).Nodup :=
    sound.typeNames.map fun _ _ => (String.append_right_inj _).1
  refine ⟨?_, ?_, ?_, ?_, fun type declared => ?_⟩
  · rw [headerGuards_eq plain]
    exact nodup_endings started (by decide)
  · rw [headerGuards_eq plain]
    intro mem
    obtain ⟨start, -, ended⟩ := List.mem_flatMap.1 mem
    obtain ⟨ending, kind, same⟩ := List.mem_map.1 ended
    have apart : ∀ ending ∈ ["_gen_h_", "_gen_inl_h_"], Apart ending "_FIELD_REGISTRY_" := by decide
    exact (apart ending kind).ne start options.guardPrefix same
  · intro guard mem
    obtain ⟨type, -, kind⟩ := List.mem_flatMap.1 mem
    simp only [List.mem_cons, List.not_mem_nil, or_false] at kind
    rcases kind with rfl | rfl <;> exact plain_guard options _
  · exact ⟨_, Catalog.renderSchema_standard (.tail _ (.head _)), guardedBy_registryLines _ _ _ _⟩
  · have found := sound.getType?_resolve declared
    exact ⟨_, _, Catalog.renderType_standard (.head _) found, Catalog.renderType_standard (.tail _ (.head _)) found,
      ClassDeclaration.guardedBy_text _ _, TemplateDefinitions.guardedBy_text _ _⟩

/-- A type that is named like the inline header of another one. -/
def lookalikes : Schema := .ofDeclarations "Point" [] [⟨"Point", "", []⟩, ⟨"Point_gen_inl", "", []⟩]

/-- The options are sanitized to what stands between the words of guards, too. -/
theorem guards_never_clash_of_lookalikes :
    lookalikes.validate = .ok () ∧
      headerGuards lookalikes ⟨"app", "a.b", "é"⟩ =
        ["__a_b_Point_gen_h_", "__a_b_Point_gen_inl_h_", "__a_b_Point_gen_inl_gen_h_",
          "__a_b_Point_gen_inl_gen_inl_h_"] ∧
      (headerGuards lookalikes ⟨"app", "a.b", "é"⟩).Nodup ∧
      "é_FIELD_REGISTRY_" ∉ headerGuards lookalikes ⟨"app", "a.b", "é"⟩ ∧
      ∃ header, Catalog.standard.renderType (.ofSchema lookalikes ⟨"app", "a.b", "é"⟩) "header" "Point_gen_inl" =
          .ok header ∧
        GuardedBy "__a_b_Point_gen_inl_gen_h_" header := by
  have accepted : lookalikes.validate = .ok () := by decide +kernel
  obtain ⟨distinct, apart, -, -, guarded⟩ := guards_never_clash lookalikes ⟨"app", "a.b", "é"⟩ accepted
  obtain ⟨header, -, rendered, -, asks, -⟩ := guarded lookalikes.types[1] (List.getElem_mem _)
  have guard : (FileNames.ofType lookalikes.types[1].resolve ⟨"app", "a.b", "é"⟩).headerGuard =
      "__a_b_Point_gen_inl_gen_h_" := by decide +kernel
  exact ⟨accepted, by decide +kernel, distinct, apart, header, rendered, guard ▸ asks⟩

end Cpp

end FieldTypes
