import FieldTypes.Proofs.PathPatterns
import Mathlib.Data.List.Induction

set_option autoImplicit false

namespace FieldTypes

/-- What is inserted between a directory and a file in it. -/
def Path.separator (directory : String) : String :=
  match directory.toList.getLast? with
  | none => ""
  | some '/' => ""
  | some _ => "/"

theorem Path.join_eq (directory file : String) :
    Path.join directory file = directory ++ (Path.separator directory ++ file) := by
  unfold Path.join Path.separator
  cases last : directory.toList.getLast? with
  | none =>
    rw [List.getLast?_eq_none_iff, String.toList_eq_nil_iff] at last
    rw [last]
    rfl
  | some c =>
    by_cases slash : c = '/'
    · rw [slash]
      rfl
    · simp only [String.append_assoc]

namespace Pattern

theorem getLast?_double (text : List Char) : (double text).getLast? = text.getLast? := by
  induction text using List.reverseRecOn with
  | nil => rfl
  | append_singleton text c ih =>
    rw [double, List.flatMap_append, List.flatMap_singleton, List.getLast?_append, List.getLast?_append]
    by_cases percent : c = '%'
    · rw [if_pos percent, percent]
      rfl
    · rw [if_neg percent]
      rfl

theorem separator_literal (directory : String) :
    Path.separator (literal directory) = Path.separator directory := by
  rw [Path.separator, literal, String.toList_ofList, getLast?_double, Path.separator]

/-- A text without percent signs is the pattern that stands for it. -/
theorem literal_of_plain {text : String} (plain : '%' ∉ text.toList) : literal text = text := by
  have same : double text.toList = text.toList := by
    generalize text.toList = chars at plain
    unfold double
    induction chars with
    | nil => rfl
    | cons c rest ih =>
      rw [List.mem_cons, not_or] at plain
      rw [List.flatMap_cons, if_neg (Ne.symm plain.1), ih plain.2]
      rfl
  rw [literal, same, String.ofList_toList]

theorem literal_separator (directory : String) :
    literal (Path.separator directory) = Path.separator directory := by
  refine literal_of_plain ?_
  unfold Path.separator
  split <;> decide

theorem inDirectory_eq (directory : String) (file : String → String) :
    Artifact.inDirectory directory file =
      literal directory ++ (literal (Path.separator directory) ++ file "%s") := by
  rw [Artifact.inDirectory, Path.join_eq, separator_literal, literal_separator]

theorem expand_inDirectory (directory : String) (file : String → String) (name : Option String) :
    expand (Artifact.inDirectory directory file) name = Path.join directory (expand (file "%s") name) := by
  rw [inDirectory_eq, expand_literal_append, expand_literal_append, Path.join_eq]

theorem placeholders_inDirectory (directory : String) (file : String → String) :
    placeholders (Artifact.inDirectory directory file) = placeholders (file "%s") := by
  rw [inDirectory_eq, placeholders_literal_append, placeholders_literal_append]

theorem tokens_placeholder_append (ending : String) :
    tokens ("%s" ++ ending).toList = .placeholder :: tokens ending.toList := by
  rw [String.toList_append]
  rfl

theorem expand_placeholder_append {ending : String} (plain : '%' ∉ ending.toList) (name : String) :
    expand ("%s" ++ ending) (some name) = name ++ ending := by
  have kept : expand ending (some name) = ending := by
    calc expand ending (some name) = expand (literal ending) (some name) := by rw [literal_of_plain plain]
      _ = ending := expand_literal ending (some name)
  rw [expand, tokens_placeholder_append, List.flatMap_cons, String.ofList_append]
  show String.ofList name.toList ++ expand ending (some name) = _
  rw [String.ofList_toList, kept]

theorem placeholders_placeholder_append {ending : String} (plain : '%' ∉ ending.toList) :
    placeholders ("%s" ++ ending) = 1 := by
  have none : placeholders ending = 0 := by
    rw [← literal_of_plain plain, placeholders_literal]
  rw [placeholders, tokens_placeholder_append, List.count_cons_self]
  show placeholders ending + 1 = 1
  rw [none]

end Pattern

namespace Artifact

/-- The files of types in a directory that are told apart by an ending behind the type's name. -/
theorem inDirectory_lands {file : String → String} (ending : String)
    (named : ∀ type, file type = type ++ ending) (plain : '%' ∉ ending.toList) (template directory type : String) :
    (Artifact.mk template (inDirectory directory file)).validate .type = .ok () ∧
      (Artifact.mk template (inDirectory directory file)).resolve (some type) =
        Path.join directory (file type) := by
  constructor
  · rw [validate_type_iff, Pattern.placeholders_inDirectory, named]
    exact Pattern.placeholders_placeholder_append plain
  · rw [resolve, Pattern.expand_inDirectory, named, Pattern.expand_placeholder_append plain, named]

/-- The artifacts of the standard programs are accepted for types, and they are written to the files that
are named for the type, in the directory that was given. Includes and guards are made of the same names. -/
theorem presets_land_in_directory (directory type impl : String) (options : Cpp.Options) :
    ((header directory).validate .type = .ok () ∧
      (header directory).resolve (some type) =
        Path.join directory (Cpp.FileNames.ofNames type impl options).header) ∧
    ((inlineHeader directory).validate .type = .ok () ∧
      (inlineHeader directory).resolve (some type) =
        Path.join directory (Cpp.FileNames.ofNames type impl options).inlineHeader) ∧
    ((source directory).validate .type = .ok () ∧
      (source directory).resolve (some type) =
        Path.join directory (Cpp.FileNames.ofNames type impl options).source) ∧
    (Cpp.FileNames.ofNames type impl options).headerInclude =
      options.includePath (Cpp.FileNames.ofNames type impl options).header ∧
    (Cpp.FileNames.ofNames type impl options).inlineHeaderInclude =
      options.includePath (Cpp.FileNames.ofNames type impl options).inlineHeader ∧
    (Cpp.FileNames.ofNames type impl options).headerGuard =
      options.guard (Cpp.FileNames.ofNames type impl options).header ∧
    (Cpp.FileNames.ofNames type impl options).inlineHeaderGuard =
      options.guard (Cpp.FileNames.ofNames type impl options).inlineHeader := by
  refine ⟨?_, ?_, ?_, rfl, rfl, rfl, rfl⟩
  · exact inDirectory_lands ".gen.h" (fun _ => rfl) (by decide) "header" directory type
  · exact inDirectory_lands ".gen.inl.h" (fun _ => rfl) (by decide) "inline_header" directory type
  · exact inDirectory_lands ".gen.cpp" (fun _ => rfl) (by decide) "source" directory type

example : (header "100%s%").resolve (some "Point") = "100%s%/Point.gen.h" := by decide +kernel

end Artifact

end FieldTypes
