import FieldTypes.Cpp.MemberDefinitions

set_option autoImplicit false

namespace FieldTypes.Cpp

namespace Page

@[simp] theorem indentation_zero : indentation 0 = "" := rfl

theorem indentation_one : indentation 1 = "    " := rfl

theorem indentation_two : indentation 2 = "        " := rfl

theorem line_of_ne_empty {line : String} (nonempty : line ≠ "") (text : String) (level : Nat) :
    (Page.mk text level).line line = ⟨text ++ indentation level ++ line ++ "\n", level⟩ := by
  rw [Page.line, if_neg nonempty]

theorem append_ne_empty {start : String} (nonempty : start ≠ "") (rest : String) : start ++ rest ≠ "" :=
  fun empty => nonempty (String.append_eq_empty_iff.1 empty).1

theorem append_ne_empty_right {rest : String} (nonempty : rest ≠ "") (start : String) : start ++ rest ≠ "" :=
  fun empty => nonempty (String.append_eq_empty_iff.1 empty).2

end Page

namespace MemberDefinitions

open FieldTypes.Dispatch

def branchText (branch : Branch) : String :=
  "    if (member == \"" ++ branch.member ++ "\")\n    \x7b\n        return " ++ branch.callExpression ++
    ";\n    \x7d\n"

theorem writeAll_branch (text : String) (branch : Branch) :
    Step.writeAll ⟨text, 1⟩ (MemberDefinitions.branch branch) = ⟨text ++ branchText branch, 1⟩ := by
  have condition : "if (member == \"" ++ (branch.member ++ "\")") ≠ "" := Page.append_ne_empty (by simp) _
  have interpolated : s!"return {branch.callExpression};" = "return " ++ branch.callExpression ++ ";" := rfl
  have call : "return " ++ (branch.callExpression ++ ";") ≠ "" := Page.append_ne_empty (by simp) _
  have brace : ("\x7b" : String) ≠ "" := by simp
  have closing : ("\x7d" : String) ≠ "" := by simp
  have start : "    if (member == \"" = "    " ++ "if (member == \"" := by simp
  have middle : "\")\n    \x7b\n        return " =
      "\")" ++ ("\n" ++ ("    " ++ ("\x7b" ++ ("\n" ++ ("        " ++ "return "))))) := by simp
  have last : ";\n    \x7d\n" = ";" ++ ("\n" ++ ("    " ++ ("\x7d" ++ "\n"))) := by simp
  unfold branchText
  simp only [MemberDefinitions.branch, Step.writeAll, Step.write, interpolated, Page.line_of_ne_empty condition,
    Page.line_of_ne_empty call, Page.line_of_ne_empty brace, Page.line_of_ne_empty closing, Page.indent,
    Page.outdent, Nat.add_one_sub_one, Nat.reduceAdd, Page.indentation_one, Page.indentation_two, start, middle,
    last, String.append_assoc]

theorem writeAll_branches (text : String) (branches : List Branch) :
    Step.writeAll ⟨text, 1⟩ (branches.flatMap MemberDefinitions.branch) =
      ⟨text ++ String.join (branches.map branchText), 1⟩ := by
  induction branches generalizing text with
  | nil => rw [List.flatMap_nil, Step.writeAll, List.map_nil, String.join_nil, String.append_empty]
  | cons branch branches ih =>
    rw [List.flatMap_cons, Step.writeAll_append, writeAll_branch, ih, List.map_cons, String.join_cons,
      String.append_assoc]

def unusedMark (table : Table) : String := if table.usesParams then "" else "[[maybe_unused]] "

def cascadeText (table : Table) : String :=
  "Result " ++ table.typeName ++ "::get(std::string_view member, " ++ unusedMark table ++
    "const FieldCallParams& params) const\n\x7b\n" ++ String.join (table.branches.map branchText) ++
    "    throw InvalidFieldError(\"" ++ table.typeName ++ "\", member);\n\x7d\n"

theorem writeAll_cascade (text : String) (table : Table) :
    Step.writeAll ⟨text, 0⟩ (cascade table) = ⟨text ++ cascadeText table, 0⟩ := by
  have signature : "Result " ++ (table.typeName ++ ("::get(std::string_view member, " ++ (unusedMark table ++
      "const FieldCallParams& params) const"))) ≠ "" := Page.append_ne_empty (by simp) _
  have refusal : "throw InvalidFieldError(\"" ++ (table.typeName ++ "\", member);") ≠ "" :=
    Page.append_ne_empty (by simp) _
  have brace : ("\x7b" : String) ≠ "" := by simp
  have closing : ("\x7d" : String) ≠ "" := by simp
  have start : "const FieldCallParams& params) const\n\x7b\n" =
      "const FieldCallParams& params) const" ++ ("\n" ++ ("\x7b" ++ "\n")) := by simp
  have middle : "    throw InvalidFieldError(\"" = "    " ++ "throw InvalidFieldError(\"" := by simp
  have last : "\", member);\n\x7d\n" = "\", member);" ++ ("\n" ++ ("\x7d" ++ "\n")) := by simp
  have steps : cascade table =
      [ .line ("Result " ++ table.typeName ++ "::get(std::string_view member, " ++ unusedMark table ++
          "const FieldCallParams& params) const")
      , .braced "\x7d" (table.branches.flatMap MemberDefinitions.branch ++
          [.line ("throw InvalidFieldError(\"" ++ table.typeName ++ "\", member);")]) ] := rfl
  unfold cascadeText
  simp only [steps, Step.writeAll, Step.write, Page.line_of_ne_empty signature, Page.line_of_ne_empty refusal,
    Page.line_of_ne_empty brace, Page.line_of_ne_empty closing, Page.indent, Page.outdent, Nat.zero_add,
    Nat.sub_self, Page.indentation_zero, Page.indentation_one, Step.writeAll_append, writeAll_branches, start,
    middle, last, String.append_assoc, String.empty_append]

/-- The text of the source of a type, from its names and its dispatch table. -/
def sourceText (files : FileNames) (namespaceName typeName : String) (table : Table) : String :=
  "#include \"" ++ files.headerInclude ++ "\"\n#include \"" ++ files.implHeaderInclude ++
    "\"\n\n#include \"field_types/InvalidFieldError.h\"\n\n#include <string_view>\n\nnamespace " ++
    namespaceName ++ " \x7b\n\n" ++ typeName ++ "::~" ++ typeName ++ "() noexcept = default;\n\n" ++
    cascadeText table ++ "\n\x7d // namespace " ++ namespaceName ++ "\n"

theorem text_eq_sourceText (type : ResolvedType) (options : Options) :
    text type options =
      sourceText (FileNames.ofType type options) options.namespaceName type.name (Table.ofType type) := by
  have include_ : ∀ path : String, "#include \"" ++ (path ++ "\"") ≠ "" := fun path =>
    Page.append_ne_empty (by simp) _
  have interpolated : toString type.name ++ (toString "::~" ++ (toString type.name ++
      toString "() noexcept = default;")) = type.name ++ ("::~" ++ (type.name ++ "() noexcept = default;")) := rfl
  have destructor : type.name ++ ("::~" ++ (type.name ++ "() noexcept = default;")) ≠ "" :=
    Page.append_ne_empty_right (Page.append_ne_empty (by simp) _) _
  have standard : ("#include <string_view>" : String) ≠ "" := by simp
  have opening : "namespace " ++ (options.namespaceName ++ " \x7b") ≠ "" := Page.append_ne_empty (by simp) _
  have closing : "\x7d // namespace " ++ options.namespaceName ≠ "" := Page.append_ne_empty (by simp) _
  have second : "\"\n#include \"" = "\"" ++ ("\n" ++ "#include \"") := by simp
  have third : "\"\n\n#include \"field_types/InvalidFieldError.h\"\n\n#include <string_view>\n\nnamespace " =
      "\"" ++ ("\n" ++ ("\n" ++ ("#include \"" ++ ("field_types/InvalidFieldError.h" ++ ("\"" ++ ("\n" ++ ("\n" ++
        ("#include <string_view>" ++ ("\n" ++ ("\n" ++ "namespace ")))))))))) := by simp
  have fourth : " \x7b\n\n" = " \x7b" ++ ("\n" ++ "\n") := by simp
  have fifth : "() noexcept = default;\n\n" = "() noexcept = default;" ++ ("\n" ++ "\n") := by simp
  have last : "\n\x7d // namespace " = "\n" ++ "\x7d // namespace " := by simp
  unfold sourceText
  simp only [text, layout, steps, includeLine, inNamespace, invalidFieldErrorInclude, Page.empty,
    Step.writeAll_append, Step.writeAll, Step.write, Page.blank, interpolated, Page.line_of_ne_empty destructor,
    Page.line_of_ne_empty (include_ _), Page.line_of_ne_empty standard, Page.line_of_ne_empty opening,
    Page.line_of_ne_empty closing, writeAll_cascade, Page.indentation_zero, second, third, fourth, fifth, last,
    String.append_assoc, String.empty_append]

end MemberDefinitions

end FieldTypes.Cpp
