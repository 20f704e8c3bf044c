import FieldTypes.Proofs.SourceText
import FieldTypes.Proofs.TextLines
import Mathlib.Data.Nat.PSub

set_option autoImplicit false

namespace FieldTypes

namespace Text

/-- A line behind blanks; an empty line stays empty. -/
def behindBlanks (width : Nat) (line : List Char) : List Char :=
  if line = [] then [] else List.replicate width ' ' ++ line

/-- A text with blanks in front of each of its lines that is not empty. -/
def shifted (width : Nat) (text : String) : String :=
  String.ofList (['\n'].intercalate ((text.toList.splitOn '\n').map (behindBlanks width)))

theorem shifted_append {line : String} (single : SingleLine line) (width : Nat) (rest : String) :
    shifted width (line ++ "\n" ++ rest) =
      String.ofList (behindBlanks width line.toList) ++ "\n" ++ shifted width rest := by
  have cut : (line ++ "\n" ++ rest).toList = line.toList ++ '\n' :: rest.toList := by
    simp [String.toList_append]
  have below : (rest.toList.splitOn '\n').map (behindBlanks width) ≠ [] := by
    simp [List.splitOn_ne_nil]
  obtain ⟨first, more, lines⟩ := List.exists_cons_of_ne_nil below
  apply String.toList_inj.1
  rw [shifted, cut, List.splitOn_append_cons_self, List.splitOn_eq_singleton single, List.singleton_append,
    List.map_cons, shifted, lines]
  simp [List.intercalate, String.toList_append]

end Text

namespace Cpp

open Text (SingleLine shifted behindBlanks unlines unlines_cons unlines_append unlines_nil)

theorem Page.indentation_add (level depth : Nat) :
    indentation (level + depth) = indentation level ++ indentation depth := by
  unfold indentation
  rw [← String.ofList_append, List.replicate_append_replicate, Nat.mul_add]

theorem indented_indented (level depth : Nat) (text : String) :
    indented level (indented depth text) = indented (level + depth) text := by
  by_cases empty : text = ""
  · rw [empty]
    rfl
  · have given : Page.indentation depth ++ text ≠ "" := Page.append_ne_empty_right empty _
    rw [indented_of_ne_empty empty, indented_of_ne_empty given, indented_of_ne_empty empty, Page.indentation_add,
      String.append_assoc]

theorem indented_eq_behindBlanks (level : Nat) (text : String) :
    indented level text = String.ofList (behindBlanks (4 * level) text.toList) := by
  by_cases empty : text = ""
  · rw [empty]
    rfl
  · have given : text.toList ≠ [] := mt String.toList_eq_nil_iff.1 empty
    rw [indented_of_ne_empty empty, behindBlanks, if_neg given, Page.indentation, String.ofList_append,
      String.ofList_toList]

/-- Lines at a level are those at level zero with blanks in front of them. -/
theorem unlines_indented {lines : List String} (single : ∀ line ∈ lines, SingleLine line) (level : Nat) :
    unlines (lines.map (indented level)) = shifted (4 * level) (unlines lines) := by
  induction lines with
  | nil => rfl
  | cons line rest ih =>
    rw [List.forall_mem_cons] at single
    rw [List.map_cons, unlines_cons, unlines_cons, Text.shifted_append single.1, ih single.2,
      indented_eq_behindBlanks]

mutual

/-- The depth that a step leaves, counted from where the steps started; none if it would be lowered there. -/
def Step.depth? (depth : Nat) : Step → Option Nat
  | .line _ => some depth
  | .blank => some depth
  | .indent => some (depth + 1)
  | .outdent => depth.ppred
  | .block _ _ body => (Step.depthAll? (depth + 1) body).bind Nat.ppred
  | .braced _ body => (Step.depthAll? (depth + 1) body).bind Nat.ppred

def Step.depthAll? (depth : Nat) : List Step → Option Nat
  | [] => some depth
  | step :: steps => (step.depth? depth).bind fun next => Step.depthAll? next steps

end

mutual

/-- What a step writes on lines. -/
def Step.texts : Step → List String
  | .line text => [text]
  | .blank => []
  | .indent => []
  | .outdent => []
  | .block opening closing body => opening :: closing :: Step.textsAll body
  | .braced closing body => closing :: Step.textsAll body

def Step.textsAll : List Step → List String
  | [] => []
  | step :: steps => step.texts ++ Step.textsAll steps

end

theorem Step.lines_between {body : List Step} {depth final : Nat}
    (stays : (Step.depthAll? (depth + 1) body).bind Nat.ppred = some final)
    (inside : ∀ {last}, Step.depthAll? (depth + 1) body = some last → ∃ inner : List String, ∀ level,
      Step.linesAll (level + (depth + 1)) body = (inner.map (indented level), level + last))
    (opening closing : String) :
    ∃ lines : List String, ∀ level,
      (Step.block opening closing body).lines (level + depth) = (lines.map (indented level), level + final) := by
  obtain ⟨last, above, lowered⟩ := Option.bind_eq_some_iff.1 stays
  obtain ⟨inner, shifts⟩ := inside above
  have raised : final + 1 = last := Nat.ppred_eq_some.1 lowered
  refine ⟨indented depth opening :: inner ++ [indented final closing], fun level => ?_⟩
  have between : Step.linesAll (level + depth + 1) body = (inner.map (indented level), level + final + 1) := by
    rw [Nat.add_assoc, shifts, ← raised, Nat.add_assoc]
  simp only [Step.lines, between, Nat.add_sub_cancel, List.map_cons, List.map_append, List.map_nil,
    indented_indented]

mutual

/-- A step that stays above the level it starts from writes the same lines at every level. -/
theorem Step.lines_of_depth? {depth final : Nat} (step : Step) (stays : step.depth? depth = some final) :
    ∃ lines : List String, ∀ level, step.lines (level + depth) = (lines.map (indented level), level + final) := by
  cases step with
  | line text =>
    cases stays
    refine ⟨[indented depth text], fun level => ?_⟩
    simp only [Step.lines, List.map_cons, List.map_nil, indented_indented]
  | blank =>
    cases stays
    exact ⟨[""], fun level => rfl⟩
  | indent =>
    cases stays
    exact ⟨[], fun level => rfl⟩
  | outdent =>
    have raised : final + 1 = depth := Nat.ppred_eq_some.1 stays
    refine ⟨[], fun level => ?_⟩
    rw [Step.lines, ← raised, ← Nat.add_assoc, Nat.add_sub_cancel, List.map_nil]
  | block opening closing body =>
    exact Step.lines_between stays (fun above => Step.linesAll_of_depthAll? body above) opening closing
  | braced closing body =>
    exact Step.lines_between stays (fun above => Step.linesAll_of_depthAll? body above) "\x7b" closing

theorem Step.linesAll_of_depthAll? {depth final : Nat} (steps : List Step)
    (stays : Step.depthAll? depth steps = some final) :
    ∃ lines : List String, ∀ level,
      Step.linesAll (level + depth) steps = (lines.map (indented level), level + final) := by
  cases steps with
  | nil =>
    cases stays
    exact ⟨[], fun level => rfl⟩
  | cons step steps =>
    obtain ⟨next, first, others⟩ := Option.bind_eq_some_iff.1 stays
    obtain ⟨lines, shifts⟩ := Step.lines_of_depth? step first
    obtain ⟨more, shiftsMore⟩ := Step.linesAll_of_depthAll? steps others
    refine ⟨lines ++ more, fun level => ?_⟩
    simp only [Step.linesAll, shifts, shiftsMore, List.map_append]

end

theorem Step.singleLine_between {opening closing : String} {body : List Step} {level : Nat}
    (opens : SingleLine opening) (closes : SingleLine closing)
    (inside : ∀ line ∈ (Step.linesAll (level + 1) body).1, SingleLine line) :
    ∀ line ∈ ((Step.block opening closing body).lines level).1, SingleLine line := by
  show ∀ line ∈ indented level opening :: ((Step.linesAll (level + 1) body).1 ++ [indented _ closing]), _
  rw [List.forall_mem_cons, List.forall_mem_append, List.forall_mem_singleton]
  exact ⟨singleLine_indented opens level, inside, singleLine_indented closes _⟩

mutual

theorem Step.singleLine_lines (step : Step) (level : Nat) (single : ∀ text ∈ step.texts, SingleLine text) :
    ∀ line ∈ (step.lines level).1, SingleLine line := by
  cases step with
  | line text =>
    have text_ : SingleLine text := single text List.mem_cons_self
    exact List.forall_mem_singleton.2 (singleLine_indented text_ level)
  | blank => exact List.forall_mem_singleton.2 List.not_mem_nil
  | indent => exact List.forall_mem_nil _
  | outdent => exact List.forall_mem_nil _
  | block opening closing body =>
    rw [Step.texts, List.forall_mem_cons, List.forall_mem_cons] at single
    obtain ⟨opens, closes, inner⟩ := single
    exact Step.singleLine_between opens closes (Step.singleLine_linesAll body (level + 1) inner)
  | braced closing body =>
    rw [Step.texts, List.forall_mem_cons] at single
    obtain ⟨closes, inner⟩ := single
    have opens : SingleLine "\x7b" := by decide
    exact Step.singleLine_between opens closes (Step.singleLine_linesAll body (level + 1) inner)

theorem Step.singleLine_linesAll (steps : List Step) (level : Nat)
    (single : ∀ text ∈ Step.textsAll steps, SingleLine text) :
    ∀ line ∈ (Step.linesAll level steps).1, SingleLine line := by
  cases steps with
  | nil => exact List.forall_mem_nil _
  | cons step steps =>
    rw [Step.textsAll, List.forall_mem_append] at single
    have first := Step.singleLine_lines step level single.1
    have others := Step.singleLine_linesAll steps (step.lines level).2 single.2
    rw [Step.linesAll, List.forall_mem_append]
    exact ⟨first, others⟩

end

/-- Steps that do not fall below the level of a page write their text there behind its blanks. -/
theorem Step.writeAll_shifted (page : Page) {steps : List Step} {final : Nat}
    (stays : Step.depthAll? 0 steps = some final) (single : ∀ text ∈ Step.textsAll steps, SingleLine text) :
    Step.writeAll page steps =
      ⟨page.text ++ shifted (4 * page.level) (layout steps), page.level + final⟩ := by
  obtain ⟨lines, shifts⟩ := Step.linesAll_of_depthAll? steps stays
  have ground : Step.linesAll 0 steps = (lines, final) := by
    have unshifted := shifts 0
    rwa [Nat.zero_add, Nat.zero_add, map_indented_zero] at unshifted
  have here : Step.linesAll page.level steps = (lines.map (indented page.level), page.level + final) :=
    shifts page.level
  have unbroken := Step.singleLine_linesAll steps 0 single
  rw [ground] at unbroken
  rw [Step.writeAll_eq, here, unlines_indented unbroken, layout_eq, ground]

/-- A block leaves the level as it was if its body, which may fall by `depth` levels, comes back to its own. -/
theorem Step.level_between (page : Page) {body : List Step} {depth : Nat} (within : depth ≤ page.level + 1)
    (balanced : Step.depthAll? depth body = some depth) (opening closing : String) :
    ((Step.block opening closing body).write page).level = page.level := by
  obtain ⟨inner, shifts⟩ := Step.linesAll_of_depthAll? body balanced
  have inside := shifts (page.level + 1 - depth)
  rw [Nat.sub_add_cancel within] at inside
  rw [Step.write_eq]
  simp only [Step.lines, inside, Nat.add_sub_cancel]

/-- What is on a page stays there. -/
theorem Step.prefix_writeAll (page : Page) (steps : List Step) :
    page.text.toList <+: (Step.writeAll page steps).text.toList := by
  rw [Step.writeAll_eq, String.toList_append]
  exact List.prefix_append _ _

/-- Indentation is compositional. Steps of single lines that do not fall below the level they start from write,
on a page at any level, the text that they write on an empty page with four blanks for each level in front of
its lines, and they leave the level raised by their own depth. So a block leaves the level as it was if its body
comes back to its depth; the body may fall to the level of the block's opening, or lower as long as the page
allows it. Whatever the steps are, what is on a page before them stays there. -/
theorem indentation_compositional :
    (∀ (page : Page) (steps : List Step) (final : Nat),
      Step.depthAll? 0 steps = some final → (∀ text ∈ Step.textsAll steps, SingleLine text) →
        Step.writeAll page steps =
          ⟨page.text ++ shifted (4 * page.level) (Step.writeAll Page.empty steps).text, page.level + final⟩) ∧
    (∀ (page : Page) (opening closing : String) (body : List Step) (depth : Nat),
      depth ≤ page.level + 1 → Step.depthAll? depth body = some depth →
        ((Step.block opening closing body).write page).level = page.level ∧
          ((Step.braced closing body).write page).level = page.level) ∧
    ∀ (page : Page) (steps further : List Step),
      (Step.writeAll page steps).text.toList <+: (Step.writeAll page (steps ++ further)).text.toList := by
  refine ⟨?_, ?_, ?_⟩
  · intro page steps final stays single
    exact Step.writeAll_shifted page stays single
  · intro page opening closing body depth within balanced
    constructor
    · exact Step.level_between page within balanced opening closing
    · exact Step.level_between page within balanced "\x7b" closing
  · intro page steps further
    rw [Step.writeAll_append]
    exact Step.prefix_writeAll _ further

/-- A class with a label at the level of its braces, empty lines and a block in its body. -/
def labelledClass : List Step :=
  [ .line "class Point", .indent, .line ": public Field", .outdent
  , .braced "\x7d;"
      [ .outdent, .line "public:", .indent, .line "", .block "do \x7b" "\x7d while (true);" [.blank, .line "f();"] ] ]

theorem indentation_compositional_of_labelledClass :
    Step.writeAll ⟨"start", 1⟩ labelledClass =
        ⟨"start    class Point\n        : public Field\n    \x7b\n    public:\n\n        do \x7b\n\n            f();\n" ++
          "        \x7d while (true);\n    \x7d;\n", 1⟩ ∧
      ((Step.braced "\x7d" [.outdent, .outdent, .line "a", .indent, .indent]).write ⟨"start", 1⟩).level = 1 ∧
      (Step.writeAll ⟨"start", 0⟩ [.line "a", .outdent]).text.toList <+:
        (Step.writeAll ⟨"start", 0⟩ [.line "a", .outdent, .outdent, .line "b"]).text.toList := by
  obtain ⟨shifts, restores, keeps⟩ := indentation_compositional
  have written := shifts ⟨"start", 1⟩ labelledClass 0 (by decide) (by decide)
  have restored := (restores ⟨"start", 1⟩ "" "\x7d" [.outdent, .outdent, .line "a", .indent, .indent] 2 (by decide)
    (by decide)).2
  refine ⟨written.trans ?_, restored, keeps _ _ _⟩
  decide +kernel

end Cpp

end FieldTypes
