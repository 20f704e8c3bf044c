import FieldTypes.Cpp.Layout
import FieldTypes.Text.Lines

set_option autoImplicit false

namespace FieldTypes

namespace Text

/-- Lines written one below the other. -/
def unlines (lines : List String) : String := String.join (lines.map (· ++ "\n"))

@[simp]
theorem unlines_nil : unlines [] = "" := rfl

@[simp] theorem unlines_cons (line : String) (lines : List String) :
    unlines (line :: lines) = line ++ "\n" ++ unlines lines := by
  rw [unlines, List.map_cons, String.join_cons, unlines]

@[simp] theorem unlines_append (first second : List String) :
    unlines (first ++ second) = unlines first ++ unlines second := by
  induction first with
  | nil => rw [List.nil_append, unlines_nil, String.empty_append]
  | cons line first ih => simp only [List.cons_append, unlines_cons, ih, String.append_assoc]

/-- A line as it is read: a carriage return at its end belongs to the line's ending. -/
def dropReturn : List Char → List Char
  | [] => []
  | ['\r'] => []
  | c :: rest => c :: dropReturn rest

@[simp] theorem dropReturn_cons {c : Char} (other : c ≠ '\r') (rest : List Char) :
    dropReturn (c :: rest) = c :: dropReturn rest := by
  rw [dropReturn]
  intro same
  exact absurd same other

@[simp] theorem dropReturn_append_singleton {c : Char} (other : c ≠ '\r') (start : List Char) :
    dropReturn (start ++ [c]) = start ++ [c] := by
  induction start with
  | nil => exact dropReturn_cons other []
  | cons first start ih =>
    rw [List.cons_append, dropReturn, ih]
    intro _ last
    exact absurd last (by simp)

theorem dropReturn_append {rest : List Char} (start : List Char) (noReturn : '\r' ∉ start) :
    dropReturn (start ++ rest) = start ++ dropReturn rest := by
  induction start with
  | nil => rfl
  | cons c start ih =>
    rw [List.mem_cons, not_or] at noReturn
    rw [List.cons_append, dropReturn_cons (Ne.symm noReturn.1), ih noReturn.2, List.cons_append]

theorem dropReturn_of_last {line : String} {c : Char} (last : line.toList.getLast? = some c) (other : c ≠ '\r') :
    dropReturn line.toList = line.toList := by
  obtain ⟨start, text⟩ := List.getLast?_eq_some_iff.1 last
  rw [text, dropReturn_append_singleton other]

theorem dropReturn_of_getLast?_ne {line : String} (noReturn : line.toList.getLast? ≠ some '\r') :
    dropReturn line.toList = line.toList := by
  cases last : line.toList.getLast? with
  | none =>
    rw [List.getLast?_eq_none_iff.1 last]
    rfl
  | some c =>
    apply dropReturn_of_last last
    intro isReturn
    exact noReturn (last.trans (congrArg some isReturn))

/-- At most an ending is dropped. -/
theorem dropReturn_append_rest (line : List Char) : ∃ rest, line = dropReturn line ++ rest := by
  induction line using dropReturn.induct with
  | case1 => exact ⟨[], rfl⟩
  | case2 => exact ⟨['\r'], rfl⟩
  | case3 c line notLast ih =>
    obtain ⟨rest, same⟩ := ih
    refine ⟨rest, ?_⟩
    rw [dropReturn.eq_3 _ _ notLast, List.cons_append, ← same]

theorem splitLines_cons {c : Char} {rest line : List Char} {more : List (List Char)} (inside : c ≠ '\n')
    (noEnding : ∀ rest', c = '\r' → rest ≠ '\n' :: rest') (split : splitLines rest = line :: more) :
    splitLines (c :: rest) = (c :: line) :: more := by
  rw [splitLines, split]
  · exact inside
  · exact noEnding

theorem splitLines_eq_nil_iff {text : List Char} : splitLines text = [] ↔ text = [] := by
  fun_cases splitLines text <;> simp_all

@[simp] theorem splitLines_append_newline {line : List Char} (single : '\n' ∉ line) (rest : List Char) :
    splitLines (line ++ '\n' :: rest) = dropReturn line :: splitLines rest := by
  induction line using dropReturn.induct with
  | case1 => rw [List.nil_append, splitLines, dropReturn]
  | case2 => rw [List.cons_append, List.nil_append, splitLines, dropReturn]
  | case3 c line notLast ih =>
    rw [List.mem_cons, not_or] at single
    rw [dropReturn.eq_3 _ _ notLast, List.cons_append]
    refine splitLines_cons (Ne.symm single.1) ?_ (ih single.2)
    -- a carriage return here is not the last character, and no line feed follows it inside the line
    intro rest' isReturn starts
    cases line with
    | nil => exact notLast isReturn rfl
    | cons second line =>
      rw [List.cons_append, List.cons.injEq] at starts
      exact single.2 (starts.1 ▸ List.mem_cons_self)

def Lacks (c : Char) (text : String) : Prop := c ∉ text.toList

instance (c : Char) (text : String) : Decidable (Lacks c text) := inferInstanceAs (Decidable (c ∉ text.toList))

section Lacking

variable {c : Char}

theorem Lacks.append {first second : String} (lacksFirst : Lacks c first) (lacksSecond : Lacks c second) :
    Lacks c (first ++ second) := by
  unfold Lacks
  rw [String.toList_append, List.mem_append, not_or]
  exact ⟨lacksFirst, lacksSecond⟩

theorem Lacks.intercalate {separator : String} (lacks : Lacks c separator) {texts : List String}
    (each : ∀ text ∈ texts, Lacks c text) : Lacks c (separator.intercalate texts) := by
  induction texts with
  | nil => exact List.not_mem_nil
  | cons text texts ih =>
    rw [List.forall_mem_cons] at each
    cases texts with
    | nil =>
      rw [String.intercalate_singleton]
      exact each.1
    | cons second texts =>
      rw [String.intercalate_cons_cons]
      exact (each.1.append lacks).append (ih each.2)

end Lacking

theorem dropReturn_of_lacks {line : String} (lacks : Lacks '\r' line) : dropReturn line.toList = line.toList := by
  have whole := @dropReturn_append [] line.toList lacks
  rwa [List.append_nil, dropReturn, List.append_nil] at whole

/-- A text without line breaks. -/
def SingleLine (text : String) : Prop := '\n' ∉ text.toList

instance (text : String) : Decidable (SingleLine text) := inferInstanceAs (Decidable ('\n' ∉ text.toList))

theorem SingleLine.append {first second : String} (singleFirst : SingleLine first)
    (singleSecond : SingleLine second) : SingleLine (first ++ second) :=
  Lacks.append singleFirst singleSecond

theorem singleLine_append_iff {first second : String} :
    SingleLine (first ++ second) ↔ SingleLine first ∧ SingleLine second := by
  unfold SingleLine
  rw [String.toList_append, List.mem_append, not_or]

theorem SingleLine.intercalate {separator : String} (single : SingleLine separator) {texts : List String}
    (each : ∀ text ∈ texts, SingleLine text) : SingleLine (separator.intercalate texts) :=
  Lacks.intercalate single each

theorem newline_not_mem_splitLines (text : List Char) : ∀ line ∈ splitLines text, '\n' ∉ line := by
  induction text using splitLines.induct with
  | case1 => exact List.forall_mem_nil _
  | case2 rest ih | case3 rest ih =>
    rw [splitLines]
    exact List.forall_mem_cons.2 ⟨List.not_mem_nil, ih⟩
  | case4 c rest inside noEnding last ih =>
    rw [splitLines, last]
    · simpa using Ne.symm inside
    · exact inside
    · exact noEnding
  | case5 c rest inside noEnding line more split ih =>
    rw [split, List.forall_mem_cons] at ih
    rw [splitLines_cons inside noEnding split]
    refine List.forall_mem_cons.2 ⟨?_, ih.2⟩
    rw [List.mem_cons, not_or]
    exact ⟨Ne.symm inside, ih.1⟩

theorem singleLine_of_mem_lines {text line : String} (mem : line ∈ Text.lines text) : SingleLine line := by
  obtain ⟨chars, split, rfl⟩ := List.mem_map.1 mem
  unfold SingleLine
  rw [String.toList_ofList]
  exact newline_not_mem_splitLines _ chars split

theorem toList_unlines_cons (line : String) (lines : List String) :
    (unlines (line :: lines)).toList = line.toList ++ '\n' :: (unlines lines).toList := by
  rw [unlines_cons, String.toList_append, String.toList_append, List.append_assoc]
  rfl

/-- A line is read apart from what is written below it. -/
theorem lines_unlines_cons {line : String} (single : SingleLine line) (rest : List String) :
    Text.lines (unlines (line :: rest)) = String.ofList (dropReturn line.toList) :: Text.lines (unlines rest) := by
  rw [Text.lines, toList_unlines_cons, splitLines_append_newline single, List.map_cons, Text.lines]

theorem lines_unlines {lines : List String} (single : ∀ line ∈ lines, SingleLine line) :
    Text.lines (unlines lines) = lines.map fun line => String.ofList (dropReturn line.toList) := by
  induction lines with
  | nil => rfl
  | cons line rest ih =>
    rw [List.forall_mem_cons] at single
    rw [lines_unlines_cons single.1, ih single.2, List.map_cons]

/-- A text is a single line, or such a line with a text below it. -/
theorem line_induction {motive : List Char → Prop} (single : ∀ line, '\n' ∉ line → motive line)
    (below : ∀ line rest, '\n' ∉ line → motive rest → motive (line ++ '\n' :: rest)) (text : List Char) :
    motive text := by
  induction size : text.length using Nat.strongRecOn generalizing text with
  | _ size ih =>
    by_cases broken : '\n' ∈ text
    · obtain ⟨line, rest, rfl, first⟩ := List.eq_append_cons_of_mem broken
      apply below line rest first
      apply ih rest.length
      · simp only [← size, List.length_append, List.length_cons]
        omega
      · rfl
    · exact single text broken

theorem splitLines_append_append (text rest : List Char) :
    splitLines (text ++ '\n' :: rest) = splitLines (text ++ ['\n']) ++ splitLines rest := by
  induction text using line_induction with
  | single line single =>
    rw [splitLines_append_newline single, splitLines_append_newline single, splitLines, List.singleton_append]
  | below line more single ih =>
    rw [List.append_assoc, List.append_assoc, List.cons_append, List.cons_append, splitLines_append_newline single,
      splitLines_append_newline single, ih, List.cons_append]

theorem length_splitLines_append_newline (text : List Char) :
    (splitLines (text ++ ['\n'])).length = text.count '\n' + 1 := by
  induction text using line_induction with
  | single line single =>
    rw [splitLines_append_newline single, splitLines, List.length_singleton, List.count_eq_zero.2 single]
  | below line more single ih =>
    rw [List.append_assoc, List.cons_append, splitLines_append_newline single, List.length_cons, ih,
      List.count_append, List.count_cons_self, List.count_eq_zero.2 single, Nat.zero_add]

theorem toList_append_newline (line : String) : (line ++ "\n").toList = line.toList ++ ['\n'] :=
  String.toList_append

/-- Each line of a text is read on its own, also one with line breaks in it. -/
theorem lines_unlines_flatMap (lines : List String) :
    Text.lines (unlines lines) = lines.flatMap fun line => Text.lines (line ++ "\n") := by
  induction lines with
  | nil => rfl
  | cons line rest ih =>
    rw [List.flatMap_cons, ← ih, Text.lines, Text.lines, Text.lines, toList_unlines_cons, splitLines_append_append,
      List.map_append, toList_append_newline]

@[simp] theorem lines_unlines_append (first second : List String) :
    Text.lines (unlines (first ++ second)) = Text.lines (unlines first) ++ Text.lines (unlines second) := by
  rw [lines_unlines_flatMap, List.flatMap_append, ← lines_unlines_flatMap, ← lines_unlines_flatMap]

/-- A text takes a line more than it has line breaks. -/
@[simp] theorem length_lines_append_newline (line : String) :
    (Text.lines (line ++ "\n")).length = line.toList.count '\n' + 1 := by
  rw [Text.lines, List.length_map, toList_append_newline, length_splitLines_append_newline]

theorem length_le_lines_unlines (lines : List String) : lines.length ≤ (Text.lines (unlines lines)).length := by
  rw [lines_unlines_flatMap]
  induction lines with
  | nil => exact Nat.le_refl 0
  | cons line rest ih =>
    rw [List.flatMap_cons, List.length_append, List.length_cons, length_lines_append_newline]
    omega

/-- Texts written one below the other take a line each exactly if none of them has a line break. -/
theorem length_lines_unlines_iff (lines : List String) :
    (Text.lines (unlines lines)).length = lines.length ↔ ∀ line ∈ lines, SingleLine line := by
  induction lines with
  | nil => exact iff_of_true rfl (List.forall_mem_nil _)
  | cons line rest ih =>
    have enough := length_le_lines_unlines rest
    have single : SingleLine line ↔ line.toList.count '\n' = 0 := List.count_eq_zero.symm
    rw [List.forall_mem_cons, ← ih, single, lines_unlines_flatMap, List.flatMap_cons, ← lines_unlines_flatMap,
      List.length_append, List.length_cons, length_lines_append_newline]
    omega

/-- Texts without a carriage return at the end are read back exactly if none of them has a line break. -/
theorem lines_unlines_iff {lines : List String} (whole : ∀ line ∈ lines, dropReturn line.toList = line.toList) :
    Text.lines (unlines lines) = lines ↔ ∀ line ∈ lines, SingleLine line := by
  constructor
  · intro same
    apply (length_lines_unlines_iff lines).1
    rw [same]
  · intro single
    have kept : ∀ line ∈ lines, String.ofList (dropReturn line.toList) = line := by
      intro line mem
      rw [whole line mem, String.ofList_toList]
    rw [lines_unlines single, List.map_congr_left kept, List.map_id']

end Text

namespace Cpp

open Text (SingleLine unlines unlines_cons unlines_append unlines_nil)

/-- A line at a level of indentation; an empty line stays empty. -/
def indented (level : Nat) (text : String) : String :=
  if text = "" then "" else Page.indentation level ++ text

theorem indented_of_ne_empty {text : String} (nonempty : text ≠ "") (level : Nat) :
    indented level text = Page.indentation level ++ text := if_neg nonempty

@[simp] theorem indented_zero (text : String) : indented 0 text = text := by
  by_cases empty : text = ""
  · rw [indented, if_pos empty, empty]
  · rw [indented_of_ne_empty empty]
    exact String.empty_append

@[simp] theorem map_indented_zero (lines : List String) : lines.map (indented 0) = lines := by
  rw [show indented 0 = id from funext indented_zero, List.map_id]

theorem singleLine_indented {text : String} (single : SingleLine text) (level : Nat) :
    SingleLine (indented level text) := by
  by_cases empty : text = ""
  · rw [indented, if_pos empty]
    exact List.not_mem_nil
  · rw [indented_of_ne_empty empty]
    refine SingleLine.append ?_ single
    unfold SingleLine Page.indentation
    rw [String.toList_ofList, List.mem_replicate]
    exact fun blank => absurd blank.2 (by decide)

def includeText (path : String) : String := "#include \"" ++ (path ++ "\"")

theorem includeLine_eq (path : String) : includeLine path = .line (includeText path) := by
  rw [includeLine, includeText, String.append_assoc]

theorem Page.line_eq (page : Page) (text : String) :
    page.line text = ⟨page.text ++ unlines [indented page.level text], page.level⟩ := by
  have single : ∀ line : String, unlines [line] = line ++ "\n" := by
    intro line
    rw [unlines_cons, unlines_nil, String.append_empty]
  rw [single, Page.line]
  by_cases empty : text = ""
  · rw [if_pos empty, indented, if_pos empty, String.empty_append]
  · rw [if_neg empty, indented_of_ne_empty empty, String.append_assoc, String.append_assoc, String.append_assoc]

mutual

/-- The lines that a step writes from a level of indentation on, and the level it leaves. -/
def Step.lines (level : Nat) : Step → List String × Nat
  | .line text => ([indented level text], level)
  | .blank => ([""], level)
  | .indent => ([], level + 1)
  | .outdent => ([], level - 1)
  | .block opening closing body =>
    let (inner, last) := Step.linesAll (level + 1) body
    (indented level opening :: inner ++ [indented (last - 1) closing], last - 1)
  | .braced closing body =>
    let (inner, last) := Step.linesAll (level + 1) body
    (indented level "\x7b" :: inner ++ [indented (last - 1) closing], last - 1)

def Step.linesAll (level : Nat) : List Step → List String × Nat
  | [] => ([], level)
  | step :: steps =>
    let (first, next) := step.lines level
    let (rest, last) := Step.linesAll next steps
    (first ++ rest, last)

end

@[simp] theorem Step.linesAll_append (level : Nat) (first second : List Step) :
    Step.linesAll level (first ++ second) =
      ((Step.linesAll level first).1 ++ (Step.linesAll (Step.linesAll level first).2 second).1,
        (Step.linesAll (Step.linesAll level first).2 second).2) := by
  induction first generalizing level with
  | nil => simp only [List.nil_append, Step.linesAll]
  | cons step steps ih => simp only [List.cons_append, Step.linesAll, ih, List.append_assoc]

theorem Step.linesAll_map_line (level : Nat) (texts : List String) :
    Step.linesAll level (texts.map .line) = (texts.map (indented level), level) := by
  induction texts with
  | nil => rfl
  | cons text texts ih => simp only [List.map_cons, Step.linesAll, Step.lines, ih, List.singleton_append]

theorem Step.linesAll_flatMap {α : Type} {steps : α → List Step} {lines : α → List String} {level : Nat}
    (each : ∀ value, Step.linesAll level (steps value) = (lines value, level)) (values : List α) :
    Step.linesAll level (values.flatMap steps) = (values.flatMap lines, level) := by
  induction values with
  | nil => rfl
  | cons value values ih => rw [List.flatMap_cons, Step.linesAll_append, each, ih, List.flatMap_cons]

/-- A block in which steps wrote lines: its opening, the lines of the body and its closing. -/
theorem Step.writeAll_between {page : Page} {opening closing : String} {body : List Step}
    (inside : ∀ page, Step.writeAll page body =
      ⟨page.text ++ unlines (Step.linesAll page.level body).1, (Step.linesAll page.level body).2⟩) :
    (Step.writeAll (page.line opening).indent body).outdent.line closing =
      ⟨page.text ++ unlines (indented page.level opening :: (Step.linesAll (page.level + 1) body).1 ++
        [indented ((Step.linesAll (page.level + 1) body).2 - 1) closing]),
        (Step.linesAll (page.level + 1) body).2 - 1⟩ := by
  have around : ∀ (first last : String) (lines : List String),
      unlines (first :: lines ++ [last]) = unlines [first] ++ (unlines lines ++ unlines [last]) := by
    intro first last lines
    rw [List.cons_append, ← List.singleton_append, unlines_append, unlines_append]
  rw [inside, Page.line_eq page, Page.line_eq, around]
  simp only [Page.indent, Page.outdent, String.append_assoc]

mutual

theorem Step.write_eq (page : Page) (step : Step) :
    step.write page = ⟨page.text ++ unlines (step.lines page.level).1, (step.lines page.level).2⟩ := by
  cases step with
  | line text => exact page.line_eq text
  | blank => rfl
  | indent => rw [Step.write, Step.lines, unlines_nil, String.append_empty]; rfl
  | outdent => rw [Step.write, Step.lines, unlines_nil, String.append_empty]; rfl
  | block opening closing body => exact Step.writeAll_between fun page => Step.writeAll_eq page body
  | braced closing body => exact Step.writeAll_between fun page => Step.writeAll_eq page body

theorem Step.writeAll_eq (page : Page) (steps : List Step) :
    Step.writeAll page steps =
      ⟨page.text ++ unlines (Step.linesAll page.level steps).1, (Step.linesAll page.level steps).2⟩ := by
  cases steps with
  | nil => rw [Step.writeAll, Step.linesAll, unlines_nil, String.append_empty]
  | cons step steps =>
    rw [Step.writeAll, Step.writeAll_eq, Step.write_eq page step, Step.linesAll, unlines_append,
      String.append_assoc]

end

theorem layout_eq (steps : List Step) : layout steps = unlines (Step.linesAll 0 steps).1 := by
  rw [layout, Step.writeAll_eq]
  exact String.empty_append

end Cpp

end FieldTypes
