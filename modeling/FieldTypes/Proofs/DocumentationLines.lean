import FieldTypes.Proofs.DocumentGrammar
import FieldTypes.Proofs.TextLines

set_option autoImplicit false

namespace FieldTypes

namespace Text

/-- Lines without an empty last one. -/
def withoutEmptyLast (lines : List String) : List String :=
  if lines.getLast? = some "" then lines.dropLast else lines

/-- A text without the carriage return that stands directly in front of a line feed. -/
def withoutReturns : List Char → List Char
  | [] => []
  | '\r' :: '\n' :: rest => '\n' :: withoutReturns rest
  | c :: rest => c :: withoutReturns rest

/-- A text without a line feed at its end. -/
def withoutLastNewline (text : List Char) : List Char :=
  if text.getLast? = some '\n' then text.dropLast else text

@[simp] theorem withoutEmptyLast_cons (line next : String) (rest : List String) :
    withoutEmptyLast (line :: next :: rest) = line :: withoutEmptyLast (next :: rest) := by
  unfold withoutEmptyLast
  rw [List.getLast?_cons_cons, List.dropLast_cons_cons]
  split <;> rfl

theorem withoutLastNewline_cons (c : Char) {rest : List Char} (more : rest ≠ []) :
    withoutLastNewline (c :: rest) = c :: withoutLastNewline rest := by
  obtain ⟨next, rest, rfl⟩ := List.exists_cons_of_ne_nil more
  unfold withoutLastNewline
  rw [List.getLast?_cons_cons, List.dropLast_cons_cons]
  split <;> rfl

theorem withoutReturns_eq_nil_iff {text : List Char} : withoutReturns text = [] ↔ text = [] := by
  fun_cases withoutReturns text <;> simp

theorem withoutReturns_cons {c : Char} {rest : List Char}
    (noEnding : ∀ rest', c = '\r' → rest ≠ '\n' :: rest') :
    withoutReturns (c :: rest) = c :: withoutReturns rest := by
  rw [withoutReturns]
  intro rest' isReturn starts
  exact noEnding rest' isReturn starts

/-- A text of one line is that line, also with a carriage return at its end. -/
theorem splitLines_of_single {line : List Char} (single : '\n' ∉ line) (given : line ≠ []) :
    splitLines line = [line] := by
  induction line with
  | nil => exact absurd rfl given
  | cons c rest ih =>
    rw [List.mem_cons, not_or] at single
    have inside : c ≠ '\n' := Ne.symm single.1
    have noEnding : ∀ rest', c = '\r' → rest ≠ '\n' :: rest' := by
      intro rest' _ starts
      exact single.2 (starts ▸ List.mem_cons_self)
    by_cases last : rest = []
    · rw [last, splitLines, splitLines]
      · exact inside
      · simp
    · exact splitLines_cons inside noEnding (ih single.2 last)

/-- Joined lines are split into the same lines, less an empty last one. -/
theorem lines_intercalate {lines : List String}
    (stay : ∀ line ∈ lines, SingleLine line ∧ line.toList.getLast? ≠ some '\r') :
    Text.lines ("\n".intercalate lines) = withoutEmptyLast lines := by
  induction lines with
  | nil => rfl
  | cons line rest ih =>
    rw [List.forall_mem_cons] at stay
    obtain ⟨⟨single, noReturn⟩, others⟩ := stay
    cases rest with
    | nil =>
      rw [String.intercalate_singleton, Text.lines]
      by_cases empty : line = ""
      · rw [empty]
        rfl
      · have given : line.toList ≠ [] := mt String.toList_eq_nil_iff.1 empty
        have kept : withoutEmptyLast [line] = [line] := by simp [withoutEmptyLast, empty]
        rw [splitLines_of_single single given, kept, List.map_singleton, String.ofList_toList]
    | cons next rest =>
      have joined : ("\n".intercalate (line :: next :: rest)).toList =
          line.toList ++ '\n' :: ("\n".intercalate (next :: rest)).toList := by
        simp [String.intercalate_cons_cons, String.toList_append]
      rw [Text.lines, joined, splitLines_append_newline single, dropReturn_of_getLast?_ne noReturn, List.map_cons,
        String.ofList_toList, withoutEmptyLast_cons, ← ih others, Text.lines]

/-- The lines of a text, joined again, are the text but for the endings of its lines. -/
theorem intercalate_splitLines (text : List Char) :
    ['\n'].intercalate (splitLines text) = withoutLastNewline (withoutReturns text) := by
  have ended : ∀ rest : List Char, ['\n'].intercalate (splitLines rest) = withoutLastNewline (withoutReturns rest) →
      ['\n'].intercalate ([] :: splitLines rest) = withoutLastNewline ('\n' :: withoutReturns rest) := by
    intro rest ih
    by_cases last : rest = []
    · rw [last]
      rfl
    · have more : withoutReturns rest ≠ [] := mt withoutReturns_eq_nil_iff.1 last
      obtain ⟨line, lines, split⟩ := List.exists_cons_of_ne_nil (mt splitLines_eq_nil_iff.1 last)
      rw [withoutLastNewline_cons _ more, ← ih, split]
      simp [List.intercalate]
  induction text using splitLines.induct with
  | case1 => rfl
  | case2 rest ih =>
    have here : withoutReturns ('\n' :: rest) = '\n' :: withoutReturns rest := by
      apply withoutReturns_cons
      simp
    rw [splitLines, here]
    exact ended rest ih
  | case3 rest ih =>
    rw [splitLines, withoutReturns]
    exact ended rest ih
  | case4 c rest inside noEnding last ih =>
    have alone : '\n' ∉ [c] := by simpa using Ne.symm inside
    rw [splitLines_eq_nil_iff.1 last, splitLines_of_single alone (List.cons_ne_nil c [])]
    have here : withoutReturns [c] = [c] := by
      apply withoutReturns_cons
      simp
    have kept : withoutLastNewline [c] = [c] := by
      simp only [withoutLastNewline, List.getLast?_singleton, Option.some.injEq, if_neg inside]
    rw [here, kept]
    simp [List.intercalate]
  | case5 c rest inside noEnding line more split ih =>
    have given : rest ≠ [] := by
      intro empty
      rw [splitLines_eq_nil_iff.2 empty] at split
      cases split
    rw [splitLines_cons inside noEnding split, withoutReturns_cons noEnding,
      withoutLastNewline_cons c (mt withoutReturns_eq_nil_iff.1 given), ← ih, split]
    cases more <;> simp [List.intercalate]

theorem intercalate_lines (doc : String) :
    "\n".intercalate (Text.lines doc) = String.ofList (withoutLastNewline (withoutReturns doc.toList)) := by
  apply String.toList_inj.1
  have characters : String.toList ∘ String.ofList = id := funext fun _ => String.toList_ofList
  rw [String.toList_intercalate, Text.lines, List.map_map, characters, List.map_id]
  simp [intercalate_splitLines]

end Text

namespace Decoding

open Text (SingleLine withoutEmptyLast withoutLastNewline withoutReturns)

theorem docKey_of_lines {members : Json.Members} (entity : Entity) {lines : List String}
    (given : present? members "doc" = some (.strings lines)) :
    docKey members entity = .ok ("\n".intercalate lines) := by
  rw [docKey, given]
  simp only [linesValue?_strings, ofKind]

/-- Documentation that is given as lines is resolved to the same lines, less an empty last one. Of any
documentation the lines are single lines, and joined again they are the documentation without the carriage
returns directly in front of line feeds and without one line feed at its end. -/
theorem documentation_lines :
    (∀ (members : Json.Members) (entity : Entity) (lines : List String),
      present? members "doc" = some (.strings lines) →
      (∀ line ∈ lines, SingleLine line ∧ line.toList.getLast? ≠ some '\r') →
        ∃ doc, docKey members entity = .ok doc ∧ Text.lines doc = withoutEmptyLast lines) ∧
    ∀ doc : String,
      (∀ line ∈ Text.lines doc, SingleLine line) ∧
        "\n".intercalate (Text.lines doc) = String.ofList (withoutLastNewline (withoutReturns doc.toList)) := by
  constructor
  · intro members entity lines given stay
    exact ⟨_, docKey_of_lines entity given, Text.lines_intercalate stay⟩
  · intro doc
    constructor
    · intro line mem
      exact Text.singleLine_of_mem_lines mem
    · exact Text.intercalate_lines doc

/-- Lines with an empty one among them, one that starts with a carriage return, and an empty last one. -/
def wordyMembers : Json.Members := [("name", .string "Point"), ("doc", .strings ["One", "", "\rtwo", ""])]

theorem documentation_lines_of_wordyMembers :
    (∃ doc, docKey wordyMembers (.type "Point") = .ok doc ∧ Text.lines doc = ["One", "", "\rtwo"]) ∧
      "\n".intercalate (Text.lines "One\r\r\n\r\n\ntwo\r\n") = "One\r\n\n\ntwo" := by
  obtain ⟨joined, split⟩ := documentation_lines
  obtain ⟨doc, read, lines⟩ := joined wordyMembers (.type "Point") ["One", "", "\rtwo", ""] rfl (by decide)
  have kept : withoutEmptyLast ["One", "", "\rtwo", ""] = ["One", "", "\rtwo"] := by decide
  have text : String.ofList (withoutLastNewline (withoutReturns "One\r\r\n\r\n\ntwo\r\n".toList)) =
      "One\r\n\n\ntwo" := by decide
  exact ⟨⟨doc, read, lines.trans kept⟩, (split _).2.trans text⟩

end Decoding

end FieldTypes
