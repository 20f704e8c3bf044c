import FieldTypes.Proofs.CascadeReading
import FieldTypes.Proofs.TextLines

set_option autoImplicit false

namespace FieldTypes

theorem isIdentifier_append {first second : String} (identifier : isIdentifier first = true)
    (plain : Plain second) : isIdentifier (first ++ second) = true := by
  unfold isIdentifier at identifier ⊢
  rw [String.toList_append]
  cases chars : first.toList with
  | nil =>
    rw [chars] at identifier
    cases identifier
  | cons start rest =>
    simp only [chars, Bool.and_eq_true] at identifier
    simp only [List.cons_append, List.all_append, Bool.and_eq_true]
    exact ⟨identifier.1, identifier.2, List.all_eq_true.2 plain⟩

theorem ne_empty_of_isIdentifier {name : String} (identifier : isIdentifier name = true) : name ≠ "" := by
  rintro rfl
  cases identifier

namespace Text

/-- A name in front of an outline; it is one with a name that comes first there. -/
def nameBefore : List (Option Char) → List (Option Char)
  | none :: rest => none :: rest
  | rest => none :: rest

/-- One character, or a name, in front of an outline. -/
def before (part : Option Char) (rest : List (Option Char)) : List (Option Char) :=
  match part with
  | none => nameBefore rest
  | some c => some c :: rest

/-- A character as it stands in outlines: those that names are made of are not told apart. -/
def partOf (c : Char) : Option Char := if Identifier.isRest c then none else some c

/-- What stands between the names of a text. A name is a longest run of characters of identifiers. -/
def outline (text : String) : List (Option Char) := text.toList.foldr (fun c => before (partOf c)) []

def outlines (first second : List (Option Char)) : List (Option Char) := first.foldr before second

theorem nameBefore_nameBefore (rest : List (Option Char)) : nameBefore (nameBefore rest) = nameBefore rest := by
  cases rest with
  | nil => rfl
  | cons first rest => cases first <;> rfl

theorem outlines_nameBefore (first second : List (Option Char)) :
    outlines (nameBefore first) second = nameBefore (outlines first second) := by
  cases first with
  | nil => rfl
  | cons start first =>
    cases start with
    | some c => rfl
    | none => exact (nameBefore_nameBefore (outlines first second)).symm

theorem outlines_before (part : Option Char) (first second : List (Option Char)) :
    outlines (before part first) second = before part (outlines first second) := by
  cases part with
  | none => exact outlines_nameBefore first second
  | some c => rfl

theorem outline_append (first second : String) :
    outline (first ++ second) = outlines (outline first) (outline second) := by
  unfold outline
  rw [String.toList_append, List.foldr_append]
  induction first.toList with
  | nil => rfl
  | cons c rest ih => rw [List.foldr_cons, List.foldr_cons, outlines_before, ih]

/-- Put together, parts with the same outlines make texts with the same outline. -/
theorem outline_append_of {first second other more : String} (start : outline first = outline other)
    (rest : outline second = outline more) : outline (first ++ second) = outline (other ++ more) := by
  rw [outline_append, outline_append, start, rest]

theorem before_ne_nil (part : Option Char) (rest : List (Option Char)) : before part rest ≠ [] := by
  cases part with
  | some c => exact List.cons_ne_nil _ _
  | none =>
    show nameBefore rest ≠ []
    cases rest with
    | nil => exact List.cons_ne_nil _ _
    | cons first rest => cases first <;> exact List.cons_ne_nil _ _

theorem outline_eq_nil_iff {text : String} : outline text = [] ↔ text = "" := by
  unfold outline
  rw [← String.toList_eq_nil_iff]
  cases text.toList with
  | nil => exact iff_of_true rfl rfl
  | cons c rest => exact iff_of_false (before_ne_nil _ _) (List.cons_ne_nil _ _)

theorem outline_of_plain {name : String} (plain : Plain name) (given : name ≠ "") : outline name = [none] := by
  unfold outline
  unfold Plain at plain
  rw [ne_eq, ← String.toList_eq_nil_iff] at given
  generalize name.toList = chars at plain given ⊢
  induction chars with
  | nil => exact absurd rfl given
  | cons c rest ih =>
    rw [List.forall_mem_cons] at plain
    rw [List.foldr_cons, partOf, if_pos plain.1]
    cases rest with
    | nil => rfl
    | cons next rest =>
      rw [ih plain.2 (List.cons_ne_nil next rest)]
      rfl

theorem outline_of_isIdentifier {name : String} (identifier : isIdentifier name = true) :
    outline name = [none] :=
  outline_of_plain (plain_of_isIdentifier identifier) (ne_empty_of_isIdentifier identifier)

section Parts

variable {α : Type} {values : List α} {f g : α → String}

theorem outline_intercalate (separator : String) (same : ∀ value ∈ values, outline (f value) = outline (g value)) :
    outline (separator.intercalate (values.map f)) = outline (separator.intercalate (values.map g)) := by
  induction values with
  | nil => rfl
  | cons first rest ih =>
    rw [List.forall_mem_cons] at same
    cases rest with
    | nil =>
      simp only [List.map_cons, List.map_nil, String.intercalate_singleton]
      exact same.1
    | cons next rest =>
      have more := ih same.2
      rw [List.map_cons, List.map_cons] at more
      simp only [List.map_cons, String.intercalate_cons_cons, outline_append, same.1, more]

theorem outline_join (same : ∀ value ∈ values, outline (f value) = outline (g value)) :
    outline (String.join (values.map f)) = outline (String.join (values.map g)) := by
  induction values with
  | nil => rfl
  | cons first rest ih =>
    rw [List.forall_mem_cons] at same
    simp only [List.map_cons, String.join_cons, outline_append, same.1, ih same.2]

end Parts

theorem outline_unlines {lines others : List String} (same : lines.map outline = others.map outline) :
    outline (unlines lines) = outline (unlines others) := by
  induction lines generalizing others with
  | nil =>
    rw [List.map_nil, eq_comm, List.map_eq_nil_iff] at same
    rw [same]
  | cons line lines ih =>
    cases others with
    | nil => cases same
    | cons other others =>
      injection same with first rest
      simp only [unlines_cons, outline_append, first, ih rest]

end Text

end FieldTypes
