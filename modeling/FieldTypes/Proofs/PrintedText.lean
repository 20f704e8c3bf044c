import FieldTypes.Json.Printer
import FieldTypes.Proofs.IntegerText
import FieldTypes.Proofs.JsonSize
import FieldTypes.Proofs.PlainReading
import FieldTypes.Proofs.QuotedText

set_option autoImplicit false

namespace FieldTypes.Json

namespace Reader

section Blanks

variable {text rest : List Char}

@[simp] theorem skipBlank_cons {c : Char} (visible : isBlank c = false) : skipBlank (c :: rest) = c :: rest := by
  rw [skipBlank, List.dropWhile_cons, visible, if_neg Bool.false_ne_true]

theorem skipBlank_skipBlank (text : List Char) : skipBlank (skipBlank text) = skipBlank text := by
  induction text with
  | nil => rfl
  | cons c text ih =>
    by_cases blank : isBlank c = true
    · have drop : skipBlank (c :: text) = skipBlank text := by
        rw [skipBlank, List.dropWhile_cons, if_pos blank]
        rfl
      rw [drop, ih]
    · rw [Bool.not_eq_true] at blank
      rw [skipBlank_cons blank, skipBlank_cons blank]

theorem skipBlank_lineStart (level : Nat) (rest : List Char) :
    skipBlank (lineStart level ++ rest) = skipBlank rest := by
  have blank : ∀ c ∈ lineStart level, isBlank c = true := by
    intro c mem
    rcases List.mem_cons.1 mem with newline | indentation
    · rw [newline]
      rfl
    · rw [List.eq_of_mem_replicate indentation]
      rfl
  rw [skipBlank, List.dropWhile_append_of_pos blank]
  rfl

theorem value_skipBlank (fuel depth : Nat) (text : List Char) :
    value fuel depth (skipBlank text) = value fuel depth text := by
  cases fuel with
  | zero => rw [value, value]
  | succ fuel => simp only [value, skipBlank_skipBlank]

theorem elements_skipBlank (fuel depth : Nat) (text : List Char) :
    elements fuel depth (skipBlank text) = elements fuel depth text := by
  cases fuel with
  | zero => rw [elements, elements]
  | succ fuel => simp only [elements, value_skipBlank]

theorem value_space (fuel depth : Nat) (text : List Char) :
    value fuel depth (' ' :: text) = value fuel depth text := by
  have drop : skipBlank (' ' :: text) = skipBlank text := rfl
  rw [← value_skipBlank, drop, value_skipBlank]

theorem value_lineStart (fuel depth level : Nat) (rest : List Char) :
    value fuel depth (lineStart level ++ rest) = value fuel depth rest := by
  rw [← value_skipBlank, skipBlank_lineStart, value_skipBlank]

end Blanks

section Composition

variable {fuel depth : Nat} {text middle next rest : List Char}

theorem start_of_value_ok {result : Json} (success : value fuel depth text = .ok (result, rest)) :
    ∃ c more, skipBlank text = c :: more ∧ c ≠ ']' := by
  cases fuel with
  | zero => simp [value] at success
  | succ fuel =>
    cases value_ok success with
    | emptyArray start | array start => exact ⟨_, _, start, by decide⟩
    | emptyObject start | object start => exact ⟨_, _, start, by decide⟩
    | scalar _ _ read =>
      cases start : skipBlank text with
      | nil =>
        rw [start] at read
        cases read
      | cons c more =>
        refine ⟨c, more, rfl, ?_⟩
        rintro rfl
        rw [start] at read
        cases read

theorem start_of_elements_ok {items : List Json} (success : elements fuel depth text = .ok (items, rest)) :
    ∃ c more, skipBlank text = c :: more ∧ c ≠ ']' := by
  cases fuel with
  | zero => simp [elements] at success
  | succ fuel =>
    cases elements_ok success with
    | last read | more read => exact start_of_value_ok read

theorem value_of_scalar {c : Char} (start : skipBlank text = c :: rest) (noBracket : c ≠ '[')
    (noBrace : c ≠ '{') : value (fuel + 1) depth text = scalar (c :: rest) := by
  rw [value_other, start]
  · intro after same
    rw [start, List.cons.injEq] at same
    exact noBracket same.1
  · intro after same
    rw [start, List.cons.injEq] at same
    exact noBrace same.1

theorem value_of_elements {items : List Json} (start : skipBlank text = '[' :: middle) (deep : 0 < depth)
    (read : elements fuel (depth - 1) middle = .ok (items, rest)) :
    value (fuel + 1) depth text = .ok (.array items, rest) := by
  obtain ⟨c, more, first, open_⟩ := start_of_elements_ok read
  have opened : firstElement middle = .ok (.inl (skipBlank middle)) := by
    rw [firstElement, first]
    exact if_neg open_
  rw [value_bracket start, if_neg (Nat.ne_of_gt deep), opened]
  simp only [elements_skipBlank, read, bind, Except.bind]

theorem value_of_members {entries : Members} (start : skipBlank text = '{' :: middle) (deep : 0 < depth)
    (quote : skipBlank middle = '"' :: next)
    (read : members fuel (depth - 1) next = .ok (entries, rest)) :
    value (fuel + 1) depth text = .ok (.object entries, rest) := by
  have opened : firstMember middle = .ok (.inl next) := by
    rw [firstMember, quote]
    rfl
  rw [value_brace start, if_neg (Nat.ne_of_gt deep), opened]
  simp only [read, bind, Except.bind]

theorem elements_of_last {item : Json} (read : value fuel depth text = .ok (item, middle))
    (closed : skipBlank middle = ']' :: rest) :
    elements (fuel + 1) depth text = .ok ([item], rest) := by
  have after : afterElement middle = .ok (.inr rest) := by
    rw [afterElement, closed]
    rfl
  rw [elements, read]
  simp only [bind, Except.bind, after]

theorem elements_of_more {item : Json} {items : List Json}
    (read : value fuel depth text = .ok (item, middle)) (comma : skipBlank middle = ',' :: next)
    (others : elements fuel depth next = .ok (items, rest)) :
    elements (fuel + 1) depth text = .ok (item :: items, rest) := by
  obtain ⟨c, more, first, open_⟩ := start_of_elements_ok others
  have after : afterElement middle = .ok (.inl (skipBlank next)) := by
    rw [afterElement, comma]
    simp only [first, Char.reduceEq, ↓reduceIte, open_]
  rw [elements, read]
  simp only [bind, Except.bind, after, elements_skipBlank, others]

variable {key : String} {afterKey afterColon : List Char}

theorem members_of_last {item : Json} (quoted : Quoted.read text = .ok (key, afterKey))
    (separated : skipBlank afterKey = ':' :: afterColon)
    (read : value fuel depth afterColon = .ok (item, middle)) (closed : skipBlank middle = '}' :: rest) :
    members (fuel + 1) depth text = .ok ([(key, item)], rest) := by
  have colon : colon afterKey = .ok afterColon := by
    rw [colon, separated]
    rfl
  have after : afterMember middle = .ok (.inr rest) := by
    rw [afterMember, closed]
    rfl
  rw [members, quoted]
  simp only [bind, Except.bind, colon, read, after]

theorem members_of_more {item : Json} {entries : Members} {first : List Char}
    (quoted : Quoted.read text = .ok (key, afterKey)) (separated : skipBlank afterKey = ':' :: afterColon)
    (read : value fuel depth afterColon = .ok (item, middle)) (comma : skipBlank middle = ',' :: next)
    (quote : skipBlank next = '"' :: first)
    (others : members fuel depth first = .ok (entries, rest)) :
    members (fuel + 1) depth text = .ok ((key, item) :: entries, rest) := by
  have colon : colon afterKey = .ok afterColon := by
    rw [colon, separated]
    rfl
  have after : afterMember middle = .ok (.inl first) := by
    rw [afterMember, comma]
    simp only [Char.reduceEq, ↓reduceIte, quote]
  rw [members, quoted]
  simp only [bind, Except.bind, colon, read, after, others]

end Composition

end Reader

/-- What the indented form of a value is read as, at any level and before any text that does not go on
like a number: the value, if the levels suffice. -/
def ReadsBack (value : Json) : Prop :=
  ∀ (level depth fuel : Nat) (rest : List Char), value.nesting ≤ depth → EndsNumber rest →
    2 * (indentedText level value ++ rest).length < fuel →
      Reader.value fuel depth (indentedText level value ++ rest) = .ok (value, rest)

theorem endsNumber_comma (rest : List Char) : EndsNumber (',' :: rest) :=
  ⟨rfl, by decide, by decide, by decide⟩

theorem endsNumber_newline (rest : List Char) : EndsNumber ('\n' :: rest) :=
  ⟨rfl, by decide, by decide, by decide⟩

open Reader

theorem readsBack_number {number : Number} (integer : number.IsInteger) (inRange : number.InRange) :
    ReadsBack (.number number) := by
  intro level depth fuel rest _ ends enough
  cases number with
  | float => exact integer.elim
  | integer value =>
    obtain ⟨fuel, rfl⟩ := Nat.exists_eq_add_one.2 (Nat.zero_lt_of_lt enough)
    have read := scalar_integerText inRange.1 inRange.2 ends
    obtain ⟨c, more, start, visible, noBracket, noBrace⟩ := start_of_integerText value
    show Reader.value (fuel + 1) depth (Number.integerText value ++ rest) = _
    rw [start, List.cons_append] at read ⊢
    rw [value_of_scalar (skipBlank_cons visible) noBracket noBrace, read]

theorem readsBack_string (text : String) : ReadsBack (.string text) := by
  intro level depth fuel rest _ _ enough
  obtain ⟨fuel, rfl⟩ := Nat.exists_eq_add_one.2 (Nat.zero_lt_of_lt enough)
  obtain ⟨body, start, read⟩ := Quoted.read_encode text rest
  show Reader.value (fuel + 1) depth (Quoted.encode text ++ rest) = _
  rw [start, value_of_scalar (skipBlank_cons rfl) (by decide) (by decide), scalar]
  simp only [Char.reduceEq, ↓reduceIte, read, bind, Except.bind]

theorem readsBack_scalar {value : Json} (scalar : value.IsScalar) (integers : value.EachNumber Number.IsInteger)
    (inRange : value.EachNumber Number.InRange) : ReadsBack value := by
  cases value with
  | array | object => exact scalar.elim
  | number number => exact readsBack_number (eachNumber_number.1 integers) (eachNumber_number.1 inRange)
  | string text => exact readsBack_string text
  | null =>
    intro level depth fuel rest _ _ enough
    obtain ⟨fuel, rfl⟩ := Nat.exists_eq_add_one.2 (Nat.zero_lt_of_lt enough)
    exact value_of_scalar (skipBlank_cons rfl) (by decide) (by decide)
  | bool value =>
    intro level depth fuel rest _ _ enough
    obtain ⟨fuel, rfl⟩ := Nat.exists_eq_add_one.2 (Nat.zero_lt_of_lt enough)
    cases value with
    | false => exact value_of_scalar (skipBlank_cons rfl) (by decide) (by decide)
    | true => exact value_of_scalar (skipBlank_cons rfl) (by decide) (by decide)

theorem indentedItems_cons_cons (level : Nat) (item next : Json) (items : List Json) :
    indentedItems level (item :: next :: items) =
      lineStart level ++ indentedText level item ++ ',' :: indentedItems level (next :: items) := rfl

theorem indentedMembers_cons_cons (level : Nat) (key : String) (value : Json) (next : String × Json)
    (members : Members) :
    indentedMembers level ((key, value) :: next :: members) =
      lineStart level ++ Quoted.encode key ++ ':' :: ' ' :: indentedText level value ++
        ',' :: indentedMembers level (next :: members) := rfl

/-- Elements on lines of their own are read back one by one, up to the bracket on its own line. -/
theorem elements_indentedItems {items : List Json} (each : ∀ item ∈ items, ReadsBack item)
    (nonempty : items ≠ []) (level outer depth fuel : Nat) (rest : List Char)
    (shallow : ∀ item ∈ items, item.nesting ≤ depth)
    (enough : 2 * (indentedItems level items ++ lineStart outer ++ ']' :: rest).length ≤ fuel) :
    elements fuel depth (indentedItems level items ++ lineStart outer ++ ']' :: rest) =
      .ok (items, rest) := by
  induction items generalizing fuel with
  | nil => exact absurd rfl nonempty
  | cons item items ih =>
    -- the last item is followed by a line break, any other by a comma; neither goes on a number
    have first := each item List.mem_cons_self level depth
    have fits := shallow item List.mem_cons_self
    cases items with
    | nil =>
      simp only [indentedItems, List.append_assoc, List.length_append, List.length_cons] at enough ⊢
      obtain ⟨fuel, rfl⟩ : ∃ less, fuel = less + 1 := ⟨fuel - 1, by omega⟩
      have ends : EndsNumber (lineStart outer ++ ']' :: rest) := endsNumber_newline _
      have read := first fuel (lineStart outer ++ ']' :: rest) fits ends (by
        simp only [List.length_append, List.length_cons]
        simp only [lineStart, List.length_cons] at enough ⊢
        omega)
      rw [← value_lineStart fuel depth level] at read
      refine elements_of_last read ?_
      rw [skipBlank_lineStart, skipBlank_cons rfl]
    | cons next items =>
      rw [indentedItems_cons_cons] at enough ⊢
      simp only [List.append_assoc, List.cons_append, List.length_append, List.length_cons] at enough ⊢
      obtain ⟨fuel, rfl⟩ : ∃ less, fuel = less + 1 := ⟨fuel - 1, by omega⟩
      have read := first fuel (',' :: (indentedItems level (next :: items) ++ (lineStart outer ++ ']' :: rest)))
        fits (endsNumber_comma _) (by
        simp only [List.length_append, List.length_cons]
        simp only [lineStart, List.length_cons] at enough ⊢
        omega)
      rw [← value_lineStart fuel depth level] at read
      have others := ih (fun other mem => each other (List.mem_cons_of_mem item mem)) (List.cons_ne_nil _ _)
        fuel (fun other mem => shallow other (List.mem_cons_of_mem item mem)) (by
        simp only [List.length_append, List.length_cons]
        simp only [lineStart, List.length_cons] at enough ⊢
        omega)
      rw [List.append_assoc] at others
      exact elements_of_more read (skipBlank_cons rfl) others

/-- Members on lines of their own are read back one by one, up to the brace on its own line. -/
theorem members_indentedMembers {entries : Members} (each : ∀ member ∈ entries, ReadsBack member.2)
    (nonempty : entries ≠ []) (level outer depth fuel : Nat) (rest : List Char)
    (shallow : ∀ member ∈ entries, member.2.nesting ≤ depth)
    (enough : 2 * (indentedMembers level entries ++ lineStart outer ++ '}' :: rest).length ≤ fuel) :
    ∃ first, skipBlank (indentedMembers level entries ++ lineStart outer ++ '}' :: rest) = '"' :: first ∧
      members fuel depth first = .ok (entries, rest) := by
  induction entries generalizing fuel with
  | nil => exact absurd rfl nonempty
  | cons entry entries ih =>
    obtain ⟨key, value⟩ := entry
    have first := each (key, value) List.mem_cons_self level depth
    have fits : value.nesting ≤ depth := shallow (key, value) List.mem_cons_self
    cases entries with
    | nil =>
      simp only [indentedMembers, List.append_assoc, List.cons_append, List.length_append,
        List.length_cons] at enough ⊢
      obtain ⟨fuel, rfl⟩ : ∃ less, fuel = less + 1 := ⟨fuel - 1, by omega⟩
      have read := first fuel (lineStart outer ++ '}' :: rest) fits (endsNumber_newline _) (by
        simp only [List.length_append, List.length_cons]
        omega)
      rw [← value_space fuel depth] at read
      obtain ⟨body, quote, quoted⟩ := Quoted.read_encode key
        (':' :: ' ' :: (indentedText level value ++ (lineStart outer ++ '}' :: rest)))
      refine ⟨body, ?_, ?_⟩
      · rw [skipBlank_lineStart, quote, skipBlank_cons rfl]
      · refine members_of_last quoted (skipBlank_cons rfl) read ?_
        rw [skipBlank_lineStart, skipBlank_cons rfl]
    | cons next entries =>
      rw [indentedMembers_cons_cons] at enough ⊢
      simp only [List.append_assoc, List.cons_append, List.length_append, List.length_cons] at enough ⊢
      obtain ⟨fuel, rfl⟩ : ∃ less, fuel = less + 1 := ⟨fuel - 1, by omega⟩
      have read := first fuel
        (',' :: (indentedMembers level (next :: entries) ++ (lineStart outer ++ '}' :: rest))) fits
        (endsNumber_comma _) (by
        simp only [List.length_append, List.length_cons]
        omega)
      rw [← value_space fuel depth] at read
      obtain ⟨inner, opened, others⟩ := ih (fun other mem => each other (List.mem_cons_of_mem _ mem))
        (List.cons_ne_nil _ _) fuel (fun other mem => shallow other (List.mem_cons_of_mem _ mem)) (by
        simp only [List.length_append, List.length_cons]
        omega)
      rw [List.append_assoc] at opened
      obtain ⟨body, quote, quoted⟩ := Quoted.read_encode key (':' :: ' ' :: (indentedText level value ++
        ',' :: (indentedMembers level (next :: entries) ++ (lineStart outer ++ '}' :: rest))))
      refine ⟨body, ?_, ?_⟩
      · rw [skipBlank_lineStart, quote, skipBlank_cons rfl]
      · exact members_of_more quoted (skipBlank_cons rfl) read (skipBlank_cons rfl) opened others

/-- Every value with integers in range for numbers is read back from its indented form. -/
theorem readsBack (value : Json) (integers : value.EachNumber Number.IsInteger)
    (inRange : value.EachNumber Number.InRange) : ReadsBack value := by
  induction value using Json.induction with
  | scalar value scalar => exact readsBack_scalar scalar integers inRange
  | array items each =>
    have readable : ∀ item ∈ items, ReadsBack item := fun item mem =>
      each item mem (eachNumber_array.1 integers item mem) (eachNumber_array.1 inRange item mem)
    intro level depth fuel rest shallow _ enough
    -- the opening bracket takes one level, and one unit of fuel
    rw [nesting] at shallow
    obtain ⟨fuel, rfl⟩ := Nat.exists_eq_add_one.2 (Nat.zero_lt_of_lt enough)
    cases items with
    | nil =>
      have closed : firstElement (']' :: rest) = .ok (.inr rest) := rfl
      show Reader.value (fuel + 1) depth ('[' :: ']' :: rest) = _
      rw [value_bracket (skipBlank_cons rfl), if_neg (by omega), closed]
    | cons item items =>
      simp only [indentedText, List.cons_append, List.append_assoc, List.nil_append,
        List.length_cons] at enough ⊢
      refine value_of_elements (skipBlank_cons rfl) (by omega) ?_
      rw [← List.append_assoc]
      refine elements_indentedItems readable (List.cons_ne_nil _ _) (level + 1) level (depth - 1) fuel rest
        (itemsNesting_le_iff.1 (by omega)) ?_
      rw [List.append_assoc]
      omega
  | object entries each =>
    have readable : ∀ entry ∈ entries, ReadsBack entry.2 := fun entry mem =>
      each entry mem (eachNumber_object.1 integers entry mem) (eachNumber_object.1 inRange entry mem)
    intro level depth fuel rest shallow _ enough
    rw [nesting] at shallow
    obtain ⟨fuel, rfl⟩ := Nat.exists_eq_add_one.2 (Nat.zero_lt_of_lt enough)
    cases entries with
    | nil =>
      have closed : firstMember ('}' :: rest) = .ok (.inr rest) := rfl
      show Reader.value (fuel + 1) depth ('{' :: '}' :: rest) = _
      rw [value_brace (skipBlank_cons rfl), if_neg (by omega), closed]
    | cons entry entries =>
      simp only [indentedText, List.cons_append, List.append_assoc, List.nil_append,
        List.length_cons] at enough ⊢
      obtain ⟨first, quote, read⟩ := members_indentedMembers readable (List.cons_ne_nil _ _) (level + 1)
        level (depth - 1) fuel rest (membersNesting_le_iff.1 (by omega)) (by
        rw [List.append_assoc]
        omega)
      rw [List.append_assoc] at quote
      exact value_of_members (skipBlank_cons rfl) (by omega) quote read

theorem read_indented {value : Json} (integers : value.EachNumber Number.IsInteger)
    (inRange : value.EachNumber Number.InRange) (shallow : value.nesting ≤ deepest) :
    Json.read (value.indented ++ "\n") = .ok value := by
  have characters : (value.indented ++ "\n").toList = indentedText 0 value ++ ['\n'] := by
    rw [String.toList_append, indented, String.toList_ofList]
    rfl
  have read := readsBack value integers inRange 0 deepest (enough (indentedText 0 value ++ ['\n'])) ['\n']
    shallow (endsNumber_newline []) (Nat.lt_succ_self _)
  have finished : finish ['\n'] = .ok () := rfl
  simp only [Json.read, characters, read, bind, Except.bind, finished]

end FieldTypes.Json
