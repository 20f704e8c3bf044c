import FieldTypes.Artifact

set_option autoImplicit false

namespace FieldTypes

namespace Pattern

/-- A percent sign that starts no longer token, or any other character. -/
def Single (c : Char) (rest : List Char) : Prop :=
  c = '%' → rest.head? ≠ some '%' ∧ rest.head? ≠ some 's'

/-- The tokens of a pattern, read from left to right. -/
inductive Reads : List Char → List Token → Prop
  | nil : Reads [] []
  | percent {rest : List Char} {tokens : List Token} (more : Reads rest tokens) :
      Reads ('%' :: '%' :: rest) (.percent :: tokens)
  | placeholder {rest : List Char} {tokens : List Token} (more : Reads rest tokens) :
      Reads ('%' :: 's' :: rest) (.placeholder :: tokens)
  | char {c : Char} {rest : List Char} {tokens : List Token} (single : Single c rest)
      (more : Reads rest tokens) : Reads (c :: rest) (.char c :: tokens)

theorem tokens_of_single {c : Char} {rest : List Char} (single : Single c rest) :
    tokens (c :: rest) = .char c :: tokens rest := by
  rw [tokens]
  · rintro more rfl rfl
    exact (single rfl).1 rfl
  · rintro more rfl rfl
    exact (single rfl).2 rfl

/-- A pattern is read in one way, which is that of its tokens. -/
theorem reads_iff {chars : List Char} {read : List Token} : Reads chars read ↔ read = tokens chars := by
  constructor
  · intro reads
    induction reads with
    | nil => rfl
    | percent more ih => rw [ih, tokens]
    | placeholder more ih => rw [ih, tokens]
    | char single more ih => rw [ih, tokens_of_single single]
  · rintro rfl
    fun_induction tokens chars with
    | case1 => exact .nil
    | case2 rest ih => exact .percent ih
    | case3 rest ih => exact .placeholder ih
    | case4 c rest notPercent notPlaceholder ih =>
      refine .char (fun same => ⟨fun next => ?_, fun next => ?_⟩) ih
      · obtain ⟨more, rfl⟩ := List.head?_eq_some_iff.1 next
        exact notPercent more same rfl
      · obtain ⟨more, rfl⟩ := List.head?_eq_some_iff.1 next
        exact notPlaceholder more same rfl

/-- Goes through a pattern once, with what is written and how many placeholders are found so far; after a
percent sign it looks at the next character. -/
def scan (name : Option String) (written : List Char) (found : Nat) : List Char → List Char × Nat
  | [] => (written, found)
  | c :: rest =>
    if c = '%' then
      match rest with
      | '%' :: more => scan name (written ++ ['%']) found more
      | 's' :: more => scan name (written ++ (name.getD "%s").toList) (found + 1) more
      | rest => scan name (written ++ ['%']) found rest
    else scan name (written ++ [c]) found rest

theorem scan_of_single {c : Char} {rest : List Char} (single : Single c rest) (name : Option String)
    (written : List Char) (found : Nat) :
    scan name written found (c :: rest) = scan name (written ++ [c]) found rest := by
  by_cases percent : c = '%'
  · obtain ⟨notPercent, notPlaceholder⟩ := single percent
    rw [percent, scan, if_pos rfl]
    · rintro more rfl
      exact notPercent rfl
    · rintro more rfl
      exact notPlaceholder rfl
  · conv => lhs; unfold scan
    rw [if_neg percent]

/-- The pass writes what the tokens stand for and finds their placeholders. -/
theorem scan_of_reads {chars : List Char} {read : List Token} (reads : Reads chars read)
    (name : Option String) (written : List Char) (found : Nat) :
    scan name written found chars =
      (written ++ read.flatMap (Token.expand name), found + read.count .placeholder) := by
  induction reads generalizing written found with
  | nil => simp [scan]
  | percent more ih => simp [scan, ih, Token.expand]
  | placeholder more ih =>
    rw [scan, if_pos rfl, ih, List.flatMap_cons, List.count_cons_self, List.append_assoc, Nat.add_right_comm,
      Nat.add_assoc]
    cases name <;> rfl
  | char single more ih =>
    rw [scan_of_single single, ih, List.flatMap_cons, List.append_assoc, List.count_cons_of_ne (by simp)]
    rfl

theorem scan_eq (pattern : String) (name : Option String) :
    scan name [] 0 pattern.toList = ((expand pattern name).toList, placeholders pattern) := by
  rw [scan_of_reads (reads_iff.2 rfl), List.nil_append, Nat.zero_add, expand, String.toList_ofList,
    placeholders]

def Token.undoubled : Token → List Char
  | .percent => ['%']
  | .placeholder => ['%', 's']
  | .char c => [c]

theorem flatMap_expand_of_not_mem {read : List Token} (absent : Token.placeholder ∉ read)
    (name : Option String) : read.flatMap (Token.expand name) = read.flatMap Token.undoubled := by
  rw [List.flatMap_def, List.flatMap_def]
  congr 1
  refine List.map_congr_left fun token mem => ?_
  cases token with
  | placeholder => exact absurd mem absent
  | percent => rfl
  | char c => rfl

/-- The name stands at the only placeholder, between what the tokens before and after it stand for. -/
theorem flatMap_expand_of_count_eq_one {read : List Token} (one : read.count .placeholder = 1) :
    ∃ before after : List Char, ∀ name : String,
      read.flatMap (Token.expand (some name)) = before ++ name.toList ++ after := by
  obtain ⟨before, after, rfl⟩ := List.append_of_mem (List.count_pos_iff.1 (one ▸ Nat.one_pos))
  rw [List.count_append, List.count_cons_self] at one
  have absentBefore : Token.placeholder ∉ before := List.count_eq_zero.1 (by omega)
  have absentAfter : Token.placeholder ∉ after := List.count_eq_zero.1 (by omega)
  refine ⟨before.flatMap Token.undoubled, after.flatMap Token.undoubled, fun name => ?_⟩
  rw [List.flatMap_append, List.flatMap_cons, flatMap_expand_of_not_mem absentBefore,
    flatMap_expand_of_not_mem absentAfter, List.append_assoc]
  rfl

def doubledTokens (text : List Char) : List Token :=
  text.map fun c => if c = '%' then .percent else .char c

theorem flatMap_expand_doubledTokens (text : List Char) (name : Option String) :
    (doubledTokens text).flatMap (Token.expand name) = text := by
  unfold doubledTokens
  induction text with
  | nil => rfl
  | cons c rest ih =>
    rw [List.map_cons, List.flatMap_cons, ih]
    by_cases percent : c = '%'
    · rw [if_pos percent, percent]
      rfl
    · rw [if_neg percent]
      rfl

theorem count_doubledTokens (text : List Char) : (doubledTokens text).count .placeholder = 0 := by
  refine List.count_eq_zero.2 fun mem => ?_
  obtain ⟨c, -, same⟩ := List.mem_map.1 mem
  split at same <;> cases same

@[simp] theorem tokens_literal_append (text pattern : String) :
    tokens (literal text ++ pattern).toList = doubledTokens text.toList ++ tokens pattern.toList := by
  rw [String.toList_append, literal, String.toList_ofList, tokens_double]
  rfl

/-- A text in front of a pattern stands in front of whatever the pattern resolves to. -/
@[simp] theorem expand_literal_append (text pattern : String) (name : Option String) :
    expand (literal text ++ pattern) name = text ++ expand pattern name := by
  rw [expand, tokens_literal_append, List.flatMap_append, flatMap_expand_doubledTokens, String.ofList_append,
    String.ofList_toList, expand]

@[simp] theorem placeholders_literal_append (text pattern : String) :
    placeholders (literal text ++ pattern) = placeholders pattern := by
  rw [placeholders, tokens_literal_append, List.count_append, count_doubledTokens, Nat.zero_add, placeholders]

theorem expand_literal (text : String) (name : Option String) : expand (literal text) name = text := by
  have whole := expand_literal_append text "" name
  rw [String.append_empty] at whole
  rw [whole]
  exact String.append_empty

theorem placeholders_literal (text : String) : placeholders (literal text) = 0 := by
  have whole := placeholders_literal_append text ""
  rw [String.append_empty] at whole
  rw [whole]
  rfl

end Pattern

namespace Artifact

open Pattern (Token Reads)

theorem validate_type_iff {artifact : Artifact} :
    artifact.validate .type = .ok () ↔ Pattern.placeholders artifact.pattern = 1 := by
  unfold validate
  dsimp only
  split
  · exact iff_of_true rfl ‹_›
  · exact iff_of_false nofun ‹_›

theorem validate_schema_iff {artifact : Artifact} :
    artifact.validate .schema = .ok () ↔ Pattern.placeholders artifact.pattern = 0 := by
  unfold validate
  dsimp only
  split
  · exact iff_of_true rfl ‹_›
  · exact iff_of_false nofun ‹_›

/-- A pattern is read in exactly one way. It is accepted for types if there is one placeholder in this
reading, and for whole schemas if there is none. In the first case a name is copied between two fixed texts;
in the second, the path is the pattern with doubled percent signs undone, whatever the name. A single pass
gives both the path and the number of placeholders. A text whose percent signs are doubled stands for
itself, also in front of a pattern. -/
theorem patterns_follow_reading (template pattern : String) :
    (∃ read, Reads pattern.toList read ∧ (∀ other, Reads pattern.toList other → other = read) ∧
      ((Artifact.mk template pattern).validate .type = .ok () ↔ read.count .placeholder = 1) ∧
      ((Artifact.mk template pattern).validate .schema = .ok () ↔ read.count .placeholder = 0) ∧
      (∀ name, Pattern.scan name [] 0 pattern.toList =
        (((Artifact.mk template pattern).resolve name).toList, read.count .placeholder)) ∧
      (read.count .placeholder = 1 →
        (∃ before after : String, ∀ name,
          (Artifact.mk template pattern).resolve (some name) = before ++ name ++ after) ∧
        ∀ name other, (Artifact.mk template pattern).resolve (some name) =
          (Artifact.mk template pattern).resolve (some other) → name = other) ∧
      (read.count .placeholder = 0 → ∀ name,
        (Artifact.mk template pattern).resolve name = String.ofList (read.flatMap Token.undoubled))) ∧
    (∀ text, (Artifact.mk template (Pattern.literal text)).validate .schema = .ok () ∧
      ∀ name, (Artifact.mk template (Pattern.literal text)).resolve name = text) ∧
    ∀ text, Pattern.placeholders (Pattern.literal text ++ pattern) = Pattern.placeholders pattern ∧
      ∀ name, (Artifact.mk template (Pattern.literal text ++ pattern)).resolve name =
        text ++ (Artifact.mk template pattern).resolve name := by
  refine ⟨⟨Pattern.tokens pattern.toList, Pattern.reads_iff.2 rfl, fun other => Pattern.reads_iff.1,
    validate_type_iff, validate_schema_iff, Pattern.scan_eq pattern, fun one => ?_, fun none name => ?_⟩, ?_, ?_⟩
  · obtain ⟨before, after, copied⟩ := Pattern.flatMap_expand_of_count_eq_one one
    -- the name stands between what the tokens on both sides stand for
    have resolved (name : String) : (Artifact.mk template pattern).resolve (some name) =
        String.ofList before ++ name ++ String.ofList after := by
      rw [resolve, Pattern.expand, copied, String.ofList_append, String.ofList_append, String.ofList_toList]
    refine ⟨⟨_, _, resolved⟩, fun name other same => ?_⟩
    rw [resolved, resolved, String.append_left_inj, String.append_right_inj] at same
    exact same
  · rw [resolve, Pattern.expand, Pattern.flatMap_expand_of_not_mem (List.count_eq_zero.1 none)]
  · exact fun text => ⟨validate_schema_iff.2 (Pattern.placeholders_literal text), Pattern.expand_literal text⟩
  · exact fun text => ⟨Pattern.placeholders_literal_append text pattern,
      Pattern.expand_literal_append text pattern⟩

/-- Runs of percent signs before a placeholder, before the letter of one and at the end. -/
theorem patterns_follow_reading_of_percentRuns :
    (Artifact.mk "doc" "50%%%s/%%s.%").validate .type = .ok () ∧
      (∃ before after : String, ∀ name,
        (Artifact.mk "doc" "50%%%s/%%s.%").resolve (some name) = before ++ name ++ after) ∧
      (Artifact.mk "doc" "50%%%s/%%s.%").resolve (some "%s") ≠
        (Artifact.mk "doc" "50%%%s/%%s.%").resolve (some "%%s") ∧
      (Artifact.mk "registry" "gen/%%s.%%%").validate .schema = .ok () ∧
      ∀ name, (Artifact.mk "registry" "gen/%%s.%%%").resolve name = "gen/%s.%%" := by
  obtain ⟨⟨read, reads, -, types, -, -, single, -⟩, -⟩ := patterns_follow_reading "doc" "50%%%s/%%s.%"
  obtain ⟨⟨whole, readsWhole, -, -, schema, -, -, unnamed⟩, -⟩ :=
    patterns_follow_reading "registry" "gen/%%s.%%%"
  have one : read.count .placeholder = 1 := by
    rw [Pattern.reads_iff.1 reads]
    decide +kernel
  have none : whole.count .placeholder = 0 := by
    rw [Pattern.reads_iff.1 readsWhole]
    decide +kernel
  obtain ⟨copied, injective⟩ := single one
  refine ⟨types.2 one, copied, fun same => absurd (injective _ _ same) (by decide), schema.2 none,
    fun name => ?_⟩
  rw [unnamed none name, Pattern.reads_iff.1 readsWhole]
  decide +kernel

end Artifact

end FieldTypes
