import FieldTypes.Proofs.PlainReading
import FieldTypes.Schema.Error

set_option autoImplicit false

namespace FieldTypes

namespace Json.Reader

mutual

/-- The keys that reading a value at `path` completes, in reading order, whether it succeeds or not. -/
def valueKeys : Nat → Nat → List String → List Char → List Occurrence
  | 0, _, _, _ => []
  | fuel + 1, depth, path, text =>
    match skipBlank text with
    | '[' :: rest =>
      if depth = 0 then []
      else
        match firstElement rest with
        | .ok (.inl rest) => elementKeys fuel (depth - 1) path 0 rest
        | _ => []
    | '{' :: rest =>
      if depth = 0 then []
      else
        match firstMember rest with
        | .ok (.inl rest) => memberKeys fuel (depth - 1) path rest
        | _ => []
    | _ => []

def elementKeys : Nat → Nat → List String → Nat → List Char → List Occurrence
  | 0, _, _, _, _ => []
  | fuel + 1, depth, path, position, text =>
    valueKeys fuel depth (path ++ [toString position]) text ++
      match value fuel depth text with
      | .error _ => []
      | .ok (_, rest) =>
        match afterElement rest with
        | .ok (.inl rest) => elementKeys fuel depth path (position + 1) rest
        | _ => []

def memberKeys : Nat → Nat → List String → List Char → List Occurrence
  | 0, _, _, _ => []
  | fuel + 1, depth, path, text =>
    match Quoted.read text with
    | .error _ => []
    | .ok (key, rest) =>
      ⟨path, key⟩ ::
        match colon rest with
        | .error _ => []
        | .ok rest =>
          valueKeys fuel depth (path ++ [key]) rest ++
            match value fuel depth rest with
            | .error _ => []
            | .ok (_, rest) =>
              match afterMember rest with
              | .ok (.inl rest) => memberKeys fuel depth path rest
              | _ => []

end

/-- The keys that plain reading of a text completes before it ends or is rejected. -/
def completedKeys (text : String) : List Occurrence :=
  valueKeys (enough text.toList) deepest [] text.toList

section Cases

variable {fuel depth : Nat} {path : List String} {text rest : List Char}

theorem valueKeys_bracket (start : skipBlank text = '[' :: rest) :
    valueKeys (fuel + 1) depth path text =
      if depth = 0 then []
      else
        match firstElement rest with
        | .ok (.inl rest) => elementKeys fuel (depth - 1) path 0 rest
        | _ => [] := by
  simp only [valueKeys, start]

theorem valueKeys_brace (start : skipBlank text = '{' :: rest) :
    valueKeys (fuel + 1) depth path text =
      if depth = 0 then []
      else
        match firstMember rest with
        | .ok (.inl rest) => memberKeys fuel (depth - 1) path rest
        | _ => [] := by
  simp only [valueKeys, start]

theorem valueKeys_other (noBracket : ∀ rest, skipBlank text ≠ '[' :: rest)
    (noBrace : ∀ rest, skipBlank text ≠ '{' :: rest) : valueKeys (fuel + 1) depth path text = [] := by
  rw [valueKeys]
  split
  · exact absurd ‹_› (noBracket _)
  · exact absurd ‹_› (noBrace _)
  · rfl

end Cases

mutual

theorem prefix_of_mem_valueKeys : ∀ (fuel depth : Nat) (path : List String) (text : List Char)
    {occurrence : Occurrence}, occurrence ∈ valueKeys fuel depth path text → path <+: occurrence.path
  | 0, _, _, _, _, found => by
    rw [valueKeys] at found
    exact absurd found List.not_mem_nil
  | fuel + 1, depth, path, text, occurrence, found => by
    rcases starts_cases (skipBlank text) with ⟨rest, start⟩ | ⟨rest, start⟩ | ⟨noBracket, noBrace⟩
    · rw [valueKeys_bracket start] at found
      split at found
      · exact absurd found List.not_mem_nil
      · split at found
        · exact prefix_of_mem_elementKeys fuel _ path 0 _ found
        · exact absurd found List.not_mem_nil
    · rw [valueKeys_brace start] at found
      split at found
      · exact absurd found List.not_mem_nil
      · split at found
        · exact prefix_of_mem_memberKeys fuel _ path _ found
        · exact absurd found List.not_mem_nil
    · rw [valueKeys_other noBracket noBrace] at found
      exact absurd found List.not_mem_nil

theorem prefix_of_mem_elementKeys : ∀ (fuel depth : Nat) (path : List String) (position : Nat)
    (text : List Char) {occurrence : Occurrence},
    occurrence ∈ elementKeys fuel depth path position text → path <+: occurrence.path
  | 0, _, _, _, _, _, found => by
    rw [elementKeys] at found
    exact absurd found List.not_mem_nil
  | fuel + 1, depth, path, position, text, occurrence, found => by
    rw [elementKeys, List.mem_append] at found
    rcases found with inside | later
    · exact (List.prefix_append path _).trans (prefix_of_mem_valueKeys fuel depth _ text inside)
    · split at later
      · exact absurd later List.not_mem_nil
      · split at later
        · exact prefix_of_mem_elementKeys fuel depth path _ _ later
        · exact absurd later List.not_mem_nil

theorem prefix_of_mem_memberKeys : ∀ (fuel depth : Nat) (path : List String) (text : List Char)
    {occurrence : Occurrence}, occurrence ∈ memberKeys fuel depth path text → path <+: occurrence.path
  | 0, _, _, _, _, found => by
    rw [memberKeys] at found
    exact absurd found List.not_mem_nil
  | fuel + 1, depth, path, text, occurrence, found => by
    rw [memberKeys] at found
    split at found
    · exact absurd found List.not_mem_nil
    · rcases List.mem_cons.1 found with here | found
      · subst here
        exact List.prefix_refl path
      · split at found
        · exact absurd found List.not_mem_nil
        · rcases List.mem_append.1 found with inside | later
          · exact (List.prefix_append path _).trans (prefix_of_mem_valueKeys fuel depth _ _ inside)
          · split at later
            · exact absurd later List.not_mem_nil
            · split at later
              · exact prefix_of_mem_memberKeys fuel depth path _ later
              · exact absurd later List.not_mem_nil

end

mutual

/-- A reading that succeeds completes the keys of the value that it gives. -/
theorem valueKeys_eq_occurrences : ∀ (fuel depth : Nat) (path : List String) (text : List Char)
    {result : Json} {rest : List Char}, value fuel depth text = .ok (result, rest) →
      valueKeys fuel depth path text = result.occurrences path
  | 0, _, _, _, _, _, success => by simp [value] at success
  | fuel + 1, depth, path, text, result, rest, success => by
    cases value_ok success with
    | emptyArray start deep closed =>
      rw [valueKeys_bracket start, if_neg (Nat.ne_of_gt deep), closed]
      rfl
    | array start deep opened read =>
      rw [valueKeys_bracket start, if_neg (Nat.ne_of_gt deep), opened, occurrences]
      exact elementKeys_eq_itemOccurrences fuel (depth - 1) path 0 _ read
    | emptyObject start deep closed =>
      rw [valueKeys_brace start, if_neg (Nat.ne_of_gt deep), closed]
      rfl
    | object start deep opened read =>
      rw [valueKeys_brace start, if_neg (Nat.ne_of_gt deep), opened, occurrences]
      exact memberKeys_eq_memberOccurrences fuel (depth - 1) path _ read
    | scalar noBracket noBrace read =>
      rw [valueKeys_other noBracket noBrace, occurrences_scalar (isScalar_of_scalar_ok read)]

theorem elementKeys_eq_itemOccurrences : ∀ (fuel depth : Nat) (path : List String) (position : Nat)
    (text : List Char) {items : List Json} {rest : List Char},
      elements fuel depth text = .ok (items, rest) →
        elementKeys fuel depth path position text = itemOccurrences path position items
  | 0, _, _, _, _, _, _, success => by simp [elements] at success
  | fuel + 1, depth, path, position, text, items, rest, success => by
    cases elements_ok success with
    | last read closed =>
      rw [elementKeys, valueKeys_eq_occurrences fuel depth _ text read, itemOccurrences, read]
      simp only [closed, itemOccurrences]
    | more read follows others =>
      rw [elementKeys, valueKeys_eq_occurrences fuel depth _ text read, itemOccurrences, read]
      simp only [follows, elementKeys_eq_itemOccurrences fuel depth path (position + 1) _ others]

theorem memberKeys_eq_memberOccurrences : ∀ (fuel depth : Nat) (path : List String) (text : List Char)
    {entries : Members} {rest : List Char}, members fuel depth text = .ok (entries, rest) →
      memberKeys fuel depth path text = memberOccurrences path entries
  | 0, _, _, _, _, _, success => by simp [members] at success
  | fuel + 1, depth, path, text, entries, rest, success => by
    cases members_ok success with
    | last quoted separated read closed =>
      rw [memberKeys, quoted, memberOccurrences]
      simp only [separated, valueKeys_eq_occurrences fuel depth _ _ read, read, closed,
        memberOccurrences]
    | more quoted separated read follows others =>
      rw [memberKeys, quoted, memberOccurrences]
      simp only [separated, valueKeys_eq_occurrences fuel depth _ _ read, read, follows,
        memberKeys_eq_memberOccurrences fuel depth path _ others]

end

end Json.Reader

namespace Document

open Json (Occurrence)
open Json.Reader

/-- The first of some occurrences that stands among earlier ones or repeats one before it. -/
def firstRepeat (earlier : List Occurrence) : List Occurrence → Option Occurrence
  | [] => none
  | occurrence :: rest =>
    if occurrence ∈ earlier then some occurrence else firstRepeat (occurrence :: earlier) rest

@[simp] theorem firstRepeat_append (earlier first second : List Occurrence) :
    firstRepeat earlier (first ++ second) =
      (firstRepeat earlier first).or (firstRepeat (first.reverse ++ earlier) second) := by
  induction first generalizing earlier with
  | nil => rfl
  | cons occurrence first ih =>
    by_cases known : occurrence ∈ earlier
    · simp only [List.cons_append, firstRepeat, known, ↓reduceIte, Option.some_or]
    · simp only [List.cons_append, firstRepeat, known, ↓reduceIte, ih, List.reverse_cons,
        List.append_assoc, List.nil_append]

/-- The result of plain reading, unless a repeated key ended the reading. -/
def strictly {α : Type} (repeated : Option Occurrence) (plain : Except Json.Fault α) : Except Fault α :=
  match repeated with
  | some occurrence => .error (.repeated ⟨occurrence.path, occurrence.key⟩)
  | none => plainly plain

theorem strictly_bind_ok {α β : Type} (repeated : Option Occurrence) (plain : Except Json.Fault α)
    (build : α → β) :
    (strictly repeated plain >>= fun read => .ok (build read)) =
      strictly repeated (plain >>= fun read => .ok (build read)) := by
  cases repeated with
  | some occurrence => rfl
  | none => cases plain <;> rfl

/-- No key was completed at a path or below it. -/
def Untouched (earlier : List Occurrence) (path : List String) : Prop :=
  ∀ occurrence ∈ earlier, ¬ path <+: occurrence.path

/-- The keys completed inside an array stand in elements before a position. -/
def ElementsDone (earlier : List Occurrence) (path : List String) (position : Nat) : Prop :=
  ∀ occurrence ∈ earlier, path <+: occurrence.path →
    ∃ before < position, path ++ [toString before] <+: occurrence.path

/-- The members of an object that were completed have the keys `seen`. -/
structure MembersDone (earlier : List Occurrence) (path seen : List String) : Prop where
  keys : ∀ key, ⟨path, key⟩ ∈ earlier ↔ key ∈ seen
  below : ∀ occurrence ∈ earlier, ∀ key, path ++ [key] <+: occurrence.path → key ∈ seen

section Invariants

variable {earlier inside : List Occurrence} {path seen : List String} {position : Nat} {key : String}

theorem Untouched.elementsDone (untouched : Untouched earlier path) : ElementsDone earlier path 0 := by
  intro occurrence found within
  exact absurd within (untouched occurrence found)

theorem Untouched.membersDone (untouched : Untouched earlier path) : MembersDone earlier path [] := by
  constructor
  · intro key
    constructor
    · intro found
      exact absurd (List.prefix_refl path) (untouched _ found)
    · intro found
      exact absurd found List.not_mem_nil
  · intro occurrence found key within
    exact absurd ((List.prefix_append path [key]).trans within) (untouched occurrence found)

theorem ElementsDone.untouched (done : ElementsDone earlier path position) :
    Untouched earlier (path ++ [toString position]) := by
  intro occurrence found within
  obtain ⟨before, lower, other⟩ := done occurrence found ((List.prefix_append path _).trans within)
  have same := Json.toString_injective (Json.next_segment_unique other within)
  omega

theorem ElementsDone.next (done : ElementsDone earlier path position)
    (placed : ∀ occurrence ∈ inside, path ++ [toString position] <+: occurrence.path) :
    ElementsDone (inside.reverse ++ earlier) path (position + 1) := by
  intro occurrence found within
  rw [List.mem_append, List.mem_reverse] at found
  rcases found with new | old
  · exact ⟨position, Nat.lt_succ_self position, placed occurrence new⟩
  · obtain ⟨before, lower, other⟩ := done occurrence old within
    exact ⟨before, by omega, other⟩

theorem MembersDone.untouched (done : MembersDone earlier path seen) (new : key ∉ seen) :
    Untouched (⟨path, key⟩ :: earlier) (path ++ [key]) := by
  intro occurrence found within
  rcases List.mem_cons.1 found with here | old
  · rw [here] at within
    exact Json.not_prefix_self within
  · exact new (done.below occurrence old key within)

theorem MembersDone.next (done : MembersDone earlier path seen)
    (placed : ∀ occurrence ∈ inside, path ++ [key] <+: occurrence.path) :
    MembersDone (inside.reverse ++ ⟨path, key⟩ :: earlier) path (key :: seen) := by
  constructor
  · intro other
    rw [List.mem_append, List.mem_reverse, List.mem_cons, List.mem_cons, done.keys, Occurrence.mk.injEq]
    constructor
    · rintro (found | ⟨_, same⟩ | old)
      · exact absurd (placed _ found) Json.not_prefix_self
      · exact .inl same
      · exact .inr old
    · rintro (same | old)
      · exact .inr (.inl ⟨rfl, same⟩)
      · exact .inr (.inr old)
  · intro occurrence found other within
    rw [List.mem_append, List.mem_reverse, List.mem_cons] at found
    rcases found with new | here | old
    · rw [Json.next_segment_unique within (placed occurrence new)]
      exact List.mem_cons_self
    · rw [here] at within
      exact absurd within Json.not_prefix_self
    · exact List.mem_cons_of_mem key (done.below occurrence old other within)

end Invariants

mutual

/-- Strict reading of a value is plain reading up to the first key completed before at its path. -/
theorem value_eq_strictly : ∀ (fuel depth : Nat) (path : List String) (text : List Char)
    {earlier : List Occurrence}, Untouched earlier path →
      value fuel depth path text =
        strictly (firstRepeat earlier (valueKeys fuel depth path text)) (Json.Reader.value fuel depth text)
  | 0, _, _, _, _, _ => by
    rw [value, valueKeys, Json.Reader.value]
    rfl
  | fuel + 1, depth, path, text, earlier, untouched => by
    rcases starts_cases (skipBlank text) with ⟨rest, start⟩ | ⟨rest, start⟩ | ⟨noBracket, noBrace⟩
    · rw [valueKeys_bracket start, value_bracket start]
      simp only [value, start]
      by_cases none : depth = 0
      · simp only [none, ↓reduceIte]
        rfl
      · simp only [none, ↓reduceIte]
        cases firstElement rest with
        | error fault => rfl
        | ok next =>
          cases next with
          | inr after => rfl
          | inl first =>
            -- nothing below the path was read yet, so none of the elements was
            simp only [elements_eq_strictly fuel (depth - 1) path 0 first untouched.elementsDone]
            exact strictly_bind_ok _ _ _
    · rw [valueKeys_brace start, value_brace start]
      simp only [value, start]
      by_cases none : depth = 0
      · simp only [none, ↓reduceIte]
        rfl
      · simp only [none, ↓reduceIte]
        cases firstMember rest with
        | error fault => rfl
        | ok next =>
          cases next with
          | inr after => rfl
          | inl first =>
            simp only [members_eq_strictly fuel (depth - 1) path first untouched.membersDone]
            exact strictly_bind_ok _ _ _
    · rw [valueKeys_other noBracket noBrace, value_other noBracket noBrace, value]
      split
      · exact absurd ‹_› (noBracket _)
      · exact absurd ‹_› (noBrace _)
      · rfl

theorem elements_eq_strictly : ∀ (fuel depth : Nat) (path : List String) (position : Nat)
    (text : List Char) {earlier : List Occurrence}, ElementsDone earlier path position →
      elements fuel depth path position text =
        strictly (firstRepeat earlier (elementKeys fuel depth path position text))
          (Json.Reader.elements fuel depth text)
  | 0, _, _, _, _, _, _ => by
    rw [elements, elementKeys, Json.Reader.elements]
    rfl
  | fuel + 1, depth, path, position, text, earlier, done => by
    have first := value_eq_strictly fuel depth (path ++ [toString position]) text done.untouched
    rw [elements, elementKeys, Json.Reader.elements, firstRepeat_append, first]
    cases repeated : firstRepeat earlier (valueKeys fuel depth (path ++ [toString position]) text) with
    | some occurrence => rfl
    | none =>
      rw [Option.none_or]
      cases Json.Reader.value fuel depth text with
      | error fault => rfl
      | ok read =>
        obtain ⟨item, rest⟩ := read
        simp only [strictly, plainly, Except.bind, bind]
        cases afterElement rest with
        | error fault => rfl
        | ok next =>
          cases next with
          | inr after => rfl
          | inl following =>
            -- the keys of this element lie below its position and bear on no later one
            have placed := done.next fun occurrence =>
              prefix_of_mem_valueKeys fuel depth (path ++ [toString position]) text
            simp only [elements_eq_strictly fuel depth path (position + 1) following placed]
            exact strictly_bind_ok _ _ _

theorem members_eq_strictly : ∀ (fuel depth : Nat) (path : List String) (text : List Char)
    {earlier : List Occurrence} {seen : List String}, MembersDone earlier path seen →
      members fuel depth path seen text =
        strictly (firstRepeat earlier (memberKeys fuel depth path text))
          (Json.Reader.members fuel depth text)
  | 0, _, _, _, _, _, _ => by
    rw [members, memberKeys, Json.Reader.members]
    rfl
  | fuel + 1, depth, path, text, earlier, seen, done => by
    rw [members, memberKeys, Json.Reader.members]
    cases Json.Quoted.read text with
    | error fault => rfl
    | ok read =>
      obtain ⟨key, rest⟩ := read
      simp only [plainly, Except.bind, bind, firstRepeat, done.keys]
      -- a repeated key ends the reading before its colon
      by_cases again : key ∈ seen
      · simp only [again, ↓reduceIte]
        rfl
      · simp only [again, ↓reduceIte]
        cases colon rest with
        | error fault => rfl
        | ok afterColon =>
          have inner := value_eq_strictly fuel depth (path ++ [key]) afterColon (done.untouched again)
          simp only [inner, firstRepeat_append]
          cases repeated : firstRepeat (⟨path, key⟩ :: earlier)
              (valueKeys fuel depth (path ++ [key]) afterColon) with
          | some occurrence => rfl
          | none =>
            rw [Option.none_or]
            cases Json.Reader.value fuel depth afterColon with
            | error fault => rfl
            | ok read =>
              obtain ⟨item, rest⟩ := read
              simp only [strictly, plainly]
              cases afterMember rest with
              | error fault => rfl
              | ok next =>
                cases next with
                | inr after => rfl
                | inl following =>
                  have placed := done.next fun occurrence =>
                    prefix_of_mem_valueKeys fuel depth (path ++ [key]) afterColon
                  simp only [members_eq_strictly fuel depth path following placed]
                  exact strictly_bind_ok _ _ _

end

/-- Strict reading of a text is plain reading up to the first key completed before in its object. -/
theorem read_eq_strictly (text : String) :
    read text = strictly (firstRepeat [] (completedKeys text)) (Json.read text) := by
  have untouched : Untouched [] [] := fun _ found => absurd found List.not_mem_nil
  have whole := value_eq_strictly (enough text.toList) Json.deepest [] text.toList untouched
  rw [read, Json.read, completedKeys]
  simp only [whole]
  cases firstRepeat [] (valueKeys (enough text.toList) Json.deepest [] text.toList) with
  | some occurrence => rfl
  | none =>
    cases Json.Reader.value (enough text.toList) Json.deepest text.toList with
    | error fault => rfl
    | ok result => cases finished : finish result.2 <;> simp [strictly, plainly, bind, Except.bind, finished]

/-- The first key of a list that already stands before it. -/
def FirstRepeated (keys : List Occurrence) (again : Occurrence) : Prop :=
  ∃ before after, keys = before ++ again :: after ∧ before.Nodup ∧ again ∈ before

theorem firstRepeat_eq_none_iff {earlier keys : List Occurrence} :
    firstRepeat earlier keys = none ↔ keys.Nodup ∧ ∀ occurrence ∈ keys, occurrence ∉ earlier := by
  induction keys generalizing earlier with
  | nil => simp [firstRepeat]
  | cons occurrence keys ih =>
    by_cases known : occurrence ∈ earlier
    · simp [firstRepeat, known]
    · simp only [firstRepeat, known, ↓reduceIte, ih, List.mem_cons, List.nodup_cons, not_or]
      constructor
      · rintro ⟨nodup, apart⟩
        refine ⟨⟨fun mem => (apart occurrence mem).1 rfl, nodup⟩, ?_⟩
        rintro other (rfl | mem)
        · exact known
        · exact (apart other mem).2
      · rintro ⟨⟨new, nodup⟩, apart⟩
        refine ⟨nodup, fun other mem => ⟨?_, apart other (.inr mem)⟩⟩
        rintro rfl
        exact new mem

theorem firstRepeat_of_firstRepeated {keys : List Occurrence} {again : Occurrence}
    (first : FirstRepeated keys again) : firstRepeat [] keys = some again := by
  obtain ⟨before, after, rfl, nodup, mem⟩ := first
  have fresh : firstRepeat [] before = none :=
    firstRepeat_eq_none_iff.2 ⟨nodup, fun _ _ => List.not_mem_nil⟩
  have known : again ∈ before.reverse ++ [] := List.mem_append_left [] (List.mem_reverse.2 mem)
  rw [firstRepeat_append, fresh, Option.none_or, firstRepeat, if_pos known]

theorem firstRepeated_of_eq_some {earlier keys : List Occurrence} {again : Occurrence}
    (found : firstRepeat earlier keys = some again) :
    ∃ before after, keys = before ++ again :: after ∧ before.Nodup ∧
      (∀ occurrence ∈ before, occurrence ∉ earlier) ∧ (again ∈ earlier ∨ again ∈ before) := by
  induction keys generalizing earlier with
  | nil => simp [firstRepeat] at found
  | cons occurrence keys ih =>
    rw [firstRepeat] at found
    split at found
    · rename_i known
      rw [Option.some.injEq] at found
      rw [found] at known ⊢
      exact ⟨[], keys, rfl, List.nodup_nil, fun _ mem => absurd mem List.not_mem_nil, .inl known⟩
    · rename_i new
      obtain ⟨before, after, rfl, nodup, apart, repeated⟩ := ih found
      refine ⟨occurrence :: before, after, rfl, ?_, ?_, ?_⟩
      · rw [List.nodup_cons]
        exact ⟨fun mem => apart occurrence mem List.mem_cons_self, nodup⟩
      · intro other mem known
        rcases List.mem_cons.1 mem with same | later
        · rw [same] at known
          exact new known
        · exact apart other later (List.mem_cons_of_mem occurrence known)
      · rcases repeated with known | later
        · rcases List.mem_cons.1 known with same | old
          · rw [same]
            exact .inr List.mem_cons_self
          · exact .inl old
        · exact .inr (List.mem_cons_of_mem occurrence later)

theorem firstRepeat_of_not_nodup {keys : List Occurrence} (repeats : ¬ keys.Nodup) :
    ∃ again, firstRepeat [] keys = some again ∧ FirstRepeated keys again := by
  cases found : firstRepeat [] keys with
  | none => exact absurd (firstRepeat_eq_none_iff.1 found).1 repeats
  | some again =>
    obtain ⟨before, after, split, nodup, _, known | mem⟩ := firstRepeated_of_eq_some found
    · exact absurd known List.not_mem_nil
    · exact ⟨again, rfl, before, after, split, nodup, mem⟩

theorem read_of_nodup {text : String} (fresh : (completedKeys text).Nodup) :
    read text = plainly (Json.read text) := by
  have none := firstRepeat_eq_none_iff.2 ⟨fresh, fun _ _ => List.not_mem_nil⟩
  rw [read_eq_strictly, none]
  rfl

theorem read_of_not_nodup {text : String} (repeats : ¬ (completedKeys text).Nodup) :
    ∃ again, FirstRepeated (completedKeys text) again ∧
      read text = .error (.repeated ⟨again.path, again.key⟩) := by
  obtain ⟨again, found, first⟩ := firstRepeat_of_not_nodup repeats
  refine ⟨again, first, ?_⟩
  rw [read_eq_strictly, found]
  rfl

/-- What plain reading of an accepted text completes are the keys of the value that the text spells. -/
theorem completedKeys_eq_occurrences {text : String} {value : Json}
    (accepted : Json.read text = .ok value) : completedKeys text = value.occurrences [] := by
  obtain ⟨rest, reading, _⟩ := Json.read_ok accepted
  exact valueKeys_eq_occurrences _ _ [] text.toList reading

/-- Strict reading accepts what plain reading accepts, if no key is repeated. -/
theorem read_eq_ok_iff {text : String} {value : Json} :
    read text = .ok value ↔ Json.read text = .ok value ∧ value.KeysDistinct := by
  have plain : plainly (Json.read text) = .ok value ↔ Json.read text = .ok value := by
    cases Json.read text <;> simp [plainly]
  by_cases fresh : (completedKeys text).Nodup
  · rw [read_of_nodup fresh, plain]
    constructor
    · intro accepted
      rw [completedKeys_eq_occurrences accepted, Json.nodup_occurrences_iff] at fresh
      exact ⟨accepted, fresh⟩
    · exact And.left
  · obtain ⟨again, _, refused⟩ := read_of_not_nodup fresh
    rw [refused]
    constructor
    · exact nofun
    · rintro ⟨accepted, distinct⟩
      rw [completedKeys_eq_occurrences accepted, Json.nodup_occurrences_iff] at fresh
      exact absurd distinct fresh

/-- The error of a key that its object already has. -/
def repetition (again : Occurrence) : SchemaError :=
  .duplicate (RepeatedKey.kind ⟨again.path, again.key⟩) again.key
    (RepeatedKey.context ⟨again.path, again.key⟩)

/-- Strict reading is plain reading followed by a check for repeated keys. Of a text that plain reading
accepts it gives the same value, unless an object among the parts repeats a key; then the first
repetition in text order is reported. Of a text that plain reading rejects it reports the first repeated
key that is complete before the rejection, and the rejection if there is none. -/
theorem read_eq_plain_then_check (text : String) :
    (∀ value, Json.read text = .ok value →
      (∀ result, (read text).mapError SchemaError.ofDocumentFault = .ok result ↔
        value.KeysDistinct ∧ result = value) ∧
      (¬ value.KeysDistinct →
        ∃ again, FirstRepeated (value.occurrences []) again ∧
          (∃ members, value.Leads again.path (.object members) ∧ again.key ∈ members.map (·.1)) ∧
          (read text).mapError SchemaError.ofDocumentFault = .error (repetition again))) ∧
    (∀ fault, Json.read text = .error fault →
      ((completedKeys text).Nodup →
        (read text).mapError SchemaError.ofDocumentFault = .error (.parse (.json fault))) ∧
      (¬ (completedKeys text).Nodup →
        ∃ again, FirstRepeated (completedKeys text) again ∧
          (read text).mapError SchemaError.ofDocumentFault = .error (repetition again))) := by
  constructor
  · intro value accepted
    have keys := completedKeys_eq_occurrences accepted
    constructor
    · intro result
      by_cases distinct : value.KeysDistinct
      · have fresh : (completedKeys text).Nodup := keys ▸ distinct.nodup_occurrences []
        rw [read_of_nodup fresh, accepted]
        simp only [plainly, mapError_ok, Except.ok.injEq, distinct, true_and]
        exact eq_comm
      · have repeats : ¬ (completedKeys text).Nodup := by
          rwa [keys, Json.nodup_occurrences_iff]
        obtain ⟨again, _, refused⟩ := read_of_not_nodup repeats
        rw [refused]
        simp only [mapError_error, reduceCtorEq, distinct, false_and]
    · intro notDistinct
      have repeats : ¬ (completedKeys text).Nodup := by
        rwa [keys, Json.nodup_occurrences_iff]
      obtain ⟨again, first, refused⟩ := read_of_not_nodup repeats
      rw [keys] at first
      refine ⟨again, first, ?_, by rw [refused]; rfl⟩
      obtain ⟨before, after, split, _, _⟩ := first
      have listed : again ∈ value.occurrences [] := by
        rw [split]
        exact List.mem_append_right before List.mem_cons_self
      obtain ⟨path, members, leads, same, key⟩ := Json.mem_occurrences_iff.1 listed
      rw [List.nil_append] at same
      exact ⟨members, same ▸ leads, key⟩
  · intro fault rejected
    constructor
    · intro fresh
      rw [read_of_nodup fresh, rejected]
      rfl
    · intro repeats
      obtain ⟨again, first, refused⟩ := read_of_not_nodup repeats
      exact ⟨again, first, by rw [refused]; rfl⟩

/-- A text without repetition, one that repeats a key inside an array, and a malformed one that repeats a
key before its fault. -/
theorem read_eq_plain_then_check_of_three_texts :
    (read "[\x7b\"b\":[1,null]\x7d]").mapError SchemaError.ofDocumentFault =
        .ok (.array [.object [("b", .array [.natural 1, .null])]]) ∧
      (∃ again, FirstRepeated [⟨[], "a"⟩, ⟨["a", "0"], "b"⟩, ⟨["a", "0"], "b"⟩] again ∧
        (read "\x7b\"a\":[\x7b\"b\":1,\"b\":null\x7d]\x7d").mapError SchemaError.ofDocumentFault =
          .error (repetition again)) ∧
      (∃ again, FirstRepeated [⟨[], "a"⟩, ⟨[], "a"⟩] again ∧
        (read "\x7b\"a\":1,\"\\u0061\":]").mapError SchemaError.ofDocumentFault =
          .error (repetition again)) := by
  refine ⟨?_, ?_, ?_⟩
  · have accepted : Json.read "[\x7b\"b\":[1,null]\x7d]" =
        .ok (.array [.object [("b", .array [.natural 1, .null])]]) := by decide +kernel
    refine (((read_eq_plain_then_check _).1 _ accepted).1 _).2 ⟨?_, rfl⟩
    exact (Json.nodup_occurrences_iff _ []).1 (by decide)
  · have accepted : Json.read "\x7b\"a\":[\x7b\"b\":1,\"b\":null\x7d]\x7d" =
        .ok (.object [("a", .array [.object [("b", .natural 1), ("b", .null)]])]) := by decide +kernel
    have repeats : ¬ Json.KeysDistinct
        (.object [("a", .array [.object [("b", .natural 1), ("b", .null)]])]) := by
      rw [← Json.nodup_occurrences_iff _ []]
      decide
    obtain ⟨again, first, _, refused⟩ := ((read_eq_plain_then_check _).1 _ accepted).2 repeats
    exact ⟨again, first, refused⟩
  · have rejected : Json.read "\x7b\"a\":1,\"\\u0061\":]" = .error .expectedValue := by decide +kernel
    have completed : completedKeys "\x7b\"a\":1,\"\\u0061\":]" = [⟨[], "a"⟩, ⟨[], "a"⟩] := by
      decide +kernel
    have reported := ((read_eq_plain_then_check _).2 _ rejected).2
    rw [completed] at reported
    exact reported (by decide)

end Document

end FieldTypes
