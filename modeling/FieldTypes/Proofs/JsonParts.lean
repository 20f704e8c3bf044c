import FieldTypes.Json.Basic
import Mathlib.Data.List.Nodup

set_option autoImplicit false

namespace FieldTypes.Json

def IsScalar : Json → Prop
  | .array _ | .object _ => False
  | _ => True

mutual

@[elab_as_elim]
theorem induction {motive : Json → Prop} (scalar : ∀ value : Json, value.IsScalar → motive value)
    (array : ∀ items, (∀ item ∈ items, motive item) → motive (.array items))
    (object : ∀ members, (∀ member ∈ members, motive member.2) → motive (.object members)) :
    ∀ value, motive value
  | .null => scalar _ trivial
  | .bool _ => scalar _ trivial
  | .number _ => scalar _ trivial
  | .string _ => scalar _ trivial
  | .array items => array items (induction_items scalar array object items)
  | .object members => object members (induction_members scalar array object members)

theorem induction_items {motive : Json → Prop} (scalar : ∀ value : Json, value.IsScalar → motive value)
    (array : ∀ items, (∀ item ∈ items, motive item) → motive (.array items))
    (object : ∀ members, (∀ member ∈ members, motive member.2) → motive (.object members)) :
    ∀ (items : List Json), ∀ item ∈ items, motive item
  | [], _, found => absurd found List.not_mem_nil
  | head :: items, item, found => by
    rcases List.mem_cons.1 found with here | later
    · rw [here]
      exact induction scalar array object head
    · exact induction_items scalar array object items item later

theorem induction_members {motive : Json → Prop} (scalar : ∀ value : Json, value.IsScalar → motive value)
    (array : ∀ items, (∀ item ∈ items, motive item) → motive (.array items))
    (object : ∀ members, (∀ member ∈ members, motive member.2) → motive (.object members)) :
    ∀ (members : List (String × Json)), ∀ member ∈ members, motive member.2
  | [], _, found => absurd found List.not_mem_nil
  | (_, value) :: members, member, found => by
    rcases List.mem_cons.1 found with here | later
    · rw [here]
      exact induction scalar array object value
    · exact induction_members scalar array object members member later

end

/-- A path of keys and array positions leads from a value to one of its parts. -/
inductive Leads : Json → List String → Json → Prop where
  | here (value : Json) : Leads value [] value
  | item {items : List Json} {position : Nat} {item part : Json} {path : List String}
      (found : items[position]? = some item) (inside : Leads item path part) :
      Leads (.array items) (toString position :: path) part
  | member {members : Members} {key : String} {value part : Json} {path : List String}
      (found : (key, value) ∈ members) (inside : Leads value path part) :
      Leads (.object members) (key :: path) part

/-- No object at any depth has two members with one key. -/
def KeysDistinct (value : Json) : Prop :=
  ∀ path members, value.Leads path (.object members) → (members.map (·.1)).Nodup

theorem Leads.trans {value middle part : Json} {path more : List String}
    (first : value.Leads path middle) (second : middle.Leads more part) :
    value.Leads (path ++ more) part := by
  induction first with
  | here => exact second
  | item found _ ih => exact .item found (ih second)
  | member found _ ih => exact .member found (ih second)

theorem leads_of_mem {items : List Json} {item : Json} (member : item ∈ items) :
    ∃ position : Nat, (Json.array items).Leads [toString position] item := by
  obtain ⟨position, found⟩ := List.mem_iff_getElem?.1 member
  exact ⟨position, .item found (.here item)⟩

theorem Leads.of_scalar {value part : Json} {path : List String} (scalar : value.IsScalar)
    (leads : value.Leads path part) : path = [] ∧ part = value := by
  cases leads with
  | here => exact ⟨rfl, rfl⟩
  | item => exact scalar.elim
  | member => exact scalar.elim

theorem KeysDistinct.part {value part : Json} {path : List String} (distinct : value.KeysDistinct)
    (leads : value.Leads path part) : part.KeysDistinct := by
  intro more members inside
  exact distinct (path ++ more) members (leads.trans inside)

theorem keysDistinct_scalar {value : Json} (scalar : value.IsScalar) : value.KeysDistinct := by
  intro path members leads
  have same := (leads.of_scalar scalar).2
  rw [← same] at scalar
  exact scalar.elim

theorem keysDistinct_array {items : List Json} :
    (Json.array items).KeysDistinct ↔ ∀ item ∈ items, item.KeysDistinct := by
  constructor
  · intro distinct item member
    obtain ⟨position, leads⟩ := leads_of_mem member
    exact distinct.part leads
  · intro each path members leads
    cases leads with
    | item found inside => exact each _ (List.mem_of_getElem? found) _ _ inside

theorem keysDistinct_object {members : Members} :
    (Json.object members).KeysDistinct ↔
      (members.map (·.1)).Nodup ∧ ∀ member ∈ members, member.2.KeysDistinct := by
  constructor
  · intro distinct
    refine ⟨distinct [] members (.here _), ?_⟩
    intro member found
    exact distinct.part (.member found (.here _))
  · rintro ⟨own, each⟩ path inner leads
    cases leads with
    | here => exact own
    | member found inside => exact each _ found _ _ inside

/-- A key as it stands in a text: in the object that a path leads to. -/
structure Occurrence where
  path : List String
  key : String
  deriving DecidableEq, Repr

mutual

/-- The keys of a value that a path leads to, in text order. -/
def occurrences (path : List String) : Json → List Occurrence
  | .array items => itemOccurrences path 0 items
  | .object members => memberOccurrences path members
  | _ => []

def itemOccurrences (path : List String) (position : Nat) : List Json → List Occurrence
  | [] => []
  | item :: items =>
    occurrences (path ++ [toString position]) item ++ itemOccurrences path (position + 1) items

def memberOccurrences (path : List String) : List (String × Json) → List Occurrence
  | [] => []
  | (key, value) :: members =>
    ⟨path, key⟩ :: (occurrences (path ++ [key]) value ++ memberOccurrences path members)

end

theorem occurrences_scalar {value : Json} (scalar : value.IsScalar) (path : List String) :
    value.occurrences path = [] := by
  cases value with
  | array | object => exact scalar.elim
  | null | bool | number | string => rfl

theorem mem_itemOccurrences_iff {path : List String} {first : Nat} {items : List Json}
    {occurrence : Occurrence} :
    occurrence ∈ itemOccurrences path first items ↔
      ∃ (position : Nat) (item : Json), items[position]? = some item ∧
        occurrence ∈ item.occurrences (path ++ [toString (first + position)]) := by
  induction items generalizing first with
  | nil => simp [itemOccurrences]
  | cons head items ih =>
    rw [itemOccurrences, List.mem_append, ih]
    constructor
    · rintro (here | ⟨position, item, found, inside⟩)
      · exact ⟨0, head, rfl, here⟩
      · refine ⟨position + 1, item, found, ?_⟩
        rwa [show first + (position + 1) = first + 1 + position by omega]
    · rintro ⟨position, item, found, inside⟩
      cases position with
      | zero =>
        rw [List.getElem?_cons_zero, Option.some.injEq] at found
        rw [found]
        exact .inl inside
      | succ position =>
        rw [show first + (position + 1) = first + 1 + position by omega] at inside
        exact .inr ⟨position, item, found, inside⟩

theorem mem_memberOccurrences_iff {path : List String} {members : Members} {occurrence : Occurrence} :
    occurrence ∈ memberOccurrences path members ↔
      ∃ member ∈ members, occurrence = ⟨path, member.1⟩ ∨
        occurrence ∈ member.2.occurrences (path ++ [member.1]) := by
  induction members with
  | nil => simp [memberOccurrences]
  | cons head members ih =>
    obtain ⟨key, value⟩ := head
    rw [memberOccurrences, List.mem_cons, List.mem_append, ih]
    simp only [List.mem_cons, exists_eq_or_imp, or_assoc]

/-- The keys listed for a value are those of the objects among its parts. -/
theorem mem_occurrences_iff {value : Json} {base : List String} {occurrence : Occurrence} :
    occurrence ∈ value.occurrences base ↔
      ∃ path members, value.Leads path (.object members) ∧ occurrence.path = base ++ path ∧
        occurrence.key ∈ members.map (·.1) := by
  induction value using Json.induction generalizing base with
  | scalar value scalar =>
    rw [occurrences_scalar scalar]
    constructor
    · exact fun found => absurd found List.not_mem_nil
    · rintro ⟨path, members, leads, _⟩
      have same := (leads.of_scalar scalar).2
      rw [← same] at scalar
      exact scalar.elim
  | array items each =>
    rw [occurrences, mem_itemOccurrences_iff]
    constructor
    · rintro ⟨position, item, found, inside⟩
      rw [Nat.zero_add] at inside
      obtain ⟨path, members, leads, same, key⟩ := (each item (List.mem_of_getElem? found)).1 inside
      rw [List.append_assoc, List.singleton_append] at same
      exact ⟨_, members, .item found leads, same, key⟩
    · rintro ⟨path, members, leads, same, key⟩
      cases leads with
      | item found inside =>
        rw [List.append_cons] at same
        have below := (each _ (List.mem_of_getElem? found)).2 ⟨_, members, inside, same, key⟩
        refine ⟨_, _, found, ?_⟩
        rwa [Nat.zero_add]
  | object members each =>
    rw [occurrences, mem_memberOccurrences_iff]
    constructor
    · rintro ⟨⟨key, value⟩, found, here | inside⟩
      · refine ⟨[], members, .here _, ?_, ?_⟩
        · rw [here, List.append_nil]
        · rw [here]
          exact List.mem_map_of_mem found
      · obtain ⟨path, inner, leads, same, mem⟩ := (each _ found).1 inside
        rw [List.append_assoc, List.singleton_append] at same
        exact ⟨_, inner, .member found leads, same, mem⟩
    · rintro ⟨path, inner, leads, same, key⟩
      cases leads with
      | here =>
        obtain ⟨member, found, named⟩ := List.mem_map.1 key
        refine ⟨member, found, .inl ?_⟩
        obtain ⟨place, name⟩ := occurrence
        rw [List.append_nil] at same
        rw [Occurrence.mk.injEq]
        exact ⟨same, named.symm⟩
      | member found inside =>
        rw [List.append_cons] at same
        exact ⟨_, found, .inr ((each _ found).2 ⟨_, inner, inside, same, key⟩)⟩

theorem prefix_of_mem_occurrences {value : Json} {base : List String} {occurrence : Occurrence}
    (found : occurrence ∈ value.occurrences base) : base <+: occurrence.path := by
  obtain ⟨path, _, _, same, _⟩ := mem_occurrences_iff.1 found
  rw [same]
  exact List.prefix_append base path

theorem toString_injective {first second : Nat} (same : toString first = toString second) :
    first = second := by
  rw [Nat.toString_eq_ofList_toDigits, Nat.toString_eq_ofList_toDigits, String.ofList_inj] at same
  have read := congrArg (Nat.ofDigitChars 10 · 0) same
  simpa only [Nat.ofDigitChars_ten_toDigits] using read

theorem next_segment_unique {path longer : List String} {first second : String}
    (one : path ++ [first] <+: longer) (other : path ++ [second] <+: longer) : first = second := by
  obtain ⟨more, rfl⟩ := one
  rw [List.append_assoc, List.prefix_append_right_inj] at other
  obtain ⟨rest, same⟩ := other
  exact (List.cons.inj same).1.symm

theorem not_prefix_self {path : List String} {key : String} : ¬ path ++ [key] <+: path := by
  intro within
  have shorter := within.length_le
  simp only [List.length_append, List.length_singleton] at shorter
  omega

theorem nodup_itemOccurrences (path : List String) (first : Nat) {items : List Json}
    (each : ∀ item ∈ items, ∀ base, (item.occurrences base).Nodup) :
    (itemOccurrences path first items).Nodup := by
  induction items generalizing first with
  | nil => exact List.nodup_nil
  | cons item items ih =>
    rw [itemOccurrences, List.nodup_append]
    refine ⟨each item List.mem_cons_self _,
      ih (first + 1) fun other mem => each other (List.mem_cons_of_mem item mem), ?_⟩
    rintro occurrence here _ later rfl
    obtain ⟨position, _, _, inside⟩ := mem_itemOccurrences_iff.1 later
    have same := toString_injective
      (next_segment_unique (prefix_of_mem_occurrences here) (prefix_of_mem_occurrences inside))
    omega

theorem nodup_memberOccurrences (path : List String) {members : Members}
    (own : (members.map (·.1)).Nodup)
    (each : ∀ member ∈ members, ∀ base, (member.2.occurrences base).Nodup) :
    (memberOccurrences path members).Nodup := by
  induction members with
  | nil => exact List.nodup_nil
  | cons head members ih =>
    obtain ⟨key, value⟩ := head
    rw [List.map_cons, List.nodup_cons] at own
    rw [memberOccurrences, List.nodup_cons, List.nodup_append]
    refine ⟨?_, each (key, value) List.mem_cons_self _,
      ih own.2 fun other mem => each other (List.mem_cons_of_mem _ mem), ?_⟩
    · rw [List.mem_append, mem_memberOccurrences_iff]
      rintro (inside | ⟨member, found, same | inside⟩)
      · exact not_prefix_self (prefix_of_mem_occurrences inside)
      · rw [Occurrence.mk.injEq] at same
        rw [same.2] at own
        exact own.1 (List.mem_map.2 ⟨member, found, rfl⟩)
      · exact not_prefix_self (prefix_of_mem_occurrences inside)
    · rintro occurrence inside _ later rfl
      have below := prefix_of_mem_occurrences inside
      obtain ⟨member, found, same | deeper⟩ := mem_memberOccurrences_iff.1 later
      · rw [same] at below
        exact not_prefix_self below
      · rw [next_segment_unique below (prefix_of_mem_occurrences deeper)] at own
        exact own.1 (List.mem_map.2 ⟨member, found, rfl⟩)

/-- A value that repeats no key lists no key twice. -/
theorem KeysDistinct.nodup_occurrences {value : Json} (distinct : value.KeysDistinct)
    (base : List String) : (value.occurrences base).Nodup := by
  induction value using Json.induction generalizing base with
  | scalar value scalar =>
    rw [occurrences_scalar scalar]
    exact List.nodup_nil
  | array items each =>
    rw [occurrences]
    have distinct := keysDistinct_array.1 distinct
    exact nodup_itemOccurrences base 0 fun item mem => each item mem (distinct item mem)
  | object members each =>
    rw [occurrences]
    obtain ⟨own, distinct⟩ := keysDistinct_object.1 distinct
    exact nodup_memberOccurrences base own fun member mem => each member mem (distinct member mem)

theorem itemOccurrences_sublist (path : List String) {items : List Json} {position : Nat} {item : Json}
    (found : items[position]? = some item) (first : Nat) :
    (item.occurrences (path ++ [toString (first + position)])).Sublist
      (itemOccurrences path first items) := by
  induction items generalizing position first with
  | nil => simp at found
  | cons head items ih =>
    rw [itemOccurrences]
    cases position with
    | zero =>
      rw [List.getElem?_cons_zero, Option.some.injEq] at found
      rw [found]
      exact List.sublist_append_left _ _
    | succ position =>
      rw [List.getElem?_cons_succ] at found
      have later := ih found (first + 1)
      rw [show first + 1 + position = first + (position + 1) by omega] at later
      exact later.trans (List.sublist_append_right _ _)

theorem memberOccurrences_sublist (path : List String) {members : Members} {key : String}
    {value : Json} (found : (key, value) ∈ members) :
    (value.occurrences (path ++ [key])).Sublist (memberOccurrences path members) := by
  induction members with
  | nil => exact absurd found List.not_mem_nil
  | cons head members ih =>
    obtain ⟨other, held⟩ := head
    rw [memberOccurrences]
    apply List.Sublist.cons
    rcases List.mem_cons.1 found with same | later
    · rw [Prod.mk.injEq] at same
      rw [same.1, same.2]
      exact List.sublist_append_left _ _
    · exact (ih later).trans (List.sublist_append_right _ _)

theorem keys_sublist_memberOccurrences (path : List String) (members : Members) :
    ((members.map (·.1)).map (Occurrence.mk path)).Sublist (memberOccurrences path members) := by
  induction members with
  | nil => exact .slnil
  | cons head members ih =>
    obtain ⟨key, value⟩ := head
    rw [List.map_cons, List.map_cons, memberOccurrences]
    exact (ih.trans (List.sublist_append_right _ _)).cons_cons _

/-- The keys of every object among the parts are listed, in their order, at the path to it. -/
theorem Leads.keys_sublist {value : Json} {path : List String} {members : Members} (base : List String)
    (leads : value.Leads path (.object members)) :
    ((members.map (·.1)).map (Occurrence.mk (base ++ path))).Sublist (value.occurrences base) := by
  generalize target : Json.object members = part at leads
  induction leads generalizing base with
  | here =>
    rw [← target, List.append_nil, occurrences]
    exact keys_sublist_memberOccurrences base members
  | item found _ ih =>
    have inner := itemOccurrences_sublist base found 0
    rw [Nat.zero_add] at inner
    rw [List.append_cons, occurrences]
    exact (ih _ target).trans inner
  | member found _ ih =>
    rw [List.append_cons, occurrences]
    exact (ih _ target).trans (memberOccurrences_sublist base found)

/-- A value repeats no key exactly when its list of keys with their paths has no repetition. -/
theorem nodup_occurrences_iff (value : Json) (base : List String) :
    (value.occurrences base).Nodup ↔ value.KeysDistinct := by
  constructor
  · intro nodup path members leads
    exact ((leads.keys_sublist base).nodup nodup).of_map _
  · exact fun distinct => distinct.nodup_occurrences base

end FieldTypes.Json
