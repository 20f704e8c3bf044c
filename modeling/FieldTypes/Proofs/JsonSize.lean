import FieldTypes.Proofs.JsonParts

set_option autoImplicit false

namespace FieldTypes

def Number.IsInteger : Number → Prop
  | .integer _ => True
  | .float _ => False

/-- An integer that fits 64 bits, with or without a sign, or a floating-point number. -/
def Number.InRange : Number → Prop
  | .integer value => -0x8000000000000000 ≤ value ∧ value < 0x10000000000000000
  | .float _ => True

namespace Json

mutual

/-- How many arrays and objects are open at the innermost part. -/
def nesting : Json → Nat
  | .array items => itemsNesting items + 1
  | .object members => membersNesting members + 1
  | _ => 0

def itemsNesting : List Json → Nat
  | [] => 0
  | item :: items => max (nesting item) (itemsNesting items)

def membersNesting : List (String × Json) → Nat
  | [] => 0
  | (_, value) :: members => max (nesting value) (membersNesting members)

end

mutual

/-- How many parts a value has, itself included. -/
def weight : Json → Nat
  | .array items => itemsWeight items + 1
  | .object members => membersWeight members + 1
  | _ => 1

def itemsWeight : List Json → Nat
  | [] => 0
  | item :: items => weight item + itemsWeight items

def membersWeight : List (String × Json) → Nat
  | [] => 0
  | (_, value) :: members => weight value + membersWeight members

end

theorem nesting_scalar {value : Json} (scalar : value.IsScalar) : value.nesting = 0 := by
  cases value with
  | array | object => exact scalar.elim
  | null | bool | number | string => rfl

theorem weight_scalar {value : Json} (scalar : value.IsScalar) : value.weight = 1 := by
  cases value with
  | array | object => exact scalar.elim
  | null | bool | number | string => rfl

theorem itemsNesting_le_iff {items : List Json} {bound : Nat} :
    itemsNesting items ≤ bound ↔ ∀ item ∈ items, item.nesting ≤ bound := by
  induction items with
  | nil => simp [itemsNesting]
  | cons item items ih => rw [itemsNesting, Nat.max_le, ih, List.forall_mem_cons]

theorem membersNesting_le_iff {members : Members} {bound : Nat} :
    membersNesting members ≤ bound ↔ ∀ member ∈ members, member.2.nesting ≤ bound := by
  induction members with
  | nil => simp [membersNesting]
  | cons member members ih => rw [membersNesting, Nat.max_le, ih, List.forall_mem_cons]

theorem weight_pos (value : Json) : 0 < value.weight := by
  cases value with
  | array items =>
    rw [weight]
    omega
  | object members =>
    rw [weight]
    omega
  | null | bool | number | string => exact Nat.one_pos

theorem weight_le_itemsWeight {items : List Json} {item : Json} (mem : item ∈ items) :
    item.weight ≤ itemsWeight items := by
  induction items with
  | nil => exact absurd mem List.not_mem_nil
  | cons head items ih =>
    rw [itemsWeight]
    rcases List.mem_cons.1 mem with here | later
    · rw [here]
      omega
    · have below := ih later
      omega

theorem weight_le_membersWeight {members : Members} {member : String × Json} (mem : member ∈ members) :
    member.2.weight ≤ membersWeight members := by
  induction members with
  | nil => exact absurd mem List.not_mem_nil
  | cons head members ih =>
    rw [membersWeight]
    rcases List.mem_cons.1 mem with here | later
    · rw [here]
      omega
    · have below := ih later
      omega

theorem length_le_itemsWeight (items : List Json) : items.length ≤ itemsWeight items := by
  induction items with
  | nil => exact Nat.le_refl 0
  | cons item items ih =>
    have positive := weight_pos item
    rw [List.length_cons, itemsWeight]
    omega

theorem Leads.nesting_le {value part : Json} {path : List String} (leads : value.Leads path part) :
    part.nesting + path.length ≤ value.nesting := by
  induction leads with
  | here => exact Nat.le_refl _
  | item found _ ih =>
    have below := itemsNesting_le_iff.1 (Nat.le_refl _) _ (List.mem_of_getElem? found)
    rw [List.length_cons, nesting]
    omega
  | member found _ ih =>
    have below := membersNesting_le_iff.1 (Nat.le_refl _) _ found
    rw [List.length_cons, nesting]
    dsimp only at below
    omega

theorem Leads.weight_le {value part : Json} {path : List String} (leads : value.Leads path part) :
    part.weight ≤ value.weight := by
  induction leads with
  | here => exact Nat.le_refl _
  | item found _ ih =>
    have below := weight_le_itemsWeight (List.mem_of_getElem? found)
    rw [weight]
    omega
  | member found _ ih =>
    have below := weight_le_membersWeight found
    rw [weight]
    dsimp only at below
    omega

/-- A property that every number among the parts has. -/
def EachNumber (property : Number → Prop) (value : Json) : Prop :=
  ∀ path number, value.Leads path (.number number) → property number

section EachNumber

variable {property : Number → Prop}

theorem EachNumber.part {value part : Json} {path : List String} (each : value.EachNumber property)
    (leads : value.Leads path part) : part.EachNumber property := by
  intro more number inside
  exact each (path ++ more) number (leads.trans inside)

theorem eachNumber_number {number : Number} :
    (Json.number number).EachNumber property ↔ property number := by
  constructor
  · intro each
    exact each [] number (.here _)
  · intro holds path other leads
    have scalar : (Json.number number).IsScalar := trivial
    have same := (leads.of_scalar scalar).2
    rw [Json.number.injEq] at same
    rwa [same]

theorem eachNumber_array {items : List Json} :
    (Json.array items).EachNumber property ↔ ∀ item ∈ items, item.EachNumber property := by
  constructor
  · intro each item member
    obtain ⟨position, leads⟩ := leads_of_mem member
    exact each.part leads
  · intro each path number leads
    cases leads with
    | item found inside => exact each _ (List.mem_of_getElem? found) _ _ inside

theorem eachNumber_object {members : Members} :
    (Json.object members).EachNumber property ↔ ∀ member ∈ members, member.2.EachNumber property := by
  constructor
  · intro each member found
    exact each.part (.member found (.here _))
  · intro each path number leads
    cases leads with
    | member found inside => exact each _ found _ _ inside

theorem eachNumber_scalar {value : Json} (scalar : value.IsScalar) (other : ∀ number, value ≠ .number number) :
    value.EachNumber property := by
  intro path number leads
  have same := (leads.of_scalar scalar).2
  exact absurd same.symm (other number)

end EachNumber

end Json

end FieldTypes
