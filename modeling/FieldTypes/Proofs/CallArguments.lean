import FieldTypes.Dispatch.Call

set_option autoImplicit false

namespace FieldTypes.Dispatch

inductive Supply where
  | positional (value : Value)
  | named (name : String) (value : Value)
  deriving DecidableEq, Repr

namespace Supply

def addTo (params : CallParams) : Supply → CallParams
  | positional value => params.positional value
  | named name value => params.named name value

def positional? : Supply → Option Value
  | positional value => some value
  | named _ _ => none

def named? : Supply → Option (String × Value)
  | positional _ => none
  | named name value => some (name, value)

end Supply

/-- The arguments of a call after a sequence of supplies. -/
def CallParams.ofSupplies (supplies : List Supply) : CallParams := supplies.foldl Supply.addTo .empty

def positionals (supplies : List Supply) : List Value := supplies.filterMap Supply.positional?

def nameds (supplies : List Supply) : List (String × Value) := supplies.filterMap Supply.named?

/-- The last value supplied under a name. -/
def lastNamed? (nameds : List (String × Value)) (name : String) : Option Value :=
  (nameds.filter (·.1 == name)).getLast?.map (·.2)

/-- What the param at a position takes: the value at that position if there are that many, else the last
value under its name. -/
def supplied? (supplies : List Supply) (position : Nat) (name : String) : Option Value :=
  if position < (positionals supplies).length then (positionals supplies)[position]?
  else lastNamed? (nameds supplies) name

theorem lastNamed?_cons (first : String × Value) (rest : List (String × Value)) (name : String) :
    lastNamed? (first :: rest) name =
      (lastNamed? rest name).or (if first.1 = name then some first.2 else none) := by
  unfold lastNamed?
  rw [List.filter_cons]
  by_cases same : first.1 = name
  · rw [if_pos (beq_iff_eq.2 same), if_pos same, List.getLast?_cons]
    cases (rest.filter (·.1 == name)).getLast? <;> rfl
  · rw [if_neg (fun found => same (beq_iff_eq.1 found)), if_neg same, Option.or_none]

theorem lastNamed?_append_cons (before : List (String × Value)) {other : String × Value}
    (after : List (String × Value)) {name : String} (differs : other.1 ≠ name) :
    lastNamed? (before ++ other :: after) name = lastNamed? (before ++ after) name := by
  unfold lastNamed?
  rw [List.filter_append, List.filter_append, List.filter_cons_of_neg]
  rwa [beq_iff_eq]

theorem byPosition_foldl (params : CallParams) (supplies : List Supply) :
    (supplies.foldl Supply.addTo params).byPosition = params.byPosition ++ positionals supplies := by
  induction supplies generalizing params with
  | nil => rw [List.foldl_nil, positionals, List.filterMap_nil, List.append_nil]
  | cons supply rest ih =>
    rw [List.foldl_cons, ih]
    cases supply with
    | positional value =>
      show params.byPosition ++ [value] ++ positionals rest = params.byPosition ++ value :: positionals rest
      rw [List.append_assoc, List.singleton_append]
    | named name value => rfl

theorem lookup_byName_foldl (params : CallParams) (supplies : List Supply) (name : String) :
    (supplies.foldl Supply.addTo params).byName.lookup name =
      (lastNamed? (nameds supplies) name).or (params.byName.lookup name) := by
  induction supplies generalizing params with
  | nil => rw [List.foldl_nil, nameds, List.filterMap_nil, lastNamed?, List.filter_nil]; rfl
  | cons supply rest ih =>
    rw [List.foldl_cons, ih]
    cases supply with
    | positional value => rfl
    | named other value =>
      show (lastNamed? (nameds rest) name).or (((other, value) :: params.byName).lookup name) =
        (lastNamed? ((other, value) :: nameds rest) name).or (params.byName.lookup name)
      rw [lastNamed?_cons, Option.or_assoc, List.lookup_cons]
      by_cases same : other = name
      · rw [if_pos same, same, beq_self_eq_true, Option.some_or]
      · rw [if_neg same, beq_eq_false_iff_ne.2 (Ne.symm same), Option.none_or]

theorem lookup?_ofSupplies (supplies : List Supply) (position : Nat) (name : String) :
    (CallParams.ofSupplies supplies).lookup? position name = supplied? supplies position name := by
  unfold CallParams.lookup? CallParams.ofSupplies supplied?
  have start : CallParams.empty.byPosition ++ positionals supplies = positionals supplies := rfl
  have unnamed : CallParams.empty.byName.lookup name = none := rfl
  rw [byPosition_foldl, lookup_byName_foldl, start, unnamed, Option.or_none]
  by_cases inside : position < (positionals supplies).length
  · rw [if_pos inside, List.getElem?_eq_getElem inside]
    rfl
  · rw [if_neg inside, List.getElem?_eq_none (Nat.le_of_not_lt inside)]
    rfl

theorem positionals_insert_named (before after : List Supply) (name : String) (value : Value) :
    positionals (before ++ .named name value :: after) = positionals (before ++ after) := by
  unfold positionals
  rw [List.filterMap_append, List.filterMap_append, List.filterMap_cons_none rfl]

/-- A positional value is out of reach for the params before it. -/
theorem supplied?_insert_positional {before : List Supply} {position : Nat}
    (reached : position < (positionals before).length) (value : Value) (after : List Supply)
    (name : String) :
    supplied? (before ++ .positional value :: after) position name =
      supplied? (before ++ after) position name := by
  have taken : ∀ more, supplied? (before ++ more) position name = (positionals before)[position]? := by
    intro more
    have split : positionals (before ++ more) = positionals before ++ positionals more :=
      List.filterMap_append
    rw [supplied?, split, List.length_append, if_pos (Nat.lt_add_right _ reached),
      List.getElem?_append_left reached]
  rw [taken, taken]

/-- A named value only matters to params of its name, and not to one that has a value at its position. -/
theorem supplied?_insert_named {before after : List Supply} {position : Nat} {param name : String}
    (out : name ≠ param ∨ position < (positionals (before ++ after)).length) (value : Value) :
    supplied? (before ++ .named name value :: after) position param =
      supplied? (before ++ after) position param := by
  unfold supplied?
  rw [positionals_insert_named]
  by_cases inside : position < (positionals (before ++ after)).length
  · rw [if_pos inside, if_pos inside]
  · rw [if_neg inside, if_neg inside]
    have differs := out.resolve_right inside
    have named : nameds (before ++ .named name value :: after) =
        nameds before ++ (name, value) :: nameds after := by
      unfold nameds
      rw [List.filterMap_append]
      rfl
    have unnamed : nameds (before ++ after) = nameds before ++ nameds after := List.filterMap_append
    rw [named, unnamed, lastNamed?_append_cons _ _ differs]

end FieldTypes.Dispatch
