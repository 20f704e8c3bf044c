import FieldTypes.Proofs.CallArguments
import FieldTypes.Proofs.WellFormedness

set_option autoImplicit false

namespace FieldTypes

open Dispatch

/-- What is supplied for a param may stand there: nothing for an optional one, and no value of another
type. -/
structure Param.Accepts (param : Param) (supplied : Option Value) : Prop where
  present : param.required = true → supplied ≠ none
  typed : ∀ value, supplied = some value → value.typeName = param.typeName

/-- Why what is supplied for a param may not stand there. -/
inductive Param.Refuses (param : Param) : Option Value → Dispatch.Error → Prop
  | missing (required : param.required = true) :
      Refuses param none (.argumentMissing param.name param.typeName)
  | mistyped {value : Value} (differs : value.typeName ≠ param.typeName) :
      Refuses param (some value) (.argumentType param.name param.typeName value.typeName)

/-- What becomes of what is supplied for a param. -/
def Param.take (param : Param) : Option Value → Except Dispatch.Error (Option Value)
  | none =>
    if param.required then .error (.argumentMissing param.name param.typeName) else .ok none
  | some value =>
    if value.typeName = param.typeName then .ok (some value)
    else .error (.argumentType param.name param.typeName value.typeName)

theorem Param.take_ok_iff {param : Param} {supplied result : Option Value} :
    param.take supplied = .ok result ↔ param.Accepts supplied ∧ result = supplied := by
  unfold take
  cases supplied with
  | none =>
    by_cases required : param.required = true
    · simp only [if_pos required, reduceCtorEq, false_iff, not_and]
      exact fun accepts => absurd rfl (accepts.present required)
    · simp only [if_neg required, Except.ok.injEq]
      have accepts : param.Accepts none := ⟨fun needed => absurd needed required, nofun⟩
      exact ⟨fun same => ⟨accepts, same.symm⟩, fun both => both.2.symm⟩
  | some value =>
    by_cases typed : value.typeName = param.typeName
    · simp only [if_pos typed, Except.ok.injEq]
      have accepts : param.Accepts (some value) := ⟨fun _ => nofun, fun _ same => Option.some.inj same ▸ typed⟩
      exact ⟨fun same => ⟨accepts, same.symm⟩, fun both => both.2.symm⟩
    · simp only [if_neg typed, reduceCtorEq, false_iff, not_and]
      exact fun accepts => absurd (accepts.typed value rfl) typed

theorem Param.take_error_iff {param : Param} {supplied : Option Value} {reason : Dispatch.Error} :
    param.take supplied = .error reason ↔ param.Refuses supplied reason := by
  constructor
  · intro failed
    unfold take at failed
    cases supplied with
    | none =>
      by_cases required : param.required = true
      · simp only [if_pos required, Except.error.injEq] at failed
        exact failed ▸ .missing required
      · simp only [if_neg required, reduceCtorEq] at failed
    | some value =>
      by_cases typed : value.typeName = param.typeName
      · simp only [if_pos typed, reduceCtorEq] at failed
      · simp only [if_neg typed, Except.error.injEq] at failed
        exact failed ▸ .mistyped typed
  · intro refuses
    cases refuses with
    | missing required => simp only [take, if_pos required]
    | mistyped differs => simp only [take, if_neg differs]

namespace Dispatch

/-- The extraction of a declared param takes what is looked up for it. -/
theorem extract_resolve (param : Param) (params : CallParams) :
    (Argument.ofParam param.resolve).extract params =
      param.take (params.lookup? param.index param.name) := by
  cases required : param.required with
  | true =>
    have passing : (Argument.ofParam param.resolve).passing = .required := congrArg Passing.ofRequired required
    rw [Argument.extract_of_required passing]
    show (params.get param.index param.name param.typeName).map some = _
    unfold CallParams.get CallParams.getOptional Param.take
    cases params.lookup? param.index param.name with
    | none =>
      rw [required]
      rfl
    | some value =>
      by_cases typed : value.typeName = param.typeName
      · simp only [if_pos typed]
        rfl
      · simp only [if_neg typed]
        rfl
  | false =>
    have passing : (Argument.ofParam param.resolve).passing = .optional := congrArg Passing.ofRequired required
    rw [Argument.extract_of_optional passing]
    show params.getOptional param.index param.name param.typeName = _
    unfold CallParams.getOptional Param.take
    rw [required]
    cases params.lookup? param.index param.name <;> rfl

section Branch

variable {schema : Schema} {type : TypeDecl} {field : Field}

theorem resolve_of_mem (sound : type.Sound schema) (mem : field ∈ type.fields) :
    (Table.ofType type.resolve).resolve field.name = .ok (Branch.ofField field.resolve) := by
  have named := Schema.find?_of_nodup_map sound.fieldNames mem
  have found : (Table.ofType type.resolve).branches.find? (·.member == field.name) =
      some (Branch.ofField field.resolve) := by
    rw [Table.branches_ofType, List.find?_map]
    show (type.fields.find? (·.name == field.name)).map _ = _
    rw [named, Option.map_some]
  rw [Table.resolve, found]

theorem resolve_of_unnamed {member : String} (unnamed : ∀ field ∈ type.fields, field.name ≠ member) :
    (Table.ofType type.resolve).resolve member = .error (.invalidField type.name member) := by
  have found : (Table.ofType type.resolve).branches.find? (·.member == member) = none := by
    rw [List.find?_eq_none]
    intro branch mem
    rw [Table.branches_ofType, List.mem_map] at mem
    obtain ⟨field, declared, rfl⟩ := mem
    rw [beq_iff_eq]
    exact unnamed field declared
  rw [Table.resolve, found]
  rfl

/-- What is supplied for each param is taken, at the position that the param declares. -/
def takeAll (supplies : List Supply) (params : List Param) : Except Error (List (Option Value)) :=
  params.mapM fun param => param.take (supplied? supplies param.index param.name)

theorem mapM_extract (field : Field) (supplies : List Supply) :
    (Branch.ofField field.resolve).arguments.mapM (·.extract (.ofSupplies supplies)) =
      takeAll supplies field.params := by
  rw [Branch.arguments_ofField, List.mapM_map]
  congr 1
  funext param
  rw [Function.comp, extract_resolve, lookup?_ofSupplies]

def suppliedAll (supplies : List Supply) (params : List Param) : List (Option Value) :=
  params.mapIdx fun position param => supplied? supplies position param.name

def AllAccept (supplies : List Supply) (params : List Param) : Prop :=
  ∀ (position : Nat) (param : Param), params[position]? = some param →
    param.Accepts (supplied? supplies position param.name)

/-- The first param that does not accept what is supplied for it refuses with the reason. -/
def FirstRefuses (supplies : List Supply) (params : List Param) (reason : Error) : Prop :=
  ∃ (position : Nat) (param : Param), params[position]? = some param ∧
    param.Refuses (supplied? supplies position param.name) reason ∧
    ∀ earlier < position, ∀ other, params[earlier]? = some other →
      other.Accepts (supplied? supplies earlier other.name)

section Params

variable {supplies : List Supply} {params : List Param}

theorem map_supplied?_index
    (placed : ∀ (position : Nat) (param : Param), params[position]? = some param → param.index = position) :
    params.map (fun param => supplied? supplies param.index param.name) = suppliedAll supplies params := by
  apply List.ext_getElem?
  intro position
  rw [suppliedAll, List.getElem?_map, List.getElem?_mapIdx]
  cases found : params[position]? with
  | none => rfl
  | some param => rw [Option.map_some, Option.map_some, placed position param found]

theorem takeAll_ok_iff
    (placed : ∀ (position : Nat) (param : Param), params[position]? = some param → param.index = position)
    {results : List (Option Value)} :
    takeAll supplies params = .ok results ↔
      AllAccept supplies params ∧ results = suppliedAll supplies params := by
  rw [takeAll, mapM_ok_iff fun _ _ taken => (Param.take_ok_iff.1 taken).2, map_supplied?_index placed]
  refine and_congr_left fun _ => ?_
  constructor
  · intro all position param found
    have accepts := (Param.take_ok_iff.1 (all param (List.mem_of_getElem? found))).1
    rwa [placed position param found] at accepts
  · intro all param mem
    obtain ⟨position, found⟩ := List.getElem?_of_mem mem
    rw [placed position param found]
    exact Param.take_ok_iff.2 ⟨all position param found, rfl⟩

theorem takeAll_error_iff
    (placed : ∀ (position : Nat) (param : Param), params[position]? = some param → param.index = position)
    {reason : Error} :
    takeAll supplies params = .error reason ↔
      FirstRefuses supplies params reason := by
  rw [takeAll, mapM_error_iff, FirstRefuses]
  refine exists_congr fun position => exists_congr fun param => and_congr_right fun found => ?_
  rw [placed position param found, Param.take_error_iff]
  refine and_congr_right fun _ => forall_congr' fun earlier => forall_congr' fun _ =>
    forall_congr' fun other => forall_congr' fun there => ?_
  rw [placed earlier other there]
  simp only [Param.take_ok_iff, exists_and_left, exists_eq, and_true]

end Params

theorem dispatch_of_mem (sound : type.Sound schema) (mem : field ∈ type.fields) (supplies : List Supply) :
    (Table.ofType type.resolve).dispatch field.name (.ofSupplies supplies) =
      (takeAll supplies field.params).map (Call.mk (Branch.ofField field.resolve)) := by
  have opened : (Table.ofType type.resolve).dispatch field.name (.ofSupplies supplies) = (do
      let arguments ← (Branch.ofField field.resolve).arguments.mapM (·.extract (.ofSupplies supplies))
      .ok ⟨Branch.ofField field.resolve, arguments⟩) := by
    rw [Table.dispatch, resolve_of_mem sound mem]
    rfl
  rw [opened, mapM_extract]
  cases takeAll supplies field.params <;> rfl

end Branch

/-- A longer sequence of supplies, or one in another order, that gives each of the params the same. -/
inductive Immaterial (params : List Param) : List Supply → List Supply → Prop
  /-- A value at a position that no param has. -/
  | surplus (before after : List Supply) (value : Value)
      (beyond : params.length ≤ (positionals before).length) :
      Immaterial params (before ++ after) (before ++ .positional value :: after)
  /-- A value under a name that no param has. -/
  | undeclared (before after : List Supply) (name : String) (value : Value)
      (unknown : ∀ param ∈ params, param.name ≠ name) :
      Immaterial params (before ++ after) (before ++ .named name value :: after)
  /-- A value under the name of a param that has one at its position. -/
  | shadowed (before after : List Supply) {param : Param} {position : Nat} (value : Value)
      (found : params[position]? = some param)
      (reached : position < (positionals (before ++ after)).length) :
      Immaterial params (before ++ after) (before ++ .named param.name value :: after)
  /-- Another interleaving of the values by position and those by name. -/
  | interleaved {supplies others : List Supply} (byPosition : positionals supplies = positionals others)
      (byName : nameds supplies = nameds others) : Immaterial params supplies others

theorem Immaterial.supplied?_eq {params : List Param} {supplies others : List Supply}
    (immaterial : Immaterial params supplies others) (names : (params.map (·.name)).Nodup)
    {position : Nat} {param : Param} (found : params[position]? = some param) :
    supplied? others position param.name = supplied? supplies position param.name := by
  have inside : position < params.length := (List.getElem?_eq_some_iff.1 found).1
  cases immaterial with
  | surplus before after value beyond =>
    exact supplied?_insert_positional (Nat.lt_of_lt_of_le inside beyond) value after param.name
  | undeclared before after name value unknown =>
    exact supplied?_insert_named (.inl (unknown param (List.mem_of_getElem? found)).symm) value
  | @shadowed before after other there value foundOther reached =>
    apply supplied?_insert_named
    by_cases same : other.name = param.name
    · -- params of one name stand at one position
      have nameAt : (params.map (·.name))[position]? = some param.name := by
        rw [List.getElem?_map, found, Option.map_some]
      have nameThere : (params.map (·.name))[there]? = some param.name := by
        rw [List.getElem?_map, foundOther, Option.map_some, same]
      -- distinct names tell the positions of the params apart
      have positions : position = there :=
        (List.getElem?_inj (by rwa [List.length_map]) names).1 (nameAt.trans nameThere.symm)
      exact .inr (positions ▸ reached)
    · exact .inl same
  | interleaved byPosition byName => rw [supplied?, supplied?, byPosition, byName]

theorem Immaterial.takeAll_eq {params : List Param} {supplies others : List Supply}
    (immaterial : Immaterial params supplies others) (names : (params.map (·.name)).Nodup)
    (placed : ∀ (position : Nat) (param : Param), params[position]? = some param → param.index = position) :
    takeAll others params = takeAll supplies params := by
  apply mapM_congr
  intro param mem
  obtain ⟨position, found⟩ := List.getElem?_of_mem mem
  rw [placed position param found, immaterial.supplied?_eq names found]

/-- Dispatching a member of a declared type. Only the names of the fields decide about the branch, and only
what is supplied for the field's params about the outcome: the getter is called with all of it if every
param accepts its own, and otherwise the first that does not refuses the call. -/
theorem dispatch_supplied {schema : Schema} {type : TypeDecl} (accepted : schema.validate = .ok ())
    (declared : type ∈ schema.types) (member : String) (supplies : List Supply) :
    ((∀ field ∈ type.fields, field.name ≠ member) →
      (Table.ofType type.resolve).dispatch member (.ofSupplies supplies) =
        .error (.invalidField type.name member)) ∧
    ∀ field ∈ type.fields, field.name = member →
      (∀ call, (Table.ofType type.resolve).dispatch member (.ofSupplies supplies) = .ok call ↔
        AllAccept supplies field.params ∧ call.branch = Branch.ofField field.resolve ∧
          call.branch.getter = getterName member ∧ call.arguments = suppliedAll supplies field.params) ∧
      (∀ reason, (Table.ofType type.resolve).dispatch member (.ofSupplies supplies) = .error reason ↔
        FirstRefuses supplies field.params reason) ∧
      ∀ others, Immaterial field.params supplies others →
        (Table.ofType type.resolve).dispatch member (.ofSupplies others) =
          (Table.ofType type.resolve).dispatch member (.ofSupplies supplies) := by
  have sound := (Schema.validate_ok.1 accepted).types type declared
  refine ⟨fun unnamed => ?_, ?_⟩
  · rw [Table.dispatch, resolve_of_unnamed unnamed]
    rfl
  · rintro field mem rfl
    have fieldSound := sound.fields field mem
    have placed := positions_iff.1 fieldSound.positions
    refine ⟨fun call => ?_, fun reason => ?_, fun others immaterial => ?_⟩
    · rw [dispatch_of_mem sound mem, map_eq_ok]
      simp only [takeAll_ok_iff placed]
      constructor
      · rintro ⟨arguments, ⟨accepts, same⟩, rfl⟩
        exact ⟨accepts, rfl, rfl, same⟩
      · rintro ⟨accepts, branch, -, arguments⟩
        exact ⟨_, ⟨accepts, rfl⟩, by rw [← branch, ← arguments]⟩
    · rw [dispatch_of_mem sound mem, ← takeAll_error_iff placed, map_eq_error]
    · rw [dispatch_of_mem sound mem, dispatch_of_mem sound mem,
        immaterial.takeAll_eq fieldSound.paramNames placed]

/-- A type with a field that takes a required and an optional param. -/
def scaledPoint : TypeDecl :=
  ⟨"Point", "", [⟨"scaled", "", "Point", false, false,
    [ ⟨"m", "", 0, "PrimitiveInt", true, none, none⟩
    , ⟨"n", "", 1, "PrimitiveInt", false, none, none⟩ ]⟩]⟩

/-- A required param by position, shadowing a value of another type under its name, and an optional one by
name; a missing and a mistyped argument; and a member without a field. -/
theorem dispatch_supplied_of_scaledPoint :
    (Schema.ofDeclarations "Point" [⟨"PrimitiveInt", ""⟩] [scaledPoint]).validate = .ok () ∧
      AllAccept [.named "n" (.int 3), .positional (.int 2)] scaledPoint.fields[0].params ∧
      (Table.ofType scaledPoint.resolve).dispatch "scaled"
          (.ofSupplies [.named "n" (.int 3), .positional (.int 2), .named "m" (.bool true)]) =
        .ok ⟨Branch.ofField scaledPoint.fields[0].resolve, [some (.int 2), some (.int 3)]⟩ ∧
      FirstRefuses [.named "n" (.bool true)] scaledPoint.fields[0].params
        (.argumentMissing "m" "PrimitiveInt") ∧
      FirstRefuses [.positional (.int 2), .named "n" (.bool true)] scaledPoint.fields[0].params
        (.argumentType "n" "PrimitiveInt" "PrimitiveBool") ∧
      (Table.ofType scaledPoint.resolve).dispatch "other" (.ofSupplies []) =
        .error (.invalidField "Point" "other") := by
  have accepted : (Schema.ofDeclarations "Point" [⟨"PrimitiveInt", ""⟩] [scaledPoint]).validate = .ok () := by
    decide +kernel
  have declared : scaledPoint ∈ (Schema.ofDeclarations "Point" [⟨"PrimitiveInt", ""⟩] [scaledPoint]).types := by
    decide +kernel
  have field : scaledPoint.fields[0] ∈ scaledPoint.fields := List.getElem_mem _
  have called : (Table.ofType scaledPoint.resolve).dispatch "scaled"
      (.ofSupplies [.named "n" (.int 3), .positional (.int 2)]) =
        .ok ⟨Branch.ofField scaledPoint.fields[0].resolve, [some (.int 2), some (.int 3)]⟩ := by
    decide +kernel
  have scaled := fun supplies => (dispatch_supplied accepted declared "scaled" supplies).2 _ field rfl
  have other := (dispatch_supplied accepted declared "other" []).1
  have accepts := ((scaled [.named "n" (.int 3), .positional (.int 2)]).1 _).1 called
  refine ⟨accepted, accepts.1, ?_, ?_, ?_, ?_⟩
  · have first : scaledPoint.fields[0].params[0]? = some ⟨"m", "", 0, "PrimitiveInt", true, none, none⟩ := rfl
    have shadowed := Immaterial.shadowed [.named "n" (.int 3), .positional (.int 2)] [] (.bool true) first
      (by decide)
    exact ((scaled _).2.2 _ shadowed).trans called
  · exact ((scaled _).2.1 _).1 (by decide +kernel)
  · exact ((scaled _).2.1 _).1 (by decide +kernel)
  · exact other (by decide)

end Dispatch

end FieldTypes
