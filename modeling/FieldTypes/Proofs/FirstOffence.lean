import FieldTypes.Proofs.NameIndex
import FieldTypes.Proofs.WellFormedness

set_option autoImplicit false

namespace FieldTypes

/-- A condition on a schema. -/
structure Condition where
  /-- The path of the declaration that the condition is about. -/
  path : String
  holds : Prop
  /-- What is reported if it does not hold. -/
  error : SchemaError

/-- The conditions on the members of a list in order; a member may be compared with those before it. -/
def inOrder {α : Type} (conditions : List α → α → List Condition) (earlier : List α) : List α → List Condition
  | [] => []
  | member :: rest => conditions earlier member ++ inOrder conditions (earlier ++ [member]) rest

def Primitive.conditions (earlier : List Primitive) (primitive : Primitive) : List Condition :=
  [ ⟨s!"primitive type '{primitive.name}'", primitive.name ∉ earlier.map (·.name),
      .duplicate .primitiveType primitive.name "schema"⟩ ]

def Param.conditions (schema : Schema) (type field : String) (earlier : List Param) (param : Param) :
    List Condition :=
  let path := s!"type '{type}' field '{field}' param '{param.name}'"
  let place := Entity.param type field param.name
  [ ⟨path, isIdentifier param.name = true, .invalidIdentifier place param.name⟩
  , ⟨path, param.name ∉ earlier.map (·.name), .duplicate .param param.name s!"type '{type}' field '{field}'"⟩
  , ⟨path, param.index = earlier.length, .indexMismatch place param.index earlier.length⟩
  , ⟨path, param.required = true → param.defaultValue = none ∧ param.defaultValueDoc = none,
      .requiredWithDefault place⟩
  , ⟨path, schema.Declares param.typeName, .unknownType param.typeName place⟩ ]

def Field.conditions (schema : Schema) (type : String) (earlier : List Field) (field : Field) :
    List Condition :=
  let path := s!"type '{type}' field '{field.name}'"
  let place := Entity.field type field.name
  [ ⟨path, isIdentifier field.name = true, .invalidIdentifier place field.name⟩
  , ⟨path, field.name ∉ earlier.map (·.name), .duplicate .field field.name s!"type '{type}'"⟩
  , ⟨path, schema.Declares field.returnType, .unknownType field.returnType place⟩ ] ++
    inOrder (Param.conditions schema type field.name) [] field.params

def TypeDecl.conditions (schema : Schema) (earlier : List TypeDecl) (type : TypeDecl) : List Condition :=
  let path := s!"type '{type.name}'"
  [ ⟨path, isIdentifier type.name = true, .invalidIdentifier (.type type.name) type.name⟩
  , ⟨path, type.name ∉ earlier.map (·.name), .duplicate .type type.name "schema"⟩
  , ⟨path, type.name ∉ schema.primitives.map (·.name),
      .duplicate .type type.name "schema (already a primitive type)"⟩ ] ++
    inOrder (Field.conditions schema type.name) [] type.fields

/-- What is asked of a schema, in document order; the root comes last. -/
def Schema.conditions (schema : Schema) : List Condition :=
  inOrder Primitive.conditions [] schema.primitives ++
    (inOrder (TypeDecl.conditions schema) [] schema.types ++
      [⟨"schema", schema.rootType ∈ schema.types.map (·.name), .unknownRoot schema.rootType⟩])

/-- The declaration that an error names by its path. -/
def SchemaError.entity? : SchemaError → Option Entity
  | .unknownType _ entity | .indexMismatch entity _ _ | .requiredWithDefault entity
  | .invalidIdentifier entity _ => some entity
  | .parse _ | .duplicate _ _ _ | .unknownRoot _ => none

/-- The result of checking conditions one after the other, up to the first that does not hold. -/
inductive Reports : Except SchemaError Unit → List Condition → Prop
  | done : Reports (.ok ()) []
  | met {condition : Condition} {rest : List Condition} {result : Except SchemaError Unit}
      (holds : condition.holds) (later : Reports result rest) : Reports result (condition :: rest)
  | unmet {condition : Condition} {rest : List Condition} (fails : ¬ condition.holds) :
      Reports (.error condition.error) (condition :: rest)

namespace Reports

variable {result next : Except SchemaError Unit} {conditions rest : List Condition}

theorem check {path : String} {holds : Bool} {condition : Prop} {error : SchemaError}
    (decides : holds = true ↔ condition) (later : Reports next rest) :
    Reports (Schema.require holds error >>= fun _ => next) (⟨path, condition, error⟩ :: rest) := by
  cases holds with
  | false =>
    have fails : ¬ condition := fun met => absurd (decides.2 met) Bool.false_ne_true
    exact @unmet ⟨path, condition, error⟩ rest fails
  | true => exact .met (decides.1 rfl) later

theorem append (first : Reports result conditions) (later : Reports next rest) :
    Reports (result >>= fun _ => next) (conditions ++ rest) := by
  induction first with
  | done => exact later
  | met holds _ ih => exact .met holds ih
  | unmet fails => exact .unmet fails

/-- The error is that of the first condition that does not hold. -/
theorem error_iff (reports : Reports result conditions) {error : SchemaError} :
    result = .error error ↔
      ∃ before condition after, conditions = before ++ condition :: after ∧
        (∀ earlier ∈ before, earlier.holds) ∧ ¬ condition.holds ∧ condition.error = error := by
  induction reports with
  | done => simp
  | @met condition rest result holds _ ih =>
    rw [ih]
    constructor
    · rintro ⟨before, unmet, after, rfl, earlier, fails, same⟩
      exact ⟨condition :: before, unmet, after, rfl, List.forall_mem_cons.2 ⟨holds, earlier⟩, fails, same⟩
    · rintro ⟨before, unmet, after, split, earlier, fails, same⟩
      cases before with
      | nil =>
        injection split with first
        exact absurd (first ▸ holds) fails
      | cons first before =>
        injection split with _ split
        exact ⟨before, unmet, after, split, (List.forall_mem_cons.1 earlier).2, fails, same⟩
  -- the first condition fails, so a split further on is contradictory
  | @unmet condition rest fails =>
    constructor
    · intro same
      exact ⟨[], condition, rest, rfl, fun _ => nofun, fails, Except.error.inj same⟩
    · rintro ⟨before, unmet, after, split, earlier, -, same⟩
      cases before with
      | nil =>
        injection split with first
        rw [first, same]
      | cons first before =>
        injection split with head
        exact absurd (head ▸ earlier first List.mem_cons_self) fails

/-- Every unmet condition has the same error, which is then reported. -/
theorem error_of_only (reports : Reports result conditions) {condition : Condition} (mem : condition ∈ conditions)
    (fails : ¬ condition.holds) (only : ∀ other ∈ conditions, other.error ≠ condition.error → other.holds) :
    result = .error condition.error := by
  induction reports with
  | done => cases mem
  | met holds _ ih =>
    rw [List.forall_mem_cons] at only
    rcases List.mem_cons.1 mem with rfl | later
    · exact absurd holds fails
    · exact ih later only.2
  | @unmet first rest failsFirst =>
    by_cases same : first.error = condition.error
    · rw [same]
    · exact absurd (only first List.mem_cons_self same) failsFirst

end Reports

theorem mem_inOrder {α : Type} {conditions : List α → α → List Condition} {earlier before after : List α}
    {member : α} {condition : Condition} (mem : condition ∈ conditions (earlier ++ before) member) :
    condition ∈ inOrder conditions earlier (before ++ member :: after) := by
  induction before generalizing earlier with
  | nil =>
    rw [List.append_nil] at mem
    exact List.mem_append_left _ mem
  | cons first before ih =>
    rw [List.append_cons] at mem
    exact List.mem_append_right _ (ih mem)

namespace Schema

variable {schema : Schema}

theorem unseen_reverse {α : Type} {name : α → String} {earlier : List α} {other : String} :
    (!(earlier.map name).reverse.contains other) = true ↔ other ∉ earlier.map name := by
  rw [unseen_iff, List.mem_reverse]

theorem seen_append {α : Type} (name : α → String) (earlier : List α) (member : α) :
    name member :: (earlier.map name).reverse = ((earlier ++ [member]).map name).reverse := by
  rw [List.map_append, List.reverse_append]
  rfl

theorem reports_validatePrimitives (earlier primitives : List Primitive) :
    Reports (validatePrimitives (earlier.map (·.name)).reverse primitives)
      (inOrder Primitive.conditions earlier primitives) := by
  induction primitives generalizing earlier with
  | nil => exact .done
  | cons primitive rest ih =>
    have later := ih (earlier ++ [primitive])
    rw [← seen_append Primitive.name] at later
    exact .check unseen_reverse later

theorem Built.reports_validateParams (built : Built schema) (type field : String) (earlier params : List Param) :
    Reports (schema.validateParams type field (earlier.map (·.name)).reverse earlier.length params)
      (inOrder (Param.conditions schema type field) earlier params) := by
  induction params generalizing earlier with
  | nil => exact .done
  | cons param rest ih =>
    have noDefault : (!(param.required && param.hasDefault)) = true ↔
        (param.required = true → param.defaultValue = none ∧ param.defaultValueDoc = none) := by
      rw [← Param.hasDefault_eq_false_iff]
      cases param.required <;> simp
    have later := ih (earlier ++ [param])
    rw [List.length_append, ← seen_append Param.name] at later
    exact .check Iff.rfl (.check unseen_reverse (.check beq_iff_eq (.check noDefault
      (.check built.referenceKind?_isSome_iff later))))

theorem Built.reports_validateFields (built : Built schema) (type : String) (earlier fields : List Field) :
    Reports (schema.validateFields type (earlier.map (·.name)).reverse fields)
      (inOrder (Field.conditions schema type) earlier fields) := by
  induction fields generalizing earlier with
  | nil => exact .done
  | cons field rest ih =>
    have later := ih (earlier ++ [field])
    rw [← seen_append Field.name] at later
    have params := built.reports_validateParams type field.name [] field.params
    exact .check Iff.rfl (.check unseen_reverse (.check built.referenceKind?_isSome_iff (params.append later)))

theorem Built.reports_validateTypes (built : Built schema) (earlier types : List TypeDecl) :
    Reports (schema.validateTypes (earlier.map (·.name)).reverse types)
      (inOrder (TypeDecl.conditions schema) earlier types) := by
  induction types generalizing earlier with
  | nil => exact .done
  | cons type rest ih =>
    have later := ih (earlier ++ [type])
    rw [← seen_append TypeDecl.name] at later
    have fields := built.reports_validateFields type.name [] type.fields
    have notPrimitive : (!schema.hasPrimitive type.name) = true ↔ type.name ∉ schema.primitives.map (·.name) := by
      rw [← hasPrimitive_iff, Bool.not_eq_true', Bool.not_eq_true]
    exact .check Iff.rfl (.check unseen_reverse (.check notPrimitive (fields.append later)))

theorem Built.reports_validate (built : Built schema) : Reports schema.validate schema.conditions := by
  have root : Reports (require (schema.hasType schema.rootType) (.unknownRoot schema.rootType) >>= fun _ => .ok ())
      [⟨"schema", schema.rootType ∈ schema.types.map (·.name), .unknownRoot schema.rootType⟩] :=
    .check built.hasType_iff .done
  have last : ∀ check : Except SchemaError Unit, (check >>= fun _ => .ok ()) = check := by
    intro check
    cases check <;> rfl
  rw [last] at root
  exact (reports_validatePrimitives [] schema.primitives).append
    ((built.reports_validateTypes [] schema.types).append root)

/-- Every declaration that the errors of conditions name is named by the path of its condition. -/
def NamedByPath (conditions : List Condition) : Prop :=
  ∀ condition ∈ conditions, ∀ entity, condition.error.entity? = some entity → entity.label = condition.path

theorem namedByPath_append {first second : List Condition} :
    NamedByPath (first ++ second) ↔ NamedByPath first ∧ NamedByPath second :=
  List.forall_mem_append

theorem namedByPath_inOrder {α : Type} {conditions : List α → α → List Condition}
    (each : ∀ earlier member, NamedByPath (conditions earlier member)) (earlier members : List α) :
    NamedByPath (inOrder conditions earlier members) := by
  induction members generalizing earlier with
  | nil => exact fun _ => nofun
  | cons member rest ih => exact namedByPath_append.2 ⟨each earlier member, ih (earlier ++ [member])⟩

theorem namedByPath_conditions (schema : Schema) : NamedByPath schema.conditions := by
  have primitives : ∀ earlier primitive, NamedByPath (Primitive.conditions earlier primitive) := by
    intro earlier primitive condition mem
    rw [Primitive.conditions, List.mem_singleton] at mem
    rintro entity named
    rw [mem] at named
    cases named
  have params : ∀ type field earlier param, NamedByPath (Param.conditions schema type field earlier param) := by
    intro type field earlier param condition mem
    simp only [Param.conditions, List.mem_cons, List.not_mem_nil, or_false] at mem
    rcases mem with rfl | rfl | rfl | rfl | rfl <;> rintro entity ⟨⟩ <;> rfl
  have fields : ∀ type earlier field, NamedByPath (Field.conditions schema type earlier field) := by
    intro type earlier field
    refine namedByPath_append.2
      ⟨fun condition mem => ?_, namedByPath_inOrder (params type field.name) [] field.params⟩
    simp only [List.mem_cons, List.not_mem_nil, or_false] at mem
    rcases mem with rfl | rfl | rfl <;> rintro entity ⟨⟩ <;> rfl
  have types : ∀ earlier type, NamedByPath (TypeDecl.conditions schema earlier type) := by
    intro earlier type
    refine namedByPath_append.2 ⟨fun condition mem => ?_, namedByPath_inOrder (fields type.name) [] type.fields⟩
    simp only [List.mem_cons, List.not_mem_nil, or_false] at mem
    rcases mem with rfl | rfl | rfl
    · rintro entity ⟨⟩
      rfl
    · rintro entity ⟨⟩
    · rintro entity ⟨⟩
  refine namedByPath_append.2 ⟨namedByPath_inOrder primitives [] schema.primitives,
    namedByPath_append.2 ⟨namedByPath_inOrder types [] schema.types, fun condition mem => ?_⟩⟩
  rw [List.mem_singleton] at mem
  rintro entity named
  rw [mem] at named
  cases named

/-- Validation fails exactly if a condition does not hold, with the error of the first such condition in
document order; a declaration that the error names is the one that the condition is about. -/
theorem validate_error_iff_first_unmet (built : Built schema) (error : SchemaError) :
    schema.validate = .error error ↔
      ∃ before condition after, schema.conditions = before ++ condition :: after ∧
        (∀ earlier ∈ before, earlier.holds) ∧ ¬ condition.holds ∧ condition.error = error ∧
        ∀ entity, error.entity? = some entity → entity.label = condition.path := by
  rw [built.reports_validate.error_iff]
  constructor
  · rintro ⟨before, condition, after, split, earlier, fails, rfl⟩
    have mem : condition ∈ schema.conditions := by
      rw [split]
      exact List.mem_append_right before List.mem_cons_self
    exact ⟨before, condition, after, split, earlier, fails, rfl, namedByPath_conditions schema condition mem⟩
  · rintro ⟨before, condition, after, split, earlier, fails, same, -⟩
    exact ⟨before, condition, after, split, earlier, fails, same⟩

/-- The second field of the first type has a misplaced param with a default that it must not have and an
unknown type; a name is repeated by the next type, and the root is unknown. -/
def faultyDeclarations : Schema :=
  ofDeclarations "Line" [⟨"Int", ""⟩]
    [ ⟨"Point", "",
        [ ⟨"x", "", "Int", false, false, [⟨"unit", "", 0, "Point", true, none, none⟩]⟩
        , ⟨"y", "", "Int", false, false,
            [⟨"unit", "", 0, "Int", false, none, none⟩, ⟨"scale", "", 3, "Float", true, some (.natural 1), none⟩]⟩ ]⟩
    , ⟨"Point", "", []⟩ ]

theorem validate_error_iff_first_unmet_of_faultyDeclarations :
    Built faultyDeclarations ∧
      faultyDeclarations.validate = .error (.indexMismatch (.param "Point" "y" "scale") 3 1) ∧
      ∃ before condition after, faultyDeclarations.conditions = before ++ condition :: after ∧
        (∀ earlier ∈ before, earlier.holds) ∧ ¬ condition.holds ∧
        condition.error = .indexMismatch (.param "Point" "y" "scale") 3 1 ∧
        condition.path = "type 'Point' field 'y' param 'scale'" := by
  have built : Built faultyDeclarations := built_ofDeclarations _ _ _
  have refused : faultyDeclarations.validate = .error (.indexMismatch (.param "Point" "y" "scale") 3 1) := by
    decide +kernel
  obtain ⟨before, condition, after, split, earlier, fails, same, named⟩ :=
    (validate_error_iff_first_unmet built _).1 refused
  exact ⟨built, refused, before, condition, after, split, earlier, fails, same, (named _ rfl).symm⟩

end Schema

end FieldTypes
