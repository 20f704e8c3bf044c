import FieldTypes.Proofs.DocumentGrammar
import FieldTypes.Proofs.Lookup

set_option autoImplicit false

namespace FieldTypes

/-- Where an entity stands in a document, by the positions that lead to it. -/
inductive Site where
  | document
  | primitive (position : Nat)
  | type (position : Nat)
  | field (type position : Nat)
  | param (type field position : Nat)
  deriving DecidableEq, Repr

/-- The keys that are read of an entity, each with what its value must be, if that matters. -/
def Site.keys : Site → List (String × Option Expected)
  | .document => [("root_type", some .string), ("primitive_types", some .collection), ("types", some .collection)]
  | .primitive _ => [("name", some .string), ("doc", some .lines)]
  | .type _ => [("name", some .string), ("doc", some .lines), ("fields", some .collection)]
  | .field _ _ =>
    [ ("name", some .string), ("return_type", some .string), ("doc", some .lines), ("return_list", some .boolean)
    , ("null", some .boolean), ("params", some .array) ]
  | .param _ _ _ =>
    [ ("name", some .string), ("index", some .natural), ("type", some .string), ("required", some .boolean)
    , ("doc", some .lines), ("default_value", none), ("default_value_doc", some .lines) ]

/-- The value under a key changes. -/
inductive InMember (key : String) (change : Json → Json → Prop) : Json → Json → Prop
  | value {before after : Json.Members} {old new : Json} (first : before.lookup key = none)
      (changed : change old new) :
      InMember key change (.object (before ++ (key, old) :: after)) (.object (before ++ (key, new) :: after))

/-- One entry of a collection changes, with a position in it and perhaps a key. -/
inductive InCollection (change : Nat → Option String → Json → Json → Prop) : Json → Json → Prop
  | item {before after : List Json} {old new : Json} (changed : change before.length none old new) :
      InCollection change (.array (before ++ old :: after)) (.array (before ++ new :: after))
  | member {before after : Json.Members} {key : String} {old new : Json}
      (changed : change before.length (some key) old new) :
      InCollection change (.object (before ++ (key, old) :: after)) (.object (before ++ (key, new) :: after))

/-- One entity of a document changes: the document as a whole, or an entry of one of its collections. -/
inductive Changed (change : Site → Option String → Json → Json → Prop) : Json → Json → Prop
  | document {old new : Json} (changed : change .document none old new) : Changed change old new
  | primitive {old new : Json}
      (changed : InMember "primitive_types" (InCollection fun position => change (.primitive position)) old new) :
      Changed change old new
  | type {old new : Json}
      (changed : InMember "types" (InCollection fun position => change (.type position)) old new) :
      Changed change old new
  | field {old new : Json}
      (changed : InMember "types" (InCollection fun type _ =>
        InMember "fields" (InCollection fun position => change (.field type position))) old new) :
      Changed change old new
  | param {old new : Json}
      (changed : InMember "types" (InCollection fun type _ =>
        InMember "fields" (InCollection fun field _ =>
          InMember "params" (InCollection fun position => change (.param type field position)))) old new) :
      Changed change old new

/-- The values of two objects agree except under one key. -/
structure DifferAt (key : String) (old new : Json) (before after : Json.Members) : Prop where
  old : before.lookup key = some old
  new : after.lookup key = some new
  others : ∀ other, other ≠ key → after.lookup other = before.lookup other

theorem differAt_around {before after : Json.Members} {key : String} (old new : Json)
    (first : before.lookup key = none) :
    DifferAt key old new (before ++ (key, old) :: after) (before ++ (key, new) :: after) where
  old := lookup_around old first
  new := lookup_around new first
  others other different := by rw [lookup_aside new different, lookup_aside old different]

theorem InMember.differAt {key : String} {change : Json → Json → Prop} {before after : Json}
    (changed : InMember key change before after) :
    ∃ members edited old new, before = .object members ∧ after = .object edited ∧ change old new ∧
      DifferAt key old new members edited := by
  cases changed with
  | @value before after old new first changed =>
    exact ⟨_, _, old, new, rfl, rfl, changed, differAt_around old new first⟩

theorem InCollection.ne_null {change : Nat → Option String → Json → Json → Prop} {before after : Json}
    (changed : InCollection change before after) : before ≠ .null ∧ after ≠ .null := by
  cases changed <;> exact ⟨nofun, nofun⟩

section Altered

variable {ε α β : Type}

/-- What a change makes of a result: without an error nothing, otherwise a success becomes the error. -/
def Altered (error : Option ε) (before after : Except ε α) : Prop :=
  match error with
  | none => after = before
  | some error => ∀ result, before = .ok result → after = .error error

namespace Altered

theorem same (result : Except ε α) : Altered none result result := rfl

theorem eq_error {fault : Option ε} {error : ε} {before after : Except ε α} (altered : Altered fault before after)
    (failed : fault = some error) {result : α} (succeeded : before = .ok result) : after = .error error := by
  rw [failed] at altered
  exact altered result succeeded

/-- Of two changed steps the first that fails has the error. -/
theorem bind {first second : Option ε} {before after : Except ε α} {next changed : α → Except ε β}
    (step : Altered first before after)
    (later : ∀ value, before = .ok value → Altered second (next value) (changed value)) :
    Altered (first.or second) (before >>= next) (after >>= changed) := by
  cases first with
  | some error =>
    intro result done
    obtain ⟨value, found, -⟩ := bind_eq_ok.1 done
    exact bind_eq_error.2 (.inl (step value found))
  | none =>
    -- The first step is as it was, so that the second is reached from the same values.
    have same : after = before := step
    rw [same, Option.none_or]
    cases before with
    | ok value => exact later value rfl
    | error reason =>
      cases second with
      | none => rfl
      | some error =>
        intro result done
        cases done

theorem last {error : Option ε} {before after : Except ε α} (step : Altered error before after)
    (next : α → Except ε β) : Altered error (before >>= next) (after >>= next) := by
  have both := step.bind fun value _ => same (next value)
  rwa [Option.or_none] at both

theorem later {error : Option ε} {before : Except ε α} {next changed : α → Except ε β}
    (step : ∀ value, before = .ok value → Altered error (next value) (changed value)) :
    Altered error (before >>= next) (before >>= changed) := by
  have both := (same before).bind step
  rwa [Option.none_or] at both

end Altered

end Altered

namespace Decoding

section Collections

variable {β : Type} {change : Nat → Option String → Json → Json → Prop} {old new : Json}

@[simp] theorem each_append {α : Type} (decode : Nat → α → Except ParseError β) (position : Nat)
    (first second : List α) :
    each decode position (first ++ second) = (do
      let results ← each decode position first
      let others ← each decode (position + first.length) second
      .ok (results ++ others)) := by
  induction first generalizing position with
  | nil =>
    rw [List.nil_append, each, ok_bind, List.length_nil, Nat.add_zero]
    cases each decode position second <;> rfl
  | cons entry first ih =>
    rw [List.cons_append, each, each, ih, List.length_cons, Nat.add_comm first.length, ← Nat.add_assoc]
    cases decode position entry with
    | error error => rfl
    | ok result =>
      cases each decode (position + 1) first with
      | error error => rfl
      | ok results => cases each decode (position + 1 + first.length) second <;> rfl

theorem each_around {α : Type} (decode : Nat → α → Except ParseError β) (before after : List α) (entry : α) :
    each decode 0 (before ++ entry :: after) = (do
      let results ← each decode 0 before
      let result ← decode before.length entry
      let others ← each decode (before.length + 1) after
      .ok (results ++ result :: others)) := by
  rw [each_append, Nat.zero_add, each]
  simp only [bind_assoc, ok_bind]

theorem each_ok_at {α : Type} {decode : Nat → α → Except ParseError β} (position : Nat) {before after : List α}
    {entry : α} {results : List β} (decoded : each decode position (before ++ entry :: after) = .ok results) :
    ∃ result, results[before.length]? = some result ∧ decode (position + before.length) entry = .ok result := by
  induction before generalizing position results with
  | nil =>
    obtain ⟨result, others, read, -, rfl⟩ := each_cons_ok.1 decoded
    exact ⟨result, rfl, read⟩
  | cons first before ih =>
    obtain ⟨_, others, -, more, rfl⟩ := each_cons_ok.1 decoded
    obtain ⟨result, found, read⟩ := ih (position + 1) more
    refine ⟨result, found, ?_⟩
    rwa [List.length_cons, Nat.add_comm before.length, ← Nat.add_assoc]

theorem each_altered {α : Type} {decode : Nat → α → Except ParseError β} {before after : List α} {old new : α}
    {error : Option ParseError} (entry : Altered error (decode before.length old) (decode before.length new)) :
    Altered error (each decode 0 (before ++ old :: after)) (each decode 0 (before ++ new :: after)) := by
  rw [each_around, each_around]
  exact .later fun results _ => entry.last _

theorem entriesOf_changed (entity : Entity) (key : String) (changed : InCollection change old new) :
    ∃ before name o n after, change (List.length before) name o n ∧
      entriesOf entity key old = .ok (before ++ (name, o) :: after) ∧
      entriesOf entity key new = .ok (before ++ (name, n) :: after) := by
  cases changed with
  | @item before after old new changed =>
    refine ⟨before.map (none, ·), none, old, new, after.map (none, ·), ?_, ?_, ?_⟩
    · rwa [List.length_map]
    · rw [entriesOf_array, List.map_append, List.map_cons]
    · rw [entriesOf_array, List.map_append, List.map_cons]
  | @member before after name old new changed =>
    let entry (member : String × Json) : Entry := (some member.1, member.2)
    refine ⟨before.map entry, some name, old, new, after.map entry, ?_, ?_, ?_⟩
    · rwa [List.length_map]
    · exact congrArg Except.ok List.map_append
    · exact congrArg Except.ok List.map_append

/-- A changed entry of a collection: what it was decoded to stands at its position, and what the change makes
of it is made of the whole. -/
theorem collection_altered (decode : Nat → Entry → Except ParseError β) (entity : Entity) (key : String)
    (changed : InCollection change old new) :
    ∃ position name o n, change position name o n ∧
      (∀ results, (entriesOf entity key old >>= each decode 0) = .ok results →
        ∃ result, results[position]? = some result ∧ decode position (name, o) = .ok result) ∧
      ∀ error, Altered error (decode position (name, o)) (decode position (name, n)) →
        Altered error (entriesOf entity key old >>= each decode 0) (entriesOf entity key new >>= each decode 0) := by
  obtain ⟨before, name, o, n, after, made, ofOld, ofNew⟩ := entriesOf_changed entity key changed
  refine ⟨before.length, name, o, n, made, fun results decoded => ?_, fun error altered => ?_⟩
  · rw [ofOld, ok_bind] at decoded
    obtain ⟨result, found, read⟩ := each_ok_at 0 decoded
    exact ⟨result, found, Nat.zero_add before.length ▸ read⟩
  · rw [ofOld, ofNew]
    exact each_altered altered

end Collections

def primitivesOf (collection : Json) : Except ParseError (List Primitive) :=
  entriesOf .schema "primitive_types" collection >>= each primitive 0

def typesOf (collection : Json) : Except ParseError (List TypeDecl) :=
  entriesOf .schema "types" collection >>= each type 0

def fieldsOf (type : String) (collection : Json) : Except ParseError (List Field) :=
  entriesOf (.type type) "fields" collection >>= each (field type) 0

def paramsOf (type field : String) (collection : Json) : Except ParseError (List Param) :=
  ofKind (.field type field) "params" .array collection.asArray? >>= each (param type field) 0

/-- A changed entry of the params, unless they do not come in an array. -/
theorem paramsOf_altered {change : Nat → Option String → Json → Json → Prop} (type field : String) {old new : Json}
    (changed : InCollection change old new) :
    (∃ error, paramsOf type field old = .error error ∧ paramsOf type field new = .error error) ∨
      ∃ position o n, change position none o n ∧
        (∀ params, paramsOf type field old = .ok params →
          ∃ result, params[position]? = some result ∧ param type field position o = .ok result) ∧
        ∀ error, Altered error (param type field position o) (param type field position n) →
          Altered error (paramsOf type field old) (paramsOf type field new) := by
  cases changed with
  | @item before after old new changed =>
    refine .inr ⟨before.length, old, new, changed, fun params decoded => ?_, fun error altered => ?_⟩
    · obtain ⟨result, found, read⟩ := each_ok_at 0 decoded
      exact ⟨result, found, Nat.zero_add before.length ▸ read⟩
    · exact each_altered altered
  | member changed => exact .inl ⟨.invalidValue (.field type field) "params" .array, rfl, rfl⟩

section Keys

variable {members edited : Json.Members} {entity : Entity} {key : String}

theorem present?_congr (same : edited.lookup key = members.lookup key) :
    present? edited key = present? members key := by
  rw [present?, present?, same]

theorem nameOf_congr {entry : Option String} (same : present? edited "name" = present? members "name") :
    nameOf edited entry entity = nameOf members entry entity := by
  unfold nameOf
  rw [same]

theorem mandatory_congr (same : present? edited key = present? members key) :
    mandatory edited entity key = mandatory members entity key := by
  rw [mandatory, mandatory, same]

theorem stringKey_congr (same : present? edited key = present? members key) :
    stringKey edited entity key = stringKey members entity key := by
  rw [stringKey, stringKey, mandatory_congr same]

theorem boolKey_congr (same : present? edited key = present? members key) :
    boolKey edited entity key = boolKey members entity key := by
  rw [boolKey, boolKey, same]

theorem docKey_congr (same : present? edited "doc" = present? members "doc") :
    docKey edited entity = docKey members entity := by
  rw [docKey, docKey, same]

theorem primitivesKey_congr (same : present? edited "primitive_types" = present? members "primitive_types") :
    primitivesKey edited = primitivesKey members := by
  rw [primitivesKey, primitivesKey, same]

end Keys

section Entities

variable {position : Nat} {key : Option String} {members edited : Json.Members} {a b c d e f : Option ParseError}

theorem primitive_altered
    (name : Altered a (nameOf members key (.primitiveAt position)) (nameOf edited key (.primitiveAt position)))
    (doc : ∀ name, nameOf members key (.primitiveAt position) = .ok name →
      Altered b (docKey members (.primitive name)) (docKey edited (.primitive name))) :
    Altered (a.or b) (primitive position (key, .object members)) (primitive position (key, .object edited)) :=
  name.bind fun name named => (doc name named).last _

theorem param_altered {type field : String}
    (name : Altered a (nameOf members none (.paramAt type field position))
      (nameOf edited none (.paramAt type field position)))
    (index : ∀ name, nameOf members none (.paramAt type field position) = .ok name →
      Altered b (indexKey members (.param type field name) position)
        (indexKey edited (.param type field name) position))
    (typeName : ∀ name, nameOf members none (.paramAt type field position) = .ok name →
      Altered c (stringKey members (.param type field name) "type")
        (stringKey edited (.param type field name) "type"))
    (required : ∀ name, nameOf members none (.paramAt type field position) = .ok name →
      Altered d (requiredKey members (.param type field name)) (requiredKey edited (.param type field name)))
    (doc : ∀ name, nameOf members none (.paramAt type field position) = .ok name →
      Altered e (docKey members (.param type field name)) (docKey edited (.param type field name)))
    (defaultDoc : ∀ name, nameOf members none (.paramAt type field position) = .ok name →
      Altered f (defaultDocKey members (.param type field name)) (defaultDocKey edited (.param type field name)))
    (default : present? edited "default_value" = present? members "default_value") :
    Altered (a.or (b.or (c.or (d.or (e.or f))))) (param type field position (.object members))
      (param type field position (.object edited)) := by
  simp only [param, membersOf, Json.asObject?, ok_bind, default]
  exact name.bind fun name named => (index name named).bind fun _ _ => (typeName name named).bind fun _ _ =>
    (required name named).bind fun _ _ => (doc name named).bind fun _ _ => (defaultDoc name named).last _

theorem field_altered {type : String}
    (name : Altered a (nameOf members key (.fieldAt type position)) (nameOf edited key (.fieldAt type position)))
    (returnType : ∀ name, nameOf members key (.fieldAt type position) = .ok name →
      Altered b (stringKey members (.field type name) "return_type")
        (stringKey edited (.field type name) "return_type"))
    (doc : ∀ name, nameOf members key (.fieldAt type position) = .ok name →
      Altered c (docKey members (.field type name)) (docKey edited (.field type name)))
    (returnList : ∀ name, nameOf members key (.fieldAt type position) = .ok name →
      Altered d (boolKey members (.field type name) "return_list") (boolKey edited (.field type name) "return_list"))
    (nullable : ∀ name, nameOf members key (.fieldAt type position) = .ok name →
      Altered e (boolKey members (.field type name) "null") (boolKey edited (.field type name) "null"))
    (params : ∀ name, nameOf members key (.fieldAt type position) = .ok name →
      Altered f (paramsKey members type name) (paramsKey edited type name)) :
    Altered (a.or (b.or (c.or (d.or (e.or f))))) (field type position (key, .object members))
      (field type position (key, .object edited)) :=
  name.bind fun name named => (returnType name named).bind fun _ _ => (doc name named).bind fun _ _ =>
    (returnList name named).bind fun _ _ => (nullable name named).bind fun _ _ => (params name named).last _

theorem type_altered
    (name : Altered a (nameOf members key (.typeAt position)) (nameOf edited key (.typeAt position)))
    (doc : ∀ name, nameOf members key (.typeAt position) = .ok name →
      Altered b (docKey members (.type name)) (docKey edited (.type name)))
    (fields : ∀ name, nameOf members key (.typeAt position) = .ok name →
      Altered c (mandatory members (.type name) "fields" >>= fieldsOf name)
        (mandatory edited (.type name) "fields" >>= fieldsOf name)) :
    Altered (a.or (b.or c)) (type position (key, .object members)) (type position (key, .object edited)) := by
  refine name.bind fun name named => (doc name named).bind fun doc _ => ?_
  have whole := (fields name named).last fun fields => .ok (⟨name, doc, fields⟩ : TypeDecl)
  simpa only [fieldsOf, bind_assoc] using whole

theorem ofDocument_altered
    (root : Altered a (stringKey members .schema "root_type") (stringKey edited .schema "root_type"))
    (primitives : Altered b (primitivesKey members) (primitivesKey edited))
    (types : Altered c (mandatory members .schema "types" >>= typesOf)
      (mandatory edited .schema "types" >>= typesOf)) :
    Altered (a.or (b.or c)) (Schema.ofDocument (.object members)) (Schema.ofDocument (.object edited)) := by
  refine root.bind fun rootType _ => primitives.bind fun primitives _ => ?_
  have whole := types.last fun types => .ok (Schema.ofDeclarations rootType primitives types)
  simpa only [typesOf, bind_assoc] using whole

section Parts

variable {old new : Json} {error : Option ParseError}

theorem optional_at {α : Type} {key : String} (differ : DifferAt key old new members edited)
    (given : old ≠ .null ∧ new ≠ .null) (default : Except ParseError α) (read : Json → Except ParseError α)
    (altered : Altered error (read old) (read new)) :
    Altered error (match present? members key with | none => default | some value => read value)
      (match present? edited key with | none => default | some value => read value) := by
  rw [present?_eq_some_iff.2 ⟨differ.old, given.1⟩, present?_eq_some_iff.2 ⟨differ.new, given.2⟩]
  exact altered

theorem mandatory_at {α : Type} {key : String} {entity : Entity} (differ : DifferAt key old new members edited)
    (given : old ≠ .null ∧ new ≠ .null) {read : Json → Except ParseError α}
    (altered : Altered error (read old) (read new)) :
    Altered error (mandatory members entity key >>= read) (mandatory edited entity key >>= read) := by
  rw [mandatory_ok.2 (present?_eq_some_iff.2 ⟨differ.old, given.1⟩),
    mandatory_ok.2 (present?_eq_some_iff.2 ⟨differ.new, given.2⟩)]
  exact altered

theorem present?_aside {key other : String} (differ : DifferAt key old new members edited)
    (different : other ≠ key) : present? edited other = present? members other :=
  present?_congr (differ.others other different)

theorem field_altered_params {type : String} (differ : DifferAt "params" old new members edited)
    (given : old ≠ .null ∧ new ≠ .null)
    (params : ∀ name, nameOf members key (.fieldAt type position) = .ok name →
      Altered error (paramsOf type name old) (paramsOf type name new)) :
    Altered error (field type position (key, .object members)) (field type position (key, .object edited)) :=
  field_altered (a := none) (b := none) (c := none) (d := none) (e := none)
    (nameOf_congr (present?_aside differ (by decide)))
    (fun _ _ => stringKey_congr (present?_aside differ (by decide)))
    (fun _ _ => docKey_congr (present?_aside differ (by decide)))
    (fun _ _ => boolKey_congr (present?_aside differ (by decide)))
    (fun _ _ => boolKey_congr (present?_aside differ (by decide)))
    fun name named => optional_at differ given (.ok []) (paramsOf type name) (params name named)

theorem type_altered_fields (differ : DifferAt "fields" old new members edited) (given : old ≠ .null ∧ new ≠ .null)
    (fields : ∀ name, nameOf members key (.typeAt position) = .ok name →
      Altered error (fieldsOf name old) (fieldsOf name new)) :
    Altered error (type position (key, .object members)) (type position (key, .object edited)) :=
  type_altered (a := none) (b := none) (nameOf_congr (present?_aside differ (by decide)))
    (fun _ _ => docKey_congr (present?_aside differ (by decide)))
    fun name named => mandatory_at differ given (fields name named)

theorem ofDocument_altered_primitives (differ : DifferAt "primitive_types" old new members edited)
    (given : old ≠ .null ∧ new ≠ .null) (primitives : Altered error (primitivesOf old) (primitivesOf new)) :
    Altered error (Schema.ofDocument (.object members)) (Schema.ofDocument (.object edited)) := by
  have types : mandatory edited .schema "types" = mandatory members .schema "types" :=
    mandatory_congr (present?_aside differ (by decide))
  have whole := ofDocument_altered (a := none) (c := none) (stringKey_congr (present?_aside differ (by decide)))
    (optional_at differ given (.ok []) primitivesOf primitives) (congrArg (· >>= typesOf) types)
  rwa [Option.none_or, Option.or_none] at whole

theorem ofDocument_altered_types (differ : DifferAt "types" old new members edited)
    (given : old ≠ .null ∧ new ≠ .null) (types : Altered error (typesOf old) (typesOf new)) :
    Altered error (Schema.ofDocument (.object members)) (Schema.ofDocument (.object edited)) :=
  ofDocument_altered (a := none) (b := none) (stringKey_congr (present?_aside differ (by decide)))
    (primitivesKey_congr (present?_aside differ (by decide))) (mandatory_at differ given types)

end Parts

end Entities

end Decoding

end FieldTypes
