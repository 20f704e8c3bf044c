import FieldTypes.Proofs.EntityChanges
import Mathlib.Logic.Relation

set_option autoImplicit false

namespace FieldTypes

/-- What may be written for a key that is left out. -/
def Site.defaults : Site → List (String × Json)
  | .document => [("primitive_types", .array [])]
  | .primitive _ => [("doc", .string "")]
  | .type _ => [("doc", .string "")]
  | .field _ _ => [("doc", .string ""), ("return_list", .bool false), ("null", .bool false), ("params", .array [])]
  | .param _ _ position => [("index", .natural position), ("doc", .string "")]

/-- A member that may as well be left out: its key is not read, or it has no value or the default. -/
inductive Site.Idle (site : Site) : String → Json → Prop
  | unread {key : String} {value : Json} (unread : ∀ expected, (key, expected) ∉ site.keys) : Idle site key value
  | null {key : String} (optional : key ≠ "required") : Idle site key .null
  | default {key : String} {value : Json} (default : (key, value) ∈ site.defaults) : Idle site key value

/-- An entity is presented otherwise. -/
inductive Retouched (site : Site) : Json → Json → Prop
  | reordered {members other : Json.Members} (distinct : (members.map (·.1)).Nodup) (perm : members.Perm other) :
      Retouched site (.object members) (.object other)
  | added {before after : Json.Members} {key : String} {value : Json} (absent : (before ++ after).lookup key = none)
      (idle : site.Idle key value) :
      Retouched site (.object (before ++ after)) (.object (before ++ (key, value) :: after))
  | joined {before after : Json.Members} {key : String} {lines : List String} (first : before.lookup key = none)
      (doc : (key, some .lines) ∈ site.keys) :
      Retouched site (.object (before ++ (key, .strings lines) :: after))
        (.object (before ++ (key, .string ("\n".intercalate lines)) :: after))

/-- A key that is read, and whose value other than null can be written in one way. -/
def Site.Plain (site : Site) (key : String) : Prop :=
  (∃ expected, (key, expected) ∈ site.keys) ∧ (∀ value, (key, value) ∉ site.defaults) ∧
    (key, some .lines) ∉ site.keys

/-- Values of a key that mean the same. -/
inductive SameMeaning (site : Site) (key : String) : Option Json → Option Json → Prop
  | same (value : Option Json) : SameMeaning site key value value
  | null (optional : key ≠ "required") : SameMeaning site key none (some .null)
  | default {value : Json} (default : (key, value) ∈ site.defaults) : SameMeaning site key none (some value)
  | joined (lines : List String) (doc : (key, some .lines) ∈ site.keys) :
      SameMeaning site key (some (.strings lines)) (some (.string ("\n".intercalate lines)))

namespace Retouched

open Decoding

variable {site : Site} {members other : Json.Members}

theorem sameMeaning_lookup (retouched : Retouched site (.object members) (.object other)) {key : String}
    (recognised : ∃ expected, (key, expected) ∈ site.keys) :
    SameMeaning site key (members.lookup key) (other.lookup key) := by
  cases retouched with
  | reordered distinct perm =>
    rw [lookup_perm distinct perm]
    exact .same _
  | @added before after added value absent idle =>
    by_cases here : key = added
    · subst here
      have first : before.lookup key = none := by
        rw [List.lookup_append, Option.or_eq_none_iff] at absent
        exact absent.1
      rw [absent, lookup_around value first]
      cases idle with
      | unread unread =>
        obtain ⟨expected, recognised⟩ := recognised
        exact absurd recognised (unread expected)
      | null optional => exact .null optional
      | default default => exact .default default
    · rw [lookup_aside value here]
      exact .same _
  | @joined before after joined lines first doc =>
    by_cases here : key = joined
    · subst here
      rw [lookup_around _ first, lookup_around _ first]
      exact .joined lines doc
    · rw [lookup_aside _ here, lookup_aside _ here]
      exact .same _

section Readers

variable {entity : Entity} {key : String}

theorem present?_eq (retouched : Retouched site (.object members) (.object other)) (plain : site.Plain key) :
    present? other key = present? members key := by
  have meaning := retouched.sameMeaning_lookup plain.1
  rw [present?_eq_filter, present?_eq_filter]
  generalize members.lookup key = before, other.lookup key = after at meaning
  cases meaning with
  | same => rfl
  | null => rfl
  | default default => exact absurd default (plain.2.1 _)
  | joined lines doc => exact absurd doc plain.2.2

/-- Whether a param is required must be said, so that null is no value like any other there. -/
theorem requiredKey_eq (retouched : Retouched site (.object members) (.object other))
    (plain : site.Plain "required") : requiredKey other entity = requiredKey members entity := by
  have meaning := retouched.sameMeaning_lookup plain.1
  rw [requiredKey, requiredKey]
  generalize members.lookup "required" = before, other.lookup "required" = after at meaning
  cases meaning with
  | same => rfl
  | null optional => exact absurd rfl optional
  | default default => exact absurd default (plain.2.1 _)
  | joined lines doc => exact absurd doc plain.2.2

theorem optional_eq {α : Type} (retouched : Retouched site (.object members) (.object other))
    (recognised : ∃ expected, (key, expected) ∈ site.keys) {default : Except ParseError α}
    {read : Json → Except ParseError α} (neutral : ∀ value, (key, value) ∈ site.defaults → read value = default)
    (joined : (key, some .lines) ∈ site.keys →
      ∀ lines, read (.string ("\n".intercalate lines)) = read (.strings lines)) :
    (match present? other key with | none => default | some value => read value) =
      match present? members key with | none => default | some value => read value := by
  have meaning := retouched.sameMeaning_lookup recognised
  rw [present?_eq_filter, present?_eq_filter]
  generalize members.lookup key = before, other.lookup key = after at meaning
  cases meaning with
  | same => rfl
  | null => rfl
  | @default value default =>
    cases value with
    | null => rfl
    | _ => exact neutral _ default
  | joined lines doc => exact joined doc lines

theorem linesValue?_joined (lines : List String) :
    linesValue? (.string ("\n".intercalate lines)) = linesValue? (.strings lines) :=
  (linesValue?_strings lines).symm

theorem docKey_eq (retouched : Retouched site (.object members) (.object other))
    (recognised : ∃ expected, ("doc", expected) ∈ site.keys)
    (neutral : ∀ value, ("doc", value) ∈ site.defaults → value = .string "") :
    docKey other entity = docKey members entity := by
  refine retouched.optional_eq recognised (fun value default => ?_) fun _ lines => ?_
  · rw [neutral value default]
    rfl
  · rw [linesValue?_joined]

theorem boolKey_eq (retouched : Retouched site (.object members) (.object other))
    (recognised : ∃ expected, (key, expected) ∈ site.keys) (single : (key, some .lines) ∉ site.keys)
    (neutral : ∀ value, (key, value) ∈ site.defaults → value = .bool false) :
    boolKey other entity key = boolKey members entity key := by
  refine retouched.optional_eq recognised (fun value default => ?_) fun doc => absurd doc single
  rw [neutral value default]
  rfl

end Readers

section Entities

variable {old new : Json} {position : Nat} {key : Option String}

theorem exists_objects (retouched : Retouched site old new) :
    ∃ members other, old = .object members ∧ new = .object other := by
  cases retouched <;> exact ⟨_, _, rfl, rfl⟩

theorem primitive_eq (retouched : Retouched (.primitive position) old new) :
    primitive position (key, new) = primitive position (key, old) := by
  obtain ⟨members, other, rfl, rfl⟩ := retouched.exists_objects
  refine primitive_altered (a := none) (b := none) (nameOf_congr (retouched.present?_eq ?_))
    fun _ _ => retouched.docKey_eq ?_ ?_
  · simp [Site.Plain, Site.keys, Site.defaults]
  · simp [Site.keys]
  · simp [Site.defaults]

theorem param_eq {type field : String} {owner parent : Nat}
    (retouched : Retouched (.param owner parent position) old new) :
    param type field position new = param type field position old := by
  obtain ⟨members, other, rfl, rfl⟩ := retouched.exists_objects
  have plain (key : String) (mem : key ∈ ["name", "type", "required", "default_value"]) :
      (Site.param owner parent position).Plain key := by
    simp only [List.mem_cons, List.not_mem_nil, or_false] at mem
    rcases mem with rfl | rfl | rfl | rfl <;> simp [Site.Plain, Site.keys, Site.defaults]
  refine param_altered (a := none) (b := none) (c := none) (d := none) (e := none) (f := none)
    (nameOf_congr (retouched.present?_eq (plain "name" (by decide)))) (fun _ _ => ?_)
    (fun _ _ => stringKey_congr (retouched.present?_eq (plain "type" (by decide))))
    (fun _ _ => retouched.requiredKey_eq (plain "required" (by decide))) (fun _ _ => retouched.docKey_eq ?_ ?_)
    (fun _ _ => ?_) (retouched.present?_eq (plain "default_value" (by decide)))
  · refine retouched.optional_eq (by simp [Site.keys]) (fun value default => ?_) fun doc => ?_
    · obtain rfl : value = .natural position := by simpa [Site.defaults] using default
      rfl
    · simp [Site.keys] at doc
  · simp [Site.keys]
  · simp [Site.defaults]
  · refine retouched.optional_eq (by simp [Site.keys]) (fun value default => ?_) fun _ lines => ?_
    · simp [Site.defaults] at default
    · rw [linesValue?_joined]

theorem field_eq {type : String} {owner : Nat} (retouched : Retouched (.field owner position) old new) :
    field type position (key, new) = field type position (key, old) := by
  obtain ⟨members, other, rfl, rfl⟩ := retouched.exists_objects
  have plain (key : String) (mem : key ∈ ["name", "return_type"]) : (Site.field owner position).Plain key := by
    simp only [List.mem_cons, List.not_mem_nil, or_false] at mem
    rcases mem with rfl | rfl <;> simp [Site.Plain, Site.keys, Site.defaults]
  have flag (key : String) (mem : key ∈ ["return_list", "null"]) (entity : Entity) :
      boolKey other entity key = boolKey members entity key := by
    simp only [List.mem_cons, List.not_mem_nil, or_false] at mem
    rcases mem with rfl | rfl <;> refine retouched.boolKey_eq ?_ ?_ ?_ <;> simp [Site.keys, Site.defaults]
  refine field_altered (a := none) (b := none) (c := none) (d := none) (e := none) (f := none)
    (nameOf_congr (retouched.present?_eq (plain "name" (by decide))))
    (fun _ _ => stringKey_congr (retouched.present?_eq (plain "return_type" (by decide))))
    (fun _ _ => retouched.docKey_eq ?_ ?_) (fun _ _ => flag "return_list" (by decide) _)
    (fun _ _ => flag "null" (by decide) _)
    fun name _ => retouched.optional_eq ?_ (fun value default => ?_) fun doc => ?_
  · simp [Site.keys]
  · simp [Site.defaults]
  · simp [Site.keys]
  · obtain rfl : value = .array [] := by simpa [Site.defaults] using default
    rfl
  · simp [Site.keys] at doc

theorem type_eq (retouched : Retouched (.type position) old new) :
    type position (key, new) = type position (key, old) := by
  obtain ⟨members, other, rfl, rfl⟩ := retouched.exists_objects
  refine type_altered (a := none) (b := none) (c := none) (nameOf_congr (retouched.present?_eq ?_))
    (fun _ _ => retouched.docKey_eq ?_ ?_)
    fun name _ => congrArg (· >>= fieldsOf name) (mandatory_congr (retouched.present?_eq ?_))
  all_goals simp [Site.Plain, Site.keys, Site.defaults]

theorem ofDocument_eq (retouched : Retouched .document old new) : Schema.ofDocument new = Schema.ofDocument old := by
  obtain ⟨members, other, rfl, rfl⟩ := retouched.exists_objects
  have root : Site.document.Plain "root_type" := by simp [Site.Plain, Site.keys, Site.defaults]
  have types : Site.document.Plain "types" := by simp [Site.Plain, Site.keys, Site.defaults]
  refine ofDocument_altered (a := none) (b := none) (c := none) (stringKey_congr (retouched.present?_eq root))
    (retouched.optional_eq ?_ (fun value default => ?_) fun doc => ?_)
    (congrArg (· >>= typesOf) (mandatory_congr (retouched.present?_eq types)))
  · simp [Site.keys]
  · obtain rfl : value = .array [] := by simpa [Site.defaults] using default
    rfl
  · simp [Site.keys] at doc

end Entities

end Retouched

namespace Decoding

section Parts

variable {inner : Nat → Option String → Json → Json → Prop} {old new : Json} {position : Nat} {key : Option String}

theorem primitives_congr (changed : InMember "primitive_types" (InCollection inner) old new)
    (same : ∀ position key o n, inner position key o n → primitive position (key, n) = primitive position (key, o)) :
    Schema.ofDocument new = Schema.ofDocument old := by
  obtain ⟨members, edited, collection, other, rfl, rfl, changed, differ⟩ := changed.differAt
  obtain ⟨position, key, o, n, made, -, lifts⟩ := collection_altered primitive .schema "primitive_types" changed
  exact ofDocument_altered_primitives differ changed.ne_null (lifts none (same position key o n made))

theorem types_congr (changed : InMember "types" (InCollection inner) old new)
    (same : ∀ position key o n, inner position key o n → type position (key, n) = type position (key, o)) :
    Schema.ofDocument new = Schema.ofDocument old := by
  obtain ⟨members, edited, collection, other, rfl, rfl, changed, differ⟩ := changed.differAt
  obtain ⟨position, key, o, n, made, -, lifts⟩ := collection_altered type .schema "types" changed
  exact ofDocument_altered_types differ changed.ne_null (lifts none (same position key o n made))

theorem fields_congr (changed : InMember "fields" (InCollection inner) old new)
    (same : ∀ owner position key o n, inner position key o n →
      field owner position (key, n) = field owner position (key, o)) :
    type position (key, new) = type position (key, old) := by
  obtain ⟨members, edited, collection, other, rfl, rfl, changed, differ⟩ := changed.differAt
  have fields (name : String) : Altered none (fieldsOf name collection) (fieldsOf name other) := by
    obtain ⟨position, key, o, n, made, -, lifts⟩ := collection_altered (field name) (.type name) "fields" changed
    exact lifts none (same name position key o n made)
  exact type_altered_fields differ changed.ne_null fun name _ => fields name

theorem params_congr {owner : String} (changed : InMember "params" (InCollection inner) old new)
    (same : ∀ parent position o n, inner position none o n →
      param owner parent position n = param owner parent position o) :
    field owner position (key, new) = field owner position (key, old) := by
  obtain ⟨members, edited, collection, other, rfl, rfl, changed, differ⟩ := changed.differAt
  have params (name : String) : Altered none (paramsOf owner name collection) (paramsOf owner name other) := by
    rcases paramsOf_altered owner name changed with ⟨error, before, after⟩ | ⟨position, o, n, made, -, lifts⟩
    · exact after.trans before.symm
    · exact lifts none (same name position o n made)
  exact field_altered_params differ changed.ne_null fun name _ => params name

end Parts

end Decoding

namespace Schema

open Decoding

theorem ofDocument_retouched {document edited : Json}
    (changed : Changed (fun site _ old new => Retouched site old new) document edited) :
    ofDocument edited = ofDocument document := by
  cases changed with
  | document retouched => exact retouched.ofDocument_eq
  | primitive changed => exact primitives_congr changed fun position key o n retouched => retouched.primitive_eq
  | type changed => exact types_congr changed fun position key o n retouched => retouched.type_eq
  | field changed =>
    exact types_congr changed fun _ _ _ _ changed =>
      fields_congr changed fun _ _ _ _ _ retouched => retouched.field_eq
  | param changed =>
    exact types_congr changed fun _ _ _ _ changed => fields_congr changed fun _ _ _ _ _ changed =>
      params_congr changed fun _ _ _ _ retouched => retouched.param_eq

/-- Any number of changes of presentation, made or undone anywhere in a document, leave its schema or its error. -/
theorem ofJson_eq_of_retouched {document edited : Json}
    (edits : Relation.EqvGen (Changed fun site _ old new => Retouched site old new) document edited) :
    ofJson edited = ofJson document := by
  induction edits with
  | rel document edited changed => rw [ofJson, ofJson, ofDocument_retouched changed]
  | refl document => rfl
  | symm document edited _ ih => exact ih.symm
  | trans document middle edited _ _ first second => exact second.trans first

/-- A document with one primitive and one param, with members of each. -/
def presentedDocument (primitive more : Json.Members) (required : Json) : Json :=
  .object
    [ ("root_type", .string "Point")
    , ("primitive_types", .array [.object primitive])
    , ("types", .object [("Point", .object [("fields", .object [("x", .object
        [ ("return_type", .string "Point")
        , ("params", .array [.object
            ([("name", .string "n"), ("type", .string "Int"), ("required", required)] ++ more)]) ])])])]) ]

def wordyDocument (required : Json) : Json :=
  presentedDocument [("name", .string "Int"), ("doc", .strings ["A", "B"])]
    [("unknown", .natural 1), ("index", .natural 0)] required

def terseDocument (required : Json) : Json :=
  presentedDocument [("doc", .string "A\nB"), ("name", .string "Int")] [] required

/-- The lines of a doc are joined, the keys of the primitive change places, and two keys of the param go. -/
theorem retouched_wordyDocument (required : Json) :
    Relation.EqvGen (Changed fun site _ old new => Retouched site old new) (wordyDocument required)
      (terseDocument required) := by
  have primitive (members other more : Json.Members)
      (retouched : Retouched (.primitive 0) (.object members) (.object other)) :
      Changed (fun site _ old new => Retouched site old new) (presentedDocument members more required)
        (presentedDocument other more required) := by
    refine .primitive (@InMember.value "primitive_types" _ [_] [_] _ _ rfl ?_)
    exact @InCollection.item _ [] [] _ _ retouched
  have param (members more other : Json.Members)
      (retouched : Retouched (.param 0 0 0)
        (.object ([("name", .string "n"), ("type", .string "Int"), ("required", required)] ++ more))
        (.object ([("name", .string "n"), ("type", .string "Int"), ("required", required)] ++ other))) :
      Changed (fun site _ old new => Retouched site old new) (presentedDocument members more required)
        (presentedDocument members other required) := by
    refine .param (@InMember.value "types" _ [_, _] [] _ _ rfl ?_)
    refine @InCollection.member _ [] [] "Point" _ _ ?_
    refine @InMember.value "fields" _ [] [] _ _ rfl ?_
    refine @InCollection.member _ [] [] "x" _ _ ?_
    refine @InMember.value "params" _ [_] [] _ _ rfl ?_
    exact @InCollection.item _ [] [] _ _ retouched
  have joined := primitive [("name", .string "Int"), ("doc", .strings ["A", "B"])]
    [("name", .string "Int"), ("doc", .string "A\nB")] [("unknown", .natural 1), ("index", .natural 0)]
    (@Retouched.joined _ [_] [] "doc" ["A", "B"] rfl (by decide))
  have reordered := primitive [("name", .string "Int"), ("doc", .string "A\nB")]
    [("doc", .string "A\nB"), ("name", .string "Int")] [("unknown", .natural 1), ("index", .natural 0)]
    (.reordered (by decide) (.swap _ _ _))
  have default := param [("doc", .string "A\nB"), ("name", .string "Int")] [] [("index", .natural 0)]
    (@Retouched.added _ [_, _, _] [] "index" _ rfl (.default (by decide)))
  have unread := param [("doc", .string "A\nB"), ("name", .string "Int")] [("index", .natural 0)]
    [("unknown", .natural 1), ("index", .natural 0)]
    (@Retouched.added _ [_, _, _] [_] "unknown" _ rfl (.unread (by simp [Site.keys])))
  exact .trans _ _ _ (.rel _ _ joined) (.trans _ _ _ (.rel _ _ reordered)
    (.trans _ _ _ (.symm _ _ (.rel _ _ unread)) (.symm _ _ (.rel _ _ default))))

/-- A document that is accepted, and one that does not say whether its param is required. -/
theorem ofJson_eq_of_retouched_of_wordyDocument :
    Relation.EqvGen (Changed fun site _ old new => Retouched site old new) (wordyDocument (.bool false))
        (terseDocument (.bool false)) ∧
      (ofJson (wordyDocument (.bool false))).isOk = true ∧
      ofJson (terseDocument (.bool false)) = ofJson (wordyDocument (.bool false)) ∧
      Relation.EqvGen (Changed fun site _ old new => Retouched site old new) (wordyDocument .null)
        (terseDocument .null) ∧
      ofJson (wordyDocument .null) = .error (.parse (.invalidValue (.param "Point" "x" "n") "required" .boolean)) ∧
      ofJson (terseDocument .null) = ofJson (wordyDocument .null) :=
  ⟨retouched_wordyDocument _, by decide +kernel, ofJson_eq_of_retouched (retouched_wordyDocument _),
    retouched_wordyDocument _, by decide +kernel, ofJson_eq_of_retouched (retouched_wordyDocument _)⟩

end Schema

end FieldTypes
