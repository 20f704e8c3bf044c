import FieldTypes.Catalog.Builtin
import FieldTypes.Template.Reader
import FieldTypes.Template.Rendering

set_option autoImplicit false

namespace FieldTypes

namespace Catalog

inductive Entry where
  | program (strategy : Strategy)
  | template (scope : Scope) (nodes : List Template.Node)

namespace Entry

def builtin (program : Builtin) : Entry := .program program.strategy

def scope : Entry → Scope
  | .program strategy => strategy.scope
  | .template scope _ => scope

def nodes? : Entry → Option (List Template.Node)
  | .program _ => none
  | .template _ nodes => some nodes

end Entry

/-- Puts an entry at its place among entries in increasing order of their names. -/
def insert (name : String) (entry : Entry) : List (String × Entry) → List (String × Entry)
  | [] => [(name, entry)]
  | (other, existing) :: rest =>
    if name = other then (name, entry) :: rest
    else if name < other then (name, entry) :: (other, existing) :: rest
    else (other, existing) :: insert name entry rest

theorem lookup_insert (name other : String) (entry : Entry) (entries : List (String × Entry)) :
    (insert name entry entries).lookup other =
      if other = name then some entry else entries.lookup other := by
  have differs {a b : String} (h : a ≠ b) : (a == b) = false := beq_eq_false_iff_ne.2 h
  induction entries with
  | nil =>
    by_cases h : other = name
    · simp [insert, h]
    · simp [insert, List.lookup_cons, h, differs h]
  | cons head rest ih =>
    obtain ⟨first, existing⟩ := head
    unfold insert
    split
    · subst first
      by_cases h : other = name
      · simp [h]
      · simp [List.lookup_cons, h, differs h]
    · split
      · by_cases h : other = name
        · simp [h]
        · simp [List.lookup_cons, h, differs h]
      · rename_i same _
        rw [List.lookup_cons, List.lookup_cons, ih]
        by_cases h : other = first
        · simp [h, Ne.symm same]
        · simp [differs h]

theorem mem_insert {name : String} {entry : Entry} {item : String × Entry}
    {entries : List (String × Entry)} (found : item ∈ insert name entry entries) :
    item = (name, entry) ∨ item ∈ entries := by
  induction entries with
  | nil => simpa [insert] using found
  | cons head rest ih =>
    obtain ⟨first, existing⟩ := head
    unfold insert at found
    split at found
    · simp only [List.mem_cons] at found ⊢
      exact found.imp_right .inr
    · split at found
      · simpa using found
      · simp only [List.mem_cons] at found ⊢
        rcases found with same | later
        · exact .inr (.inl same)
        · exact (ih later).imp_right .inr

theorem insert_ordered (name : String) (entry : Entry) (entries : List (String × Entry))
    (ordered : entries.Pairwise (·.1 < ·.1)) :
    (insert name entry entries).Pairwise (·.1 < ·.1) := by
  induction entries with
  | nil => simp [insert]
  | cons head rest ih =>
    obtain ⟨first, existing⟩ := head
    have ⟨above, later⟩ := List.pairwise_cons.1 ordered
    unfold insert
    split
    · subst first
      exact List.pairwise_cons.2 ⟨above, later⟩
    · rename_i different
      split
      · rename_i before
        refine List.pairwise_cons.2 ⟨fun item found => ?_, ordered⟩
        rcases List.mem_cons.1 found with same | further
        · rw [same]
          exact before
        · exact String.lt_trans before (above item further)
      · rename_i notBefore
        refine List.pairwise_cons.2 ⟨fun item found => ?_, ih later⟩
        rcases mem_insert found with same | further
        · rw [same]
          exact Std.lt_of_le_of_ne (String.not_lt.1 notBefore) (Ne.symm different)
        · exact above item further

end Catalog

/-- Renderings under names, in strictly increasing order of the names. -/
@[ext] structure Catalog where
  entries : List (String × Catalog.Entry)
  ordered : entries.Pairwise (·.1 < ·.1)

namespace Catalog

def empty : Catalog := ⟨[], .nil⟩

def put (catalog : Catalog) (name : String) (entry : Entry) : Catalog :=
  ⟨insert name entry catalog.entries, insert_ordered name entry catalog.entries catalog.ordered⟩

@[simp] theorem put_entries (catalog : Catalog) (name : String) (entry : Entry) :
    (catalog.put name entry).entries = insert name entry catalog.entries := rfl

def registerStrategy (catalog : Catalog) (name : String) (strategy : Strategy) : Catalog :=
  catalog.put name (.program strategy)

def registerBuiltin (catalog : Catalog) (name : String) (builtin : Builtin) : Catalog :=
  catalog.registerStrategy name builtin.strategy

def registerTemplate (catalog : Catalog) (name text : String) (scope : Scope) :
    Except Generation.Error Catalog :=
  match Template.read text with
  | .ok nodes => .ok (catalog.put name (.template scope nodes))
  | .error fault => .error (.malformed name fault)

def standard : Catalog :=
  empty.registerBuiltin "header" .header
    |>.registerBuiltin "inline_header" .inlineHeader
    |>.registerBuiltin "source" .source
    |>.registerBuiltin "schema_json" .schemaJson
    |>.put "dispatch" (.template .type BuiltinTemplate.dispatch)
    |>.put "doc" (.template .type BuiltinTemplate.doc)
    |>.put "registry" (.template .schema BuiltinTemplate.registry)

def names (catalog : Catalog) : List String := catalog.entries.map (·.1)

/-- The templates of a catalog, which all of them can include. -/
def library (catalog : Catalog) : Template.Library := fun name =>
  (catalog.entries.lookup name).bind Entry.nodes?

def entry (catalog : Catalog) (name : String) : Except Generation.Error Entry :=
  match catalog.entries.lookup name with
  | some entry => .ok entry
  | none => .error (.unknownTemplate name)

def scope (catalog : Catalog) (name : String) : Except Generation.Error Scope :=
  (catalog.entry name).map Entry.scope

/-- Renders what is registered under a name, whatever its scope. -/
def render (catalog : Catalog) (name : String) (context : Context) : Except Generation.Error String := do
  match ← catalog.entry name with
  | .program strategy => strategy.render context
  | .template _ nodes =>
    match Template.render catalog.library name nodes context.data with
    | .ok text => .ok text
    | .error fault => .error (.render name context.label (.fault fault))

end Catalog

end FieldTypes
