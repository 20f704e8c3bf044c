import FieldTypes.Template.Rendering

set_option autoImplicit false

namespace FieldTypes.Template

open Render

/-- A result that only says that inclusions are nested too deep. -/
def TooDeep {α : Type} (result : Except RenderFault α) : Prop :=
  ∃ fault, result = .error fault ∧ fault.failure = .tooDeep

section Results

variable {α β : Type} {result : Except RenderFault α}

theorem TooDeep.bind (deep : TooDeep result) (next : α → Except RenderFault β) : TooDeep (result.bind next) := by
  obtain ⟨fault, rfl, failure⟩ := deep
  exact ⟨fault, rfl, failure⟩

theorem TooDeep.mapError {change : RenderFault → RenderFault} (deep : TooDeep result)
    (keeps : ∀ fault, (change fault).failure = fault.failure) : TooDeep (result.mapError change) := by
  obtain ⟨fault, rfl, failure⟩ := deep
  exact ⟨change fault, rfl, (keeps fault).trans failure⟩

@[simp] theorem RenderFault.within_failure (position : Option Text.Position) (fault : RenderFault) :
    (fault.within position).failure = fault.failure := by
  unfold RenderFault.within
  split <;> rfl

@[simp] theorem RenderFault.inTemplate_failure (name : Option String) (fault : RenderFault) :
    (fault.inTemplate name).failure = fault.failure := by
  unfold RenderFault.inTemplate
  split <;> rfl

end Results

namespace Rendering

variable {α β : Type} {action other : Rendering α}

/-- Unless inclusions are nested too deep for the first rendering, the second one gives the same. -/
def Settles (action other : Rendering α) : Prop :=
  ∀ progress, ¬ TooDeep (action progress) → other progress = action progress

theorem Settles.refl (action : Rendering α) : Settles action action := fun _ _ => rfl

theorem Settles.bind {next following : α → Rendering β} (first : Settles action other)
    (rest : ∀ value, Settles (next value) (following value)) : Settles (action >>= next) (other >>= following) := by
  intro progress settled
  have begun : other progress = action progress := first progress fun deep => settled (deep.bind _)
  show (other progress).bind _ = (action progress).bind _
  rw [begun]
  cases outcome : action progress with
  | error fault => rfl
  | ok reached =>
    apply rest reached.1 reached.2
    intro deep
    apply settled
    show TooDeep ((action progress).bind _)
    rw [outcome]
    exact deep

theorem Settles.located (settles : Settles action other) (position : Option Text.Position) :
    Settles (located position action) (located position other) := by
  intro progress settled
  have same := settles progress fun deep => settled (deep.mapError (RenderFault.within_failure position))
  rw [Rendering.located, same]
  rfl

theorem Settles.inTemplate (settles : Settles action other) (name : Option String) :
    Settles (inTemplate name action) (inTemplate name other) := by
  apply (Settles.refl _).bind
  intro _ progress settled
  have same := settles progress fun deep => settled (deep.mapError (RenderFault.inTemplate_failure name))
  show (other progress).mapError _ = _
  rw [same]

theorem Settles.repeated {action other : Scope → Rendering String}
    (settles : ∀ scope, Settles (action scope) (other scope)) (turns : List Scope) :
    Settles (repeated action turns) (repeated other turns) := by
  induction turns with
  | nil => exact .refl _
  | cons turn turns ih =>
    apply (settles turn).bind
    intro text
    apply ih.bind
    intro more
    exact .refl _

/-- An inclusion that is not nested too deep is expanded in the same way. -/
def Expands (expand other : Expansion) : Prop :=
  ∀ around scopes inclusion, Settles (expand around scopes inclusion) (other around scopes inclusion)

section Nodes

variable {expand other : Expansion} (root : Json) (around : Surroundings)

mutual

theorem settles_node (expands : Expands expand other) : ∀ (single : Node) scopes,
    Settles (node expand root around scopes single) (node other root around scopes single)
  | .text words, scopes => by
    rw [node, node]
    exact .refl _
  | .value position operand, scopes => by
    rw [node, node]
    exact .refl _
  | .block position helper arguments named params body otherwise, scopes => by
    have bodies := settles_nodes expands body
    have others := settles_optional expands otherwise
    have orElses := settles_orElse expands otherwise
    rw [node, node]
    apply Settles.located
    apply (Settles.refl _).bind
    intro arguments
    apply (Settles.refl _).bind
    intro named
    cases helper with
    | choose sense =>
      apply (Settles.refl _).bind
      intro subject
      split
      · exact (bodies scopes).inTemplate none
      · exact others scopes
    | each =>
      apply (Settles.refl _).bind
      intro subject
      cases turns? params subject.value with
      | none => exact orElses scopes _
      | some turns =>
        cases turns with
        | nil => exact others scopes
        | cons turn turns => exact Settles.repeated (fun scope => (bodies (scope :: scopes)).inTemplate none) _
    | within =>
      apply (Settles.refl _).bind
      intro subject
      split
      · exact (bodies _).inTemplate none
      · exact orElses scopes _
    | verbatim => exact (bodies scopes).inTemplate none
    | log => exact .refl _
    | operation => exact .refl _
    | unknown => exact .refl _
  | .inclusion position name arguments named indent body, scopes => by
    rw [node, node]
    apply Settles.located
    apply (Settles.refl _).bind
    intro name
    apply (Settles.refl _).bind
    intro given
    apply (Settles.refl _).bind
    intro named
    apply (Settles.refl _).bind
    intro _
    -- only here does it matter how inclusions are expanded
    exact expands _ _ _
  | .decorator position name arguments named body, scopes => by
    rw [node, node]
    exact .refl _

theorem settles_nodes (expands : Expands expand other) : ∀ (list : List Node) scopes,
    Settles (nodes expand root around scopes list) (nodes other root around scopes list)
  | [], scopes => by
    rw [nodes, nodes]
    exact .refl _
  | first :: rest, scopes => by
    rw [nodes, nodes]
    apply (settles_node expands first scopes).bind
    intro text
    apply (settles_nodes expands rest scopes).bind
    intro more
    exact .refl _

theorem settles_optional (expands : Expands expand other) : ∀ (otherwise : Option (List Node)) scopes,
    Settles (optional expand root around scopes otherwise) (optional other root around scopes otherwise)
  | none, scopes => by
    rw [optional, optional]
    exact .refl _
  | some otherwise, scopes => by
    rw [optional, optional]
    exact (settles_nodes expands otherwise scopes).inTemplate none

theorem settles_orElse (expands : Expands expand other) : ∀ (otherwise : Option (List Node)) scopes failure,
    Settles (orElse expand root around scopes failure otherwise)
      (orElse other root around scopes failure otherwise)
  | none, scopes, failure => by
    rw [orElse, orElse]
    exact .refl _
  | some otherwise, scopes, failure => by
    rw [orElse, orElse]
    exact (settles_nodes expands otherwise scopes).inTemplate none

end

end Nodes

/-- What does not nest too deep for a depth is the same at every greater depth. -/
theorem expands_of_le (library : Library) (root : Json) {depth deeper : Nat} (within : depth ≤ deeper) :
    Expands (expand library root depth) (expand library root deeper) := by
  induction depth generalizing deeper with
  | zero =>
    intro around scopes inclusion progress settled
    exact absurd ⟨_, rfl, rfl⟩ settled
  | succ depth ih =>
    intro around scopes inclusion
    cases deeper with
    | zero => omega
    | succ deeper =>
      -- what is put in has one level less to nest, at both depths
      have inner := ih (Nat.le_of_succ_le_succ within)
      rw [expand, expand]
      apply (Settles.refl _).bind
      intro before
      split
      · exact .refl _
      · cases inclusion.part? library around before with
        | none => exact .refl _
        | some part =>
          apply ((settles_nodes root _ inner part.2 _).inTemplate part.1).bind
          intro text
          exact .refl _

end Rendering

/-- A rendering that is not nested too deep does not depend on how deep inclusions may be nested: any
greater depth gives the same. -/
theorem render_eq_of_deeper {library : Library} {name : String} {template : List Node} {data : Json}
    {depth : Nat} (deeper : Rendering.deepest ≤ depth) (settled : ¬ TooDeep (render library name template data)) :
    (Rendering.inTemplate (some name) (Rendering.nodes (Rendering.expand library data depth) data .outermost
      [⟨data, [], []⟩] template)).run' ⟨[], none, false⟩ = render library name template data := by
  have expands := Rendering.expands_of_le library data deeper
  have settles := (Rendering.settles_nodes data .outermost expands template [⟨data, [], []⟩]).inTemplate (some name)
  have same := settles ⟨[], none, false⟩ fun deep => settled (deep.bind _)
  show Functor.map _ _ = Functor.map _ _
  rw [same]

end FieldTypes.Template
