import FieldTypes.Template.Rendering
import FieldTypes.Proofs.Results

set_option autoImplicit false

namespace FieldTypes.Template

namespace Node

mutual

/-- Whether a node puts nothing in and defines nothing. -/
def isPlain : Node → Bool
  | .text _ | .value _ _ => true
  | .block _ _ _ _ _ body otherwise => allPlain body && optionalPlain otherwise
  | .inclusion .. | .decorator .. => false

def allPlain : List Node → Bool
  | [] => true
  | first :: rest => isPlain first && allPlain rest

def optionalPlain : Option (List Node) → Bool
  | none => true
  | some otherwise => allPlain otherwise

end

end Node

namespace Render

@[simp] theorem placedAt_ok {α : Type} (position : Option Text.Position) (value : α) :
    placedAt position (.ok value) = .ok value := rfl

@[simp] theorem placedAt_none {α : Type} (result : Except RenderFault α) : placedAt none result = result := by
  cases result with
  | ok value => rfl
  | error fault =>
    obtain ⟨template, place, failure⟩ := fault
    cases place <;> rfl

section Plain

variable (root : Json)

mutual

/-- Renders a plain node. No library is needed for that, and nothing is kept on the way. -/
def node (scopes : List Scope) : Node → Except RenderFault String
  | .text text => .ok text
  | .value position operand => placedAt position (unplaced (printed root scopes operand))
  | .block position helper arguments named params body otherwise =>
    placedAt position do
      let arguments ← unplaced (evaluateAll root scopes arguments)
      let named ← unplaced (evaluateNamed root scopes named)
      let call : Call := ⟨helper, arguments, named⟩
      match helper with
      | .choose sense =>
        let subject ← unplaced (call.subject "if")
        if call.holds sense subject then nodes scopes body else optional scopes otherwise
      | .each =>
        let subject ← unplaced (call.subject "each")
        match turns? params subject.value with
        | some (turn :: turns) => repeated (fun scope => nodes (scope :: scopes) body) (turn :: turns)
        | some [] => optional scopes otherwise
        | none => orElse scopes subject.missing otherwise
      | .within =>
        let subject ← unplaced (call.subject "with")
        if subject.isTrue then nodes (entered params subject.value :: scopes) body
        else orElse scopes subject.missing otherwise
      | .verbatim => nodes scopes body
      | .log | .operation _ | .unknown _ => unplaced (call.result.map display)
  | .inclusion position .. | .decorator position .. => .error ⟨none, position, .tooDeep⟩

def nodes (scopes : List Scope) : List Node → Except RenderFault String
  | [] => .ok ""
  | first :: rest => do
    let text ← node scopes first
    let more ← nodes scopes rest
    .ok (text ++ more)

def optional (scopes : List Scope) : Option (List Node) → Except RenderFault String
  | none => .ok ""
  | some otherwise => nodes scopes otherwise

def orElse (scopes : List Scope) (failure : RenderFailure) :
    Option (List Node) → Except RenderFault String
  | none => .error ⟨none, none, failure⟩
  | some otherwise => nodes scopes otherwise

end

end Plain

end Render

namespace Rendering

open Render Node

variable {α β : Type}

/-- How far a rendering has come does not show in what the action gives. -/
def Gives (action : Rendering α) (result : Except RenderFault α) : Prop :=
  ∀ progress, (action progress).map Prod.fst = result

theorem gives_pure (value : α) : Gives (pure value) (.ok value) := fun _ => rfl

theorem gives_compute (result : Except RenderFailure α) : Gives (compute result) (unplaced result) := by
  intro progress
  cases result <;> rfl

theorem Gives.bind {action : Rendering α} {result : Except RenderFault α} {next : α → Rendering β}
    {following : α → Except RenderFault β} (first : Gives action result)
    (rest : ∀ value, Gives (next value) (following value)) : Gives (action >>= next) (result >>= following) := by
  intro progress
  rw [← first progress]
  show ((action progress).bind fun outcome => next outcome.1 outcome.2).map Prod.fst = _
  cases action progress with
  | error fault => rfl
  | ok outcome => exact rest outcome.1 outcome.2

theorem Gives.located {action : Rendering α} {result : Except RenderFault α} (gives : Gives action result)
    (position : Option Text.Position) : Gives (located position action) (placedAt position result) := by
  intro progress
  rw [← gives progress, Rendering.located]
  cases action progress <;> rfl

/-- A fault in a part without a name stays as it is. -/
theorem Gives.inTemplate_none {action : Rendering α} {result : Except RenderFault α}
    (gives : Gives action result) : Gives (inTemplate none action) result := by
  intro progress
  rw [← gives { progress with current := none }]
  show ((action { progress with current := none }).mapError (RenderFault.inTemplate none)).map Prod.fst = _
  cases action { progress with current := none } with
  | ok outcome => rfl
  | error fault =>
    obtain ⟨template, place, failure⟩ := fault
    cases template <;> rfl

theorem gives_write (text : String) : Gives (write "" text) (.ok text) := fun _ => rfl

theorem Gives.repeated {action : Scope → Rendering String} {result : Scope → Except RenderFault String}
    (gives : ∀ scope, Gives (action scope) (result scope)) (turns : List Scope) :
    Gives (repeated action turns) (repeated result turns) := by
  induction turns with
  | nil => exact gives_pure ""
  | cons turn turns ih =>
    rw [Render.repeated, Render.repeated]
    apply (gives turn).bind
    intro text
    apply ih.bind
    intro more
    exact gives_pure (text ++ more)

section Plain

variable (expand : Expansion) (root : Json) {around : Surroundings}

mutual

/-- Plain nodes print by themselves, whatever surrounds them and however inclusions are expanded. -/
theorem gives_node (flush : around.indent = "") : ∀ (single : Node), single.isPlain = true → ∀ scopes,
    Gives (node expand root around scopes single) (Render.node root scopes single)
  | .text words, _, scopes => by
    rw [node, Render.node, flush]
    exact gives_write words
  | .value position operand, _, scopes => by
    rw [node, Render.node, flush, ← bind_pure (unplaced (Render.printed root scopes operand))]
    apply Gives.located
    apply (gives_compute _).bind
    intro text
    exact gives_write text
  | .block position helper arguments named params body otherwise, plain, scopes => by
    rw [isPlain, Bool.and_eq_true] at plain
    have bodies := gives_nodes flush body plain.1
    have others := gives_optional flush otherwise plain.2
    have orElses := gives_orElse flush otherwise plain.2
    rw [node, Render.node]
    apply Gives.located
    apply (gives_compute _).bind
    intro arguments
    apply (gives_compute _).bind
    intro named
    have shown (call : Call) : Gives (do
        let text ← compute (call.result.map display)
        write around.indent text) (unplaced (call.result.map display)) := by
      rw [flush, ← bind_pure (unplaced (call.result.map display))]
      exact (gives_compute _).bind gives_write
    cases helper with
    | choose sense =>
      apply (gives_compute _).bind
      intro subject
      split
      · exact (bodies scopes).inTemplate_none
      · exact others scopes
    | each =>
      apply (gives_compute _).bind
      intro subject
      cases turns? params subject.value with
      | none => exact orElses scopes _
      | some turns =>
        cases turns with
        | nil => exact others scopes
        | cons turn turns => exact Gives.repeated (fun scope => (bodies (scope :: scopes)).inTemplate_none) _
    | within =>
      apply (gives_compute _).bind
      intro subject
      split
      · exact (bodies _).inTemplate_none
      · exact orElses scopes _
    | verbatim => exact (bodies scopes).inTemplate_none
    | log => exact shown _
    | operation => exact shown _
    | unknown => exact shown _
  -- inclusions and definitions are not plain
  | .inclusion .., plain, _ => by
    rw [isPlain] at plain
    contradiction
  | .decorator .., plain, _ => by
    rw [isPlain] at plain
    contradiction

theorem gives_nodes (flush : around.indent = "") : ∀ (list : List Node), allPlain list = true → ∀ scopes,
    Gives (nodes expand root around scopes list) (Render.nodes root scopes list)
  | [], _, scopes => by
    rw [nodes, Render.nodes]
    exact gives_pure ""
  | first :: rest, plain, scopes => by
    rw [allPlain, Bool.and_eq_true] at plain
    rw [nodes, Render.nodes]
    apply (gives_node flush first plain.1 scopes).bind
    intro text
    apply (gives_nodes flush rest plain.2 scopes).bind
    intro more
    exact gives_pure (text ++ more)

theorem gives_optional (flush : around.indent = "") :
    ∀ (otherwise : Option (List Node)), optionalPlain otherwise = true → ∀ scopes,
      Gives (optional expand root around scopes otherwise) (Render.optional root scopes otherwise)
  | none, _, scopes => by
    rw [optional, Render.optional]
    exact gives_pure ""
  | some otherwise, plain, scopes => by
    rw [optionalPlain] at plain
    rw [optional, Render.optional]
    exact (gives_nodes flush otherwise plain scopes).inTemplate_none

theorem gives_orElse (flush : around.indent = "") :
    ∀ (otherwise : Option (List Node)), optionalPlain otherwise = true → ∀ scopes failure,
      Gives (orElse expand root around scopes failure otherwise)
        (Render.orElse root scopes failure otherwise)
  | none, _, scopes, failure => by
    rw [orElse, Render.orElse]
    exact gives_compute (.error failure)
  | some otherwise, plain, scopes, failure => by
    rw [optionalPlain] at plain
    rw [orElse, Render.orElse]
    exact (gives_nodes flush otherwise plain scopes).inTemplate_none

end

end Plain

end Rendering

/-- A plain template prints by itself, whatever other templates there are. -/
theorem render_eq_of_plain {template : List Node} (plain : Node.allPlain template = true) (library : Library)
    (name : String) (data : Json) :
    render library name template data =
      (Render.nodes data [⟨data, [], []⟩] template).mapError (RenderFault.inTemplate (some name)) := by
  have flush : Surroundings.outermost.indent = "" := rfl
  have gives := Rendering.gives_nodes (Rendering.expand library data Rendering.deepest) data flush
    template plain [⟨data, [], []⟩] ⟨[], some name, false⟩
  rw [← gives]
  show ((Rendering.nodes _ data .outermost [⟨data, [], []⟩] template ⟨[], some name, false⟩).mapError
    (RenderFault.inTemplate (some name))).map Prod.fst = _
  generalize Rendering.nodes _ data .outermost [⟨data, [], []⟩] template ⟨[], some name, false⟩ = outcome
  cases outcome <;> rfl

theorem render_ok_of_plain {template : List Node} {data : Json} {text : String}
    (plain : Node.allPlain template = true)
    (printed : Render.nodes data [⟨data, [], []⟩] template = .ok text) (library : Library) (name : String) :
    render library name template data = .ok text := by
  rw [render_eq_of_plain plain, printed]
  rfl

namespace Render

/-- No block has given names to anything. -/
def Unnamed (scopes : List Scope) : Prop := ∀ scope ∈ scopes, scope.params = []

theorem Unnamed.cons {scopes : List Scope} (unnamed : Unnamed scopes) (value : Json)
    (bindings : List (String × Json)) : Unnamed (⟨value, bindings, []⟩ :: scopes) := by
  intro scope mem
  rcases List.mem_cons.1 mem with here | outer
  · rw [here]
  · exact unnamed scope outer

theorem param?_of_unnamed {scopes : List Scope} (unnamed : Unnamed scopes) (name : String) :
    param? scopes name = none := by
  rw [param?, List.findSome?_eq_none_iff]
  intro scope mem
  rw [unnamed scope mem, List.lookup_nil]

theorem find?_ofKeys {scopes : List Scope} {root value : Json} {bindings : List (String × Json)}
    (unnamed : Unnamed (⟨value, bindings, []⟩ :: scopes)) (name : String) (keys : List String) :
    find? root (⟨value, bindings, []⟩ :: scopes) (.ofKeys (name :: keys)) = descend value (name :: keys) := by
  simp only [find?, Path.ofKeys, param?_of_unnamed unnamed]
  rfl

theorem find?_ofVariable (root : Json) (scopes : List Scope) (value : Json) (bindings params : List (String × Json))
    (name : String) :
    find? root (⟨value, bindings, params⟩ :: scopes) (.ofVariable name) = .ok (bindings.lookup name) := rfl

section Nodes

variable {scopes : List Scope} {body : List Node} {path : Path} {root value : Json} {params : List String}

@[simp] theorem nodes_singleton (part : Node) : nodes root scopes [part] = node root scopes part := by
  rw [nodes, nodes]
  cases node root scopes part with
  | error fault => rfl
  | ok text =>
    show Except.ok (text ++ "") = _
    rw [String.append_empty]

theorem node_text (root : Json) (scopes : List Scope) (text : String) : node root scopes (.text text) = .ok text := by
  rw [node]

theorem evaluate_path (found : find? root scopes path = .ok (some value)) :
    evaluate root scopes (.path path) = .ok ⟨some path.source, some value⟩ := by
  rw [evaluate, found]
  rfl

theorem evaluateAll_path (found : find? root scopes path = .ok (some value)) :
    evaluateAll root scopes [.path path] = .ok [⟨some path.source, some value⟩] := by
  rw [evaluateAll, evaluateAll, evaluate_path found]
  rfl

theorem node_value_ok {position : Option Text.Position} (found : find? root scopes path = .ok (some value)) :
    node root scopes (.value position (.path path)) = .ok (display value) := by
  have shown : printed root scopes (.path path) = .ok (display value) := by
    rw [printed, evaluate_path found]
    rfl
  rw [node, shown, unplaced, mapError_ok, placedAt_ok]

theorem node_choose (sense : Bool) (otherwise : Option (List Node))
    (found : find? root scopes path = .ok (some value)) :
    node root scopes (.block none (.choose sense) [.path path] [] params body otherwise) =
      if isTrue value = sense then nodes root scopes body else optional root scopes otherwise := by
  simp only [node, evaluateAll_path found, evaluateNamed, unplaced, mapError_ok, bind, Except.bind,
    placedAt_none, Call.subject, Operation.required, List.getElem?_cons_zero, Call.holds, List.lookup_nil,
    Option.bind_none, Option.getD_none, Bool.false_and, Bool.false_or, beq_iff_eq]
  rfl

/-- A block over an array is repeated once for each item, and prints nothing for an empty array. -/
theorem node_each {items : List Json} (found : find? root scopes path = .ok (some (.array items))) :
    node root scopes (.block none .each [.path path] [] params body none) =
      repeated (fun scope => nodes root (scope :: scopes) body) (itemScopes params (items.length - 1) 0 items) := by
  simp only [node, evaluateAll_path found, evaluateNamed, unplaced, mapError_ok, bind, Except.bind,
    placedAt_none, Call.subject, Operation.required, List.getElem?_cons_zero, Evaluated.value,
    Option.getD_some, turns?]
  cases items with
  | nil => rfl
  | cons item items => rfl

end Nodes

section Repetition

variable {α : Type} (render : Scope → Except RenderFault String) (encode : α → Json) (text : α → String)

/-- Repeated over encoded values, a block prints them one after the other. -/
theorem repeated_itemScopes {values : List α}
    (each : ∀ value ∈ values, ∀ bindings, render ⟨encode value, bindings, []⟩ = .ok (text value))
    (last first : Nat) :
    repeated render (itemScopes [] last first (values.map encode)) =
      .ok (String.join (values.map text)) := by
  induction values generalizing first with
  | nil =>
    rw [List.map_nil, itemScopes, repeated, List.map_nil, String.join_nil]
    rfl
  | cons value values ih =>
    have here := each value List.mem_cons_self
    have later := ih (fun other mem => each other (List.mem_cons_of_mem value mem)) (first + 1)
    rw [List.map_cons, itemScopes, repeated, List.map_cons, String.join_cons]
    simp only [itemParams, here, later, bind, Except.bind, pure, Except.pure]

/-- A block that prints a separator after every turn but the last one puts it between the values. -/
theorem repeated_separated (separator : String) {values : List α}
    (each : ∀ value ∈ values, ∀ bindings last, bindings.lookup "last" = some (.bool last) →
      render ⟨encode value, bindings, []⟩ = .ok (text value ++ if last then "" else separator))
    (first : Nat) :
    repeated render (itemScopes [] (first + values.length - 1) first (values.map encode)) =
      .ok (separator.intercalate (values.map text)) := by
  induction values generalizing first with
  | nil =>
    rw [List.map_nil, itemScopes, repeated, List.map_nil, String.intercalate_nil]
    rfl
  | cons value values ih =>
    have here := each value List.mem_cons_self
    have later := ih (fun other mem => each other (List.mem_cons_of_mem value mem)) (first + 1)
    rw [List.length_cons, show first + (values.length + 1) - 1 = first + 1 + values.length - 1 by omega,
      List.map_cons, itemScopes, repeated, itemParams, here _ _ rfl, later]
    cases values with
    | nil =>
      have last : (first == first + 1 + ([] : List α).length - 1) = true := by
        rw [beq_iff_eq, List.length_nil]
        omega
      simp only [last, ↓reduceIte, String.append_empty, List.map_cons, List.map_nil,
        String.intercalate_nil, String.intercalate_singleton, bind, Except.bind, pure, Except.pure]
    | cons next values =>
      have notLast : (first == first + 1 + (next :: values).length - 1) = false := by
        rw [beq_eq_false_iff_ne, List.length_cons]
        omega
      simp only [notLast, Bool.false_eq_true, ↓reduceIte, List.map_cons, String.intercalate_cons_cons,
        bind, Except.bind, pure, Except.pure]

end Repetition

end Render

end FieldTypes.Template
