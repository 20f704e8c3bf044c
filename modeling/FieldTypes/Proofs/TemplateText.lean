import FieldTypes.Catalog.Builtin
import FieldTypes.Proofs.Rendering
import FieldTypes.Template.Reader

set_option autoImplicit false

namespace FieldTypes.Template

namespace Node

mutual

/-- Whether two nodes are the same but for their places; only values of paths and blocks over paths are
compared. -/
def alike : Node → Node → Bool
  | .text first, .text second => first == second
  | .value _ (.path first), .value _ (.path second) => first == second
  | .block _ helper [.path first] [] [] body otherwise,
      .block _ helper' [.path second] [] [] body' otherwise' =>
    helper == helper' && first == second && allAlike body body' && optionalAlike otherwise otherwise'
  | _, _ => false

def allAlike : List Node → List Node → Bool
  | [], [] => true
  | first :: firsts, second :: seconds => alike first second && allAlike firsts seconds
  | _, _ => false

def optionalAlike : Option (List Node) → Option (List Node) → Bool
  | none, none => true
  | some first, some second => allAlike first second
  | _, _ => false

end

theorem alike_value {position : Option Text.Position} {operand : Operand} {second : Node}
    (same : alike (.value position operand) second = true) :
    ∃ path position', operand = .path path ∧ second = .value position' (.path path) := by
  unfold alike at same
  split at same
  case h_2 heq =>
    injection heq with _ operand
    rw [beq_iff_eq] at same
    subst same
    exact ⟨_, _, operand, rfl⟩
  all_goals contradiction

theorem alike_block {position : Option Text.Position} {helper : Helper} {arguments : List Operand}
    {named : List (String × Operand)} {params : List String} {body : List Node}
    {otherwise : Option (List Node)} {second : Node}
    (same : alike (.block position helper arguments named params body otherwise) second = true) :
    ∃ path position' body' otherwise', arguments = [.path path] ∧ named = [] ∧ params = [] ∧
      second = .block position' helper [.path path] [] [] body' otherwise' ∧
      allAlike body body' = true ∧ optionalAlike otherwise otherwise' = true := by
  unfold alike at same
  split at same
  case h_3 heq =>
    injection heq with _ sameHelper sameArguments sameNamed sameParams sameBody sameOtherwise
    subst sameHelper sameBody sameOtherwise
    simp only [Bool.and_eq_true, beq_iff_eq] at same
    obtain ⟨⟨⟨sameHelper, samePath⟩, bodies⟩, others⟩ := same
    subst sameHelper samePath
    exact ⟨_, _, _, _, sameArguments, sameNamed, sameParams, rfl, bodies, others⟩
  all_goals contradiction

mutual

theorem isPlain_of_alike : ∀ (first second : Node), alike first second = true → first.isPlain = true
  | .text _, _, _ => rfl
  | .value _ _, _, _ => rfl
  | .block _ helper arguments named params body otherwise, second, same => by
    obtain ⟨path, position', body', otherwise', -, -, -, -, bodies, others⟩ := alike_block same
    rw [isPlain, allPlain_of_alike body body' bodies, optionalPlain_of_alike otherwise otherwise' others]
    rfl
  | .inclusion .., second, same => by simp [alike] at same
  | .decorator .., second, same => by simp [alike] at same

theorem allPlain_of_alike : ∀ (first second : List Node), allAlike first second = true → allPlain first = true
  | [], _, _ => rfl
  | _ :: _, [], same => by simp [allAlike] at same
  | first :: firsts, second :: seconds, same => by
    rw [allAlike, Bool.and_eq_true] at same
    rw [allPlain, isPlain_of_alike first second same.1, allPlain_of_alike firsts seconds same.2]
    rfl

theorem optionalPlain_of_alike : ∀ (first second : Option (List Node)),
    optionalAlike first second = true → optionalPlain first = true
  | none, _, _ => rfl
  | some _, none, same => by simp [optionalAlike] at same
  | some first, some second, same => by
    rw [optionalAlike] at same
    exact allPlain_of_alike first second same

end

end Node

namespace Render

open Node

/-- The text that a rendering gives, whatever its faults. -/
abbrev output (result : Except RenderFault String) : Option String := result.toOption

theorem output_placedAt (position : Option Text.Position) (result : Except RenderFault String) :
    output (placedAt position result) = output result := by
  cases result <;> rfl

theorem output_bind {α : Type} (first : Except RenderFault α) {next next' : α → Except RenderFault String}
    (same : ∀ value, output (next value) = output (next' value)) :
    output (first >>= next) = output (first >>= next') := by
  cases first with
  | error fault => rfl
  | ok value => exact same value

theorem output_append {first first' rest rest' : Except RenderFault String}
    (firsts : output first = output first') (rests : output rest = output rest') :
    output (do let text ← first; let more ← rest; .ok (text ++ more)) =
      output (do let text ← first'; let more ← rest'; .ok (text ++ more)) := by
  cases first <;> cases first' <;> cases rest <;> cases rest' <;>
    simp_all [output, Except.toOption, bind, Except.bind]

theorem output_repeated {render render' : Scope → Except RenderFault String} (turns : List Scope)
    (same : ∀ scope, output (render scope) = output (render' scope)) :
    output (repeated render turns) = output (repeated render' turns) := by
  induction turns with
  | nil => rfl
  | cons scope turns ih =>
    rw [repeated, repeated]
    exact output_append (same scope) ih

theorem output_orElse {root : Json} {first second : Option (List Node)} {scopes : List Scope}
    (alike : optionalAlike first second = true)
    (same : output (optional root scopes first) = output (optional root scopes second)) (failure : RenderFailure) :
    output (orElse root scopes failure first) = output (orElse root scopes failure second) := by
  cases first with
  | none =>
    cases second with
    | none => rfl
    | some second => simp [optionalAlike] at alike
  | some first =>
    cases second with
    | none => simp [optionalAlike] at alike
    | some second =>
      rw [optional, optional] at same
      rw [orElse, orElse, same]

mutual

/-- Nodes that are the same but for their places print the same. -/
theorem output_node_of_alike (root : Json) : ∀ (first second : Node), alike first second = true →
    ∀ scopes, output (node root scopes first) = output (node root scopes second)
  | .text first, second, same, scopes => by
    cases second with
    | text second =>
      rw [alike, beq_iff_eq] at same
      rw [same]
    | value | block | inclusion | decorator => simp [alike] at same
  | .value _ operand, second, same, scopes => by
    obtain ⟨path, position', rfl, rfl⟩ := alike_value same
    rw [node, node, output_placedAt, output_placedAt]
  | .inclusion .., second, same, scopes => by
    simp [alike] at same
  | .decorator .., second, same, scopes => by
    simp [alike] at same
  | .block position helper arguments named params body otherwise, second, same, scopes => by
    obtain ⟨path, position', body', otherwise', rfl, rfl, rfl, rfl, bodies, others⟩ := alike_block same
    have sameBody := output_nodes_of_alike root body body' bodies
    have sameOtherwise := output_optional_of_alike root otherwise otherwise' others scopes
    have sameOrElse := output_orElse others sameOtherwise
    rw [node, node, output_placedAt, output_placedAt]
    refine output_bind _ fun arguments => output_bind _ fun named => ?_
    cases helper with
    | choose sense =>
      refine output_bind _ fun subject => ?_
      split
      · exact sameBody scopes
      · exact sameOtherwise
    | each =>
      refine output_bind _ fun subject => ?_
      split
      · exact output_repeated _ fun scope => sameBody (scope :: scopes)
      · exact sameOtherwise
      · exact sameOrElse _
    | within =>
      refine output_bind _ fun subject => ?_
      split
      · exact sameBody _
      · exact sameOrElse _
    | verbatim => exact sameBody scopes
    | log => rfl
    | operation => rfl
    | unknown => rfl

theorem output_nodes_of_alike (root : Json) : ∀ (first second : List Node), allAlike first second = true →
    ∀ scopes, output (nodes root scopes first) = output (nodes root scopes second)
  | [], [], _, _ => rfl
  | [], _ :: _, same, _ => by simp [allAlike] at same
  | _ :: _, [], same, _ => by simp [allAlike] at same
  | first :: firsts, second :: seconds, same, scopes => by
    rw [allAlike, Bool.and_eq_true] at same
    rw [nodes, nodes]
    exact output_append (output_node_of_alike root first second same.1 scopes)
      (output_nodes_of_alike root firsts seconds same.2 scopes)

theorem output_optional_of_alike (root : Json) : ∀ (first second : Option (List Node)),
    optionalAlike first second = true → ∀ scopes,
      output (optional root scopes first) = output (optional root scopes second)
  | none, none, _, _ => rfl
  | none, some _, same, _ => by simp [optionalAlike] at same
  | some _, none, same, _ => by simp [optionalAlike] at same
  | some first, some second, same, scopes => by
    rw [optionalAlike] at same
    rw [optional, optional]
    exact output_nodes_of_alike root first second same scopes

end

end Render

/-- Where one template prints a text, a template that is the same but for its places prints that text,
whatever other templates there are. -/
theorem render_ok_of_alike {first second : List Node} {data : Json} {text : String}
    (alike : Node.allAlike first second = true)
    (printed : Render.nodes data [⟨data, [], []⟩] second = .ok text) (library : Library) (name : String) :
    render library name first data = .ok text := by
  apply render_ok_of_plain (Node.allPlain_of_alike first second alike)
  have same := Render.output_nodes_of_alike data first second alike [⟨data, [], []⟩]
  rw [printed] at same
  cases found : Render.nodes data [⟨data, [], []⟩] first with
  | error fault =>
    rw [found] at same
    cases same
  | ok other =>
    rw [found] at same
    injection same with same
    rw [same]

/-- The template that characters spell. -/
def readCharacters (source : List Char) : Except Malformed (List Node) :=
  ((grammar.read 100 (.sequence (.rule .template) (.rule .endOfText)) source).mapError
    Malformed.ofAttempts).bind fun trees =>
      Reader.nest source [] [] (Margin.settle true .none (Piece.ofTrees source trees))

theorem read_of_characters {text : String} {source : List Char} (spelled : text = String.ofList source) :
    read text = readCharacters source := by
  unfold read readCharacters
  rw [spelled, String.toList_ofList]
  dsimp only
  generalize grammar.read 100 _ source = trees
  cases trees <;> rfl

end FieldTypes.Template

namespace FieldTypes.Catalog.BuiltinTemplate

open Template

def dispatchText : String :=
  "\x23include \"\x7b\x7bfiles.header_include\x7d\x7d\"
\x23include \"\x7b\x7bfiles.impl_header_include\x7d\x7d\"

\x23include \"field_types/InvalidFieldError.h\"

\x23include <string_view>\n\nnamespace \x7b\x7bcpp.namespace\x7d\x7d \x7b

\x7b\x7btype.name\x7d\x7d::~\x7b\x7btype.name\x7d\x7d() noexcept = default;

Result \x7b\x7bdispatch.type_name\x7d\x7d::get(std::string_view member, \x7b\x7b#unless type.has_params\x7d\x7d[[maybe_unused]] \x7b\x7b/unless\x7d\x7dconst FieldCallParams& params) const
\x7b
\x7b\x7b#each dispatch.branches\x7d\x7d
    if (member == \"\x7b\x7bmember\x7d\x7d\")
    \x7b
        return \x7b\x7bgetter\x7d\x7d(\x7b\x7b#each arguments\x7d\x7dparams.\x7b\x7bextractor\x7d\x7d<\x7b\x7btype_name\x7d\x7d>(\x7b\x7bindex\x7d\x7d, \"\x7b\x7bname\x7d\x7d\")\x7b\x7b#unless @last\x7d\x7d, \x7b\x7b/unless\x7d\x7d\x7b\x7b/each\x7d\x7d);
    \x7d
\x7b\x7b/each\x7d\x7d
    throw InvalidFieldError(\"\x7b\x7bdispatch.type_name\x7d\x7d\", member);
\x7d

\x7d // namespace \x7b\x7bcpp.namespace\x7d\x7d
"

/-- Whether a text was read as these nodes, but for their places. -/
def isReadAs (result : Except Malformed (List Node)) (nodes : List Node) : Bool :=
  match result with
  | .ok found => Node.allAlike found nodes
  | .error _ => false

theorem alike_of_isReadAs {result : Except Malformed (List Node)} {nodes : List Node}
    (same : isReadAs result nodes = true) :
    ∃ found, result = .ok found ∧ Node.allAlike found nodes = true := by
  cases result with
  | error reason => simp [isReadAs] at same
  | ok found => exact ⟨found, rfl, same⟩

set_option maxRecDepth 100000 in
theorem isReadAs_dispatch : isReadAs (read dispatchText) dispatch = true := by
  rw [@read_of_characters dispatchText _ (by unfold dispatchText; rfl)]
  decide +kernel

end FieldTypes.Catalog.BuiltinTemplate
