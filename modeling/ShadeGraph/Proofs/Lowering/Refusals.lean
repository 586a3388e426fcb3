import ShadeGraph.Proofs.Document.Loaded
import ShadeGraph.Proofs.Expr.Supported
import ShadeGraph.Proofs.Lowering.Plain

/-!
# What lowering refuses

In a well-formed family lowering never looks for a node that is not there, and
what it makes is supported: settings come from the tables, every other kind of
setting is refused node by node, and a boundary input outside of a group is too.
-/

namespace ShadeGraph

variable {α : Type} {n : Nat}

/-- Looking for a node that is not there. -/
def LowerError.Dangling : LowerError → Prop
  | .unsupportedNode _ _ (some (.noSuchNode _)) => True
  | _ => False

def Form.Supported : Form α n → Prop
  | .built shape => shape.Supported true
  | .boundary | .inside _ => True

/-- Every graph of the family is well formed. -/
def Family.WellFormed (family : Family α n) : Prop := ∀ site, (family.graph site).WellFormed

variable [Arithmetic α]

theorem vectorOp_listed {operation : String} (listed : operation ∈ Document.vectorOperations)
    (other : ¬ (Named.find? VectorMeasure operation).isSome) :
    operation ∈ Named.names VectorOp := by
  obtain op | measure := List.mem_append.1 listed
  · exact op
  · exact absurd (Named.isSome_find?.2 measure) other

theorem ramp_listed {colorMode interpolation : String} {stops : List (RampStop α)}
    (accepted : Lowering.rampRefusal? colorMode interpolation stops = none) :
    interpolation ∈ Named.names RampMode ∧ Lowering.sortStops stops ≠ [] := by
  unfold Lowering.rampRefusal? at accepted
  split at accepted
  · cases accepted
  split at accepted
  · cases accepted
  split at accepted
  · cases accepted
  rename_i modes nonempty
  constructor
  · by_cases linear : interpolation = "LINEAR"
    · subst linear
      decide
    · have constant : interpolation = "CONSTANT" :=
        Classical.byContradiction fun other => modes ⟨linear, other⟩
      subst constant
      decide
  · intro sorted
    have kept : (Lowering.sortStops stops).length = stops.length := List.length_mergeSort stops
    rw [sorted] at kept
    exact nonempty (List.length_eq_zero_iff.1 kept.symm)

omit [Arithmetic α] in
theorem ramp_refused {colorMode interpolation : String} {stops : List (RampStop α)}
    {refusal : Refusal}
    (refused : Lowering.rampRefusal? colorMode interpolation stops = some refusal)
    (kind id : String) : ¬ (LowerError.unsupportedNode kind id (some refusal)).Dangling := by
  unfold Lowering.rampRefusal? at refused
  split at refused
  · cases refused
    exact not_false
  split at refused
  · cases refused
    exact not_false
  split at refused
  · cases refused
    exact not_false
  · cases refused

theorem Node.form_supported {node : Node α (Fin n)} (listed : node.body.Listed) (socket : String) :
    Ends (¬ ·.Dangling) Form.Supported (node.form socket) := by
  obtain ⟨id, label?, inputs?, body⟩ := node
  unfold Node.form
  dsimp only
  split
  · exact not_false
  cases body with
  | rgb | value | group | groupInput => trivial
  | rgbToBw | reroute => exact rfl
  | vertexColor layer => dsimp only; split <;> trivial
  | groupOutput | bakeOutput | foreign => exact not_false
  | math operation k => exact ⟨listed, rfl, rfl, rfl⟩
  | mixRgb blend k => exact ⟨listed, rfl, rfl, rfl⟩
  | invert | gamma => exact ⟨rfl, rfl⟩
  | brightContrast | combine => exact ⟨rfl, rfl, rfl⟩
  | hueSaturation => exact ⟨rfl, rfl, rfl, rfl, rfl⟩
  | mapRange interpolation k => exact ⟨listed, rfl, rfl, rfl, rfl, rfl, rfl⟩
  | «attribute» name source? =>
    dsimp only
    split
    · exact not_false
    split
    · trivial
    split <;> trivial
  | geometry =>
    dsimp only
    split
    · trivial
    split
    · trivial
    · exact not_false
  | vectorMath operation =>
    dsimp only
    split
    · rename_i measure
      split
      · exact ⟨Named.isSome_find?.1 measure, rfl, rfl⟩
      · exact not_false
    · rename_i other
      split
      · exact ⟨vectorOp_listed listed other, rfl, rfl, rfl, rfl⟩
      · exact not_false
  | mix dataType blend k =>
    dsimp only
    split
    · exact ⟨listed, rfl, rfl, rfl⟩
    split
    · exact ⟨by decide, rfl, rfl, rfl⟩
    · exact not_false
  | clamp mode =>
    dsimp only
    split
    · exact ⟨‹_›, rfl, rfl, rfl⟩
    · exact not_false
  | separate space =>
    dsimp only
    cases Lowering.separateChannel? space socket with
    | none => exact not_false
    | some channel => exact rfl
  | colorRamp colorMode interpolation stops =>
    dsimp only
    cases accepted : Lowering.rampRefusal? colorMode interpolation stops with
    | some refusal => exact ramp_refused accepted _ _
    | none =>
      obtain ⟨mode, nonempty⟩ := ramp_listed accepted
      exact ⟨mode, nonempty, rfl⟩

namespace Lowering

/-- What is made is supported, and nothing that is not there is looked for. -/
def Sound (within : Bool) (made : Except LowerError (Expr α)) : Prop :=
  Ends (¬ ·.Dangling) (Expr.Supported within) made

theorem input_sound {within : Bool} {graph : Graph α (Fin n)} (formed : graph.WellFormed)
    {output : Endpoint → Except LowerError (Expr α)}
    (below : ∀ source node, graph.findNode? source.node = some node → Sound within (output source))
    (node : Node α (Fin n)) (socket : String) : Sound within (input graph output node socket) := by
  unfold input
  split
  · rename_i link found
    obtain ⟨source, present⟩ := formed.sourced link (Graph.mem_of_linkTo? found)
    exact below link.source source present
  · split
    · trivial
    · trivial
    · exact not_false

omit [Arithmetic α] in
theorem groupOutput_sound {within : Bool} {tree : Graph α (Fin n)} {node : Node α (Fin n)}
    {socket : String} {template : Node α (Fin n) → Except LowerError (Expr α)}
    {bind : String → Except LowerError (Expr α)} (inside : ∀ active, Sound true (template active))
    (around : ∀ name, Sound within (bind name)) :
    Sound within (groupOutput (silent α) tree node socket template bind) := by
  unfold groupOutput
  split
  · exact not_false
  · rename_i active found
    have entered : Ends (¬ ·.Dangling) (fun _ => True)
        ((silent α).enter ⟨tree.name, node.id, socket⟩) := trivial
    refine entered.bind fun _ _ => (inside active).bind fun shape supported => ?_
    exact (supported.substituteM around).bind fun inner supported => supported

theorem step_sound {family : Family α n} (formed : family.WellFormed) {site : Site n}
    {inGroup : Bool} {node : Node α (Fin n)} (listed : node.body.Listed) {socket : String}
    {below : Site n → Bool → Endpoint → Except LowerError (Expr α)}
    (sound : ∀ place within source node, (family.graph place).findNode? source.node = some node →
      Sound within (below place within source)) :
    Sound inGroup (step (silent α) family site inGroup node socket below) := by
  have around : ∀ name, Sound inGroup (input (family.graph site) (below site inGroup) node name) :=
    input_sound (formed site) (sound site inGroup) node
  have made := node.form_supported listed socket
  unfold step
  rw [nodeOutput_eq]
  cases formed' : node.form socket with
  | error e =>
    rw [formed'] at made
    exact made
  | ok form =>
    rw [formed'] at made
    cases form with
    | built shape => exact Expr.Supported.substituteM around made
    | boundary =>
      -- Outside of a group a boundary input is refused, so none is ever left over.
      cases inGroup with
      | false => exact not_false
      | true => exact rfl
    | inside tree =>
      have within : ∀ active, Sound true (input (family.groups.get tree)
          (below (.group tree) true) active socket) :=
        fun active => input_sound (formed (.group tree)) (sound (.group tree) true) active socket
      exact groupOutput_sound within around

/-- Lowering an output socket of a node that is there. -/
theorem output_sound {family : Family α n} (formed : family.WellFormed) (seen : List String)
    (site : Site n) (inGroup : Bool) (ref : Endpoint) (node : Node α (Fin n))
    (found : (family.graph site).findNode? ref.node = some node) :
    Sound inGroup (output (silent α) family seen site inGroup ref) := by
  induction seen using family.way_induction generalizing site inGroup ref node with
  | _ seen ih =>
    by_cases met : (family.graph site).nodeKey node.id ∈ seen
    · rw [output_cycle _ _ _ _ _ _ found met]
      exact not_false
    · rw [output_fresh _ _ _ _ _ _ found met]
      have listed := (formed site).listed node (Graph.mem_of_findNode? found)
      exact step_sound formed listed (ih _ (family.nodeKey_mem_keys site found) met)

/-- Lowering an input of any node of the root graph. -/
theorem rootInput_sound {family : Family α n} (formed : family.WellFormed)
    (node : Node α (Fin n)) (socket : String) :
    Sound false (family.lowerInput node socket).outcome := by
  rw [outcome_rootInput]
  exact input_sound (formed .root) (output_sound formed [] .root false) node socket

end Lowering
end ShadeGraph
