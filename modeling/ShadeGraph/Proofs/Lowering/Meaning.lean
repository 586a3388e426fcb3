import ShadeGraph.Proofs.Document.Loaded
import ShadeGraph.Proofs.Expr.Value
import ShadeGraph.Proofs.Lowering.Plain

/-!
# The meaning of a graph

A graph can be evaluated as it stands, without an expression in between: every
output socket from the values of the inputs of its node, every group in an
environment that gives its boundary inputs the values of the instance's inputs.
Lowering and then evaluating gives the same values, however deep the groups.
-/

namespace ShadeGraph

variable {α : Type} {n k : Nat} [Arithmetic α] [Elementary α]

/-- The values of the sockets of a graph, where they have one. A signal carries
both of its readings, as colours and as scalars. -/
abbrev Values (ι α : Type) (k : Nat) := ι → Option (Signal α k)

omit [Elementary α] in
/-- An input socket has the value of the output linked to it, or is constant. -/
def Graph.inputValue (graph : Graph α (Fin n)) (outputs : Values Endpoint α k)
    (node : Node α (Fin n)) : Values String α k := fun socket =>
  match graph.linkTo? ⟨node.id, socket⟩ with
  | some link => outputs link.source
  | none =>
    match node.socketDefault? socket with
    | some (.scalar value) => some (.scalar (Vector.replicate k value))
    | some (.color value) => some (.color (Vector.replicate k value.toVec3))
    | none => none

namespace Family

/-- An output of a node at a place whose boundary inputs have the values of
`env`, given the values of all outputs in every environment. -/
def nodeValue (family : Family α n) (ctx : Context α k) (site : Site n)
    (outputs : Site n → Values String α k → Values Endpoint α k) (env : Values String α k)
    (node : Node α (Fin n)) : Values String α k := fun socket =>
  let inputs := (family.graph site).inputValue (outputs site env) node
  match node.form socket with
  | .ok (.built shape) => shape.value? ctx inputs
  | .ok .boundary => env socket
  | .ok (.inside tree) =>
    let graph := family.groups.get tree
    graph.activeOutput?.bind fun active =>
      graph.inputValue (outputs (.group tree) inputs) active socket
  | .error _ => none

/-- The value of an output socket, looking `depth` nodes deep. -/
def outputValue (family : Family α n) (ctx : Context α k) :
    Nat → Site n → Values String α k → Values Endpoint α k
  | 0, _, _, _ => none
  | depth + 1, site, env, ref =>
    match (family.graph site).findNode? ref.node with
    | some node => family.nodeValue ctx site (family.outputValue ctx depth) env node ref.socket
    | none => none

/-- The value of an input socket of the root graph, which has no boundary inputs. -/
def inputValueAt (family : Family α n) (ctx : Context α k) (depth : Nat) :
    Values Endpoint α k := fun ref =>
  match family.root.findNode? ref.node with
  | some node =>
    family.root.inputValue (family.outputValue ctx depth .root fun _ => none) node ref.socket
  | none => none

end Family

namespace Lowering

variable {family : Family α n} {ctx : Context α k} {env : Values String α k}

/-- What is made, if anything, has the value. -/
def Reads (ctx : Context α k) (env : Values String α k) (value : Option (Signal α k))
    (made : Except LowerError (Expr α)) : Prop :=
  Ends (fun _ => True) (fun e => e.value? ctx env = value) made

theorem input_reads {graph : Graph α (Fin n)} {output : Endpoint → Except LowerError (Expr α)}
    {outputs : Values Endpoint α k}
    (below : ∀ source, Reads ctx env (outputs source) (output source)) (node : Node α (Fin n))
    (socket : String) :
    Reads ctx env (graph.inputValue outputs node socket) (input graph output node socket) := by
  unfold input Graph.inputValue
  cases graph.linkTo? ⟨node.id, socket⟩ with
  | some link => exact below link.source
  | none =>
    cases node.socketDefault? socket with
    | none => trivial
    | some value =>
      cases value with
      | scalar value => exact rfl
      | color value => exact rfl

/-- A template has its value where the boundary inputs have the values of the
instance's inputs. -/
theorem groupOutput_reads {tree : Graph α (Fin n)} {node : Node α (Fin n)} {socket : String}
    {template : Node α (Fin n) → Except LowerError (Expr α)}
    {bind : String → Except LowerError (Expr α)} {inner : Values String α k}
    {value : Node α (Fin n) → Option (Signal α k)}
    (inside : ∀ active, Reads ctx inner (value active) (template active))
    (around : ∀ name, Reads ctx env (inner name) (bind name)) :
    Reads ctx env (tree.activeOutput?.bind value)
      (groupOutput (silent α) tree node socket template bind) := by
  unfold groupOutput
  cases tree.activeOutput? with
  | none => trivial
  | some active =>
    have entered : Ends (fun _ => True) (fun _ => True)
        ((silent α).enter ⟨tree.name, node.id, socket⟩) := trivial
    refine entered.bind fun _ _ => (inside active).bind fun shape read => ?_
    exact (Expr.value?_substituteM around shape).bind fun filled same => same.trans read

/-- A step reads right if everything below it does, in every environment. -/
theorem step_reads {site : Site n} {inGroup : Bool} {node : Node α (Fin n)} {socket : String}
    {below : Site n → Bool → Endpoint → Except LowerError (Expr α)}
    {outputs : Site n → Values String α k → Values Endpoint α k}
    (beside : ∀ source, Reads ctx env (outputs site env source) (below site inGroup source))
    (inside : ∀ tree inner source, Reads ctx inner (outputs (.group tree) inner source)
      (below (.group tree) true source)) :
    Reads ctx env (family.nodeValue ctx site outputs env node socket)
      (step (silent α) family site inGroup node socket below) := by
  have around : ∀ name, Reads ctx env
      ((family.graph site).inputValue (outputs site env) node name)
      (input (family.graph site) (below site inGroup) node name) := input_reads beside node
  unfold step Family.nodeValue
  rw [nodeOutput_eq]
  cases node.form socket with
  | error e => trivial
  | ok form =>
    cases form with
    | built shape => exact Expr.value?_substituteM around shape
    | boundary =>
      cases inGroup with
      | false => trivial
      | true => exact Expr.value?_groupInput ctx env socket
    | inside tree =>
      exact groupOutput_reads (fun active => input_reads (inside tree _) active socket) around

/-- Lowering an output socket reads its value, whatever the boundary inputs of
the place stand for, once the values look deep enough. -/
theorem output_reads (seen : List String) (site : Site n) (inGroup : Bool) (ref : Endpoint)
    {depth : Nat} (deep : family.unseen seen ≤ depth) (env : Values String α k) :
    Reads ctx env (family.outputValue ctx depth site env ref)
      (output (silent α) family seen site inGroup ref) := by
  induction seen using family.way_induction generalizing site inGroup ref depth env with
  | _ seen ih =>
    cases found : (family.graph site).findNode? ref.node with
    | none =>
      rw [output_missing _ _ _ _ _ _ found]
      trivial
    | some node =>
      by_cases met : (family.graph site).nodeKey node.id ∈ seen
      · rw [output_cycle _ _ _ _ _ _ found met]
        trivial
      · -- One node more on the way, one less to look into: `deep` is kept by every step.
        have mem := family.nodeKey_mem_keys site found
        have shorter := family.unseen_lt mem met
        rw [output_fresh _ _ _ _ _ _ found met]
        cases depth with
        | zero => omega
        | succ depth =>
          have deep : family.unseen ((family.graph site).nodeKey node.id :: seen) ≤ depth := by
            omega
          have below := fun site inGroup env ref => ih _ mem met site inGroup ref deep env
          unfold Family.outputValue
          rw [found]
          exact step_reads (below site inGroup env) fun tree => below (.group tree) true

end Lowering

/-- Lowering an input and evaluating the expression reads the value of the graph
itself, both as colours and as scalars. -/
theorem Family.lowerInputAt_value (family : Family α n) (ctx : Context α k) (ref : Endpoint)
    {e : Expr α} (h : (family.lowerInputAt ref).outcome = .ok e) {depth : Nat}
    (deep : family.keys.length ≤ depth) :
    (e.evalColor ctx).toOption = (family.inputValueAt ctx depth ref).map Signal.colors ∧
      (e.evalScalar ctx).toOption = (family.inputValueAt ctx depth ref).map Signal.scalars := by
  have deep : family.unseen [] ≤ depth := Nat.le_trans (List.length_filter_le _ _) deep
  have value : e.value? ctx (fun _ => none) = family.inputValueAt ctx depth ref := by
    unfold Family.lowerInputAt Lowering.rootInputAt at h
    unfold Family.inputValueAt
    cases found : family.root.findNode? ref.node with
    | none =>
      rw [found] at h
      cases h
    | some node =>
      rw [found] at h
      have lowered := (Lowering.outcome_rootInput family node ref.socket).symm.trans h
      have outputs (source : Endpoint) : Lowering.Reads ctx (fun _ => none)
          (family.outputValue ctx depth .root (fun _ => none) source)
          (Lowering.rootOutput (Lowering.silent α) family source) :=
        Lowering.output_reads [] .root false source deep _
      exact (Lowering.input_reads outputs node ref.socket).ok lowered
  rw [← value, Expr.value?, Expr.evalColor, Expr.evalScalar, Expr.eval]
  cases e.evalIn ctx fun _ => none with
  | error cause => exact ⟨rfl, rfl⟩
  | ok signal => exact ⟨rfl, rfl⟩

namespace Sample

local instance : Elementary Rat := elementary

theorem masked_value :
    let family := library.family masked
    (family.lowerInputAt ⟨"out", "Alpha"⟩).outcome =
        .ok (.group "Pass" (.attributeScalar "mask" .fac)) ∧
      (family.inputValueAt context 6 ⟨"out", "Alpha"⟩).map Signal.scalars =
        some #v[1 / 4, 3 / 4] := by
  intro family
  have lowered : (family.lowerInputAt ⟨"out", "Alpha"⟩).outcome =
      .ok (.group "Pass" (.attributeScalar "mask" .fac)) := by cbv
  have deep : family.keys.length ≤ 6 := by decide
  have read := (family.lowerInputAt_value context ⟨"out", "Alpha"⟩ lowered deep).2
  exact ⟨lowered, read.symm⟩

end Sample
end ShadeGraph
