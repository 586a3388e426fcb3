import ShadeGraph.Proofs.Document.Loaded
import ShadeGraph.Proofs.Graph.Dependencies
import ShadeGraph.Proofs.Lowering.Plain

/-!
# Cycles that are reported

Every key on a way is that of a node from which dependencies lead to the node at
hand: through links, into a group, and back out to what is linked to the
instance. A step keeps that, whichever of these it takes, so a node whose key is
met again is one that depends on itself.
-/

namespace ShadeGraph

open Relation

variable {α : Type} {n : Nat}

/-- Every error but a cycle: what a node can be refused for by itself. -/
def LowerError.Unsupported : LowerError → Prop
  | .cycle _ _ => False
  | .unsupportedNode _ _ _ | .unsupportedSocket _ _ _ => True

/-- The group that a form enters is the one that the node is an instance of. -/
def Node.Fits (node : Node α (Fin n)) : Form α n → Prop
  | .inside tree => node.body = .group tree
  | .built _ | .boundary => True

variable [Arithmetic α]

theorem Node.form_fits (node : Node α (Fin n)) (socket : String) :
    Ends LowerError.Unsupported node.Fits (node.form socket) := by
  obtain ⟨id, label?, inputs?, body⟩ := node
  unfold Node.form
  dsimp only
  split
  · trivial
  cases body with
  | group tree => exact rfl
  | «attribute» name source? =>
    dsimp only
    split
    · trivial
    split
    · trivial
    split <;> trivial
  | geometry =>
    dsimp only
    split
    · trivial
    split <;> trivial
  | vectorMath operation =>
    dsimp only
    split
    · split <;> trivial
    · split <;> trivial
  | mix dataType blend k =>
    dsimp only
    split
    · trivial
    split <;> trivial
  | clamp mode => dsimp only; split <;> trivial
  | separate space =>
    dsimp only
    cases Lowering.separateChannel? space socket <;> trivial
  | colorRamp colorMode interpolation stops =>
    dsimp only
    cases Lowering.rampRefusal? colorMode interpolation stops <;> trivial
  | _ => trivial

namespace Lowering

section

variable {fault : LowerError → Prop} (unsupported : ∀ e : LowerError, e.Unsupported → fault e)

include unsupported

theorem input_failsBy {graph : Graph α (Fin n)} {output : Endpoint → Except LowerError (Expr α)}
    {node : Node α (Fin n)}
    (sources : ∀ link ∈ graph.links, link.target.node = node.id →
      FailsBy fault (output link.source)) (socket : String) :
    FailsBy fault (input graph output node socket) := by
  unfold input
  split
  · rename_i link found
    have target : link.target.node = node.id := by
      rw [Graph.target_of_linkTo? found]
    exact sources link (Graph.mem_of_linkTo? found) target
  · split
    · trivial
    · trivial
    · exact unsupported _ trivial

omit [Arithmetic α] in
theorem groupOutput_failsBy {tree : Graph α (Fin n)} {node : Node α (Fin n)} {socket : String}
    {template : Node α (Fin n) → Except LowerError (Expr α)}
    {bind : String → Except LowerError (Expr α)}
    (inside : ∀ active, tree.activeOutput? = some active → FailsBy fault (template active))
    (around : ∀ name, FailsBy fault (bind name)) :
    FailsBy fault (groupOutput (silent α) tree node socket template bind) := by
  unfold groupOutput
  split
  · exact unsupported _ trivial
  · rename_i active found
    have entered : FailsBy fault ((silent α).enter ⟨tree.name, node.id, socket⟩) := trivial
    refine entered.bind fun _ => (inside active found).bind fun shape => ?_
    exact (substituteM_failsBy around shape).bind fun _ => trivial

/-- A step fails only as what the node depends on does: what is linked to it,
and what is linked to the active output of its group. -/
theorem step_failsBy {family : Family α n} {site : Site n} {inGroup : Bool}
    {node : Node α (Fin n)} {socket : String}
    {below : Site n → Bool → Endpoint → Except LowerError (Expr α)}
    (beside : ∀ link ∈ (family.graph site).links, link.target.node = node.id →
      FailsBy fault (below site inGroup link.source))
    (inside : ∀ tree active, node.body = .group tree →
      (family.groups.get tree).activeOutput? = some active →
      ∀ link ∈ (family.groups.get tree).links, link.target.node = active.id →
      FailsBy fault (below (.group tree) true link.source)) :
    FailsBy fault (step (silent α) family site inGroup node socket below) := by
  have around : ∀ name, FailsBy fault
      (input (family.graph site) (below site inGroup) node name) :=
    input_failsBy unsupported beside
  have fits := node.form_fits socket
  unfold step
  rw [nodeOutput_eq]
  cases made : node.form socket with
  | error e =>
    rw [made] at fits
    exact unsupported e fits
  | ok form =>
    rw [made] at fits
    cases form with
    | built shape => exact substituteM_failsBy around shape
    | boundary =>
      cases inGroup with
      | false => exact unsupported _ trivial
      | true => trivial
    | inside tree =>
      refine groupOutput_failsBy unsupported (fun active found => ?_) around
      exact input_failsBy unsupported (inside tree active fits found) socket

theorem Call.answer_failsBy {graph : Graph α (Fin n)}
    {outputs : Endpoint → Except LowerError (Expr α)}
    (fails : ∀ ref, FailsBy fault (outputs ref)) (call : Call α n) :
    FailsBy fault (call.answer graph outputs) := by
  cases call with
  | output ref => exact fails ref
  | input node socket =>
    exact input_failsBy unsupported (fun link _ _ => fails link.source) socket
  | inputAt ref =>
    unfold Call.answer
    dsimp only
    split
    · exact input_failsBy unsupported (fun link _ _ => fails link.source) ref.socket
    · exact unsupported _ trivial

end
end Lowering

namespace Family

variable {family : Family α n}

/-- If the error is a cycle, it is one of the family, and named as there. -/
def Looped (family : Family α n) (e : LowerError) : Prop :=
  ∀ graph node, e = .cycle graph node →
    ∃ x : family.Placed, x.graph.name = graph ∧ x.node.id = node ∧ TransGen Depends x x

omit [Arithmetic α] in
theorem looped_of_unsupported {e : LowerError} (unsupported : e.Unsupported) :
    family.Looped e := by
  rintro graph node rfl
  exact unsupported.elim

/-- Lowering an output of a node that every key on the way leads to. -/
theorem Unambiguous.output_looped (unambiguous : family.Unambiguous) (seen : List String)
    (site : Site n) (inGroup : Bool) (ref : Endpoint)
    (above : ∀ x : family.Placed, x.graph = family.graph site → x.node.id = ref.node →
      Above seen x) :
    FailsBy family.Looped (Lowering.output (Lowering.silent α) family seen site inGroup ref) := by
  induction seen using family.way_induction generalizing site inGroup ref with
  | _ seen ih =>
    cases found : (family.graph site).findNode? ref.node with
    | none =>
      rw [Lowering.output_missing _ _ _ _ _ _ found]
      exact looped_of_unsupported trivial
    | some node =>
      have id : node.id = ref.node := Graph.id_of_findNode? found
      let x : family.Placed :=
        ⟨family.graph site, family.graph_mem_graphs site, node, Graph.mem_of_findNode? found⟩
      have here : x.Found := by
        show (family.graph site).findNode? node.id = some node
        rw [id, found]
      have reached : Above seen x := above x rfl id
      by_cases met : x.key ∈ seen
      · -- The key on the way is that of the same node, which therefore leads to itself.
        rw [Lowering.output_cycle _ _ _ _ _ _ found met]
        rintro graph name cycle
        cases cycle
        obtain ⟨y, hy, same, path⟩ := reached x.key met
        rw [unambiguous.key_unique hy here same] at path
        exact ⟨x, rfl, rfl, path⟩
      · rw [Lowering.output_fresh _ _ _ _ _ _ found met]
        have below := ih x.key (family.nodeKey_mem_keys site found) met
        refine Lowering.step_failsBy (fun _ => looped_of_unsupported) ?_ ?_
        · intro link mem target
          refine below site inGroup link.source fun y graph source => ?_
          exact reached.step here (Or.inl ⟨graph, link, mem, source.symm, target⟩)
        · intro tree active body active? link mem target
          refine below (.group tree) true link.source fun y graph source => ?_
          have graph : y.graph = family.groups.get tree := graph
          refine reached.step here (Or.inr ⟨tree, active, body, graph, ?_⟩)
          rw [graph]
          exact ⟨active?, link, mem, source.symm, target⟩

end Family

namespace Lowering.Call

/-- Without remembering, a cycle is reported only for a node that depends on
itself. So none is reported where links are acyclic and no graph has an instance
of itself, however often nodes and groups are shared. -/
theorem cycles_reported {family : Family α n} (unambiguous : family.Unambiguous)
    (call : Call α n) :
    (∀ graph node, (call.lower (plain α) family).outcome = .error (.cycle graph node) →
      ∃ x : family.Placed, x.graph.name = graph ∧ x.node.id = node ∧
        TransGen Family.Depends x x) ∧
    (family.Layered → ¬ Cyclic (call.lower (plain α) family).outcome) := by
  have outputs (ref : Endpoint) :
      FailsBy family.Looped (rootOutput (silent α) family ref) := by
    refine unambiguous.output_looped [] .root false ref ?_
    intro x _ _ key mem
    cases mem
  have looped : FailsBy family.Looped (call.lower (plain α) family).outcome := by
    rw [outcome_call, lower_eq_answer]
    exact answer_failsBy (fun _ => Family.looped_of_unsupported) outputs call
  have reported : ∀ graph node,
      (call.lower (plain α) family).outcome = .error (.cycle graph node) →
      ∃ x : family.Placed, x.graph.name = graph ∧ x.node.id = node ∧
        TransGen Family.Depends x x :=
    fun graph node cycle => looped.error cycle graph node rfl
  refine ⟨reported, ?_⟩
  rintro layered ⟨graph, node, cycle⟩
  obtain ⟨x, _, _, path⟩ := reported graph node cycle
  exact layered.acyclic x path

end Lowering.Call

/-! Instances of one group in a chain and in one another, and a node with two
readers, none of which is a cycle. -/

namespace Sample

def relay : Graph Rat (Fin 2) where
  id := "relay"
  name := "Relay"
  nodes := [⟨"in", none, none, .groupInput⟩, ⟨"end", none, none, .groupOutput none⟩]
  links := [⟨⟨"in", "X"⟩, ⟨"end", "Q"⟩⟩]

def twice : Graph Rat (Fin 2) where
  id := "twice"
  name := "Twice"
  nodes := [⟨"in", none, none, .groupInput⟩, ⟨"first", none, none, .group 0⟩,
    ⟨"second", none, none, .group 0⟩, ⟨"end", none, none, .groupOutput none⟩]
  links := [⟨⟨"in", "X"⟩, ⟨"first", "X"⟩⟩, ⟨⟨"first", "Q"⟩, ⟨"second", "X"⟩⟩,
    ⟨⟨"second", "Q"⟩, ⟨"end", "Q"⟩⟩]

def chained : Family Rat 2 where
  root.id := "chained"
  root.name := "Chained"
  root.nodes := [⟨"out", none, none, .bakeOutput⟩, ⟨"mask", none, none, .attribute "mask" none⟩,
    ⟨"pair", none, none, .group 1⟩, ⟨"last", none, none, .group 0⟩,
    ⟨"sum", none, none, .math "ADD" false⟩]
  root.links := [⟨⟨"mask", "Fac"⟩, ⟨"pair", "X"⟩⟩, ⟨⟨"pair", "Q"⟩, ⟨"last", "X"⟩⟩,
    ⟨⟨"pair", "Q"⟩, ⟨"sum", "A"⟩⟩, ⟨⟨"last", "Q"⟩, ⟨"sum", "B"⟩⟩,
    ⟨⟨"sum", "Value"⟩, ⟨"out", "Alpha"⟩⟩]
  groups := #v[relay, twice]

theorem chained_unambiguous : chained.Unambiguous where
  unslashed := by
    unfold Unslashed
    decide +kernel
  distinct := by decide +kernel

theorem chained_layered : chained.Layered := by
  let rank (ids : List String) (id : String) : Nat := ids.idxOf id
  refine Family.layered_of_ranks
    (rank ["in", "mask", "first", "second", "end", "pair", "last", "sum", "out"])
    (rank ["relay", "twice", "chained"]) ?_ ?_
  · decide +kernel
  · decide +kernel

theorem cycles_reported_looped_chained :
    let family := library.family looped
    family.Unambiguous ∧ chained.Unambiguous ∧ chained.Layered ∧
    (∃ x : family.Placed, x.graph.name = "Looped" ∧ x.node.id = "pair" ∧
      TransGen Family.Depends x x) ∧
    ∀ call : Lowering.Call Rat 2, ¬ Cyclic (call.lower (Lowering.plain Rat) chained).outcome := by
  intro family
  have unambiguous : family.Unambiguous :=
    ((Document.load_wellFormed loads).keyed looped_mem unslashed).unambiguous
  have cycle : ((Lowering.Call.inputAt ⟨"out", "Alpha"⟩).lower (Lowering.plain Rat)
      family).outcome = .error (.cycle "Looped" "pair") := by cbv
  refine ⟨unambiguous, chained_unambiguous, chained_layered, ?_, fun call => ?_⟩
  · exact (Lowering.Call.cycles_reported unambiguous _).1 "Looped" "pair" cycle
  · exact (Lowering.Call.cycles_reported chained_unambiguous call).2 chained_layered

end Sample
end ShadeGraph
