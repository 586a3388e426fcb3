import ShadeGraph.Lowering.Memo
import ShadeGraph.Proofs.Graph.StandIn
import ShadeGraph.Proofs.Lowering.Step

/-!
# Lowering in a family that stands in for another

A socket of a node is lowered alike in a family and in one that stands in for
it: the same expression or the same error, and the same done on the side. So it
is for any kind of lowering, because what a step looks up is found in both, and
what it looks up next belongs to nodes that both have.
-/

namespace ShadeGraph

variable {α : Type} {n n' : Nat} {place : Fin n → Fin n'}

namespace Lowering

variable {m : Type → Type} [Monad m] [MonadExceptOf LowerError m] [Arithmetic α]

/-- Moving a node moves the groups that its outputs may stand for. -/
theorem nodeOutput_mapGroup (node : Node α (Fin n)) (socket : String) (inGroup : Bool)
    (bind : String → m (Expr α)) (group : Fin n' → m (Expr α)) :
    nodeOutput (node.mapGroup place) socket inGroup bind group =
      nodeOutput node socket inGroup bind fun tree => group (place tree) := by
  obtain ⟨id, label?, inputs?, body⟩ := node
  cases body <;> rfl

section
variable {other : Graph α (Fin n')} {graph : Graph α (Fin n)}
  {output' output : Endpoint → m (Expr α)}

theorem input_standsFor (stands : other.StandsFor (graph.mapGroup place))
    (below : ∀ {source node}, graph.findNode? source.node = some node →
      output' source = output source)
    (node : Node α (Fin n)) (socket : String) :
    input other output' (node.mapGroup place) socket = input graph output node socket := by
  have linked : other.linkTo? ⟨(node.mapGroup place).id, socket⟩ =
      graph.linkTo? ⟨node.id, socket⟩ := stands.link _
  unfold input
  rw [linked, Node.mapGroup_kind, Node.mapGroup_id, Node.socketDefault?_mapGroup]
  cases found : graph.linkTo? ⟨node.id, socket⟩ with
  | none => rfl
  | some link =>
    obtain ⟨source, there⟩ := stands.sourced link (Graph.mem_of_linkTo? found)
    rw [Graph.findNode?_mapGroup] at there
    obtain ⟨source, there, _⟩ := Option.map_eq_some_iff.1 there
    -- A link starts from a node that both graphs have, so no other outputs are compared.
    exact below there

omit [Arithmetic α] in
theorem groupOutput_standsFor (effects : Effects α m)
    (stands : other.StandsFor (graph.mapGroup place))
    (node : Node α (Fin n)) (socket : String) {template' : Node α (Fin n') → m (Expr α)}
    {template : Node α (Fin n) → m (Expr α)}
    (inside : ∀ active, template' (active.mapGroup place) = template active)
    (bind : String → m (Expr α)) :
    groupOutput effects other (node.mapGroup place) socket template' bind =
      groupOutput effects graph node socket template bind := by
  have name : other.name = graph.name := stands.name
  unfold groupOutput
  rw [stands.active, name, Graph.activeOutput?_mapGroup, Node.mapGroup_kind, Node.mapGroup_id]
  cases graph.activeOutput? with
  | none => rfl
  | some active =>
    dsimp only [Option.map_some]
    rw [inside active]

end

variable (effects : Effects α m) {other : Family α n'} {family : Family α n}

/-- A step is alike if what lies below it is, for the nodes that the family has. -/
theorem step_standsFor (stands : other.StandsFor family place) (site : Site n) (inGroup : Bool)
    (node : Node α (Fin n)) (socket : String)
    {below' : Site n' → Bool → Endpoint → m (Expr α)}
    {below : Site n → Bool → Endpoint → m (Expr α)}
    (alike : ∀ site inGroup {ref node}, (family.graph site).findNode? ref.node = some node →
      below' (site.map place) inGroup ref = below site inGroup ref) :
    step effects other (site.map place) inGroup (node.mapGroup place) socket below' =
      step effects family site inGroup node socket below := by
  have around : input (other.graph (site.map place)) (below' (site.map place) inGroup)
      (node.mapGroup place) = input (family.graph site) (below site inGroup) node := by
    funext name
    exact input_standsFor (stands.graph site) (alike site inGroup) node name
  unfold step
  rw [nodeOutput_mapGroup, around]
  refine congrArg _ (funext fun tree => ?_)
  exact groupOutput_standsFor effects (stands.group tree) node socket
    (input_standsFor (stands.group tree) (alike (.group tree) true) · socket) _

/-- Every output of a node of the family is lowered alike, below any nodes. -/
theorem output_standsFor (stands : other.StandsFor family place) (seen : List String)
    (site : Site n) (inGroup : Bool) {ref : Endpoint} {node : Node α (Fin n)}
    (found : (family.graph site).findNode? ref.node = some node) :
    output effects other seen (site.map place) inGroup ref =
      output effects family seen site inGroup ref := by
  -- The way grows by keys of the family alone: a stand-in gives its nodes the same keys.
  induction seen using family.way_induction generalizing site inGroup ref node with
  | _ seen ih =>
    have here := stands.graph site
    have found' : (other.graph (site.map place)).findNode? ref.node = some (node.mapGroup place) :=
      here.node (by rw [Graph.findNode?_mapGroup, found]; rfl)
    have key (id : String) : (other.graph (site.map place)).nodeKey id =
        (family.graph site).nodeKey id := by
      rw [Graph.nodeKey, here.id]
      rfl
    by_cases met : (family.graph site).nodeKey node.id ∈ seen
    · rw [output_cycle _ _ _ _ _ _ found met, output_cycle _ _ _ _ _ _ found' ((key _).symm ▸ met),
        here.name]
      rfl
    · rw [output_fresh _ _ _ _ _ _ found met, output_fresh _ _ _ _ _ _ found' ((key _).symm ▸ met),
        cacheKey, cacheKey, key, key]
      refine congrArg _ (step_standsFor effects stands site inGroup node ref.socket ?_)
      intro site' inGroup' ref' node' found'
      exact ih _ (family.nodeKey_mem_keys site found) met site' inGroup' found'

theorem rootOutput_standsFor (stands : other.StandsFor family place) {ref : Endpoint}
    (absent : family.root.findNode? ref.node = none → other.root.findNode? ref.node = none) :
    rootOutput effects other ref = rootOutput effects family ref := by
  cases found : family.root.findNode? ref.node with
  | some node => exact output_standsFor effects stands [] .root false found
  | none =>
    have name : (other.graph .root).name = (family.graph .root).name := stands.root.name
    have missing := output_missing effects family [] .root false ref found
    have missing' := output_missing effects other [] .root false ref (absent found)
    rw [rootOutput, rootOutput, missing, missing', missingNode, missingNode, name]

theorem rootInputAt_standsFor (stands : other.StandsFor family place) {ref : Endpoint}
    (absent : family.root.findNode? ref.node = none → other.root.findNode? ref.node = none) :
    rootInputAt effects other ref = rootInputAt effects family ref := by
  unfold rootInputAt
  cases found : family.root.findNode? ref.node with
  | some node =>
    have found' : other.root.findNode? ref.node = some (node.mapGroup place) :=
      stands.root.node (by rw [Graph.findNode?_mapGroup, found]; rfl)
    rw [found']
    exact input_standsFor stands.root (output_standsFor effects stands [] .root false) node _
  | none =>
    have name : other.root.name = family.root.name := stands.root.name
    rw [absent found, missingNode, missingNode, name]

end Lowering

/-- A call for an output or an input of the root goes in the one family as in
the other: it gives the same, enters the same groups and, on a session, leaves
the same behind. -/
structure Family.AnswersAlike [Arithmetic α] (other : Family α n') (family : Family α n)
    (ref : Endpoint) : Prop where
  output : other.lowerOutput ref = family.lowerOutput ref
  input : other.lowerInputAt ref = family.lowerInputAt ref
  sessionOutput : ∀ session : Session α,
    session.lowerOutput other ref = session.lowerOutput family ref
  sessionInput : ∀ session : Session α,
    session.lowerInputAt other ref = session.lowerInputAt family ref

theorem Family.StandsFor.answersAlike [Arithmetic α] {other : Family α n'} {family : Family α n}
    (stands : other.StandsFor family place) {ref : Endpoint}
    (absent : family.root.findNode? ref.node = none → other.root.findNode? ref.node = none) :
    other.AnswersAlike family ref where
  output := Lowering.rootOutput_standsFor _ stands absent
  input := Lowering.rootInputAt_standsFor _ stands absent
  sessionOutput session :=
    congrArg session.call (Lowering.rootOutput_standsFor Session.effects stands absent)
  sessionInput session :=
    congrArg session.call (Lowering.rootInputAt_standsFor Session.effects stands absent)

end ShadeGraph
