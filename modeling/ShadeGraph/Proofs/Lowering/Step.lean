import ShadeGraph.Proofs.Lowering.Form

/-!
# One step of lowering

Lowering an output socket finds its node, looks for the node on the way so far
and then takes one step: the form of the node, filled in by what lies below it.
A run is such steps along ways without a repeated key, so what every step keeps
every run keeps.
-/

namespace ShadeGraph

variable {α : Type} {n : Nat}

/-- Whether a place lies inside of a group. -/
def Site.inGroup : Site n → Bool
  | .root => false
  | .group _ => true

/-- What holds of a way if it holds of every longer way holds of every way. -/
theorem Family.way_induction (family : Family α n) {P : List String → Prop}
    (longer : ∀ seen, (∀ key ∈ family.keys, key ∉ seen → P (key :: seen)) → P seen)
    (seen : List String) : P seen := by
  induction left : family.unseen seen using Nat.strongRecOn generalizing seen with
  | ind left ih =>
    subst left
    exact longer seen fun key mem fresh => ih _ (family.unseen_lt mem fresh) _ rfl

namespace Graph

variable {ρ : Type} {graph : Graph α ρ}

theorem mem_of_linkTo? {target : Endpoint} {link : Link}
    (h : graph.linkTo? target = some link) : link ∈ graph.links :=
  List.mem_of_find?_eq_some h

theorem target_of_linkTo? {target : Endpoint} {link : Link}
    (h : graph.linkTo? target = some link) : link.target = target := by
  simpa using List.find?_some h

theorem mem_of_findNode? {id : String} {node : Node α ρ}
    (h : graph.findNode? id = some node) : node ∈ graph.nodes :=
  List.mem_of_find?_eq_some h

theorem id_of_findNode? {id : String} {node : Node α ρ}
    (h : graph.findNode? id = some node) : node.id = id := by
  simpa using List.find?_some h

end Graph

namespace Lowering

variable {m m' : Type → Type} [Monad m] [Monad m'] [MonadExceptOf LowerError m]
  [MonadExceptOf LowerError m'] [Arithmetic α]

/-- What an output socket is remembered by. -/
def cacheKey (graph : Graph α (Fin n)) (ref : Endpoint) : String :=
  s!"{graph.nodeKey ref.node}/{ref.socket}"

/-- An output of a node, given the lowering of the outputs below it. -/
def step (effects : Effects α m) (family : Family α n) (site : Site n) (inGroup : Bool)
    (node : Node α (Fin n)) (socket : String)
    (below : Site n → Bool → Endpoint → m (Expr α)) : m (Expr α) :=
  let bind := input (family.graph site) (below site inGroup) node
  nodeOutput node socket inGroup bind fun tree =>
    groupOutput effects (family.groups.get tree) node socket
      (fun active => input (family.groups.get tree) (below (.group tree) true) active socket) bind

section
variable (effects : Effects α m) (family : Family α n) (seen : List String) (site : Site n)
  (inGroup : Bool) (ref : Endpoint)

theorem output_missing (h : (family.graph site).findNode? ref.node = none) :
    output effects family seen site inGroup ref =
      throw (missingNode (family.graph site) ref.node) := by
  rw [output]
  split
  · rfl
  · rename_i node found
    rw [h] at found
    cases found

variable {node : Node α (Fin n)}

theorem output_cycle (h : (family.graph site).findNode? ref.node = some node)
    (met : (family.graph site).nodeKey node.id ∈ seen) :
    output effects family seen site inGroup ref =
      throw (.cycle (family.graph site).name node.id) := by
  rw [output]
  split
  · rename_i found
    rw [h] at found
    cases found
  · rename_i node' found
    obtain rfl : node = node' := Option.some.inj (h.symm.trans found)
    exact if_pos met

theorem output_fresh (h : (family.graph site).findNode? ref.node = some node)
    (fresh : (family.graph site).nodeKey node.id ∉ seen) :
    output effects family seen site inGroup ref =
      effects.remember (cacheKey (family.graph site) ref)
        (step effects family site inGroup node ref.socket
          (output effects family ((family.graph site).nodeKey node.id :: seen))) := by
  have key : cacheKey (family.graph site) ref =
      s!"{(family.graph site).nodeKey node.id}/{ref.socket}" := by
    rw [cacheKey, Graph.id_of_findNode? h]
  rw [output]
  split
  · rename_i found
    rw [h] at found
    cases found
  · rename_i node' found
    obtain rfl : node = node' := Option.some.inj (h.symm.trans found)
    rw [dif_neg fresh, key]
    rfl

end

namespace Coupling

variable (R : Coupling m m') {effects : Effects α m} {effects' : Effects α m'}

theorem input {graph : Graph α (Fin n)} {output : Endpoint → m (Expr α)}
    {output' : Endpoint → m' (Expr α)}
    (sources : ∀ link ∈ graph.links, R.holds (output link.source) (output' link.source))
    (node : Node α (Fin n)) (socket : String) :
    R.holds (Lowering.input graph output node socket)
      (Lowering.input graph output' node socket) := by
  unfold Lowering.input
  split
  · rename_i link found
    exact sources link (Graph.mem_of_linkTo? found)
  · split
    · exact R.pure _
    · exact R.pure _
    · exact R.throw _

omit [Arithmetic α] in
theorem groupOutput (enter : ∀ entry, R.holds (effects.enter entry) (effects'.enter entry))
    {tree : Graph α (Fin n)} {node : Node α (Fin n)} {socket : String}
    {template : Node α (Fin n) → m (Expr α)} {template' : Node α (Fin n) → m' (Expr α)}
    (inside : ∀ active, R.holds (template active) (template' active))
    {bind : String → m (Expr α)} {bind' : String → m' (Expr α)}
    (around : ∀ name, R.holds (bind name) (bind' name)) :
    R.holds (Lowering.groupOutput effects tree node socket template bind)
      (Lowering.groupOutput effects' tree node socket template' bind') := by
  unfold Lowering.groupOutput
  split
  · exact R.throw _
  · exact R.bind (enter _) fun _ => R.bind (inside _) fun shape =>
      R.bind (R.substituteM around shape) fun _ => R.pure _

theorem nodeOutput {node : Node α (Fin n)} {socket : String} {inGroup : Bool}
    {bind : String → m (Expr α)} {bind' : String → m' (Expr α)}
    (inputs : ∀ name, R.holds (bind name) (bind' name))
    {group : Fin n → m (Expr α)} {group' : Fin n → m' (Expr α)}
    (groups : ∀ tree, R.holds (group tree) (group' tree)) :
    R.holds (Lowering.nodeOutput node socket inGroup bind group)
      (Lowering.nodeOutput node socket inGroup bind' group') := by
  rw [nodeOutput_eq, nodeOutput_eq]
  split
  · exact R.throw _
  · exact R.substituteM inputs _
  · split
    · exact R.pure _
    · exact R.throw _
  · exact groups _

/-- A step keeps every relation that holds below it. -/
theorem step (enter : ∀ entry, R.holds (effects.enter entry) (effects'.enter entry))
    {family : Family α n} {site : Site n} {inGroup : Bool} (node : Node α (Fin n))
    (socket : String) {below : Site n → Bool → Endpoint → m (Expr α)}
    {below' : Site n → Bool → Endpoint → m' (Expr α)}
    (beside : ∀ ref, R.holds (below site inGroup ref) (below' site inGroup ref))
    (inside : ∀ tree ref, R.holds (below (.group tree) true ref) (below' (.group tree) true ref)) :
    R.holds (Lowering.step effects family site inGroup node socket below)
      (Lowering.step effects' family site inGroup node socket below') := by
  have around : ∀ name, R.holds
      (Lowering.input (family.graph site) (below site inGroup) node name)
      (Lowering.input (family.graph site) (below' site inGroup) node name) :=
    R.input (fun link _ => beside link.source) node
  exact R.nodeOutput around fun tree =>
    R.groupOutput enter (fun active => R.input (fun link _ => inside tree link.source) active _)
      around

/-- A run keeps every relation that remembering keeps. The places of the run
may be told apart by `Valid`, as long as every group is entered as one. -/
theorem output (family : Family α n) (Valid : Site n → Bool → Prop)
    (entered : ∀ tree, Valid (.group tree) true)
    (enter : ∀ entry, R.holds (effects.enter entry) (effects'.enter entry))
    (remember : ∀ {seen : List String} {site : Site n} {inGroup : Bool} {ref : Endpoint}
      {node : Node α (Fin n)}, Valid site inGroup →
      (family.graph site).findNode? ref.node = some node →
      (family.graph site).nodeKey node.id ∉ seen →
      let way := (family.graph site).nodeKey node.id :: seen
      let x := Lowering.step effects family site inGroup node ref.socket
        (Lowering.output effects family way)
      let y := Lowering.step effects' family site inGroup node ref.socket
        (Lowering.output effects' family way)
      R.holds x y → R.holds (effects.remember (cacheKey (family.graph site) ref) x)
        (effects'.remember (cacheKey (family.graph site) ref) y))
    (seen : List String) {site : Site n} {inGroup : Bool} (valid : Valid site inGroup)
    (ref : Endpoint) :
    R.holds (Lowering.output effects family seen site inGroup ref)
      (Lowering.output effects' family seen site inGroup ref) := by
  induction seen using family.way_induction generalizing site inGroup ref with
  | _ seen ih =>
    cases h : (family.graph site).findNode? ref.node with
    | none =>
      rw [output_missing _ _ _ _ _ _ h, output_missing _ _ _ _ _ _ h]
      exact R.throw _
    | some node =>
      by_cases met : (family.graph site).nodeKey node.id ∈ seen
      · rw [output_cycle _ _ _ _ _ _ h met, output_cycle _ _ _ _ _ _ h met]
        exact R.throw _
      · have below := @ih _ (family.nodeKey_mem_keys site h) met
        rw [output_fresh _ _ _ _ _ _ h met, output_fresh _ _ _ _ _ _ h met]
        exact remember valid h met
          (R.step enter node ref.socket (below valid) fun tree => below (entered tree))

theorem rootInput {family : Family α n}
    (outputs : ∀ ref, R.holds (rootOutput effects family ref) (rootOutput effects' family ref))
    (node : Node α (Fin n)) (socket : String) :
    R.holds (Lowering.rootInput effects family node socket)
      (Lowering.rootInput effects' family node socket) :=
  R.input (fun link _ => outputs link.source) node socket

end Coupling

/-- A call for a socket of the root graph. -/
inductive Call (α : Type) (n : Nat)
  | output (ref : Endpoint)
  /-- The node need not be one of the graph. -/
  | input (node : Node α (Fin n)) (socket : String)
  | inputAt (ref : Endpoint)

namespace Call

def lower (effects : Effects α m) (family : Family α n) : Call α n → m (Expr α)
  | output ref => rootOutput effects family ref
  | input node socket => rootInput effects family node socket
  | inputAt ref => rootInputAt effects family ref

/-- What a call makes of the lowering of the outputs of its graph. -/
def answer (graph : Graph α (Fin n)) (outputs : Endpoint → m (Expr α)) : Call α n → m (Expr α)
  | output ref => outputs ref
  | input node socket => Lowering.input graph outputs node socket
  | inputAt ref =>
    match graph.findNode? ref.node with
    | some node => Lowering.input graph outputs node ref.socket
    | none => throw (missingNode graph ref.node)

theorem lower_eq_answer (effects : Effects α m) (family : Family α n) (call : Call α n) :
    call.lower effects family = call.answer family.root (rootOutput effects family) := by
  cases call <;> rfl

end Call

theorem Coupling.call (R : Coupling m m') {effects : Effects α m} {effects' : Effects α m'}
    {family : Family α n}
    (outputs : ∀ ref, R.holds (rootOutput effects family ref) (rootOutput effects' family ref))
    (call : Call α n) : R.holds (call.lower effects family) (call.lower effects' family) := by
  cases call with
  | output ref => exact outputs ref
  | input node socket => exact R.rootInput outputs node socket
  | inputAt ref =>
    show R.holds (rootInputAt effects family ref) (rootInputAt effects' family ref)
    unfold rootInputAt
    split
    · exact R.rootInput outputs _ ref.socket
    · exact R.throw _

end Lowering
end ShadeGraph
