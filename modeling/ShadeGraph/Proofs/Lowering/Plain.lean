import ShadeGraph.Proofs.Document.Loaded
import ShadeGraph.Proofs.Lowering.Step

/-!
# Plain lowering and the way to a node

Plain lowering, without its trace, gives an expression or an error. The nodes on
the way decide only whether it meets a cycle: under fewer of them it ends in the
same way, unless it ended in a cycle under more.
-/

namespace ShadeGraph

variable {α β : Type} {n : Nat}

/-- Ending in a cycle. -/
def Cyclic (outcome : Except LowerError β) : Prop :=
  ∃ graph node, outcome = .error (.cycle graph node)

theorem not_cyclic_ok (a : β) : ¬ Cyclic (.ok a : Except LowerError β) := by
  rintro ⟨graph, node, h⟩
  cases h

theorem cyclic_error {γ : Type} {e : LowerError} (h : Cyclic (.error e : Except LowerError β)) :
    Cyclic (.error e : Except LowerError γ) := by
  obtain ⟨graph, node, h⟩ := h
  cases h
  exact ⟨graph, node, rfl⟩

namespace Lowering

/-- Plain lowering that leaves no trace. -/
def silent (α : Type) : Effects α (Except LowerError) where
  enter _ := .ok ()
  remember _ lowered := lowered

/-- Running and keeping only the outcome. -/
def outcomeCoupling : Coupling (Traced Entry LowerError) (Except LowerError) where
  holds x y := x.outcome = y
  pure _ := rfl
  bind := by
    intro β γ x y f g h hf
    rw [Traced.outcome_bind, h]
    exact congrArg _ (funext hf)
  throw _ := rfl

variable [Arithmetic α]

theorem outcome_output (family : Family α n) (seen : List String) (site : Site n)
    (inGroup : Bool) (ref : Endpoint) :
    (output (plain α) family seen site inGroup ref).outcome =
      output (silent α) family seen site inGroup ref := by
  have enter (entry : Entry) :
      outcomeCoupling.holds ((plain α).enter entry) ((silent α).enter entry) := rfl
  exact outcomeCoupling.output family (fun _ _ => True) (fun _ => trivial) enter
    (fun _ _ _ same => same) seen trivial ref

theorem outcome_rootOutput (family : Family α n) (ref : Endpoint) :
    (family.lowerOutput ref).outcome = rootOutput (silent α) family ref :=
  outcome_output family [] .root false ref

theorem outcome_rootInput (family : Family α n) (node : Node α (Fin n)) (socket : String) :
    (family.lowerInput node socket).outcome = rootInput (silent α) family node socket :=
  outcomeCoupling.rootInput (outcome_rootOutput family) node socket

theorem outcome_call (family : Family α n) (call : Call α n) :
    (call.lower (plain α) family).outcome = call.lower (silent α) family :=
  outcomeCoupling.call (outcome_rootOutput family) call

/-- Two ways on which lowering is compared: what ends in anything but a cycle
on the second runs in the same way on the first, its trace included. -/
def earlierCoupling : Coupling (Traced Entry LowerError) (Traced Entry LowerError) where
  holds x y := ¬ Cyclic y.outcome → x = y
  pure _ _ := rfl
  bind := by
    intro β γ x y f g h hf acyclic
    rw [Traced.outcome_bind] at acyclic
    show Traced.bind x f = Traced.bind y g
    unfold Traced.bind
    cases outcome : y.outcome with
    | error e =>
      rw [outcome] at acyclic h
      rw [h fun cyclic => acyclic (cyclic_error cyclic), outcome]
    | ok a =>
      rw [outcome] at acyclic h
      rw [h (not_cyclic_ok a), outcome]
      dsimp only
      rw [hf a acyclic]
  throw _ _ := rfl

/-- Fewer nodes on the way change nothing but that a cycle may be met later or
not at all. -/
theorem plainOutput_eq_of_subset (family : Family α n) {seen more : List String}
    (subset : seen ⊆ more) (site : Site n) (inGroup : Bool) (ref : Endpoint)
    (acyclic : ¬ Cyclic (output (plain α) family more site inGroup ref).outcome) :
    output (plain α) family seen site inGroup ref =
      output (plain α) family more site inGroup ref := by
  induction more using family.way_induction generalizing seen site inGroup ref with
  | _ more ih =>
    cases h : (family.graph site).findNode? ref.node with
    | none => rw [output_missing _ _ _ _ _ _ h, output_missing _ _ _ _ _ _ h]
    | some node =>
      by_cases met : (family.graph site).nodeKey node.id ∈ more
      · rw [output_cycle _ _ _ _ _ _ h met] at acyclic
        exact absurd ⟨_, _, rfl⟩ acyclic
      · -- A node that is new on the longer way is new on the shorter one.
        have fresh := fun early => met (subset early)
        have below := @ih _ (family.nodeKey_mem_keys site h) met
          ((family.graph site).nodeKey node.id :: seen) (List.cons_subset_cons _ subset)
        rw [output_fresh _ _ _ _ _ _ h met] at acyclic ⊢
        rw [output_fresh _ _ _ _ _ _ h fresh]
        have enter (entry : Entry) :
            earlierCoupling.holds ((plain α).enter entry) ((plain α).enter entry) := fun _ => rfl
        exact earlierCoupling.step enter node ref.socket (below site inGroup)
          (fun tree => below (.group tree) true) acyclic

theorem output_eq_of_subset (family : Family α n) {seen more : List String}
    (subset : seen ⊆ more) (site : Site n) (inGroup : Bool) (ref : Endpoint)
    (acyclic : ¬ Cyclic (output (silent α) family more site inGroup ref)) :
    output (silent α) family seen site inGroup ref =
      output (silent α) family more site inGroup ref := by
  rw [← outcome_output] at acyclic ⊢
  rw [← outcome_output, plainOutput_eq_of_subset family subset site inGroup ref acyclic]

/-- The nodes on the way turn the run of an output into a cycle or leave it as it
is, and whatever they are, there is only one expression that it can give. -/
theorem way_adds_only_cycles (family : Family α n) (site : Site n) (inGroup : Bool)
    (ref : Endpoint) :
    (∀ seen more : List String, seen ⊆ more →
      ¬ Cyclic (output (plain α) family more site inGroup ref).outcome →
      output (plain α) family seen site inGroup ref =
        output (plain α) family more site inGroup ref) ∧
      ∀ (seen seen' : List String) (e e' : Expr α),
        (output (plain α) family seen site inGroup ref).outcome = .ok e →
        (output (plain α) family seen' site inGroup ref).outcome = .ok e' → e = e' := by
  -- Two ways need not be comparable, but the empty one is below both.
  have start {way : List String} {e : Expr α}
      (given : (output (plain α) family way site inGroup ref).outcome = .ok e) :
      (output (plain α) family [] site inGroup ref).outcome = .ok e := by
    have acyclic : ¬ Cyclic (output (plain α) family way site inGroup ref).outcome :=
      given ▸ not_cyclic_ok e
    rw [plainOutput_eq_of_subset family (List.nil_subset way) site inGroup ref acyclic, given]
  constructor
  · intro seen more subset acyclic
    exact plainOutput_eq_of_subset family subset site inGroup ref acyclic
  · intro seen seen' e e' given given'
    exact Except.ok.inj ((start given).symm.trans (start given'))

/-- The bend of the looped sample, below the nodes of `way`. -/
def bendBelow (way : List String) : Traced Entry LowerError (Expr Rat) :=
  output (plain Rat) (Sample.library.family Sample.looped) way .root false ⟨"bend", "Output"⟩

/-- The bend has one expression below the sum and below less than that. Below the
group that it reads it closes a cycle instead. -/
theorem way_adds_only_cycles_bend :
    ["looped/out"] ⊆ ["looped/sum", "looped/out"] ∧
      (bendBelow ["looped/sum", "looped/out"]).outcome =
        .ok (.group "Pass" (.constScalar (1 / 2))) ∧
      bendBelow ["looped/out"] = bendBelow ["looped/sum", "looped/out"] ∧
      (∀ way e, (bendBelow way).outcome = .ok e → e = .group "Pass" (.constScalar (1 / 2))) ∧
      (bendBelow ["looped/pair"]).outcome = .error (.cycle "Looped" "pair") := by
  obtain ⟨earlier, one⟩ := way_adds_only_cycles (Sample.library.family Sample.looped) .root false
    ⟨"bend", "Output"⟩
  have subset : ["looped/out"] ⊆ ["looped/sum", "looped/out"] := by decide
  have given : (bendBelow ["looped/sum", "looped/out"]).outcome =
      .ok (.group "Pass" (.constScalar (1 / 2))) := by cbv
  refine ⟨subset, given, earlier _ _ subset (given ▸ not_cyclic_ok _), ?_, by cbv⟩
  intro way e found
  exact one way _ e _ found given

end Lowering
end ShadeGraph
