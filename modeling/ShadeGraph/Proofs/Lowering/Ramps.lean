import Mathlib.Data.List.Nodup
import ShadeGraph.Lowering.Basic
import ShadeGraph.Expr.Eval
import ShadeGraph.Proofs.Document.Loaded
import ShadeGraph.Proofs.Operation.Ramp

/-!
# Ramp nodes

A ramp node takes its stops in order of position, stops at one position in the
order they were given, and shows the line through them at every factor.
-/

namespace ShadeGraph

open Lowering

variable {stops sorted : List (RampStop Rat)} {line : Rat → Rgba Rat}

/-- Stops in order of position, those at one position as they were given. -/
structure StablySorted (stops sorted : List (RampStop Rat)) : Prop where
  perm : sorted.Perm stops
  ascending : Ascending sorted
  stable : ∀ p, sorted.filter (·.position = p) = stops.filter (·.position = p)

namespace Lowering

/-- The order that stops are sorted by. -/
def inOrder (a b : RampStop Rat) : Bool := !decide (b.position < a.position)

theorem inOrder_iff {a b : RampStop Rat} : inOrder a b = true ↔ a.position ≤ b.position := by
  simp [inOrder]

theorem sortStops_sorted (stops : List (RampStop Rat)) : StablySorted stops (sortStops stops) := by
  have trans (a b c : RampStop Rat) (ab : inOrder a b = true) (bc : inOrder b c = true) :
      inOrder a c = true :=
    inOrder_iff.2 (le_trans (inOrder_iff.1 ab) (inOrder_iff.1 bc))
  have total (a b : RampStop Rat) : (inOrder a b || inOrder b a) = true := by
    rcases le_total a.position b.position with le | le
    · rw [inOrder_iff.2 le, Bool.true_or]
    · rw [inOrder_iff.2 le, Bool.or_true]
  have perm : (sortStops stops).Perm stops := List.mergeSort_perm stops _
  have sorted : (sortStops stops).Pairwise fun a b => inOrder a b = true :=
    List.pairwise_mergeSort trans total stops
  refine ⟨perm, sorted.imp fun h => inOrder_iff.1 h, fun p => ?_⟩
  have level : (stops.filter (·.position = p)).Pairwise fun a b => inOrder a b = true := by
    apply List.pairwise_of_forall_mem_list
    intro a ha b hb
    have same : a.position = b.position := by
      simp only [List.mem_filter, decide_eq_true_eq] at ha hb
      rw [ha.2, hb.2]
    exact inOrder_iff.2 same.le
  -- Stops at one position are in order as given, so sorting keeps them as a sublist.
  have kept : (stops.filter (·.position = p)).Sublist (sortStops stops) :=
    List.sublist_mergeSort trans total level List.filter_sublist
  have within := kept.filter (·.position = p)
  simp only [List.filter_filter, Bool.and_self] at within
  exact (within.eq_of_length (perm.filter _).length_eq.symm).symm

end Lowering

theorem StablySorted.strict (sort : StablySorted stops sorted)
    (distinct : (stops.map RampStop.position).Nodup) : StrictlyAscending sorted := by
  have apart : (sorted.map RampStop.position).Nodup :=
    (sort.perm.map RampStop.position).nodup_iff.2 distinct
  rw [List.Nodup, List.pairwise_map] at apart
  exact (sort.ascending.and apart).imp fun h => lt_of_le_of_ne h.1 h.2

/-- Stops at distinct positions have one order. -/
theorem StablySorted.unique {stops' sorted' : List (RampStop Rat)}
    (sort : StablySorted stops sorted) (sort' : StablySorted stops' sorted')
    (same : stops'.Perm stops) (distinct : (stops.map RampStop.position).Nodup) :
    sorted' = sorted := by
  have perm : sorted'.Perm sorted := (sort'.perm.trans same).trans sort.perm.symm
  refine List.Perm.eq_of_pairwise ?_ sort'.ascending sort.ascending perm
  intro a b ha hb ab ba
  have ha : a ∈ stops := (sort'.perm.trans same).subset ha
  have hb : b ∈ stops := sort.perm.subset hb
  exact List.inj_on_of_nodup_map distinct ha hb (le_antisymm ab ba)

/-- A nonempty list of stops has a first one in order of position. -/
theorem Lowering.sortStops_cons (nonempty : stops ≠ []) :
    ∃ first rest, sortStops stops = first :: rest := by
  apply List.exists_cons_of_ne_nil
  intro empty
  have perm := (sortStops_sorted stops).perm
  rw [empty] at perm
  exact nonempty perm.nil_eq.symm

section

variable [Elementary Rat] {k : Nat} {node : Node Rat (Fin k)} {colorMode interpolation : String}

/-- At every factor that the node is fed, its colour output shows the colour of
a line and its alpha output the alpha. -/
def Node.ShowsLine (node : Node Rat (Fin k)) (line : Rat → Rgba Rat) : Prop :=
  ∀ (inGroup : Bool) (input : String → Except LowerError (Expr Rat))
    (group : Fin k → Except LowerError (Expr Rat)) (fac : Expr Rat), input "Fac" = .ok fac →
    ∃ color alpha, nodeOutput node "Color" inGroup input group = .ok color ∧
      nodeOutput node "Alpha" inGroup input group = .ok alpha ∧
      ∀ (n : Nat) (ctx : Context Rat n),
        color.evalColor ctx =
            (fac.evalScalar ctx).map (Vector.map fun f => (line f).rgb) ∧
          alpha.evalScalar ctx =
            (fac.evalScalar ctx).map (Vector.map fun f => (line f).alpha)

namespace Expr

variable {n : Nat} (ctx : Context Rat n) {mode : RampMode} {first : RampStop Rat}
  {rest : List (RampStop Rat)} (fac : Expr Rat)

theorem evalColor_ramp (known : Named.find? RampMode interpolation = some mode) :
    (colorRamp .color interpolation (first :: rest) fac).evalColor ctx =
      (fac.evalScalar ctx).map (Vector.map fun f => (mode.sample first rest f).rgb) := by
  rw [evalColor, evalScalar, eval, eval, evalIn]
  simp only [sampleRamp, known]
  cases fac.evalIn ctx fun _ => none with
  | error fault => rfl
  | ok s => exact congrArg Except.ok Vector.map_map

theorem evalScalar_ramp (known : Named.find? RampMode interpolation = some mode) :
    (colorRamp .alpha interpolation (first :: rest) fac).evalScalar ctx =
      (fac.evalScalar ctx).map (Vector.map fun f => (mode.sample first rest f).alpha) := by
  rw [evalScalar, evalScalar, eval, eval, evalIn]
  simp only [sampleRamp, known]
  cases fac.evalIn ctx fun _ => none with
  | error fault => rfl
  | ok s => exact congrArg Except.ok Vector.map_map

end Expr

/-- A ramp node shows the line that its mode draws through its sorted stops. -/
theorem Node.showsLine_ramp {mode : RampMode} {first : RampStop Rat} {rest : List (RampStop Rat)}
    (body : node.body = .colorRamp colorMode interpolation stops)
    (accepted : rampRefusal? colorMode interpolation stops = none)
    (known : Named.find? RampMode interpolation = some mode)
    (order : sortStops stops = first :: rest) : node.ShowsLine (mode.sample first rest) := by
  intro inGroup input group fac fed
  obtain ⟨id, label?, inputs?, body'⟩ := node
  subst body
  refine ⟨.colorRamp .color interpolation (first :: rest) fac,
    .colorRamp .alpha interpolation (first :: rest) fac, ?_, ?_, fun n ctx =>
    ⟨Expr.evalColor_ramp ctx fac known, Expr.evalScalar_ramp ctx fac known⟩⟩
  · simp [nodeOutput, Node.kind, NodeBody.kind, Kind.isDynamic, Kind.outputs, accepted, fed, order]
  · simp [nodeOutput, Node.kind, NodeBody.kind, Kind.isDynamic, Kind.outputs, accepted, fed, order]

end

namespace Lowering

/-- A linear ramp shows the piecewise linear line through its stops, however they
are listed and even where positions repeat. No channel leaves the range of the
stops. Stops at distinct positions show their own colours there, and any listing
of them gives the same line. -/
theorem linear_ramp_interpolates [Elementary Rat] {k : Nat} {node : Node Rat (Fin k)}
    {colorMode : String} (body : node.body = .colorRamp colorMode "LINEAR" stops)
    (mixes : colorMode = "RGB" ∨ colorMode = "HSV") (nonempty : stops ≠ []) :
    ∃ line, node.ShowsLine line ∧
      (∃ sorted, StablySorted stops sorted ∧ Interpolates sorted line) ∧
      (∀ k lo hi, (∀ stop ∈ stops, lo ≤ stop.color.channel k ∧ stop.color.channel k ≤ hi) →
        ∀ f, lo ≤ (line f).channel k ∧ (line f).channel k ≤ hi) ∧
      ((stops.map RampStop.position).Nodup →
        (∀ stop ∈ stops, line stop.position = stop.color) ∧
          ∀ (node' : Node Rat (Fin k)) (stops' : List (RampStop Rat)),
            node'.body = .colorRamp colorMode "LINEAR" stops' → stops'.Perm stops →
            node'.ShowsLine line) := by
  have accepted {listed : List (RampStop Rat)} (nonempty : listed ≠ []) :
      rampRefusal? colorMode "LINEAR" listed = none := by
    rcases mixes with rfl | rfl <;> simp [rampRefusal?, nonempty]
  have known : Named.find? RampMode "LINEAR" = some .linear := rfl
  obtain ⟨first, rest, order⟩ := sortStops_cons nonempty
  have sort := sortStops_sorted stops
  have straight : Interpolates (first :: rest) (RampMode.linear.sample first rest) :=
    RampMode.linear_interpolates (order ▸ sort.ascending)
  rw [← order] at straight
  refine ⟨RampMode.linear.sample first rest,
    node.showsLine_ramp body (accepted nonempty) known order, ⟨_, sort, straight⟩, ?_, ?_⟩
  · intro k lo hi bounds f
    have some : sortStops stops ≠ [] := by simp [order]
    exact straight.bounded some (fun stop mem => bounds stop (sort.perm.subset mem)) f
  · intro distinct
    constructor
    · intro stop mem
      exact straight.meets (sort.strict distinct) (sort.perm.symm.subset mem)
    · intro node' stops' body' same
      have nonempty' : stops' ≠ [] := by
        rintro rfl
        exact nonempty same.nil_eq.symm
      have order' : sortStops stops' = first :: rest :=
        (sort.unique (sortStops_sorted stops') same distinct).trans order
      exact node'.showsLine_ramp body' (accepted nonempty') known order'

section

local instance linearNumbers : Elementary Rat := Sample.elementary

/-- Red stands between black and white, though it is listed last. -/
theorem linear_ramp_red :
    let stops : List (RampStop Rat) :=
      [⟨1, ⟨.grey 1, 1⟩⟩, ⟨0, ⟨.grey 0, 1⟩⟩, ⟨1 / 2, ⟨⟨1, 0, 0⟩, 0⟩⟩]
    let node : Node Rat (Fin 1) := ⟨"ramp", none, none, .colorRamp "HSV" "LINEAR" stops⟩
    let outside (_ : Fin 1) : Except LowerError (Expr Rat) := .error (.cycle "" "")
    let bare : Context Rat 1 := ⟨[], none, none⟩
    ∃ e, nodeOutput node "Color" false (fun _ => .ok (.constScalar (1 / 2))) outside = .ok e ∧
      e.evalColor bare = .ok #v[⟨1, 0, 0⟩] := by
  intro stops node outside bare
  have body : node.body = .colorRamp "HSV" "LINEAR" stops := rfl
  obtain ⟨line, shows, -, -, distinct⟩ :=
    linear_ramp_interpolates body (.inr rfl) (List.cons_ne_nil _ _)
  obtain ⟨own, -⟩ := distinct (by decide +kernel)
  have red : line (1 / 2) = ⟨⟨1, 0, 0⟩, 0⟩ := own ⟨1 / 2, ⟨⟨1, 0, 0⟩, 0⟩⟩ (by simp [stops])
  obtain ⟨e, alpha, lowered, -, shown⟩ :=
    shows false (fun _ => .ok (.constScalar (1 / 2))) outside _ rfl
  have value := (shown 1 bare).1
  have fed : (Expr.constScalar (1 / 2 : Rat)).evalScalar bare = .ok #v[1 / 2] := rfl
  rw [fed] at value
  have half : (#v[1 / 2] : Vector Rat 1).map (fun f => (line f).rgb) = #v[(line (1 / 2)).rgb] := by
    simp
  rw [red] at half
  exact ⟨e, lowered, value.trans (congrArg Except.ok half)⟩

end

/-- A constant ramp lags: it keeps the colour of the last stop passed. That is
the colour of the last stop reached at every factor, but for the positions of
inner stops that differ in colour from the stop before. -/
theorem constant_ramp_steps_iff [Elementary Rat] {k : Nat} {node : Node Rat (Fin k)}
    {first : RampStop Rat} (body : node.body = .colorRamp "RGB" "CONSTANT" stops)
    (strict : StrictlyAscending stops) (start : stops.head? = some first) :
    ∃ line, node.ShowsLine line ∧ Lags stops line ∧
      ∀ f, line f = ((reached? stops f).getD first).color ↔
        ∀ before a b after, stops = before ++ a :: b :: after → after ≠ [] → b.position = f →
          a.color = b.color := by
  obtain ⟨rest, rfl⟩ : ∃ rest, stops = first :: rest := List.head?_eq_some_iff.1 start
  have accepted : rampRefusal? "RGB" "CONSTANT" (first :: rest) = none := by simp [rampRefusal?]
  have order : sortStops (first :: rest) = first :: rest :=
    List.mergeSort_of_pairwise (strict.imp fun before => inOrder_iff.2 before.le)
  exact ⟨RampMode.constant.sample first rest, node.showsLine_ramp body accepted rfl order,
    RampMode.constant_lags, RampMode.constant_lags.steps_iff strict start⟩

/-- Red, green and blue in three steps, at factors 0, 1/2 and 1. -/
def threeSteps : List (RampStop Rat) :=
  [⟨0, ⟨⟨1, 0, 0⟩, 1⟩⟩, ⟨1 / 2, ⟨⟨0, 1, 0⟩, 1⟩⟩, ⟨1, ⟨⟨0, 0, 1⟩, 1⟩⟩]

theorem threeSteps_strict : StrictlyAscending threeSteps := by
  unfold threeSteps StrictlyAscending
  norm_num

section

local instance constantNumbers : Elementary Rat := Sample.elementary

/-- Past its position green is shown, but not on it. -/
theorem green_after_step :
    let node : Node Rat (Fin 1) := ⟨"ramp", none, none, .colorRamp "RGB" "CONSTANT" threeSteps⟩
    StrictlyAscending threeSteps ∧ ∃ line, node.ShowsLine line ∧
      line (3 / 5) = ⟨⟨0, 1, 0⟩, 1⟩ ∧ line (1 / 2) ≠ ⟨⟨0, 1, 0⟩, 1⟩ := by
  intro node
  have body : node.body = .colorRamp "RGB" "CONSTANT" threeSteps := rfl
  obtain ⟨line, shows, -, steps⟩ := constant_ramp_steps_iff body threeSteps_strict rfl
  have after : reached? threeSteps (3 / 5) = some ⟨1 / 2, ⟨⟨0, 1, 0⟩, 1⟩⟩ := by decide +kernel
  have on : reached? threeSteps (1 / 2) = some ⟨1 / 2, ⟨⟨0, 1, 0⟩, 1⟩⟩ := by decide +kernel
  have past := steps (3 / 5)
  have here := steps (1 / 2)
  rw [after] at past
  rw [on] at here
  refine ⟨threeSteps_strict, line, shows, past.2 ?_, ?_⟩
  · intro before a b after split inner same
    have mem : b ∈ threeSteps := by simp [split]
    have apart : ∀ stop ∈ threeSteps, stop.position ≠ 3 / 5 := by decide +kernel
    exact absurd same (apart b mem)
  · intro green
    have level := here.1 green [] _ _ _ rfl (List.cons_ne_nil _ _) rfl
    exact absurd level (by decide +kernel)

/-- At the very position of the green stop the ramp still shows red. -/
theorem green_step_late :
    let node : Node Rat (Fin 1) := ⟨"ramp", none, none, .colorRamp "RGB" "CONSTANT" threeSteps⟩
    let outside (_ : Fin 1) : Except LowerError (Expr Rat) := .error (.cycle "" "")
    let bare : Context Rat 1 := ⟨[], none, none⟩
    StrictlyAscending threeSteps ∧
      reached? threeSteps (1 / 2) = some ⟨1 / 2, ⟨⟨0, 1, 0⟩, 1⟩⟩ ∧
      ∃ e, nodeOutput node "Color" false (fun _ => .ok (.constScalar (1 / 2))) outside = .ok e ∧
        e.evalColor bare = .ok #v[⟨1, 0, 0⟩] := by
  intro node outside bare
  refine ⟨threeSteps_strict, by decide +kernel, ?_⟩
  let e : Expr Rat := .colorRamp .color "CONSTANT" threeSteps (.constScalar (1 / 2))
  have lowered : nodeOutput node "Color" false (fun _ => .ok (.constScalar (1 / 2))) outside =
      .ok e := by
    unfold e threeSteps
    cbv
  have late : e.evalColor bare = .ok #v[⟨1, 0, 0⟩] := by cbv
  exact ⟨e, lowered, late⟩

end

end Lowering
end ShadeGraph
