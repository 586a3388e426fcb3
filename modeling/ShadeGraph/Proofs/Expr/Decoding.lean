import Mathlib.Data.List.Basic
import ShadeGraph.Proofs.Expr.Lines
import ShadeGraph.Proofs.Number.Numeral

/-!
# Decoding a tree from its lines

The lines tell a tree apart from every other one that is not shown alike. The type
of a node settles how many children it has and in which fields, and with it where
the lines of each of them end.
-/

namespace ShadeGraph

variable {α : Type}

/-! ### What the parts of a line tell -/

namespace Part

@[simp]
theorem keyword_inj {a b : String} : keyword a = keyword b ↔ a = b := by simp [keyword]

@[simp]
theorem literal_inj {a b : String} : literal a = literal b ↔ a = b := by simp [literal]

@[simp]
theorem ref_inj {a b : String} : ref a = ref b ↔ a = b := by simp [ref, toString]

end Part

@[simp]
theorem AttributeChannel.name_inj {a b : AttributeChannel} : a.name = b.name ↔ a = b := by
  cases a <;> cases b <;> simp [name]

@[simp]
theorem GeometryQuantity.name_inj {a b : GeometryQuantity} : a.name = b.name ↔ a = b := by
  cases a <;> cases b <;> simp [name]

@[simp]
theorem ChannelSpace.name_inj {a b : ChannelSpace} : a.name = b.name ↔ a = b := by
  cases a <;> cases b <;> simp [name]

@[simp]
theorem RampOutput.name_inj {a b : RampOutput} : a.name = b.name ↔ a = b := by
  cases a <;> cases b <;> simp [name]

theorem repr_inj {m n : Nat} : m.repr = n.repr ↔ m = n := by
  refine ⟨fun same => ?_, congrArg _⟩
  rw [Nat.repr_eq_ofList_toDigits, Nat.repr_eq_ofList_toDigits, String.ofList_inj] at same
  have read := congrArg (Nat.ofDigitChars 10 · 0) same
  simpa only [Nat.ofDigitChars_ten_toDigits] using read

theorem append_cons_inj {β : Type} {c : β} {x y xs ys : List β} (hx : c ∉ x) (hy : c ∉ y)
    (same : x ++ c :: xs = y ++ c :: ys) : x = y ∧ xs = ys := by
  induction x generalizing y with
  | nil =>
    cases y with
    | nil => exact ⟨rfl, (List.cons.inj same).2⟩
    | cons b y => exact absurd (List.cons.inj same).1 (List.ne_of_not_mem_cons hy)
  | cons a x ih =>
    cases y with
    | nil => exact absurd (List.cons.inj same).1.symm (List.ne_of_not_mem_cons hx)
    | cons b y =>
      obtain ⟨rfl, later⟩ := List.cons.inj same
      obtain ⟨rfl, rfl⟩ := ih (List.not_mem_of_not_mem_cons hx)
        (List.not_mem_of_not_mem_cons hy) later
      exact ⟨rfl, rfl⟩

/-! ### Numbers -/

section

variable [Arithmetic α]

def unsignedZero (x : α) : α := if x == 0 then 0 else x

/-- Numbers are written without a comma, and all apart but for the sign of a zero. -/
structure Legible (text : α → String) : Prop where
  commaless : ∀ x, ',' ∉ (text x).toList
  apart : ∀ {x y}, text x = text y → x = y ∨ (x == 0 ∧ y == 0)

theorem Double.legible_text : Legible Double.text where
  commaless := Double.comma_notMem_text
  apart := Double.text_inj

namespace Legible

variable {text : α → String} (legible : Legible text)

include legible

theorem unsignedZero_eq {x y : α} (same : text x = text y) : unsignedZero x = unsignedZero y := by
  rcases legible.apart same with rfl | ⟨zero, zero'⟩
  · rfl
  · rw [unsignedZero, unsignedZero, if_pos zero, if_pos zero']

theorem color {a b : Vec3 α}
    (same : ", ".intercalate (a.toList.map text) = ", ".intercalate (b.toList.map text)) :
    a.map unsignedZero = b.map unsignedZero := by
  have spelled (c : Vec3 α) : (", ".intercalate (c.toList.map text)).toList =
      (text c.x).toList ++
        ',' :: ([' '] ++ (text c.y).toList ++ ',' :: ([' '] ++ (text c.z).toList)) := by
    show (text c.x ++ ", " ++ text c.y ++ ", " ++ text c.z).toList = _
    simp
  have inner (x : α) : ',' ∉ [' '] ++ (text x).toList := by simp [legible.commaless]
  have chars := congrArg String.toList same
  rw [spelled, spelled] at chars
  obtain ⟨x, chars⟩ := append_cons_inj (legible.commaless _) (legible.commaless _) chars
  obtain ⟨y, z⟩ := append_cons_inj (inner _) (inner _) chars
  have entry {s t : String} (same : s.toList = t.toList) : s = t := String.toList_inj.1 same
  have x := legible.unsignedZero_eq (entry x)
  have y := legible.unsignedZero_eq (entry (List.append_cancel_left y))
  have z := legible.unsignedZero_eq (entry (List.append_cancel_left z))
  rw [Vec3.map, Vec3.map, x, y, z]

end Legible

end

namespace Expr

@[simp]
theorem flagParts_inj {a b : Bool} : flagParts a = flagParts b ↔ a = b := by
  cases a <;> cases b <;> simp [flagParts]

/-! ### What the lines show -/

variable [Arithmetic α]

def blankStop : RampStop α := ⟨0, ⟨.grey 0, 0⟩⟩

/-- A tree without what its lines leave out: the sign of a zero, and of the stops
of a ramp all but how many they are. -/
def shown : Expr α → Expr α
  | constColor rgb => constColor (rgb.map unsignedZero)
  | constScalar value => constScalar (unsignedZero value)
  | attributeColor name => attributeColor name
  | attributeScalar name channel => attributeScalar name channel
  | geometry quantity => geometry quantity
  | math operation k a b c => math operation k a.shown b.shown c.shown
  | vectorMath operation a b c scale =>
    vectorMath operation a.shown b.shown c.shown scale.shown
  | vectorMeasure operation a b => vectorMeasure operation a.shown b.shown
  | mix blend k fac color1 color2 => mix blend k fac.shown color1.shown color2.shown
  | invert fac color => invert fac.shown color.shown
  | grayscale color => grayscale color.shown
  | clamp mode value min max => clamp mode value.shown min.shown max.shown
  | brightContrast color bright contrast =>
    brightContrast color.shown bright.shown contrast.shown
  | gamma color exponent => gamma color.shown exponent.shown
  | separate space channel input => separate space channel input.shown
  | combine space x y z => combine space x.shown y.shown z.shown
  | colorRamp output interpolation stops fac =>
    colorRamp output interpolation (List.replicate stops.length blankStop) fac.shown
  | mapRange interpolation k value fromMin fromMax toMin toMax steps =>
    mapRange interpolation k value.shown fromMin.shown fromMax.shown toMin.shown toMax.shown
      steps.shown
  | hueSaturation hue saturation value fac color =>
    hueSaturation hue.shown saturation.shown value.shown fac.shown color.shown
  | group name inner => group name inner.shown
  | groupInput socket => groupInput socket

/-! ### The fields of a node itself -/

section

omit [Arithmetic α]

/-- A node without its children. -/
def bare (e : Expr α) : Expr α := e.mapChildren fun _ => groupInput ""

theorem eq_of_bare {e₁ e₂ : Expr α} (own : e₁.bare = e₂.bare)
    (children : e₁.children = e₂.children) : e₁ = e₂ := by
  cases e₁ <;> cases e₂ <;> cases own <;> cases children <;> rfl

theorem fields_bare (e : Expr α) :
    e.bare.namedChildren.map Prod.fst = e.namedChildren.map Prod.fst := by
  cases e <;> rfl

theorem ctorIdx_of_typeName {e₁ e₂ : Expr α} (same : e₁.typeName = e₂.typeName) :
    e₁.ctorIdx = e₂.ctorIdx := by
  let names : List String := ["constColor", "constScalar", "attributeColor", "attributeScalar",
    "geometry", "math", "vectorMath", "vectorMathScalar", "mix", "invert", "grayscale", "clamp",
    "brightContrast", "gamma", "separate", "combine", "colorRamp", "mapRange", "hueSaturation",
    "group", "groupInput"]
  have index (e : Expr α) : names.idxOf e.typeName = e.ctorIdx := by cases e <;> rfl
  rw [← index e₁, ← index e₂, same]

end

theorem children_shown (e : Expr α) : e.shown.children = e.children.map shown := by
  cases e <;> rfl

theorem fields_shown (e : Expr α) :
    e.shown.namedChildren.map Prod.fst = e.namedChildren.map Prod.fst := by
  cases e <;> rfl

variable {text : α → String}

/-- The line of a node shows all fields of its own. -/
theorem bare_of_headline (legible : Legible text) {e₁ e₂ : Expr α}
    (same : e₁.headline text = e₂.headline text) : e₁.shown.bare = e₂.shown.bare := by
  obtain ⟨type, header⟩ := List.cons.inj same
  have ctor := ctorIdx_of_typeName (congrArg Part.text type)
  cases e₁ <;> cases e₂ <;> try cases ctor
  all_goals simp only [headerParts, List.cons.injEq, and_true, Part.keyword_inj, Part.ref_inj,
    Part.literal_inj, flagParts_inj, AttributeChannel.name_inj, GeometryQuantity.name_inj,
    ChannelSpace.name_inj, RampOutput.name_inj, String.append_left_inj, String.append_right_inj,
    toString, repr_inj, Fin.val_inj] at header
  case constColor.constColor => exact congrArg constColor (legible.color header)
  case constScalar.constScalar => exact congrArg constScalar (legible.unsignedZero_eq header)
  all_goals simp [bare, shown, mapChildren, traverseChildren, header]

/-- Whatever lines follow, those of the tree tell how it is shown and where they end. -/
def Decodes (text : α → String) (e : Expr α) : Prop :=
  ∀ (indent : Nat) (label : List Part) (other : Expr α) (rest more : List Line),
    e.linesAt text indent label ++ rest = other.linesAt text indent label ++ more →
      e.shown = other.shown ∧ rest = more

theorem decodes_all (indent : Nat) {named : List (String × Expr α)}
    (each : ∀ child ∈ named, child.2.Decodes text) {others : List (String × Expr α)}
    (fields : named.map Prod.fst = others.map Prod.fst) {rest more : List Line}
    (same : named.flatMap (fun child => child.2.linesAt text indent [⟨.label, child.1 ++ ":"⟩]) ++
        rest =
      others.flatMap (fun child => child.2.linesAt text indent [⟨.label, child.1 ++ ":"⟩]) ++
        more) :
    named.map (fun child => child.2.shown) = others.map (fun child => child.2.shown) ∧
      rest = more := by
  induction named generalizing others with
  | nil =>
    obtain rfl := List.map_eq_nil_iff.1 fields.symm
    exact ⟨rfl, same⟩
  | cons child named ih =>
    cases others with
    | nil => cases fields
    | cons other others =>
      obtain ⟨field, fields⟩ := List.cons.inj fields
      obtain ⟨first, later⟩ := List.forall_mem_cons.1 each
      simp only [List.flatMap_cons, List.append_assoc, field] at same
      obtain ⟨alike, same⟩ := first _ _ _ _ _ same
      obtain ⟨others, ends⟩ := ih later fields same
      exact ⟨by rw [List.map_cons, List.map_cons, alike, others], ends⟩

theorem decodes (legible : Legible text) (e : Expr α) : e.Decodes text := by
  induction e using namedChildren_induction with
  | node e ih =>
    intro indent label other rest more same
    rw [linesAt_eq, linesAt_eq, List.cons_append, List.cons_append] at same
    obtain ⟨line, below⟩ := List.cons.inj same
    have own : e.shown.bare = other.shown.bare :=
      bare_of_headline legible (List.append_cancel_left (congrArg Line.parts line))
    have fields : e.namedChildren.map Prod.fst = other.namedChildren.map Prod.fst := by
      rw [← fields_shown, ← fields_bare, own, fields_bare, fields_shown]
    obtain ⟨alike, ends⟩ := decodes_all (indent + 1) ih fields below
    refine ⟨eq_of_bare own ?_, ends⟩
    rw [children_shown, children_shown, children, children, List.map_map, List.map_map]
    exact alike

/-- Lines that agree come from trees that are shown alike. Every tree has a line for
each of its places: one for every node, a parent before its children, set in by the
number of fields that lead there from the root. -/
theorem lines_determine (text : α → String) :
    (Legible text → ∀ e₁ e₂ : Expr α, e₁.lines text = e₂.lines text → e₁.shown = e₂.shown) ∧
      ∀ e : Expr α,
        (e.lines text).length = e.countNodes ∧
          e.lines text = e.places.map (Place.line text) ∧
          e.places.map Place.node = e.preorder ∧
          ∀ place ∈ e.places, e.reach? place.fields = some place.node := by
  constructor
  · intro legible e₁ e₂ same
    exact (decodes legible e₁ 0 [] e₂ [] [] (congrArg (· ++ []) same)).1
  · intro e
    refine ⟨length_lines text e, lines_eq_places text e, places_nodes e, fun place mem => ?_⟩
    exact reach?_placesBelow rfl mem

/-- A ramp with a single stop. -/
def ramp (stop : Rgba Float) (fac : Float) : Expr Float :=
  .colorRamp .color "LINEAR" [⟨0, stop⟩] (.constScalar fac)

theorem lines_ramp (stop : Rgba Float) (fac : Float) : (ramp stop fac).lines Double.text =
    [⟨0, [⟨.op, "colorRamp"⟩, .keyword "LINEAR", .keyword "color", .literal "1 stops"]⟩,
      ⟨1, [⟨.label, "fac:"⟩, ⟨.op, "constScalar"⟩, .literal (Double.text fac)]⟩] := by
  have one : Nat.repr 1 = "1" := by decide
  rw [lines, ramp, linesAt_eq]
  simp only [namedChildren, List.flatMap_cons, List.flatMap_nil, List.append_nil]
  rw [linesAt_eq]
  simp [headline, typeName, headerParts, namedChildren, RampOutput.name, toString, one]

theorem lines_determine_ramp :
    Legible Double.text ∧
      (ramp ⟨.grey 0, 1⟩ 0).lines Double.text = (ramp ⟨.grey 1, 1⟩ (-0)).lines Double.text ∧
      (ramp ⟨.grey 0, 1⟩ 0).shown = (ramp ⟨.grey 1, 1⟩ (-0)).shown := by
  have zero : Double.text 0 = Double.text (-0) := by decide +kernel
  have same : (ramp ⟨.grey 0, 1⟩ 0).lines Double.text =
      (ramp ⟨.grey 1, 1⟩ (-0)).lines Double.text := by
    rw [lines_ramp, lines_ramp, zero]
  exact ⟨Double.legible_text, same, (lines_determine Double.text).1 Double.legible_text _ _ same⟩

end Expr
end ShadeGraph
