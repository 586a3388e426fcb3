import Mathlib.Data.List.Nodup
import ShadeGraph.Proofs.Expr.Decoding

/-!
# Fields of a node

A node is a record of named fields. What it holds of other nodes are its children:
listing them reads them off the record, and replacing them leaves the rest of the
record as it is. A node is settled by its own fields and its children, and with the
same own fields there is one for every choice of as many children. The record is
compared with the two traversals constructor by constructor; what else is said of
them follows from that.
-/

namespace ShadeGraph.Expr

variable {α : Type}

/-- What a field holds that is no node. -/
inductive Parameter (α : Type)
  | text (text : String)
  | flag (on : Bool)
  | number (value : α)
  | index (channel : Fin 3)
  | color (rgb : Vec3 α)
  | stops (stops : List (RampStop α))

inductive Field (α : Type)
  | own (name : String) (value : Parameter α)
  | child (name : String) (node : Expr α)

namespace Field

def name : Field α → String
  | own name _ => name
  | child name _ => name

def own? : Field α → Option (String × Parameter α)
  | own name value => some (name, value)
  | child _ _ => none

def child? : Field α → Option (String × Expr α)
  | own _ _ => none
  | child name node => some (name, node)

def map (f : Expr α → Expr α) : Field α → Field α
  | own name value => own name value
  | child name node => child name (f node)

theorem child?_eq_some {field : Field α} {name : String} {node : Expr α} :
    field.child? = some (name, node) ↔ field = child name node := by
  cases field <;> simp [child?]

end Field

/-- The fields of a node, its type first. -/
def fields (e : Expr α) : List (Field α) :=
  .own "type" (.text e.typeName) :: match e with
    | constColor rgb => [.own "rgb" (.color rgb)]
    | constScalar value => [.own "value" (.number value)]
    | attributeColor name => [.own "name" (.text name)]
    | attributeScalar name channel =>
      [.own "name" (.text name), .own "channel" (.text channel.name)]
    | geometry quantity => [.own "attribute" (.text quantity.name)]
    | math operation k a b c =>
      [.own "operation" (.text operation), .own "clamp" (.flag k), .child "a" a, .child "b" b,
        .child "c" c]
    | vectorMath operation a b c scale =>
      [.own "operation" (.text operation), .child "a" a, .child "b" b, .child "c" c,
        .child "scale" scale]
    | vectorMeasure operation a b =>
      [.own "operation" (.text operation), .child "a" a, .child "b" b]
    | mix blend k fac color1 color2 =>
      [.own "blendType" (.text blend), .own "clamp" (.flag k), .child "fac" fac,
        .child "color1" color1, .child "color2" color2]
    | invert fac color => [.child "fac" fac, .child "color" color]
    | grayscale color => [.child "color" color]
    | clamp mode value min max =>
      [.own "clampType" (.text mode), .child "value" value, .child "min" min, .child "max" max]
    | brightContrast color bright contrast =>
      [.child "color" color, .child "bright" bright, .child "contrast" contrast]
    | gamma color exponent => [.child "color" color, .child "gamma" exponent]
    | separate space channel input =>
      [.own "space" (.text space.name), .own "channel" (.index channel), .child "input" input]
    | combine space x y z =>
      [.own "space" (.text space.name), .child "x" x, .child "y" y, .child "z" z]
    | colorRamp output interpolation stops fac =>
      [.own "output" (.text output.name), .own "interpolation" (.text interpolation),
        .own "stops" (.stops stops), .child "fac" fac]
    | mapRange interpolation k value fromMin fromMax toMin toMax steps =>
      [.own "interpolation" (.text interpolation), .own "clamp" (.flag k), .child "value" value,
        .child "fromMin" fromMin, .child "fromMax" fromMax, .child "toMin" toMin,
        .child "toMax" toMax, .child "steps" steps]
    | hueSaturation hue saturation value fac color =>
      [.child "hue" hue, .child "saturation" saturation, .child "value" value,
        .child "fac" fac, .child "color" color]
    | group name inner => [.own "name" (.text name), .child "inner" inner]
    | groupInput socket => [.own "socket" (.text socket)]

/-- The fields that hold no node. -/
def own (e : Expr α) : List (String × Parameter α) := e.fields.filterMap Field.own?

/-! ### Listing the children -/

theorem namedChildren_eq_fields (e : Expr α) :
    e.namedChildren = e.fields.filterMap Field.child? := by
  cases e <;> rfl

theorem fieldNames_nodup (e : Expr α) : (e.fields.map Field.name).Nodup := by
  cases e <;> simp [fields, Field.name]

theorem namedChildren_nodup (e : Expr α) : e.namedChildren.Nodup := by
  rw [namedChildren_eq_fields]
  refine (List.Nodup.of_map _ e.fieldNames_nodup).filterMap ?_
  rintro a b ⟨name, child⟩ ha hb
  rw [Field.child?_eq_some.1 ha, Field.child?_eq_some.1 hb]

theorem mem_namedChildren {e : Expr α} {name : String} {child : Expr α} :
    (name, child) ∈ e.namedChildren ↔ .child name child ∈ e.fields := by
  simp [namedChildren_eq_fields, Field.child?_eq_some]

/-- A child is listed once for every field that holds it, though it may be in many. -/
theorem mem_fields_iff_listed_once {e : Expr α} {name : String} {child : Expr α} :
    .child name child ∈ e.fields ↔
      ∃! place : Nat, e.namedChildren[place]? = some (name, child) := by
  rw [← mem_namedChildren]
  constructor
  · intro mem
    obtain ⟨place, bound, here⟩ := List.getElem_of_mem mem
    have listed : e.namedChildren[place]? = some (name, child) := by
      rw [List.getElem?_eq_getElem bound, here]
    refine ⟨place, listed, fun other there => ?_⟩
    exact ((List.getElem?_inj bound e.namedChildren_nodup).1 (listed.trans there.symm)).symm
  · rintro ⟨place, here, -⟩
    exact List.mem_of_getElem? here

/-! ### Replacing the children -/

theorem fields_mapChildren (f : Expr α → Expr α) (e : Expr α) :
    (e.mapChildren f).fields = e.fields.map (Field.map f) := by
  cases e <;> rfl

theorem own_mapChildren (f : Expr α → Expr α) (e : Expr α) : (e.mapChildren f).own = e.own := by
  have kept : Field.own? ∘ Field.map f = Field.own? := by
    funext field
    cases field <;> rfl
  rw [own, fields_mapChildren, List.filterMap_map, kept, own]

theorem namedChildren_mapChildren (f : Expr α → Expr α) (e : Expr α) :
    (e.mapChildren f).namedChildren = e.namedChildren.map (Prod.map id f) := by
  have replaced : Field.child? ∘ Field.map f = fun field => field.child?.map (Prod.map id f) := by
    funext field
    cases field <;> rfl
  rw [namedChildren_eq_fields, fields_mapChildren, List.filterMap_map, replaced,
    namedChildren_eq_fields, List.map_filterMap]

theorem labels_mapChildren (f : Expr α → Expr α) (e : Expr α) :
    (e.mapChildren f).namedChildren.map Prod.fst = e.namedChildren.map Prod.fst := by
  rw [namedChildren_mapChildren, List.map_map]
  rfl

theorem eq_of_own {e₁ e₂ : Expr α} (same : e₁.own = e₂.own)
    (children : e₁.children = e₂.children) : e₁ = e₂ := by
  have type : e₁.typeName = e₂.typeName :=
    Parameter.text.inj (Prod.mk.inj (List.cons.inj same).1).2
  -- the type tells the constructor, so that only the pairs of one constructor stay
  have ctor := ctorIdx_of_typeName type
  cases e₁ <;> cases e₂ <;> try cases ctor
  all_goals simp_all [own, fields, Field.own?, Expr.children, namedChildren]

theorem own_refill (e : Expr α) (nodes : List (Expr α)) : (e.refill nodes).own = e.own := by
  cases e <;> rfl

theorem children_refill {e : Expr α} {nodes : List (Expr α)}
    (length : nodes.length = e.children.length) : (e.refill nodes).children = nodes := by
  cases e with
  | constColor | constScalar | attributeColor | attributeScalar | geometry | groupInput =>
    match nodes, length with | [], _ => rfl
  | grayscale | separate | colorRamp | group => match nodes, length with | [_], _ => rfl
  | vectorMeasure | invert | gamma => match nodes, length with | [_, _], _ => rfl
  | math | mix | clamp | brightContrast | combine =>
    match nodes, length with | [_, _, _], _ => rfl
  | vectorMath => match nodes, length with | [_, _, _, _], _ => rfl
  | hueSaturation => match nodes, length with | [_, _, _, _, _], _ => rfl
  | mapRange => match nodes, length with | [_, _, _, _, _, _], _ => rfl

theorem eq_refill_iff {e e' : Expr α} {nodes : List (Expr α)}
    (length : nodes.length = e.children.length) :
    e' = e.refill nodes ↔ e'.own = e.own ∧ e'.children = nodes := by
  constructor
  · rintro rfl
    exact ⟨own_refill e nodes, children_refill length⟩
  · rintro ⟨same, children⟩
    exact eq_of_own (same.trans (own_refill e nodes).symm)
      (children.trans (children_refill length).symm)

theorem traverseChildren_log {ε : Type} (f : Expr α → Expr α) (e : Expr α) :
    (e.traverseChildren fun child => do Traced.log child; return f child) =
      (⟨e.children, .ok (e.mapChildren f)⟩ : Traced (Expr α) ε (Expr α)) := by
  cases e <;> rfl

/-- The children are what the fields of a node hold of nodes, each listed once, under
the name of its field and in the order of the fields. Replacing them changes nothing
else: own fields and children together settle a node. It follows the laws of a map and
calls for the replacements of the children one by one, in the order they are listed. -/
theorem traversals_agree (e : Expr α) :
    (e.namedChildren = e.fields.filterMap Field.child? ∧
        ∀ name child, .child name child ∈ e.fields ↔
          ∃! place : Nat, e.namedChildren[place]? = some (name, child)) ∧
      (∀ f, (e.mapChildren f).children = e.children.map f ∧
        (e.mapChildren f).namedChildren.map Prod.fst = e.namedChildren.map Prod.fst ∧
        (e.mapChildren f).fields = e.fields.map (Field.map f) ∧
        ∀ e' : Expr α, e'.own = e.own → e'.children = e.children.map f →
          e' = e.mapChildren f) ∧
      (∀ nodes : List (Expr α), nodes.length = e.children.length →
        ∀ e', e' = e.refill nodes ↔ e'.own = e.own ∧ e'.children = nodes) ∧
      e.mapChildren id = e ∧
      (∀ f g, (e.mapChildren f).mapChildren g = e.mapChildren (g ∘ f)) ∧
      (∀ (ε : Type) (f : Expr α → Expr α),
        (e.traverseChildren fun child => do Traced.log child; return f child) =
          (⟨e.children, .ok (e.mapChildren f)⟩ : Traced (Expr α) ε (Expr α))) ∧
      ∀ {m : Type → Type} [Monad m] [LawfulMonad m] (f : Expr α → m (Expr α)),
        e.traverseChildren f = e.refill <$> e.children.mapM f := by
  refine ⟨⟨namedChildren_eq_fields e, fun _ _ => mem_fields_iff_listed_once⟩, fun f => ?_,
    fun nodes length e' => eq_refill_iff length, mapChildren_id e,
    fun f g => mapChildren_mapChildren f g e, fun ε f => traverseChildren_log f e,
    fun f => traverseChildren_eq_mapM f e⟩
  refine ⟨children_mapChildren f e, labels_mapChildren f e, fields_mapChildren f e, ?_⟩
  intro e' same children
  exact eq_of_own (same.trans (own_mapChildren f e).symm)
    (children.trans (children_mapChildren f e).symm)

/-- Two of the six children are the same. -/
def stepped : Expr Rat :=
  .mapRange "STEPPED" false (.groupInput "X") (.constScalar 0) (.constScalar 1) (.constScalar 0)
    (.groupInput "Y") (.constScalar 4)

def backwards : Expr Rat :=
  .mapRange "STEPPED" false (.constScalar 4) (.groupInput "Y") (.constScalar 0) (.constScalar 1)
    (.constScalar 0) (.groupInput "X")

def blank (_ : Expr Rat) : Expr Rat := .constScalar 0

def blanked : Expr Rat :=
  .mapRange "STEPPED" false (.constScalar 0) (.constScalar 0) (.constScalar 0) (.constScalar 0)
    (.constScalar 0) (.constScalar 0)

def refuseInput : Expr Rat → Except String (Expr Rat)
  | .groupInput socket => .error socket
  | e => .ok e

theorem traversals_agree_stepped :
    .child "toMin" (.constScalar 0) ∈ stepped.fields ∧
      (∃! place : Nat, stepped.namedChildren[place]? = some ("toMin", .constScalar 0)) ∧
      blanked.own = stepped.own ∧ blanked.children = stepped.children.map blank ∧
      blanked = stepped.mapChildren blank ∧
      stepped.children.reverse.length = stepped.children.length ∧
      backwards = stepped.refill stepped.children.reverse ∧
      stepped.traverseChildren refuseInput = .error "X" := by
  obtain ⟨⟨-, listed⟩, mapped, refilled, -, -, -, effects⟩ := traversals_agree stepped
  obtain ⟨-, -, -, settled⟩ := mapped blank
  have holds : .child "toMin" (.constScalar 0) ∈ stepped.fields := by simp [stepped, fields]
  have length : stepped.children.reverse.length = stepped.children.length := List.length_reverse
  refine ⟨holds, (listed _ _).1 holds, rfl, rfl, settled blanked rfl rfl, length, ?_, ?_⟩
  · exact (refilled _ length backwards).2 ⟨rfl, rfl⟩
  · rw [effects refuseInput]
    rfl

end ShadeGraph.Expr
