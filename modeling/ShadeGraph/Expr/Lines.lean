import ShadeGraph.Expr.Basic

/-! A tree written as lines: one for each node, a child indented one level below
its parent and labelled with the field it stands in. -/

namespace ShadeGraph

inductive PartKind
  | op | ref | literal | keyword | label
deriving DecidableEq

def PartKind.name : PartKind → String
  | op => "op"
  | ref => "ref"
  | literal => "literal"
  | keyword => "keyword"
  | label => "label"

structure Part where
  kind : PartKind
  text : String
deriving DecidableEq

structure Line where
  indent : Nat
  parts : List Part
deriving DecidableEq

def AttributeChannel.name : AttributeChannel → String
  | fac => "fac"
  | alpha => "alpha"

def GeometryQuantity.name : GeometryQuantity → String
  | position => "position"
  | normal => "normal"

def ChannelSpace.name : ChannelSpace → String
  | rgb => "rgb"
  | xyz => "xyz"
  | hsv => "hsv"

def RampOutput.name : RampOutput → String
  | color => "color"
  | alpha => "alpha"

namespace Part

def keyword (text : String) : Part := ⟨.keyword, text⟩

def literal (text : String) : Part := ⟨.literal, text⟩

def ref (name : String) : Part := ⟨.ref, s!"'{name}'"⟩

end Part

namespace Expr

variable {α : Type}

def typeName : Expr α → String
  | constColor _ => "constColor"
  | constScalar _ => "constScalar"
  | attributeColor _ => "attributeColor"
  | attributeScalar _ _ => "attributeScalar"
  | geometry _ => "geometry"
  | math .. => "math"
  | vectorMath .. => "vectorMath"
  | vectorMeasure .. => "vectorMathScalar"
  | mix .. => "mix"
  | invert .. => "invert"
  | grayscale _ => "grayscale"
  | clamp .. => "clamp"
  | brightContrast .. => "brightContrast"
  | gamma .. => "gamma"
  | separate .. => "separate"
  | combine .. => "combine"
  | colorRamp .. => "colorRamp"
  | mapRange .. => "mapRange"
  | hueSaturation .. => "hueSaturation"
  | group .. => "group"
  | groupInput _ => "groupInput"

def flagParts (clamp : Bool) : List Part := if clamp then [.keyword "clamp"] else []

/-- The parameters that follow the type of a node on its line. -/
def headerParts (text : α → String) : Expr α → List Part
  | constColor rgb => [.literal ("(" ++ ", ".intercalate (rgb.toList.map text) ++ ")")]
  | constScalar value => [.literal (text value)]
  | attributeColor name => [.ref name]
  | attributeScalar name channel => [.ref name, .keyword channel.name]
  | geometry quantity => [.keyword quantity.name]
  | math operation k _ _ _ => .keyword operation :: flagParts k
  | mix blend k _ _ _ => .keyword blend :: flagParts k
  | vectorMath operation .. => [.keyword operation]
  | vectorMeasure operation _ _ => [.keyword operation]
  | clamp mode _ _ _ => [.keyword mode]
  | separate space channel _ => [.keyword space.name, .literal (toString channel.val)]
  | combine space _ _ _ => [.keyword space.name]
  | colorRamp output interpolation stops _ =>
    [.keyword interpolation, .keyword output.name, .literal s!"{stops.length} stops"]
  | mapRange interpolation k .. => .keyword interpolation :: flagParts k
  | group name _ => [.ref name]
  | groupInput socket => [.ref socket]
  | invert .. | grayscale _ | brightContrast .. | gamma .. | hueSaturation .. => []

def linesAt (text : α → String) (indent : Nat) (label : List Part) (e : Expr α) : List Line :=
  ⟨indent, label ++ ⟨.op, e.typeName⟩ :: e.headerParts text⟩ ::
    e.namedChildren.attach.flatMap fun child =>
      linesAt text (indent + 1) [⟨.label, child.1.1 ++ ":"⟩] child.1.2
termination_by e
decreasing_by exact sizeOf_lt_of_mem_namedChildren child.2

/-- One line for every node, a parent before its children. -/
def lines (text : α → String) (e : Expr α) : List Line := e.linesAt text 0 []

end Expr

end ShadeGraph
