import ShadeGraph.Expr.Lines
import ShadeGraph.Number.Arithmetic

/-! Lines as one text, every level set in by a width that need not be whole: a
line starts with the whole blanks that its level makes of the width. -/

namespace ShadeGraph

inductive LayoutError (α : Type)
  /-- A line cannot start with a negative or infinite number of blanks. -/
  | blankCount (blanks : α)
  | tooLong
deriving DecidableEq

def LayoutError.message {α : Type} (text : α → String) : LayoutError α → String
  | blankCount blanks => "Invalid count value: " ++ text blanks
  | tooLong => "Invalid string length"

/-- The greatest number of blanks that a line may start with. -/
def blankLimit : Nat := 536870888

/-- What is no number stands for no blanks. -/
def wholeBlanks {α : Type} [Arithmetic α] (blanks : α) : Except (LayoutError α) Nat :=
  if blanks == blanks then
    match Arithmetic.natural? (Arithmetic.trunc blanks) with
    | some count => if count ≤ blankLimit then .ok count else .error .tooLong
    | none => .error (.blankCount blanks)
  else .ok 0

def Line.format (blanks : Nat) (line : Line) : String :=
  String.ofList (List.replicate blanks ' ') ++ " ".intercalate (line.parts.map Part.text)

def formatLines {α : Type} [Arithmetic α] (indentWidth : α) (lines : List Line) :
    Except (LayoutError α) String :=
  return "\n".intercalate <| ← lines.mapM fun line =>
    return line.format (← wholeBlanks (OfNat.ofNat line.indent * indentWidth))

/-- The lines of a tree, every level two blanks further in. -/
def Expr.print {α : Type} (text : α → String) (e : Expr α) : String :=
  "\n".intercalate <| (e.lines text).map fun line => line.format (line.indent * 2)

end ShadeGraph
