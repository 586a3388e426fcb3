import ShadeGraph.Document.Data
import ShadeGraph.Node.Kind

/-! What can be wrong with a document, and where. -/

namespace ShadeGraph

inductive Expected
  | ofType (type : DataType)
  | oneOf (options : List String)
deriving DecidableEq

inductive Problem
  | required
  | wrongType (expected : Expected) (received : DataType)
  | unknownVersion
  | unknownOption (options : List String) (received : String)
  | unknownKind
  | emptyText
  | emptyList
  | tooLong (limit : Nat)
  | noVariant
  | duplicateGraph (graph : String)
  | duplicateNode (node graph : String)
  | unknownGroup (node group : String)
  | noSource (node : String)
  | noOutput (node : String) (kind : Kind) (socket : String)
  | noTarget (node : String)
  | noInput (node : String) (kind : Kind) (socket : String)
  | linkedTwice (node socket : String)
deriving DecidableEq

/-- The path leads from the whole document to the offending value. -/
structure Issue where
  path : List String
  problem : Problem
deriving DecidableEq

def Issue.under (key : String) (issue : Issue) : Issue :=
  { issue with path := key :: issue.path }

def quoteOptions (options : List String) : String :=
  " | ".intercalate (options.map fun option => s!"'{option}'")

def Expected.name : Expected → String
  | ofType type => type.name
  | oneOf options => quoteOptions options

namespace Problem

def code : Problem → String
  | required | wrongType _ _ => "invalid_type"
  | unknownVersion => "invalid_literal"
  | unknownOption _ _ => "invalid_enum_value"
  | unknownKind => "invalid_union_discriminator"
  | emptyText | emptyList => "too_small"
  | tooLong _ => "too_big"
  | noVariant => "invalid_union"
  | duplicateGraph _ | duplicateNode _ _ | unknownGroup _ _ | noSource _ | noOutput _ _ _
  | noTarget _ | noInput _ _ _ | linkedTwice _ _ => "semantic_error"

def message : Problem → String
  | required => "Required"
  | wrongType expected received => s!"Expected {expected.name}, received {received.name}"
  | unknownVersion => "Invalid literal value, expected 1"
  | unknownOption options received =>
    s!"Invalid enum value. Expected {quoteOptions options}, received '{received}'"
  | unknownKind =>
    s!"Invalid discriminator value. Expected {quoteOptions (Named.names Kind)}"
  | emptyText => "String must contain at least 1 character(s)"
  | emptyList => "Array must contain at least 1 element(s)"
  | tooLong limit => s!"Array must contain at most {limit} element(s)"
  | noVariant => "Invalid input"
  | duplicateGraph graph => s!"Duplicate Graph ID '{graph}'."
  | duplicateNode node graph => s!"Duplicate Node ID '{node}' in graph '{graph}'."
  | unknownGroup node group => s!"Node '{node}' references unknown group '{group}'."
  | noSource node => s!"Link source '{node}' does not exist."
  | noOutput node kind socket => s!"Node '{node}' ({kind.name}) has no output '{socket}'."
  | noTarget node => s!"Link target '{node}' does not exist."
  | noInput node kind socket => s!"Node '{node}' ({kind.name}) has no input '{socket}'."
  | linkedTwice node socket =>
    s!"Input '{socket}' of node '{node}' has more than one incoming link."

end Problem
end ShadeGraph
