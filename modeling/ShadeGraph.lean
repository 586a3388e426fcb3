import ShadeGraph.Bake
import ShadeGraph.Document.Resolve
import ShadeGraph.Document.Write
import ShadeGraph.Mesh.Source
import ShadeGraph.Number.Double
import ShadeGraph.Number.Exact
import ShadeGraph.Number.Numeral
import ShadeGraph.Proofs.Lowering.Plain
import ShadeGraph.Proofs.Graph.Keys
import ShadeGraph.Proofs.Lowering.Retrace
import ShadeGraph.Proofs.Lowering.Memo
import ShadeGraph.Proofs.Document.Accepted
import ShadeGraph.Proofs.Document.Listed
import ShadeGraph.Proofs.Document.Loaded
import ShadeGraph.Proofs.Lowering.Calls
import ShadeGraph.Proofs.Lowering.HiddenCycle
import ShadeGraph.Proofs.Expr.Value
import ShadeGraph.Proofs.Lowering.Meaning
import ShadeGraph.Proofs.Expr.Supported
import ShadeGraph.Proofs.Lowering.Refusals
import ShadeGraph.Proofs.Bake.Faults
import ShadeGraph.Proofs.Document.Linked
import ShadeGraph.Proofs.Graph.Clashes
import ShadeGraph.Proofs.Lowering.Depth
import ShadeGraph.Proofs.Lowering.Cycles
import ShadeGraph.Proofs.Document.Rereads
import ShadeGraph.Proofs.Document.Reloaded
import ShadeGraph.Proofs.Document.Reports
import ShadeGraph.Proofs.Document.Violations
import ShadeGraph.Proofs.Graph.StandIn
import ShadeGraph.Proofs.Lowering.StandIn
import ShadeGraph.Proofs.Document.Changed
import ShadeGraph.Proofs.Document.Reordered
import ShadeGraph.Proofs.Document.Extended
import ShadeGraph.Expr.Buffers
import ShadeGraph.Bake.Bytes
import ShadeGraph.Proofs.Mesh.Interleaved
import ShadeGraph.Proofs.Mesh.Gather
import ShadeGraph.Proofs.Expr.Buffers
import ShadeGraph.Proofs.Expr.Coercion
import ShadeGraph.Proofs.Expr.Gathering
import ShadeGraph.Proofs.Bake.Gathering
import ShadeGraph.Proofs.Expr.Missing
import ShadeGraph.Proofs.Expr.Operands
import ShadeGraph.Proofs.Expr.Grey
import ShadeGraph.Proofs.Lowering.ScalarSockets
import ShadeGraph.Proofs.Operation.Ramp
import ShadeGraph.Proofs.Lowering.Ramps
import ShadeGraph.Bake.Provenance
import ShadeGraph.Proofs.Bake.Stages
import ShadeGraph.Mesh.Flat
import ShadeGraph.Proofs.Mesh.Flat
import ShadeGraph.Proofs.Mesh.Spread
import ShadeGraph.Proofs.Mesh.Construction
import ShadeGraph.Proofs.Number.Shaping
import ShadeGraph.Proofs.Color.Hsv
import ShadeGraph.Proofs.Operation.Blend
import ShadeGraph.Proofs.Operation.MapRange
import ShadeGraph.Proofs.Expr.Colors
import ShadeGraph.Proofs.Bake.Channels
import ShadeGraph.Proofs.Color.Turned
import ShadeGraph.Proofs.Operation.Steps
import ShadeGraph.Proofs.Operation.Periodic
import ShadeGraph.Proofs.Operation.Softened
import ShadeGraph.Proofs.Expr.Substitution
import ShadeGraph.Proofs.Number.Numeral
import ShadeGraph.Proofs.Expr.Decoding
import ShadeGraph.Proofs.Expr.Fields
