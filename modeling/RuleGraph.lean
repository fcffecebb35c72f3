import RuleGraph.CommandLine.Simulated
import RuleGraph.Main
import RuleGraph.Proofs.Cson.Grammar.Acceptance
import RuleGraph.Proofs.Cson.Layout.RoundTrip
import RuleGraph.Proofs.Graph.Dot.RoundTrip
import RuleGraph.Proofs.Graph.Groups
import RuleGraph.Proofs.Graph.Links
import RuleGraph.Proofs.Graph.Regrouping
import RuleGraph.Proofs.Text.Returns
import RuleGraph.Proofs.Document.Likeness
import RuleGraph.Proofs.Cson.Likeness
import RuleGraph.Proofs.Cson.Returns.Literal
import RuleGraph.Proofs.Cson.Returns
import RuleGraph.Proofs.Json.Grammar
import RuleGraph.Proofs.Document.Numbers
import RuleGraph.Proofs.Json.Number
import RuleGraph.Proofs.Cson.Json.Number
import RuleGraph.Proofs.Cson.Json.Text
import RuleGraph.Proofs.Cson.Json.Scalars
import RuleGraph.Proofs.Cson.Json.Agreement
import RuleGraph.Proofs.Yaml.Marks
import RuleGraph.Proofs.Yaml.Flow
import RuleGraph.Proofs.Yaml.Block
import RuleGraph.Proofs.Yaml.Nodes
import RuleGraph.Proofs.Yaml.Values
import RuleGraph.Proofs.Yaml.Sources
import RuleGraph.Proofs.Format.Overlap
import RuleGraph.Proofs.Decode.Precedence
import RuleGraph.Proofs.Cson.Placement
import RuleGraph.Proofs.Cson.LineEnds.Steps
import RuleGraph.Proofs.Cson.LineEnds.Tokens
import RuleGraph.Proofs.Cson.Indentation
import RuleGraph.Proofs.CommandLine.Conclusion
import RuleGraph.Proofs.CommandLine.Delivery
import RuleGraph.Proofs.Cson.Commas
import RuleGraph.Proofs.Cson.Interpolation
import RuleGraph.Proofs.Cson.Trivia
import RuleGraph.Proofs.Cson.Integers
import RuleGraph.Proofs.Cson.Members
import RuleGraph.Proofs.Cson.Separation
import RuleGraph.Proofs.Cson.Lines
import RuleGraph.Proofs.Cson.Escapes
import RuleGraph.Proofs.Cson.Spelling
import RuleGraph.Proofs.Cson.Continuation
import RuleGraph.Proofs.Cson.Multiline
import RuleGraph.Proofs.Text.Comment.Stripped
import RuleGraph.Proofs.Graph.NodeNames
import RuleGraph.Proofs.Reference.Traversal
import RuleGraph.Proofs.Cson.Horizon
import RuleGraph.Proofs.Cson.ErrorPlaces
import RuleGraph.Proofs.Grammar.Shape
import RuleGraph.Proofs.PropertyList.Leaves
import RuleGraph.Proofs.Decode.DistinctNames
import RuleGraph.Proofs.CommandLine.Configuration
