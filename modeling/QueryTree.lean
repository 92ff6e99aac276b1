import QueryTree.Main
import QueryTree.Proofs.Reflection
import QueryTree.Proofs.Table
import QueryTree.Proofs.Population
import QueryTree.Proofs.Walk
import QueryTree.Proofs.Planting
import QueryTree.Proofs.Capture
import QueryTree.Proofs.Document
import QueryTree.Proofs.Json.Reading
import QueryTree.Proofs.Decoding
import QueryTree.Proofs.RoundTrip
import QueryTree.Proofs.Page.Tags
import QueryTree.Proofs.Page.Escaping
import QueryTree.Proofs.Page.Events
import QueryTree.Proofs.Page.Pieces
import QueryTree.Proofs.Page.Safety
import QueryTree.Proofs.Ceiling
import QueryTree.Proofs.Nesting
import QueryTree.Proofs.Recount
import QueryTree.Proofs.Handout
import QueryTree.Proofs.Guarding
import QueryTree.Proofs.Reuse
import QueryTree.Proofs.Sparse
import QueryTree.Proofs.Outline
import QueryTree.Proofs.Renaming
import QueryTree.Proofs.Yaml.Folding
import QueryTree.Proofs.Yaml.Escaping
import QueryTree.Proofs.Yaml.Texts
import QueryTree.Proofs.Yaml.Layout
import QueryTree.Proofs.Faithful
import QueryTree.Proofs.Levels
import QueryTree.Proofs.Locality
import QueryTree.Proofs.Command.Stages
import QueryTree.Proofs.Command.Runs
import QueryTree.Proofs.Command.Handlers
import QueryTree.Proofs.Command.Delivery
import QueryTree.Proofs.Command.History
import QueryTree.Proofs.Sharing
import QueryTree.Proofs.Preorder
import QueryTree.Proofs.Page.Numbering
import QueryTree.Proofs.FirstLine
import QueryTree.Proofs.Indentation
import QueryTree.Proofs.Page.Script
import QueryTree.Proofs.Page.Retrieval
import QueryTree.Proofs.Truncation
import QueryTree.Proofs.Catalog
import QueryTree.Proofs.Paths
import QueryTree.Proofs.Enumeration
import QueryTree.Proofs.Lines
