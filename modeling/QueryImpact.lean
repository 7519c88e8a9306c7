import QueryImpact.Text.Cut
import QueryImpact.Text.Lowercase
import QueryImpact.Text.Quoted
import QueryImpact.Text.Space
import QueryImpact.Text.WordCharacter
import QueryImpact.Decimal.Notation
import QueryImpact.OrderedMap
import QueryImpact.Json.Decode
import QueryImpact.Json.Printer
import QueryImpact.Json.Reader
import QueryImpact.Json.Record
import QueryImpact.Location
import QueryImpact.Query.Entity
import QueryImpact.Severity
import QueryImpact.Digest.NameIdentifier
import QueryImpact.Finding
import QueryImpact.Link
import QueryImpact.Risk
import QueryImpact.Graph.Node
import QueryImpact.Graph.NodeRecord
import QueryImpact.Graph.Relationship
import QueryImpact.Build.Draft
import QueryImpact.Schema
import QueryImpact.Duration
import QueryImpact.Program
import QueryImpact.Store.Error
import QueryImpact.Store.Graph
import QueryImpact.Store.Transaction
import QueryImpact.Import
import QueryImpact.Store.Lookup
import QueryImpact.Analysis.Circuit
import QueryImpact.Analysis.ClassDependencies
import QueryImpact.Analysis.DependencyChain
import QueryImpact.Analysis.DependencyCycle
import QueryImpact.Analysis.EntityImpact
import QueryImpact.Analysis.FileImpact
import QueryImpact.Analysis.RiskyFiles
import QueryImpact.Control
import QueryImpact.Simulation
import QueryImpact.Toml.Document
import QueryImpact.Cypher.Address
import QueryImpact.Cypher.Connection
import QueryImpact.Cypher.Question
import QueryImpact.Cypher.Upsert
import QueryImpact.DomainName.Composition
import QueryImpact.DomainName.Direction
import QueryImpact.DomainName.Expansion
import QueryImpact.DomainName.Image
import QueryImpact.DomainName.Joiner
import QueryImpact.DomainName.Name
import QueryImpact.DomainName.ServerName
import QueryImpact.Text.PercentCode
import QueryImpact.Proofs.Build.Absorb
import QueryImpact.Proofs.Build.Merge
import QueryImpact.Proofs.OrderedMap
import QueryImpact.Proofs.Store.Turn
import QueryImpact.Proofs.Store.Serialization
import QueryImpact.Proofs.Circuit.Blocking
import QueryImpact.Proofs.Circuit.Elementary
import QueryImpact.Proofs.Location
import QueryImpact.Proofs.Graph.Key
import QueryImpact.Proofs.Store.Import
import QueryImpact.Proofs.Store.Contents
import QueryImpact.Proofs.Build.Sighting
import QueryImpact.Proofs.Impact.Sighted
import QueryImpact.Proofs.Impact.Entity
import QueryImpact.Proofs.Store.Kinds
import QueryImpact.Proofs.Store.Integrity
import QueryImpact.Proofs.Store.Repetition
import QueryImpact.Proofs.Calls
import QueryImpact.Proofs.Store.Outage
import QueryImpact.Proofs.Build.Collected
import QueryImpact.Proofs.Store.Atomic
import QueryImpact.Proofs.Store.Delivery
import QueryImpact.Proofs.Store.Interruption
import QueryImpact.Proofs.Store.Batching
import QueryImpact.Proofs.Build.Permutation
import QueryImpact.Proofs.Store.Typing
import QueryImpact.Proofs.Store.Script
import QueryImpact.Proofs.Store.Lossless
import QueryImpact.Proofs.Store.Interleaving
import QueryImpact.Proofs.Store.Concurrency
import QueryImpact.Proofs.Json.Record
import QueryImpact.Proofs.Json.Numeral
import QueryImpact.Proofs.Json.Text
import QueryImpact.Proofs.Json.Restored
import QueryImpact.Proofs.Report
import QueryImpact.Proofs.Graph.Record
import QueryImpact.Proofs.Json.RoundTrip
import QueryImpact.Proofs.Build.Payload
import QueryImpact.Proofs.Transcript
import QueryImpact.Proofs.Store.Discipline
import QueryImpact.Proofs.Analysis.Agreement
import QueryImpact.Proofs.Analysis.RowOrder
import QueryImpact.Proofs.Store.Growth
import QueryImpact.Proofs.Store.Tally
import QueryImpact.Proofs.Analysis.Deadline
import QueryImpact.Proofs.Graph.Distance
import QueryImpact.Proofs.Impact.File
import QueryImpact.Proofs.Analysis.Chain
import QueryImpact.Proofs.Store.Removal
import QueryImpact.Proofs.Impact.Risky
import QueryImpact.Proofs.Impact.Access
import QueryImpact.Proofs.Impact.ClassUse
import QueryImpact.Proofs.Store.Accounting
import QueryImpact.Proofs.Store.Restoration
import QueryImpact.Proofs.Build.Occurrence
import QueryImpact.Proofs.Build.Ownership
import QueryImpact.Proofs.Build.ClassFile
import QueryImpact.Proofs.Build.Doubling
import QueryImpact.Proofs.Build.Omission
import QueryImpact.Proofs.Cypher.Dialogue
import QueryImpact.Proofs.Cypher.Conflict
import QueryImpact.Proofs.Cypher.Batch
import QueryImpact.Proofs.Store.Clash
import QueryImpact.Proofs.Location.Grammar
import QueryImpact.Proofs.Location.Qualified
import QueryImpact.Proofs.Location.Python
import QueryImpact.Proofs.Location.Exclusion
import QueryImpact.Proofs.Text.LetterCase
import QueryImpact.Proofs.Query.Scan
import QueryImpact.Proofs.Query.Entity
import QueryImpact.Proofs.Query.LetterCase
import QueryImpact.Proofs.Impact.Spelling
import QueryImpact.Proofs.Circuit.Recursion
