import SelectiveDisclosure.Canonical
import SelectiveDisclosure.Content
import SelectiveDisclosure.Curve.Ecdsa
import SelectiveDisclosure.Curve.Point
import SelectiveDisclosure.Did.Basic
import SelectiveDisclosure.Did.Document
import SelectiveDisclosure.Did.Registry
import SelectiveDisclosure.Digits
import SelectiveDisclosure.Document
import SelectiveDisclosure.Hash.Algorithm
import SelectiveDisclosure.Hash.Blake3
import SelectiveDisclosure.Hash.Sha256
import SelectiveDisclosure.Issuance
import SelectiveDisclosure.Json.Pointer
import SelectiveDisclosure.Json.Reading
import SelectiveDisclosure.Json.Value
import SelectiveDisclosure.Multibase.Positional
import SelectiveDisclosure.Multibase.Scheme
import SelectiveDisclosure.Number.Binary64
import SelectiveDisclosure.Number.Numeral
import SelectiveDisclosure.Number.Shortest
import SelectiveDisclosure.Number.Value
import SelectiveDisclosure.Octets
import SelectiveDisclosure.Presentation
import SelectiveDisclosure.Proofs.Alteration
import SelectiveDisclosure.Proofs.Arrangement
import SelectiveDisclosure.Proofs.Binding
import SelectiveDisclosure.Proofs.Completeness
import SelectiveDisclosure.Proofs.Confidentiality
import SelectiveDisclosure.Proofs.Configuration
import SelectiveDisclosure.Proofs.Content.Acceptance
import SelectiveDisclosure.Proofs.Content.Conversion
import SelectiveDisclosure.Proofs.Content.Decomposition
import SelectiveDisclosure.Proofs.Content.Depth
import SelectiveDisclosure.Proofs.Content.Encoding
import SelectiveDisclosure.Proofs.Content.Equivalence
import SelectiveDisclosure.Proofs.Content.LeafStatements
import SelectiveDisclosure.Proofs.Content.Leaves
import SelectiveDisclosure.Proofs.Content.Parsing
import SelectiveDisclosure.Proofs.Content.SameTree
import SelectiveDisclosure.Proofs.Content.Wellformed
import SelectiveDisclosure.Proofs.Deactivation
import SelectiveDisclosure.Proofs.Digits
import SelectiveDisclosure.Proofs.Disclosure
import SelectiveDisclosure.Proofs.Except
import SelectiveDisclosure.Proofs.Exchange
import SelectiveDisclosure.Proofs.Failures
import SelectiveDisclosure.Proofs.Hash
import SelectiveDisclosure.Proofs.History
import SelectiveDisclosure.Proofs.Identifiers
import SelectiveDisclosure.Proofs.Integrity
import SelectiveDisclosure.Proofs.Issuance
import SelectiveDisclosure.Proofs.Json.Escapes
import SelectiveDisclosure.Proofs.Json.Order
import SelectiveDisclosure.Proofs.Json.Quoted
import SelectiveDisclosure.Proofs.Json.Reading
import SelectiveDisclosure.Proofs.Lists
import SelectiveDisclosure.Proofs.Multibase
import SelectiveDisclosure.Proofs.Number.Numeral
import SelectiveDisclosure.Proofs.Number.Text
import SelectiveDisclosure.Proofs.Payload
import SelectiveDisclosure.Proofs.Presence
import SelectiveDisclosure.Proofs.Presentation
import SelectiveDisclosure.Proofs.Recomposition
import SelectiveDisclosure.Proofs.Refusal
import SelectiveDisclosure.Proofs.Registry
import SelectiveDisclosure.Proofs.Reproduction
import SelectiveDisclosure.Proofs.Request
import SelectiveDisclosure.Proofs.SortedMap
import SelectiveDisclosure.Proofs.Soundness
import SelectiveDisclosure.Proofs.Spelling
import SelectiveDisclosure.Proofs.Statement
import SelectiveDisclosure.Proofs.Tampering
import SelectiveDisclosure.Proofs.Terms
import SelectiveDisclosure.Proofs.Text.Composition
import SelectiveDisclosure.Proofs.Text.MappingIndex
import SelectiveDisclosure.Proofs.Text.MappingTables
import SelectiveDisclosure.Proofs.Text.Normalization
import SelectiveDisclosure.Proofs.Text.Reordering
import SelectiveDisclosure.Proofs.Time
import SelectiveDisclosure.Proofs.Time.Calendar
import SelectiveDisclosure.Proofs.Time.Reading
import SelectiveDisclosure.Proofs.Time.Rfc3339
import SelectiveDisclosure.Proofs.Validity
import SelectiveDisclosure.Proofs.Verification
import SelectiveDisclosure.Proofs.Wire.Document
import SelectiveDisclosure.Proofs.Wire.Leaf
import SelectiveDisclosure.Proofs.Wire.Record
import SelectiveDisclosure.Protocol
import SelectiveDisclosure.Salting
import SelectiveDisclosure.Signing
import SelectiveDisclosure.SortedMap
import SelectiveDisclosure.Statement
import SelectiveDisclosure.Text.CanonicalMapping
import SelectiveDisclosure.Text.CombiningClass
import SelectiveDisclosure.Text.Hex
import SelectiveDisclosure.Text.Normalization
import SelectiveDisclosure.Text.WhiteSpace
import SelectiveDisclosure.Time.Calendar
import SelectiveDisclosure.Time.Instant
import SelectiveDisclosure.Time.Rfc3339
import SelectiveDisclosure.Verification
import SelectiveDisclosure.Wire.Decoder
import SelectiveDisclosure.Wire.Document
import SelectiveDisclosure.Wire.Leaf
import SelectiveDisclosure.Wire.Record
