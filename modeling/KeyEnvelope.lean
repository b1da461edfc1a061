import KeyEnvelope.Bench.Session
import KeyEnvelope.Proofs.Assoc
import KeyEnvelope.Proofs.Atomicity
import KeyEnvelope.Proofs.Bytes
import KeyEnvelope.Proofs.Calls
import KeyEnvelope.Proofs.Checks
import KeyEnvelope.Proofs.Configuration.Defaults
import KeyEnvelope.Proofs.Configuration.File
import KeyEnvelope.Proofs.Configuration.Integers
import KeyEnvelope.Proofs.Configuration.Options
import KeyEnvelope.Proofs.CreationSettings
import KeyEnvelope.Proofs.Decryption
import KeyEnvelope.Proofs.FilePath
import KeyEnvelope.Proofs.FileTree
import KeyEnvelope.Proofs.FileTree.Changes
import KeyEnvelope.Proofs.FileTree.Limits
import KeyEnvelope.Proofs.FileTree.Obstacles
import KeyEnvelope.Proofs.FileTree.Resemblance
import KeyEnvelope.Proofs.FileTree.Ways
import KeyEnvelope.Proofs.Filling
import KeyEnvelope.Proofs.Interchange
import KeyEnvelope.Proofs.KeyRecord
import KeyEnvelope.Proofs.KeyStore.Additions
import KeyEnvelope.Proofs.KeyStore.Complaints
import KeyEnvelope.Proofs.KeyStore.Coupling
import KeyEnvelope.Proofs.KeyStore.Drafts
import KeyEnvelope.Proofs.KeyStore.Loading
import KeyEnvelope.Proofs.KeyStore.Passage
import KeyEnvelope.Proofs.KeyStore.Publishing
import KeyEnvelope.Proofs.KeyStore.Records
import KeyEnvelope.Proofs.KeyStore.Refusals
import KeyEnvelope.Proofs.KeyStore.Requests
import KeyEnvelope.Proofs.KeyWrap.Canonical
import KeyEnvelope.Proofs.KeyWrap.Chain
import KeyEnvelope.Proofs.KeyWrap.Domain
import KeyEnvelope.Proofs.KeyWrap.Labels
import KeyEnvelope.Proofs.KeyWrap.Lengths
import KeyEnvelope.Proofs.KeyWrap.Mode
import KeyEnvelope.Proofs.KeyWrap.Registry
import KeyEnvelope.Proofs.KeyWrap.Separation
import KeyEnvelope.Proofs.KeyWrap.Wrapping
import KeyEnvelope.Proofs.Log.Fields
import KeyEnvelope.Proofs.Log.Level
import KeyEnvelope.Proofs.Log.Redaction
import KeyEnvelope.Proofs.Naming
import KeyEnvelope.Proofs.Ownership
import KeyEnvelope.Proofs.Pairing
import KeyEnvelope.Proofs.Procedure.Trace
import KeyEnvelope.Proofs.Provenance
import KeyEnvelope.Proofs.Provisioning
import KeyEnvelope.Proofs.Race
import KeyEnvelope.Proofs.Race.Callers
import KeyEnvelope.Proofs.Race.Convergence
import KeyEnvelope.Proofs.Recovery
import KeyEnvelope.Proofs.Secrecy
import KeyEnvelope.Proofs.Storage.Concealment
import KeyEnvelope.Proofs.Storage.Confinement
import KeyEnvelope.Proofs.Storage.Creation
import KeyEnvelope.Proofs.Storage.Establishment
import KeyEnvelope.Proofs.Storage.Journal
import KeyEnvelope.Proofs.Storage.Location
import KeyEnvelope.Proofs.Storage.Memory
import KeyEnvelope.Proofs.Storage.Mirroring
import KeyEnvelope.Proofs.Storage.Passage
import KeyEnvelope.Proofs.Storage.Presence
import KeyEnvelope.Proofs.Storage.Resemblance
import KeyEnvelope.Proofs.Storage.Resolution
import KeyEnvelope.Proofs.Strategy
import KeyEnvelope.Proofs.Strategy.Catalog
import KeyEnvelope.Proofs.Strategy.Registration
import KeyEnvelope.Proofs.Text
import KeyEnvelope.Proofs.Text.Case
import KeyEnvelope.Proofs.Text.Integer
import KeyEnvelope.Proofs.Text.UpperCase
import KeyEnvelope.Proofs.Text.Utf8
import KeyEnvelope.Proofs.Translation
import KeyEnvelope.Proofs.Uri
import KeyEnvelope.Proofs.Uri.Encoding
import KeyEnvelope.Proofs.WriteOnce
import KeyEnvelope.Proofs.Yaml.Blocks
import KeyEnvelope.Proofs.Yaml.Cursor
import KeyEnvelope.Proofs.Yaml.Event
import KeyEnvelope.Proofs.Yaml.Scalar
import KeyEnvelope.Proofs.Yaml.Token
