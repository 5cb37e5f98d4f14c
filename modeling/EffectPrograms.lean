import EffectPrograms.Bytes
import EffectPrograms.Config
import EffectPrograms.Date
import EffectPrograms.Decimal.Binary64
import EffectPrograms.Decimal.Numeral
import EffectPrograms.Decimal.Shortest
import EffectPrograms.Dict
import EffectPrograms.Digest
import EffectPrograms.Dispatch.Basic
import EffectPrograms.Dispatch.Doubles
import EffectPrograms.Document
import EffectPrograms.Duration
import EffectPrograms.Effect
import EffectPrograms.Effect.Cache
import EffectPrograms.Effect.Family
import EffectPrograms.Effect.Messaging
import EffectPrograms.Effect.Objects
import EffectPrograms.Effect.Removal
import EffectPrograms.Effect.Storage
import EffectPrograms.Effect.Transport
import EffectPrograms.Entries
import EffectPrograms.Failure.Backend
import EffectPrograms.Failure.Kind
import EffectPrograms.Interpreter.Adapter
import EffectPrograms.Interpreter.Collaborators
import EffectPrograms.Interpreter.Refusal
import EffectPrograms.Json.Basic
import EffectPrograms.Json.Debug
import EffectPrograms.Json.Literal
import EffectPrograms.Json.Parser
import EffectPrograms.Json.Part
import EffectPrograms.Json.Printer
import EffectPrograms.Json.Shape
import EffectPrograms.Json.Source
import EffectPrograms.LogFilter
import EffectPrograms.Memory.Backends
import EffectPrograms.Memory.Broker
import EffectPrograms.Memory.Cache
import EffectPrograms.Memory.Faults
import EffectPrograms.Memory.Objects
import EffectPrograms.Memory.Records
import EffectPrograms.Memory.Sessions
import EffectPrograms.Outcome
import EffectPrograms.Program.Basic
import EffectPrograms.Program.Combinators
import EffectPrograms.Program.Execution
import EffectPrograms.Program.ReadThrough
import EffectPrograms.Program.Run
import EffectPrograms.Program.Schedule
import EffectPrograms.Proofs.Adapters
import EffectPrograms.Proofs.AdmittedExpiry
import EffectPrograms.Proofs.BackendFailures
import EffectPrograms.Proofs.Broker.Accounts
import EffectPrograms.Proofs.Broker.Attempts
import EffectPrograms.Proofs.Broker.History
import EffectPrograms.Proofs.Broker.Identifiers
import EffectPrograms.Proofs.Broker.Independence
import EffectPrograms.Proofs.Broker.Order
import EffectPrograms.Proofs.ByteOrder
import EffectPrograms.Proofs.CacheFill
import EffectPrograms.Proofs.Coherence
import EffectPrograms.Proofs.Completion
import EffectPrograms.Proofs.Composed
import EffectPrograms.Proofs.Confinement
import EffectPrograms.Proofs.Decoding
import EffectPrograms.Proofs.Delegation
import EffectPrograms.Proofs.EffectText
import EffectPrograms.Proofs.Equivalence
import EffectPrograms.Proofs.Expiry
import EffectPrograms.Proofs.FailedEffect
import EffectPrograms.Proofs.FailingEffects
import EffectPrograms.Proofs.FaultHistory
import EffectPrograms.Proofs.Faults
import EffectPrograms.Proofs.Guard
import EffectPrograms.Proofs.Happenings
import EffectPrograms.Proofs.Holdings
import EffectPrograms.Proofs.Interleaving
import EffectPrograms.Proofs.MonadLaws
import EffectPrograms.Proofs.Namespaces
import EffectPrograms.Proofs.Numerals
import EffectPrograms.Proofs.ObjectContents
import EffectPrograms.Proofs.PayloadLimit
import EffectPrograms.Proofs.Preceded
import EffectPrograms.Proofs.PrefixScan
import EffectPrograms.Proofs.Protocol
import EffectPrograms.Proofs.ReaderForm
import EffectPrograms.Proofs.Reading
import EffectPrograms.Proofs.RecordContents
import EffectPrograms.Proofs.Refusals
import EffectPrograms.Proofs.Renaming
import EffectPrograms.Proofs.Replay
import EffectPrograms.Proofs.ResultText
import EffectPrograms.Proofs.RoundTrip
import EffectPrograms.Proofs.Schedule
import EffectPrograms.Proofs.Script
import EffectPrograms.Proofs.Sequences
import EffectPrograms.Proofs.Sessions.Frames
import EffectPrograms.Proofs.Sessions.History
import EffectPrograms.Proofs.Sessions.Lifecycle
import EffectPrograms.Proofs.Sessions.Settled
import EffectPrograms.Proofs.Stepwise
import EffectPrograms.Proofs.Timestamps
import EffectPrograms.Proofs.Transcript
import EffectPrograms.Proofs.Validation
import EffectPrograms.Proofs.Versions
import EffectPrograms.Proofs.Work
import EffectPrograms.Text.Beginning
import EffectPrograms.Text.Blank
import EffectPrograms.Text.Form
import EffectPrograms.Text.Hex
import EffectPrograms.Text.Printable
import EffectPrograms.Text.Quoted
import EffectPrograms.Timestamp
import EffectPrograms.Toml.Parser
import EffectPrograms.Toml.Scalar
import EffectPrograms.Toml.Value
