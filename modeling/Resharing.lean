import Resharing.Cancellation.Token
import Resharing.Delivery.Memory
import Resharing.Delivery.Remote
import Resharing.Digest.Blake3
import Resharing.Directory.Stored
import Resharing.Ed25519.Signature
import Resharing.Http.CrossOrigin
import Resharing.Mailbox.Address
import Resharing.Main
import Resharing.Message.Initiation
import Resharing.Messenger.InMemory
import Resharing.Messenger.Scripted
import Resharing.Orchestration.Basic
import Resharing.Peer.Basic
import Resharing.Program.Host
import Resharing.Program.Initiator
import Resharing.Proofs.Cancellation.Observer
import Resharing.Proofs.Cancellation.Tokens
import Resharing.Proofs.Cancellation.Watches
import Resharing.Proofs.Delivery.Accounts
import Resharing.Proofs.Delivery.Cut
import Resharing.Proofs.Delivery.Execution
import Resharing.Proofs.Delivery.Interruption
import Resharing.Proofs.Delivery.Invariant
import Resharing.Proofs.Delivery.Ledger
import Resharing.Proofs.Delivery.Line
import Resharing.Proofs.Delivery.Outcome
import Resharing.Proofs.Delivery.Progress
import Resharing.Proofs.Delivery.Promptness
import Resharing.Proofs.Delivery.Rounds
import Resharing.Proofs.Delivery.Schedule
import Resharing.Proofs.Delivery.Service
import Resharing.Proofs.Delivery.Settling
import Resharing.Proofs.Delivery.Turn
import Resharing.Proofs.Delivery.Usage
import Resharing.Proofs.Directory.Failure
import Resharing.Proofs.Directory.Recording
import Resharing.Proofs.Directory.Remembering
import Resharing.Proofs.Http.Address
import Resharing.Proofs.Http.Form
import Resharing.Proofs.Http.Segment
import Resharing.Proofs.Json.Faithful
import Resharing.Proofs.Json.Numerals
import Resharing.Proofs.Json.Parts
import Resharing.Proofs.Json.Records
import Resharing.Proofs.Json.Texts
import Resharing.Proofs.Mailbox.Chronicle
import Resharing.Proofs.Mailbox.Coherence
import Resharing.Proofs.Mailbox.History
import Resharing.Proofs.Mailbox.Interleaving
import Resharing.Proofs.Mailbox.Isolation
import Resharing.Proofs.Mailbox.Lifetime
import Resharing.Proofs.Mailbox.Names
import Resharing.Proofs.Mailbox.Publications
import Resharing.Proofs.Mailbox.Requests
import Resharing.Proofs.Mailbox.Topics
import Resharing.Proofs.Message.Initiation
import Resharing.Proofs.Message.WireFormat
import Resharing.Proofs.Messenger.Logged
import Resharing.Proofs.Messenger.Payloads
import Resharing.Proofs.Messenger.ReadBack
import Resharing.Proofs.Messenger.Remote
import Resharing.Proofs.Operator.Format
import Resharing.Proofs.Operator.Map
import Resharing.Proofs.Operator.Spec
import Resharing.Proofs.Orchestration.Abandonment
import Resharing.Proofs.Orchestration.Cancellation
import Resharing.Proofs.Orchestration.Course
import Resharing.Proofs.Orchestration.Execution
import Resharing.Proofs.Orchestration.Limits
import Resharing.Proofs.Orchestration.Lookups
import Resharing.Proofs.Orchestration.Recipients
import Resharing.Proofs.Orchestration.Revocation
import Resharing.Proofs.Orchestration.Roster
import Resharing.Proofs.Orchestration.Stages
import Resharing.Proofs.Program.Recording
import Resharing.Proofs.Publication.Handover
import Resharing.Proofs.Registration.Attempts
import Resharing.Proofs.Registration.Backoff
import Resharing.Proofs.Registration.Room
import Resharing.Proofs.Session.Acceptance
import Resharing.Proofs.Session.Names
import Resharing.Proofs.Session.Operators
import Resharing.Proofs.Session.Refusal
import Resharing.Proofs.Store.Contention
import Resharing.Proofs.Store.Files
import Resharing.Proofs.Store.Keeping
import Resharing.Proofs.Store.Persistence
import Resharing.Proofs.Table.Entries
import Resharing.Proofs.Text.Base64
import Resharing.Proofs.Text.Blank
import Resharing.Proofs.Text.Decimal
import Resharing.Proofs.Text.Hex
import Resharing.Proofs.Text.HexReading
import Resharing.Proofs.Text.Utf8
import Resharing.Proofs.Time.Duration
import Resharing.Registration.Basic
import Resharing.Store.FileTree
import Resharing.Store.Files
