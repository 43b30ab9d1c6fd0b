import Acceptance.Main
import Acceptance.Record.Comparison
import Acceptance.Rehearsal.Runtime
import Acceptance.Rehearsal.Tables
import Acceptance.Sql.Token
import Acceptance.Store.Traffic
import Acceptance.Suite.Trace
import Acceptance.Proofs.CommandLine.Ends
import Acceptance.Proofs.CommandLine.Execute
import Acceptance.Proofs.CommandLine.ExitCode
import Acceptance.Proofs.Container.Verdicts
import Acceptance.Proofs.Destination.Faithful
import Acceptance.Proofs.Destination.Release
import Acceptance.Proofs.Destination.Scratch
import Acceptance.Proofs.Json.Nodes
import Acceptance.Proofs.Json.Numerals
import Acceptance.Proofs.Json.Parts
import Acceptance.Proofs.Json.Strings
import Acceptance.Proofs.Message.Noise
import Acceptance.Proofs.Message.RoundTrip
import Acceptance.Proofs.Record.Difference
import Acceptance.Proofs.Record.Matching
import Acceptance.Proofs.Sql.Addressing
import Acceptance.Proofs.Store.Agreement
import Acceptance.Proofs.Store.Traffic
import Acceptance.Proofs.Suite.FailFast
import Acceptance.Proofs.Suite.Independence
import Acceptance.Proofs.Suite.Lifecycle
import Acceptance.Proofs.Suite.RoundTrip
import Acceptance.Proofs.Suite.Transcript
import Acceptance.Proofs.Suite.Verdict
import Acceptance.Proofs.Json.Lexemes
import Acceptance.Proofs.Json.Spelling
import Acceptance.Proofs.Json.Passing
import Acceptance.Proofs.Message.Readers
import Acceptance.Proofs.Number.Shortest
import Acceptance.Proofs.Json.Decimals
import Acceptance.Proofs.Json.Injective
import Acceptance.Proofs.Record.Fingerprint
import Acceptance.Proofs.Fixture
import Acceptance.Proofs.Container.Delivery
import Acceptance.Proofs.CommandLine.Layering
import Acceptance.Proofs.Config.RoundTrip
import Acceptance.Proofs.Suite.States
import Acceptance.Proofs.Text.Words
import Acceptance.Proofs.Store.Settings
import Acceptance.Proofs.Schema.Agreement
import Acceptance.Proofs.Yaml.Trees
import Acceptance.Proofs.Config.Formats
