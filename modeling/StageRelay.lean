import StageRelay.Cancellation
import StageRelay.Main
import StageRelay.TextMap
import StageRelay.Proofs.Index.Lookup
import StageRelay.Proofs.Indexing.Convergence
import StageRelay.Proofs.Publishing.Convergence
import StageRelay.Proofs.Debounce.Timeline
import StageRelay.Proofs.Agent.Tick
import StageRelay.Proofs.Batch.Committer
import StageRelay.Proofs.Batch.InTurn
import StageRelay.Proofs.Batch.Isolation
import StageRelay.Proofs.Batch.Parts
import StageRelay.Proofs.Batch.Protocol
import StageRelay.Proofs.Batch.Retries
import StageRelay.Proofs.Commit.Current
import StageRelay.Proofs.Flushing
import StageRelay.Proofs.Index.Foreign
import StageRelay.Proofs.Index.Separate
import StageRelay.Proofs.Index.Told
import StageRelay.Proofs.Indexing.Edits
import StageRelay.Proofs.Indexing.Reconnect
import StageRelay.Proofs.Indexing.Rotation
import StageRelay.Proofs.Interleaving.Payloads
import StageRelay.Proofs.Json.Records
import StageRelay.Proofs.Life.Attempts
import StageRelay.Proofs.Life.Cancelled
import StageRelay.Proofs.Life.Crashes
import StageRelay.Proofs.Life.Watches
import StageRelay.Proofs.Registry.Stored
import StageRelay.Proofs.Registry.Streams
import StageRelay.Proofs.Trie.Canonical
import StageRelay.Proofs.Trie.Texts
import StageRelay.Proofs.Indexing.Redelivery
import StageRelay.Proofs.Schedule.Staleness
import StageRelay.Proofs.Sni.Normal
