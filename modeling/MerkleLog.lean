import MerkleLog.Main
import MerkleLog.Proofs.Block
import MerkleLog.Proofs.Climb
import MerkleLog.Proofs.Binding
import MerkleLog.Proofs.Slots
import MerkleLog.Proofs.Root
import MerkleLog.Proofs.Store
import MerkleLog.Proofs.Ledger
import MerkleLog.Proofs.Frontier
import MerkleLog.Proofs.Completeness
import MerkleLog.Proofs.Json.Token
import MerkleLog.Proofs.Text.Base64
import MerkleLog.Proofs.Json.RoundTrip
import MerkleLog.Proofs.Json.Writable
import MerkleLog.Proofs.Schema.Check
import MerkleLog.Proofs.Document.Record
import MerkleLog.Proofs.Document.Store
import MerkleLog.Proofs.Announcement
import MerkleLog.Proofs.Resumption
import MerkleLog.Proofs.Publication
import MerkleLog.Proofs.Delivery
import MerkleLog.Proofs.Consistency
import MerkleLog.Proofs.Resolution
import MerkleLog.Proofs.Register
import MerkleLog.Proofs.Persistence
import MerkleLog.Proofs.Document.Proof
import MerkleLog.Proofs.Growth
import MerkleLog.Proofs.Console.Action
import MerkleLog.Proofs.Console.Files
import MerkleLog.Proofs.Console.Markup
import MerkleLog.Proofs.Console.Commands
import MerkleLog.Proofs.Console.RoundTrip
import MerkleLog.Proofs.Ascent
import MerkleLog.Proofs.Snapshot
import MerkleLog.Proofs.Precedence
import MerkleLog.Proofs.NextAppend
import MerkleLog.Proofs.Paths
import MerkleLog.Proofs.Tampering
import MerkleLog.Draft
import MerkleLog.Proofs.Draft
import MerkleLog.Proofs.Tiling
import MerkleLog.Proofs.Geometry
import MerkleLog.Proofs.Address.Key
import MerkleLog.Tree.Running
import MerkleLog.Proofs.Running
import MerkleLog.Proofs.Extent
import MerkleLog.Proofs.Text.Spelling
import MerkleLog.Proofs.Document.Spelling
import MerkleLog.Proofs.Console.Accumulate
import MerkleLog.Journal.Filter
import MerkleLog.Proofs.Journal.Runs
import MerkleLog.Proofs.Journal.Filter
