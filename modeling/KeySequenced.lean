import KeySequenced.Catalog.Operation
import KeySequenced.ControlInterval
import KeySequenced.Dataset.Operation
import KeySequenced.Dataset.Summary
import KeySequenced.Main
import KeySequenced.Table.Lemmas
import KeySequenced.Proofs.Table.Neighbours
import KeySequenced.Proofs.Store.Consistency
import KeySequenced.Proofs.Store.Nearest
import KeySequenced.Proofs.Store.Restoring
import KeySequenced.Proofs.Store.Space
import KeySequenced.Proofs.Record.Wire
import KeySequenced.Proofs.Snapshot.Frames
import KeySequenced.Proofs.Snapshot.RoundTrip
import KeySequenced.Proofs.Volume.Files
import KeySequenced.Proofs.Table.Values
import KeySequenced.Proofs.Store.Marks
import KeySequenced.Proofs.Dataset.Transition
import KeySequenced.Proofs.Dataset.History
import KeySequenced.Proofs.Dataset.Marks
import KeySequenced.Proofs.Dataset.Latest
import KeySequenced.Proofs.Dataset.Failure
import KeySequenced.Proofs.Dataset.Numbers
import KeySequenced.Proofs.Dataset.Steps
import KeySequenced.Proofs.Dataset.Sweep
import KeySequenced.Proofs.Dataset.Reload
import KeySequenced.Proofs.Bytes.Checksum
import KeySequenced.Proofs.Snapshot.Acceptance
import KeySequenced.Proofs.Snapshot.Corruption
import KeySequenced.Proofs.Dataset.Restarts
import KeySequenced.Proofs.Dataset.Space
import KeySequenced.Proofs.Dataset.Reopening
import KeySequenced.Proofs.Volume.Names
import KeySequenced.Proofs.Volume.Drafts
import KeySequenced.Proofs.Dataset.Saving
import KeySequenced.Proofs.Dataset.Filed
import KeySequenced.Proofs.Dataset.ReadOnly
import KeySequenced.Proofs.Dataset.Limits
import KeySequenced.Proofs.Dataset.Browses
import KeySequenced.Proofs.Dataset.Isolation
import KeySequenced.Proofs.Catalog.Names
import KeySequenced.Proofs.Catalog.Registry
import KeySequenced.Proofs.Catalog.Durability
import KeySequenced.Proofs.Catalog.Registration
import KeySequenced.Proofs.Catalog.Files
import KeySequenced.Proofs.Catalog.Deletion
import KeySequenced.Proofs.Bytes.PrefixFree
import KeySequenced.Proofs.Record.Sequence
import KeySequenced.Proofs.Snapshot.Framing
import KeySequenced.Proofs.Snapshot.Torn
import KeySequenced.Proofs.Store.Loadable
import KeySequenced.Proofs.Dataset.Loading
import KeySequenced.Proofs.Dataset.Counters
import KeySequenced.Proofs.Record.Offsets
import KeySequenced.Proofs.Snapshot.Offsets
import KeySequenced.Proofs.Dataset.Indexed
import KeySequenced.Proofs.Dataset.Ends
import KeySequenced.Proofs.Volume.Contents
import KeySequenced.Proofs.Dataset.Concealed
import KeySequenced.Proofs.Dataset.Orders
import KeySequenced.Proofs.Dataset.Beginnings
import KeySequenced.Proofs.ControlInterval.Contents
import KeySequenced.Proofs.Record.Progress
import KeySequenced.Proofs.Text.Ascii
import KeySequenced.Proofs.Demonstration.Runs
