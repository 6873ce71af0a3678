import PartitionImage.Main
import PartitionImage.MemoryStore
import PartitionImage.Proofs.PrefixCount
import PartitionImage.Proofs.Source
import PartitionImage.Proofs.Action
import PartitionImage.Proofs.Image.Progress
import PartitionImage.Proofs.Operation
import PartitionImage.Proofs.Opening
import PartitionImage.Proofs.Image.Reading
import PartitionImage.Proofs.BlockMap
import PartitionImage.Proofs.Image.Verify
import PartitionImage.Proofs.Image.Coherence
import PartitionImage.Proofs.Image.Counter
import PartitionImage.Proofs.Device
import PartitionImage.Proofs.Image.Device
import PartitionImage.Proofs.Image.Resume
import PartitionImage.Proofs.Image.Uses
import PartitionImage.Proofs.Archive.Basic
import PartitionImage.Proofs.Archive.Layout
import PartitionImage.Proofs.Archive.Device
import PartitionImage.Proofs.Image.Archive
import PartitionImage.Proofs.Image.Head
import PartitionImage.Proofs.Image.History
import PartitionImage.Proofs.Screening
import PartitionImage.Proofs.Supported
import PartitionImage.Proofs.Image.Acceptance
import PartitionImage.Proofs.Checksum
import PartitionImage.Proofs.Burst
import PartitionImage.Proofs.Image.Burst
import PartitionImage.Proofs.Disk
import PartitionImage.Proofs.ChangeFile.Format
import PartitionImage.Proofs.ChangeFile.Contents
import PartitionImage.Proofs.ChangeFile.Sessions
import PartitionImage.Proofs.ChangeFile.Opening
import PartitionImage.Proofs.ChangeFile.Attached
import PartitionImage.Proofs.ChangeFile.Sparing
import PartitionImage.Proofs.Image.Attachment
import PartitionImage.Proofs.Image.Sparing
import PartitionImage.Proofs.Image.Steps
import PartitionImage.Proofs.RawImage.Steps
import PartitionImage.Proofs.ReadOnly
import PartitionImage.Proofs.RawImage.Attachment
import PartitionImage.Proofs.RawImage.Sparing
import PartitionImage.Proofs.WriteFrame
import PartitionImage.Proofs.Sparing
import PartitionImage.Proofs.Recognition
import PartitionImage.Proofs.Export
import PartitionImage.Proofs.Offsets
import PartitionImage.Proofs.ChangeFile.Lasting
import PartitionImage.Proofs.ChangeFile.Crash
import PartitionImage.Proofs.Site
import PartitionImage.Proofs.Handles
import PartitionImage.Proofs.RawImage.Lasting
import PartitionImage.Proofs.Image.Lasting
import PartitionImage.Proofs.Patching
import PartitionImage.Proofs.Careful
import PartitionImage.Proofs.Image.Abreast
import PartitionImage.Proofs.Image.Faults
import PartitionImage.Proofs.Image.Lifecycle
import PartitionImage.Proofs.Dependable
import PartitionImage.Proofs.RawImage.Refinement
import PartitionImage.Proofs.Inspection
import PartitionImage.Proofs.Replies
import PartitionImage.Proofs.Replay
import PartitionImage.Proofs.Image.Replay
import PartitionImage.Proofs.Exporting
import PartitionImage.Proofs.Image.Statistics
import PartitionImage.Proofs.Period
import PartitionImage.Proofs.Hasher
import PartitionImage.Proofs.FirstByte
import PartitionImage.Proofs.Image.FirstByte
import PartitionImage.Proofs.ChangeFile.Integrity
import PartitionImage.Proofs.Image.Geometry
import PartitionImage.Proofs.Image.Strictness
import PartitionImage.Proofs.Delivery
import PartitionImage.Proofs.Parallel
import PartitionImage.Proofs.Image.Twins
import PartitionImage.Proofs.Image.Delivery
import PartitionImage.Proofs.Measured
import PartitionImage.Proofs.Mount
import PartitionImage.Proofs.Layered
import PartitionImage.Proofs.Harmless
import PartitionImage.Proofs.Guarded
import PartitionImage.Proofs.Holding
import PartitionImage.Proofs.Image.Mount
import PartitionImage.Proofs.RawImage.Mount
import PartitionImage.Proofs.Admission
