import AceXdp.Lib.Transition
import AceXdp.Lib.ByteView
import AceXdp.Lib.Signed64
import AceXdp.Lib.WriteOnce
import AceXdp.Lib.ClaimTable
import AceXdp.Lib.Choreography
import AceXdp.Lib.Framing
import AceXdp.Lib.Footprint
import AceXdp.Lib.Plateau
import AceXdp.Lib.Fault
import AceXdp.Lib.Disk
import AceXdp.Lib.FileTree
import AceXdp.Lib.Rounding
import AceXdp.Lib.Binary64
import AceXdp.Lib.Rank
import AceXdp.Lib.Checked
import AceXdp.Lib.Interpolant
import AceXdp.Lib.Decimal
import AceXdp.Lib.Csv
import AceXdp.Lib.CpuList
import AceXdp.Lib.Json
import AceXdp.Lib.JsonDump
import AceXdp.Lib.JsonLayout
import AceXdp.Lib.Utf8
import AceXdp.Lib.CText
import AceXdp.Abi
import AceXdp.Wire
import AceXdp.Export
import AceXdp.Phc.Capture
import AceXdp.Send.Packet
import AceXdp.Send.Sender
import AceXdp.Driver.GemRx
import AceXdp.Driver.Discard
import AceXdp.Kern.Parse
import AceXdp.Kern.Dispatch
import AceXdp.Kern.Accounting
import AceXdp.Recv.Packet
import AceXdp.Recv.Metadata
import AceXdp.Recv.Batch
import AceXdp.Recv.Umem
import AceXdp.Recv.Bounds
import AceXdp.Recv.Classifier
import AceXdp.Recv.Records
import AceXdp.Recv.Stale
import AceXdp.Recv.Loop
import AceXdp.Recv.Complete
import AceXdp.Recv.Sample
import AceXdp.Recv.HwTimestamp
import AceXdp.Phc.Conversion
import AceXdp.Recv.Datagram
import AceXdp.Recv.HeaderRoundTrip
import AceXdp.Recv.UdpLoop
import AceXdp.Join.Decomposition
import AceXdp.Join.Calibration
import AceXdp.Join.Interpolation
import AceXdp.Join.LoadCalibration
import AceXdp.Join.CalibrationMerge
import AceXdp.Phc.CaptureRoundTrip
import AceXdp.Join.Row
import AceXdp.Join.Table
import AceXdp.Join.TableRoundTrip
import AceXdp.Join.JoinedCsv
import AceXdp.Join.Output
import AceXdp.Join.OutputSafety
import AceXdp.Join.Capture
import AceXdp.Join.Summary
import AceXdp.Join.RowDict
import AceXdp.Join.ClockValidation
import AceXdp.Join.Analyze
import AceXdp.Join.FullJoin
import AceXdp.Join.BuildSummary
import AceXdp.Join.AnalyzeFiles
import AceXdp.Join.InputDigests
import AceXdp.Aggregate.Statistics
import AceXdp.Aggregate.Runs
import AceXdp.Aggregate.Laws
import AceXdp.Loader.Drain
import AceXdp.Loader.DrainVerdict
import AceXdp.Loader.Runtime
import AceXdp.Loader.Process
import AceXdp.Loader.Ownership
import AceXdp.Loader.OwnershipSafety
import AceXdp.Loader.Hwtstamp
import AceXdp.Loader.Recovery
import AceXdp.Loader.RecoverySafety
import AceXdp.Monitor.Partition
import AceXdp.Monitor.PartitionRelease
import AceXdp.Monitor.PartitionSafety
import AceXdp.Runner.Frame
import AceXdp.Runner.Config
import AceXdp.Runner.ConfigFile
import AceXdp.Runner.ConfigLines
import AceXdp.Runner.RunJson
import AceXdp.Runner.Accepted
import AceXdp.Experiment.Descriptor
import AceXdp.Experiment.Plan
import AceXdp.Experiment.PlanFile
import AceXdp.Experiment.PlanAccepted
import AceXdp.Experiment.RunRoundTrip
import AceXdp.Runner.CpuCodec
import AceXdp.Runner.Isolation
import AceXdp.Runner.ManifestString
import AceXdp.Runner.ManifestText
import AceXdp.Runner.WriteManifest
import AceXdp.Runner.ManifestSafety
import AceXdp.Experiment.DescriptorAccepted
import AceXdp.Experiment.ManifestFile
import AceXdp.Experiment.ManifestAccepted
import AceXdp.Experiment.Collect
import AceXdp.Experiment.CollectSafety
import AceXdp.Experiment.CollectionAccepted
import AceXdp.Experiment.Samples
import AceXdp.Experiment.SampleLaws
import AceXdp.Runner.Script
import AceXdp.Runner.Limits
import AceXdp.Runner.LimitLaws
import AceXdp.Send.Schedule
import AceXdp.Runner.Order
import AceXdp.Runner.Control
import AceXdp.Runner.ControlInv
import AceXdp.Runner.ControlSafety
