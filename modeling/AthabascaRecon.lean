import AthabascaRecon.Foundation.Footprint
import AthabascaRecon.Foundation.PendingTasks
import AthabascaRecon.Foundation.Runs
import AthabascaRecon.Foundation.Traces
import AthabascaRecon.Foundation.InputStream
import AthabascaRecon.Foundation.PropertyTree
import AthabascaRecon.Foundation.Strings
import AthabascaRecon.Foundation.Files
import AthabascaRecon.Foundation.Ensures
import AthabascaRecon.Foundation.Samples
import AthabascaRecon.Foundation.RealDft
import AthabascaRecon.Foundation.InPlace
import AthabascaRecon.Foundation.OrderedCalls
import AthabascaRecon.Foundation.PartialValue
import AthabascaRecon.Foundation.Sums
import AthabascaRecon.Bonelab.Image
import AthabascaRecon.Bonelab.ImagePixels
import AthabascaRecon.Bonelab.ImageObject
import AthabascaRecon.Bonelab.ThreadRunner
import AthabascaRecon.Bonelab.MessageQueue
import AthabascaRecon.Bonelab.MessageDelivery
import AthabascaRecon.Bonelab.TupleStream
import AthabascaRecon.Bonelab.TupleText
import AthabascaRecon.Bonelab.TupleGrammar
import AthabascaRecon.Bonelab.TupleForms
import AthabascaRecon.Bonelab.Types
import AthabascaRecon.Bonelab.FFTUtil
import AthabascaRecon.Bonelab.Endian
import AthabascaRecon.Bonelab.PropertyTreeMerge
import AthabascaRecon.Bonelab.ConfParser
import AthabascaRecon.Bonelab.ConfRoundTrip
import AthabascaRecon.BackProjection.PixelInterpolator
import AthabascaRecon.BackProjection.ParallelBackProjector
import AthabascaRecon.BackProjection.Cylinder
import AthabascaRecon.ProjectionCorrection.NeighborhoodWalker
import AthabascaRecon.ProjectionCorrection.BadPixelCorrector
import AthabascaRecon.ProjectionCorrection.CorrectionTableLoops
import AthabascaRecon.ProjectionCorrection.CorrectBadPixels
import AthabascaRecon.ProjectionCorrection.CTCalibration
import AthabascaRecon.ProjectionCorrection.AttenuationCalculator
import AthabascaRecon.ProjectionCorrection.BeamPowerCorrector
import AthabascaRecon.ProjectionCorrection.ConstantAttenuation
import AthabascaRecon.ProjectionCorrection.NullProjectionEdge
import AthabascaRecon.Util.LinearFit
import AthabascaRecon.ProjectionCorrection.ReportedFit
import AthabascaRecon.ProjectionCorrection.SpiralWalk
import AthabascaRecon.ProjectionCorrection.SpiralReach
import AthabascaRecon.ProjectionCorrection.ClippedWalk
import AthabascaRecon.Util.Subvolumer
import AthabascaRecon.Launcher.VolumeChunks
import AthabascaRecon.Launcher.VolumeSlices
import AthabascaRecon.IO.AsynchronousIOProcessor
import AthabascaRecon.IO.StreamingRawProjectionsReader
import AthabascaRecon.IO.WaitForCompletion
import AthabascaRecon.IO.IOProcessorDestructor
import AthabascaRecon.IO.WaitForBufferRelease
import AthabascaRecon.Engines.ReconstructionRunner
import AthabascaRecon.Engines.SingleThreadedReconstructionRunner
import AthabascaRecon.Launcher.ProjectionAngles
import AthabascaRecon.Engines.MultiThreaded.Messages
import AthabascaRecon.Engines.MultiThreaded.Program
import AthabascaRecon.Engines.MultiThreaded.Machine
import AthabascaRecon.Engines.MultiThreaded.Ledger
import AthabascaRecon.Engines.MultiThreaded.LedgerRules
import AthabascaRecon.Engines.MultiThreaded.Sides
import AthabascaRecon.Engines.MultiThreaded.Conformance
import AthabascaRecon.Engines.MultiThreaded.Effects
import AthabascaRecon.Engines.MultiThreaded.Control
import AthabascaRecon.Engines.MultiThreaded.Wakefulness
import AthabascaRecon.Engines.MultiThreaded.Invariant
import AthabascaRecon.Engines.MultiThreaded.Progress
import AthabascaRecon.Engines.MultiThreaded.Queues
import AthabascaRecon.Engines.MultiThreaded.QueuedRuns
import AthabascaRecon.Engines.MultiThreaded.Teardown
import AthabascaRecon.Engines.MultiThreaded.Checks
import AthabascaRecon.Engines.MultiThreaded.Accounting
import AthabascaRecon.Engines.MultiThreaded.Replay
import AthabascaRecon.Engines.MultiThreaded.InOrder
import AthabascaRecon.Engines.MultiThreaded.Groups
import AthabascaRecon.Engines.MultiThreaded.Outputs
import AthabascaRecon.Engines.MultiThreaded.Refinement
import AthabascaRecon.Engines.MultiThreaded.Failures
import AthabascaRecon.Engines.MultiThreaded.VolumeFile
import AthabascaRecon.Launcher.Launch
import AthabascaRecon.Configuration.ReconConfiguration
import AthabascaRecon.Configuration.Verified
import AthabascaRecon.Configuration.LaunchParameters
import AthabascaRecon.Configuration.Readable
import AthabascaRecon.Configuration.ArithmeticFaults
import AthabascaRecon.IO.MetaImageWriter
import AthabascaRecon.IO.MetaImageReader
import AthabascaRecon.IO.ParseMeta
import AthabascaRecon.IO.MetaImageRoundTrip
import AthabascaRecon.IO.MetaImageData
import AthabascaRecon.IO.StreamingMetaImageWriter
import AthabascaRecon.Configuration.ReadProjectionsInfo
import AthabascaRecon.IO.AnyFormatStreamingProjectionsReader
import AthabascaRecon.Configuration.WrittenProjections
import AthabascaRecon.Launcher.Resumed
import AthabascaRecon.Filtering.RampFilterRealSpace
import AthabascaRecon.Filtering.TaperedCosineWindowFilter
import AthabascaRecon.Filtering.ProjectionFilterer
import AthabascaRecon.Filtering.ProjectionFiltererConvolution
import AthabascaRecon.Filtering.ProjectionFiltererFftw
import AthabascaRecon.Filtering.ProjectionFiltererVDsp
import AthabascaRecon.Filtering.SmoothedRows
