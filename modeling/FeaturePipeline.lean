import FeaturePipeline.Program
import FeaturePipeline.Session
import FeaturePipeline.Task.Pool
import FeaturePipeline.Main
import FeaturePipeline.Proofs.TaskRun
import FeaturePipeline.Proofs.TextLines
import FeaturePipeline.Proofs.Conditions
import FeaturePipeline.Proofs.DecisionOrder
import FeaturePipeline.Proofs.CallSegments
import FeaturePipeline.Proofs.ContextErasure
import FeaturePipeline.Proofs.ListedImages
import FeaturePipeline.Proofs.TaskLives
import FeaturePipeline.Proofs.ExitCode
import FeaturePipeline.Proofs.FailedDispatch
import FeaturePipeline.Proofs.NumberText
import FeaturePipeline.Proofs.PoolRuns
import FeaturePipeline.Proofs.RequestEntries
import FeaturePipeline.Proofs.RequestRoundTrip
import FeaturePipeline.Proofs.CarriedOptions
import FeaturePipeline.Proofs.CameraParameters
import FeaturePipeline.Proofs.PrintedDoubles
import FeaturePipeline.Proofs.OptionRanges
import FeaturePipeline.Proofs.ListFiles
import FeaturePipeline.Proofs.ReadRequests
import FeaturePipeline.Proofs.IntegerOptions
import FeaturePipeline.Proofs.ListLayouts
import FeaturePipeline.Proofs.ContextCalls
import FeaturePipeline.Proofs.DryRunReports
import FeaturePipeline.Proofs.EntryModes
import FeaturePipeline.Proofs.RequiredPaths
import FeaturePipeline.Proofs.GpuSwitch
import FeaturePipeline.Proofs.TaskHistories
import FeaturePipeline.Proofs.SeparatedParameters
