import LibRga.Check
import LibRga.Builder
import LibRga.Blit
import LibRga.Fill
import LibRga.Driver
import LibRga.Legacy
import LibRga.Job
import LibRga.JobInvariant
import LibRga.JobDelivery
import LibRga.JobOwnership
import LibRga.Submit
import LibRga.Api
import LibRga.Frame
import LibRga.HandlePlanes
import LibRga.Submission
import LibRga.RequestFilled
import LibRga.Deferral
import LibRga.TaskEquivalence
import LibRga.Bounds
import LibRga.CheckAgreement
import LibRga.ColourSpace
import LibRga.Failure
import LibRga.GaussOwnership
import LibRga.Payload
import LibRga.Context
import LibRga.ContextLifecycle
import LibRga.Hardware
import LibRga.Session
import LibRga.SessionAccounting
import LibRga.Fence
import LibRga.Border
import LibRga.BorderPixels
import LibRga.BorderResources
import LibRga.FenceArray
import LibRga.BlitAgreement
import LibRga.FenceAggregation
import LibRga.FloatOrder
import LibRga.Registers
import LibRga.FeatureFlags
import LibRga.Interpolation
import LibRga.Mirror
import LibRga.MmuFlags
import LibRga.ClipWindow
import LibRga.ContextHeap
import LibRga.FillSelector
import LibRga.UsageTransform
import LibRga.Narrowing
import LibRga.EntryPoints
import LibRga.EntrySubmission
import LibRga.EntryReports
import LibRga.UniformFailure
import LibRga.HardwareMerge
import LibRga.HardwareLimits
import LibRga.SessionRetry
import LibRga.Conversion
import LibRga.AsyncContext
import LibRga.HandleMixing
import LibRga.ArrayAtomicity
import LibRga.BorderTotality
import LibRga.Outline
import LibRga.FormatConversion
import LibRga.FormatQuery
import LibRga.StrideAlign
import LibRga.VersionBinding
import LibRga.ThreadConfig
import LibRga.Spared
import LibRga.FenceReport
import LibRga.FdPlacement
import LibRga.ScaleLimits
import LibRga.Library.Interleaving
import LibRga.UapiCache
import LibRga.Library.DoublyLinked
import LibRga.JobList
import LibRga.Library.Protocol
import LibRga.Process
import LibRga.Library.Progress
import LibRga.EntryProtocol
import LibRga.EntryLocks
import LibRga.EntrySession
import LibRga.JobRefinement
import LibRga.EntryHeap
import LibRga.JobTraffic
import LibRga.Library.Monitor
import LibRga.Library.Sections
import LibRga.Library.Wakeups
import LibRga.LegacyMonitor
import LibRga.LegacyRefinement
import LibRga.LegacySafety
import LibRga.LegacyProgress
import LibRga.ApiDiscipline
import LibRga.ApiLifetime
import LibRga.ApiOpenings
