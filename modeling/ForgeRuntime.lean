import ForgeRuntime.Extension.ToolList
import ForgeRuntime.Lib.Json
import ForgeRuntime.Evidence.PackageRules
import ForgeRuntime.Runtime.Traceability
import ForgeRuntime.Runtime.Identities
import ForgeRuntime.Runtime.RefusedCalls
import ForgeRuntime.Extension.GrillTruth
import ForgeRuntime.Extension.EvidenceSize
import ForgeRuntime.Extension.StrayActions
import ForgeRuntime.Extension.RetrievalBatch
import ForgeRuntime.Extension.ContextReplay
import ForgeRuntime.Runtime.DisplayedStage
import ForgeRuntime.Runtime.GrillCheckpoint
import ForgeRuntime.Artifacts.UnmanagedBytes
import ForgeRuntime.Extension.RecordedEvidence
import ForgeRuntime.Extension.SeedPaths
import ForgeRuntime.Artifacts.BaseHash
import ForgeRuntime.Extension.LightDiscovery
import ForgeRuntime.Grill.GrillCompletion
import ForgeRuntime.Artifacts.Redaction
import ForgeRuntime.Runtime.ThrownCalls
import ForgeRuntime.Runtime.Reset
import ForgeRuntime.Artifacts.Rollback
import ForgeRuntime.Lib.Versioned
import ForgeRuntime.Artifacts.CompareAndSwap
import ForgeRuntime.Artifacts.CommitAnswers
import ForgeRuntime.Extension.DocumentsAgree
