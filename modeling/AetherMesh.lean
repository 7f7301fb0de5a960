import AetherMesh.Library.Calendar
import AetherMesh.Library.Counting
import AetherMesh.Library.Descent
import AetherMesh.Library.Exchange
import AetherMesh.Library.Fields
import AetherMesh.Library.FileTree
import AetherMesh.Library.Framing
import AetherMesh.Library.LockTable
import AetherMesh.Library.Markup
import AetherMesh.Library.Precedence
import AetherMesh.Library.Recency
import AetherMesh.Library.Retrying
import AetherMesh.Library.Runs
import AetherMesh.Library.Selection
import AetherMesh.Library.Separated
import AetherMesh.Library.ShortReads
import AetherMesh.Library.SingleFlight
import AetherMesh.Library.Triples
import AetherMesh.Library.Waiters
import AetherMesh.Core.Data
import AetherMesh.Core.Text
import AetherMesh.Core.Task
import AetherMesh.Core.Node
import AetherMesh.Core.Store
import AetherMesh.Core.StoreInvariant
import AetherMesh.Core.StoreRecency
import AetherMesh.Core.Chunk
import AetherMesh.Core.ChunkAssembly
import AetherMesh.Core.ChunkDelivery
import AetherMesh.Core.Compress
import AetherMesh.Core.Workflow
import AetherMesh.Core.WorkflowOrder
import AetherMesh.Core.WorkflowLeast
import AetherMesh.Core.WorkflowWaves
import AetherMesh.Protocol.Message
import AetherMesh.Protocol.Net
import AetherMesh.Protocol.NetFrames
import AetherMesh.Controller.Catalog
import AetherMesh.Controller.CatalogSizes
import AetherMesh.Controller.Schedulers
import AetherMesh.Controller.CatalogRelation
import AetherMesh.Controller.Dispatch
import AetherMesh.Controller.Retries
import AetherMesh.Controller.ChunkBatch
import AetherMesh.Controller.ChunkRanges
import AetherMesh.Controller.Credits
import AetherMesh.Agent.Client
import AetherMesh.Agent.Arrival
import AetherMesh.Agent.Evictions
import AetherMesh.Agent.Progress
import AetherMesh.Agent.Heartbeat
import AetherMesh.Agent.Executor
import AetherMesh.Controller.Submissions
import AetherMesh.Controller.SubmissionsCancel
import AetherMesh.Controller.SubmissionsCatalog
import AetherMesh.Controller.SubmissionsInputs
import AetherMesh.Controller.SubmissionsFlight
import AetherMesh.Controller.SubmissionsLocks
import AetherMesh.Controller.SubmissionsProgress
import AetherMesh.Controller.Transfers
import AetherMesh.Controller.TransfersReady
import AetherMesh.Controller.TransfersShared
import AetherMesh.Controller.TransfersComplete
import AetherMesh.Controller.Checkpoint
import AetherMesh.Controller.ResultCache
import AetherMesh.Controller.Journal
import AetherMesh.Controller.ResumedInput
import AetherMesh.Controller.Flow
import AetherMesh.Controller.FlowCounters
import AetherMesh.Controller.FlowResume
import AetherMesh.Controller.FlowPartition
import AetherMesh.Controller.FlowFailures
import AetherMesh.Controller.FlowDispatch
import AetherMesh.Controller.FlowReads
import AetherMesh.Controller.FlowHandover
import AetherMesh.Controller.FlowPlacements
import AetherMesh.Controller.FlowSequential
import AetherMesh.Controller.FlowExecution
import AetherMesh.Controller.FlowProgress
import AetherMesh.Controller.Queue
import AetherMesh.Controller.QueueLedger
import AetherMesh.Controller.QueueVictims
import AetherMesh.Controller.Dispatcher
import AetherMesh.Controller.DispatcherReplies
import AetherMesh.Controller.DispatcherOrder
import AetherMesh.Controller.DispatcherProgress
import AetherMesh.Controller.DispatcherStats
import AetherMesh.Controller.DispatcherReads
import AetherMesh.Controller.Autoscale
import AetherMesh.Controller.Security
import AetherMesh.Controller.ClientProtocol
import AetherMesh.Controller.ClientFrames
import AetherMesh.Controller.ClientRequests
import AetherMesh.Controller.DataIdText
import AetherMesh.Controller.ConstraintText
import AetherMesh.Controller.ClientHandler
import AetherMesh.Controller.ClientGate
import AetherMesh.Controller.ClientSync
import AetherMesh.Controller.Connection
import AetherMesh.Controller.Registry
import AetherMesh.Controller.Connections
import AetherMesh.Controller.AutoscaleSignals
import AetherMesh.Controller.Server
import AetherMesh.Controller.ServerAnswers
import AetherMesh.Controller.ServerWaiters
import AetherMesh.Controller.ServerLinks
import AetherMesh.Controller.ServerChannels
import AetherMesh.Controller.ServerEvictions
import AetherMesh.Controller.ServerMembership
import AetherMesh.Controller.ServerIdentity
import AetherMesh.Sdk.PythonWorker
import AetherMesh.Sdk.TypeScript
import AetherMesh.Sdk.JavaJson
import AetherMesh.Sdk.MeshExecutor
import AetherMesh.Sdk.MeshExecutorSafety
import AetherMesh.Sdk.MeshExecutorShutdown
import AetherMesh.Wasm.HostCalls
import AetherMesh.Wasm.Sandbox
import AetherMesh.Wasm.Module
import AetherMesh.Cloud.CivilDate
import AetherMesh.Cloud.SigningBinds
import AetherMesh.Cloud.Ec2Reply
import AetherMesh.Cloud.Ec2Items
import AetherMesh.Cloud.Ec2Discovery
import AetherMesh.Cloud.HttpClient
