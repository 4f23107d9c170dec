import FitzClient.Dictionary
import FitzClient.LabelledSystem
import FitzClient.IndexedCells
import FitzClient.RequestGate
import FitzClient.RequestGateSlots
import FitzClient.Multiplexer
import FitzClient.BigEndian
import FitzClient.WireBuffer
import FitzClient.FrameCodec
import FitzClient.RequestTask
import FitzClient.MultiplexerCorrelation
import FitzClient.MultiplexerRegistration
import FitzClient.MultiplexerSlots
import FitzClient.RequestAdmission
import FitzClient.RequestCeiling
import FitzClient.Connection
import FitzClient.ConnectionTasks
import FitzClient.ConnectionOpeners
import FitzClient.ConnectionCoalescing
import FitzClient.ConnectionRecovery
import FitzClient.AsyncSubscription
import FitzClient.SubscriptionRegistry
import FitzClient.InverseTables
import FitzClient.SubscriptionTables
import FitzClient.SubscriptionInverse
import FitzClient.SubscriptionDelivery
import FitzClient.SubscriptionBroker
import FitzClient.SubscriptionSession
import FitzClient.SubscriptionExactDelivery
import FitzClient.NoticeClient
import FitzClient.NoticeSimulation
import FitzClient.LeaseAcquire
import FitzClient.LeaseAcquireLock
import FitzClient.LeaseAcquireReplies
import FitzClient.LeaseInventoryObserver
import FitzClient.LeaseObserverPasses
import FitzClient.RpcWorker
import FitzClient.RpcInvocation
import FitzClient.RpcWorkerStart
import FitzClient.RpcWorkerAcknowledgement
import FitzClient.RpcWorkerAnswer
import FitzClient.ConnectionClosed
import FitzClient.RequestOutbox
import FitzClient.StreamSession
import FitzClient.KvTransaction
import FitzClient.LeaseRenewal
import FitzClient.WireExtensions
import FitzClient.Handshake
import FitzClient.HandshakeIndependence
import FitzClient.SizeRejection
import FitzClient.ResponseEnvelope
import FitzClient.RpcCaller
import FitzClient.RpcCallTables
import FitzClient.RpcExchange
import FitzClient.RpcTransparency
import FitzClient.GlobPattern
import FitzClient.RouteShapes
import FitzClient.FrameCanonical
import FitzClient.ExtensionEnvelope
import FitzClient.TokenReader
import FitzClient.ResponseReader
import FitzClient.ResponseGrammar
import FitzClient.KvStatus
import FitzClient.ResponsePages
import FitzClient.StreamPage
import FitzClient.DecoderEscapes
import FitzClient.RpcCallQueue
import FitzClient.RpcCallOrder
import FitzClient.RpcCallDeadline
import FitzClient.ResponseNumbering
import FitzClient.ConnectionSessions
import FitzClient.TransportGenerations
import FitzClient.SessionHandle
import FitzClient.HandleSessions
import FitzClient.AttributedConnection
import FitzClient.TransportFailures
import FitzClient.Audience
import FitzClient.SubscriptionAudience
import FitzClient.RegistryAudience
import FitzClient.NoticeLifetime
import FitzClient.RouteSelectors
import FitzClient.StreamSelectors
import FitzClient.GlobContainment
import FitzClient.WorkerSelection
import FitzClient.RequestGateOrder
import FitzClient.DispatcherTasks
import FitzClient.DispatcherQueue
import FitzClient.LazyResource
import FitzClient.LazyResourceLife
import FitzClient.SubscriptionReader
import FitzClient.SubscriptionIteration
import FitzClient.StreamNotification
import FitzClient.CursorPaging
import FitzClient.KvScanRequest
import FitzClient.KvScanAll
import FitzClient.KvScanPages
import FitzClient.NoticeAudience
import FitzClient.ConnectionRejection
import FitzClient.Client
import FitzClient.ClientClosing
import FitzClient.BufferCursor
import FitzClient.BufferRoundTrip
import FitzClient.Sweep
import FitzClient.RegistryRenewal
import FitzClient.LengthPrefixed
import FitzClient.TcpTransport
import FitzClient.TcpLink
import FitzClient.WorkerRegistration
import FitzClient.WorkerBroker
import FitzClient.WorkerRenewal
import FitzClient.DelimitedFields
import FitzClient.RequestPayloads
import FitzClient.RequestFrames
import FitzClient.LeaseInventory
import FitzClient.LeaseObserverRest
import FitzClient.LeaseInventoryView
import FitzClient.Settling
import FitzClient.LeaseObserverTasks
import FitzClient.LeaseInventoryRest
import FitzClient.TokenFormat
import FitzClient.ReplyFormats
import FitzClient.OperationReplies
import FitzClient.SequentialObject
import FitzClient.Conversation
import FitzClient.RequestWrites
import FitzClient.ConversationHistory
