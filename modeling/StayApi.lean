import StayApi.OrdMap
import StayApi.Known
import StayApi.TtlKey
import StayApi.Run
import StayApi.Lease
import StayApi.LogMirror
import StayApi.LogAccounting
import StayApi.LogShutdown
import StayApi.Rejections
import StayApi.SocketOrder
import StayApi.Effects
import StayApi.TrackedOnline
import StayApi.Renewal
import StayApi.UnsubscribeFrame
import StayApi.Replay
import StayApi.Views
import StayApi.ViewsAgree
import StayApi.LogBounds
import StayApi.LogOrder
import StayApi.LogLoss
import StayApi.Heartbeat
import StayApi.SetStatus
import StayApi.Connections
import StayApi.Lifecycle
import StayApi.Cluster
import StayApi.ExpiryRace
import StayApi.Restart
import StayApi.TimedLease
import StayApi.FrameOutcome
import StayApi.ExpiryHandler
import StayApi.PercentEncoding
import StayApi.PgSlonik
import StayApi.SqsUtil
import StayApi.ApiError
import StayApi.ValidationPipe
import StayApi.HttpExceptionFilter
import StayApi.Broadcasts
import StayApi.Quiescence
import StayApi.KeySpace
import StayApi.Footprint
import StayApi.Relational
import StayApi.RelationalDelete
import StayApi.RelationalSound
import StayApi.PublicSchema
import StayApi.Retention
import StayApi.JsonRoundTrip
import StayApi.Frames
import StayApi.SqsCalls
import StayApi.SqsBatches
import StayApi.LogWrites
import StayApi.Catalog
import StayApi.InvalidRequests
import StayApi.Migrations
import StayApi.Fading
import StayApi.LogRecovery
import StayApi.Staleness
