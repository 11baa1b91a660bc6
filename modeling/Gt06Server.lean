import Gt06Server.Resumable
import Gt06Server.Protocol
import Gt06Server.Framing
import Gt06Server.Server
import Gt06Server.Relational
import Gt06Server.Primitives
import Gt06Server.Binary64
import Gt06Server.Billing
import Gt06Server.Midtrans
import Gt06Server.MidtransSignature
import Gt06Server.MidtransLedger
import Gt06Server.RowLocks
import Gt06Server.MidtransRace
import Gt06Server.SubscriptionMaintenance
import Gt06Server.Await
import Gt06Server.BotDatabase
import Gt06Server.MaintenanceRace
import Gt06Server.Bot
import Gt06Server.HeartbeatCursor
import Gt06Server.RideOverlap
import Gt06Server.SessionLogic
import Gt06Server.SessionMachine
import Gt06Server.NotifiedSessions
import Gt06Server.ServiceDistance
import Gt06Server.DistanceBackfill
import Gt06Server.DistanceTotals
import Gt06Server.SubscriptionLifecycle
import Gt06Server.SubscriptionAccount
import Gt06Server.DailyReminders
import Gt06Server.MaintenanceFailures
import Gt06Server.MidtransSnap
import Gt06Server.UpdatePolling
import Gt06Server.PaymentTap
import Gt06Server.UpdateIsolation
import Gt06Server.ForeignKeys
import Gt06Server.SubscriptionMigration
import Gt06Server.FuelCalibrations
import Gt06Server.DeviceSnapshots
import Gt06Server.DeviceHistory
import Gt06Server.AnalyticsRanges
import Gt06Server.ChatHandlers
import Gt06Server.Registration
import Gt06Server.MidtransWebhookEndpoint
import Gt06Server.ShipmentFee
import Gt06Server.TwoRuns
import Gt06Server.OwnDevice
import Gt06Server.HeartbeatSegments
import Gt06Server.SessionSegments
import Gt06Server.DecoderProgress
import Gt06Server.Crc
import Gt06Server.LineNoise
import Gt06Server.FrameCorruption
import Gt06Server.Nibbles
import Gt06Server.DeviceIdentity
import Gt06Server.LocationArchive
import Gt06Server.DistanceBounds
import Gt06Server.SanctionRows
import Gt06Server.LoneRuns
import Gt06Server.LoneTaps
import Gt06Server.ChatGates
import Gt06Server.AccessGating
import Gt06Server.AmountGrouping
import Gt06Server.InvoiceLines
import Gt06Server.OrderIds
import Gt06Server.Keyboards
import Gt06Server.CalendarEnds
import Gt06Server.Neighbours
import Gt06Server.WibDays
import Gt06Server.RidingTime
import Gt06Server.RouteDistance
import Gt06Server.ServiceMilestones
import Gt06Server.TelemetryServer
import Gt06Server.LatestReports
import Gt06Server.TelemetryDelivery
import Gt06Server.TelemetryProgress
import Gt06Server.DistanceIsolation
import Gt06Server.DayPages
import Gt06Server.AnalyticsMessages
import Gt06Server.FuelPages
import Gt06Server.ConnectionPools
import Gt06Server.MilestoneDates
import Gt06Server.FuelEndpoints
