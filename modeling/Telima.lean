import Telima.Async.Atomic
import Telima.Async.Basic
import Telima.Async.Caching
import Telima.Async.Compositional
import Telima.Async.Counting
import Telima.Async.Failure
import Telima.Async.History
import Telima.Async.Observers
import Telima.Async.OneShot
import Telima.Async.Pool
import Telima.Async.Refinement
import Telima.Async.Relational
import Telima.Async.RelyGuarantee
import Telima.Async.Run
import Telima.Async.Sequential
import Telima.Async.Started
import Telima.Auth.Accounts
import Telima.Auth.Admin
import Telima.Auth.Calls
import Telima.Auth.Chains
import Telima.Auth.Codes
import Telima.Auth.Cooldown
import Telima.Auth.Footprints
import Telima.Auth.Guessing
import Telima.Auth.Interrupted
import Telima.Auth.Issuing
import Telima.Auth.Lockout
import Telima.Auth.Logins
import Telima.Auth.OneAccount
import Telima.Auth.Phones
import Telima.Auth.Refreshing
import Telima.Auth.Rollback
import Telima.Auth.Rotation
import Telima.Auth.Runs
import Telima.Auth.Schema
import Telima.Auth.Service
import Telima.Auth.SingleUse
import Telima.Auth.Superseded
import Telima.Auth.Threads
import Telima.Auth.Tokens
import Telima.ChargingStations.Service
import Telima.Commissions.Bound
import Telima.Commissions.Charging
import Telima.Commissions.Reports
import Telima.Commissions.Service
import Telima.Common.Idempotency
import Telima.Common.Isolation
import Telima.Common.Retry
import Telima.Data.Decimal2
import Telima.Data.GreatCircle
import Telima.Data.JsNumber
import Telima.Data.Json
import Telima.Data.OrderBy
import Telima.Data.Pages
import Telima.Data.PosixPath
import Telima.Data.Rounding
import Telima.Data.StableSort
import Telima.Data.Table
import Telima.Data.ToFixed
import Telima.Data.Walk
import Telima.Dispatch.OfferState
import Telima.Dispatch.Offers
import Telima.Dispatch.Protocol
import Telima.Dispatch.Runs
import Telima.Dispatch.Service
import Telima.Distance.Google
import Telima.Distance.Service
import Telima.Events.Events
import Telima.Fleet.Connectivity
import Telima.Fleet.Footprints
import Telima.Fleet.Gate
import Telima.Fleet.Nearby
import Telima.Fleet.OwnDriver
import Telima.Fleet.Rooms
import Telima.Fleet.Schema
import Telima.Fleet.Service
import Telima.Notifications.Addressees
import Telima.Notifications.OtherParty
import Telima.Notifications.Privacy
import Telima.Notifications.Pushes
import Telima.Notifications.Service
import Telima.Operations.Announcements
import Telima.Operations.Bookings
import Telima.Operations.Cancellations
import Telima.Operations.CancelledAt
import Telima.Operations.Dispatch
import Telima.Operations.Effects
import Telima.Operations.Engagement
import Telima.Operations.Exclusive
import Telima.Operations.GivingUp
import Telima.Operations.JobNames
import Telima.Operations.Ledger
import Telima.Operations.Locks
import Telima.Operations.Notices
import Telima.Operations.OfferWalk
import Telima.Operations.OpenOffers
import Telima.Operations.RecoveredRequest
import Telima.Operations.Release
import Telima.Operations.Rounds
import Telima.Operations.Rows
import Telima.Operations.Search
import Telima.Operations.Server
import Telima.Operations.Sweeps
import Telima.Operations.Tally
import Telima.Operations.TimeoutJobs
import Telima.Operations.Timeouts
import Telima.Operations.Trips
import Telima.Payments.AccessToken
import Telima.Payments.Amounts
import Telima.Payments.Credit
import Telima.Payments.Disclosure
import Telima.Payments.Provider
import Telima.Payments.Recovery
import Telima.Payments.Runs
import Telima.Payments.Service
import Telima.Payments.WebhookSecret
import Telima.Pricing.Accuracy
import Telima.Pricing.Cache
import Telima.Pricing.Limits
import Telima.Pricing.Registration
import Telima.Pricing.RowOrder
import Telima.Pricing.Service
import Telima.Pricing.Staleness
import Telima.Pricing.Surge
import Telima.ServiceConfigs.Service
import Telima.Storage.Uploads
import Telima.Store.Commands
import Telima.Store.Schema
import Telima.System
import Telima.Trips.Acceptance
import Telima.Trips.Assignment
import Telima.Trips.Authorization
import Telima.Trips.Browsing
import Telima.Trips.Completeness
import Telima.Trips.Completion
import Telima.Trips.Creation
import Telima.Trips.Declines
import Telima.Trips.Deliveries
import Telima.Trips.Lifecycle
import Telima.Trips.Listing
import Telima.Trips.Orders
import Telima.Trips.Ratings
import Telima.Trips.Rejections
import Telima.Trips.Routine
import Telima.Trips.Runs
import Telima.Trips.Service
import Telima.Trips.Transitions
import Telima.Trips.Writes
