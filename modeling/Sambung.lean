import Sambung.Accounting
import Sambung.AtMostOnce
import Sambung.LivePayment
import Sambung.Confirmation
import Sambung.Authenticity
import Sambung.Gate
import Sambung.Interference
import Sambung.Withdrawal
import Sambung.SyncRace
import Sambung.Reconciliation
import Sambung.Ledger
import Sambung.Notifications
import Sambung.Finality
import Sambung.Truncation
import Sambung.Pricing
import Sambung.UnknownOrder
import Sambung.FeedRoundTrip
import Sambung.PhotoSweep
import Sambung.Rotation
import Sambung.ListingRemoval
import Sambung.InviteLifecycle
import Sambung.SeatedAccounts
import Sambung.TenantSessions
import Sambung.Coalescing
import Sambung.IcalComponents
import Sambung.ContentSplit
import Sambung.GrossAmounts
import Sambung.FeedFetcher
import Sambung.BookingsCsv
import Sambung.Slugs
import Sambung.CalendarBars
import Sambung.DoubtfulFeed
import Sambung.RemovedStaff
import Sambung.StableFeeds
import Sambung.Channels
import Sambung.Inventory
import Sambung.PriceOverrides
import Sambung.ConnectionLife
import Sambung.HeldNights
import Sambung.SyncPasses
import Sambung.Displayable
import Sambung.Reservations
import Sambung.OwnerCalendar
import Sambung.SeatTokens
import Sambung.ReservationsPage
import Sambung.ExportedFeed
