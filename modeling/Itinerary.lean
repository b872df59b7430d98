import Itinerary.Text.Base64
import Itinerary.Text.Blank
import Itinerary.Text.Casing
import Itinerary.Text.Quoted
import Itinerary.Decimal.Fixed
import Itinerary.Decimal.Shortest
import Itinerary.Json.Printer
import Itinerary.Json.Reader
import Itinerary.Json.Scan
import Itinerary.Violation
import Itinerary.Time.Moment
import Itinerary.Time.Stamp
import Itinerary.Digest
import Itinerary.NetworkId
import Itinerary.Capacity
import Itinerary.Fare
import Itinerary.Line.StyleTable
import Itinerary.Place.Path
import Itinerary.Stop
import Itinerary.Leg.Basic
import Itinerary.Reference
import Itinerary.Trip.Basic
import Itinerary.Trip.Document
import Itinerary.Trip.Identity
import Itinerary.Trip.Repair
import Itinerary.Answer.Departures
import Itinerary.Answer.Places
import Itinerary.Answer.Trips
import Itinerary.Query.Token
import Itinerary.Backend.Basic
import Itinerary.Timetable.Backend
import Itinerary.Decimal.Reading
import Itinerary.Text.Utf8
import Itinerary.Web.Form
import Itinerary.Web.Handler
import Itinerary.Web.Service
import Itinerary.Http.Client
import Itinerary.Server.Address
import Itinerary.Server.Settings
import Itinerary.Backend.Script
import Itinerary.Backend.Session
import Itinerary.Document
import Itinerary.Proofs.Place.PathText
import Itinerary.Proofs.Place.PathLength
import Itinerary.Proofs.Decimal.Digits
import Itinerary.Proofs.Timetable.Serving
import Itinerary.Proofs.Timetable.Window
import Itinerary.Proofs.Trip.Merge
import Itinerary.Proofs.Timetable.Exhaustion
import Itinerary.Proofs.Json.Printed
import Itinerary.Proofs.Json.ReadBack
import Itinerary.Proofs.Json.Parts
import Itinerary.Proofs.Product.Members
import Itinerary.Proofs.Product.Codes
import Itinerary.Proofs.Place.ReadBack
import Itinerary.Proofs.Time.Reach
import Itinerary.Proofs.Time.ReadBack
import Itinerary.Proofs.Leg.ReadBack
import Itinerary.Proofs.Leg.Shift
import Itinerary.Proofs.Leg.Boarding
import Itinerary.Proofs.Query.ReadBack
import Itinerary.Proofs.Query.Token
import Itinerary.Proofs.Web.Paging
import Itinerary.Proofs.Text.Separated
import Itinerary.Proofs.Trip.UniqueId
import Itinerary.Proofs.Trip.Change
import Itinerary.Proofs.Trip.Validity
import Itinerary.Proofs.Trip.Agreement
import Itinerary.Proofs.Trip.ReadBack
import Itinerary.Proofs.Trip.DerivedId
import Itinerary.Proofs.Trip.Refresh
import Itinerary.Proofs.Trip.Repair
import Itinerary.Proofs.Trip.Travelable
import Itinerary.Proofs.Trip.Repaired
import Itinerary.Proofs.Text.Numeral
import Itinerary.Proofs.Timetable.Continuing
import Itinerary.Proofs.Timetable.Resolution
import Itinerary.Proofs.Timetable.Decision
import Itinerary.Proofs.Place.Identity
import Itinerary.Proofs.Timetable.Connection
import Itinerary.Proofs.Timetable.Selection
import Itinerary.Proofs.Web.Settled
import Itinerary.Proofs.Order.Listing
import Itinerary.Proofs.Timetable.Relaxation
import Itinerary.Proofs.Timetable.Repetition
import Itinerary.Proofs.Timetable.Board
import Itinerary.Proofs.Timetable.Timed
import Itinerary.Proofs.Timetable.Interchange
import Itinerary.Proofs.Web.Stops
import Itinerary.Proofs.Line.Colour
import Itinerary.Proofs.Line.StyleSlots
import Itinerary.Proofs.Time.Arithmetic
import Itinerary.Proofs.Trip.Envelope
import Itinerary.Proofs.Time.Shown
import Itinerary.Proofs.Text.Lowercase
import Itinerary.Proofs.Timetable.Search
import Itinerary.Proofs.Timetable.Ranking
import Itinerary.Proofs.Text.Words
import Itinerary.Proofs.Place.PositionText
import Itinerary.Proofs.Time.OffsetWord
import Itinerary.Proofs.Decimal.Value
import Itinerary.Proofs.Fare.Shown
