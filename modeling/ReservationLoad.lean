import ReservationLoad.Calendar.Instant
import ReservationLoad.Json.Reader
import ReservationLoad.Json.Value
import ReservationLoad.LoadTest
import ReservationLoad.Reservation.Wire
import ReservationLoad.Toml.Fit
import ReservationLoad.Url.Reader
import ReservationLoad.Results.Store
import ReservationLoad.CommandLine.Reader
import ReservationLoad.Config.Layers
import ReservationLoad.Http.Transport
import ReservationLoad.Log.Filter
import ReservationLoad.Log.Line
import ReservationLoad.Program
import ReservationLoad.Http.Layout
import ReservationLoad.Live.Clock
import ReservationLoad.Live.Disk
import ReservationLoad.Live.Network
import ReservationLoad.Live.Workers
import ReservationLoad.Main
import ReservationLoad.Proofs.LoadTest.ExactlyOnce
import ReservationLoad.Proofs.Pool.Accounting
import ReservationLoad.Proofs.Pool.Session
import ReservationLoad.Proofs.Pool.Deaths
import ReservationLoad.Proofs.Pool.Seeded
import ReservationLoad.Proofs.LoadTest.Reproducible
import ReservationLoad.Proofs.LoadTest.Seeds
import ReservationLoad.Proofs.Report.Figures
import ReservationLoad.Proofs.Toml.Members
import ReservationLoad.Proofs.Config.File
import ReservationLoad.Proofs.Config.Layers
import ReservationLoad.Proofs.Pool.Cadence
import ReservationLoad.Proofs.Reservation.Wire
import ReservationLoad.Proofs.Reservation.Uniform
import ReservationLoad.Proofs.Results.Document
import ReservationLoad.Proofs.Results.Layouts
import ReservationLoad.Proofs.Config.Formats
import ReservationLoad.Proofs.Program.Outcome
import ReservationLoad.Proofs.Text.Numerals
import ReservationLoad.Proofs.Work.Histories
import ReservationLoad.Proofs.Config.Variables
import ReservationLoad.Proofs.Report.Percentile
import ReservationLoad.Proofs.Config.Options
import ReservationLoad.Proofs.Toml.Places
import ReservationLoad.Proofs.Toml.Additions
import ReservationLoad.Proofs.Config.Channels
import ReservationLoad.Proofs.CommandLine.Reading
import ReservationLoad.Proofs.CommandLine.Spelling
import ReservationLoad.Proofs.Binary64.Nearest
import ReservationLoad.Proofs.Binary64.Value
import ReservationLoad.Proofs.Binary64.Printed
import ReservationLoad.Proofs.Report.Printed
import ReservationLoad.Proofs.Http.Delivery
import ReservationLoad.Proofs.Calendar.Stamp
import ReservationLoad.Proofs.Files.Paths
import ReservationLoad.Proofs.Results.Saving
import ReservationLoad.Proofs.Pool.Turns
