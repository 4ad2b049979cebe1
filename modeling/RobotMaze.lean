import RobotMaze.Address
import RobotMaze.Audit.Basic
import RobotMaze.Config.EnvFile
import RobotMaze.Config.Loading
import RobotMaze.Config.Variable
import RobotMaze.Config.Settings
import RobotMaze.Console.Arguments
import RobotMaze.Console.Fault
import RobotMaze.Console.Command
import RobotMaze.Console.Disk
import RobotMaze.Console.Needs
import RobotMaze.Console.Output
import RobotMaze.Console.Work
import RobotMaze.Decimal
import RobotMaze.Failure
import RobotMaze.Grid
import RobotMaze.Json.Basic
import RobotMaze.Json.Decoder
import RobotMaze.Json.Printer
import RobotMaze.Json.Reading
import RobotMaze.Keyed
import RobotMaze.Login.Basic
import RobotMaze.Login.Cookie
import RobotMaze.Main
import RobotMaze.Named
import RobotMaze.Paging
import RobotMaze.Proofs.Grid.Cells
import RobotMaze.Proofs.Grid.Text
import RobotMaze.Proofs.Json.Items
import RobotMaze.Proofs.Robot.Loops
import RobotMaze.Proofs.Robot.Walk
import RobotMaze.Proofs.Service.Calls
import RobotMaze.Proofs.Service.Frames
import RobotMaze.Proofs.Session.Laws
import RobotMaze.Proofs.Session.Life
import RobotMaze.Proofs.Session.Writes
import RobotMaze.Proofs.Store.Changes
import RobotMaze.Proofs.Store.Outcome
import RobotMaze.Proofs.Store.Rows
import RobotMaze.Proofs.Store.Table
import RobotMaze.Proofs.Text.Digits
import RobotMaze.Proofs.Time.Calendar
import RobotMaze.Proofs.Time.Stamp
import RobotMaze.Proofs.Track.Rules
import RobotMaze.Proofs.Track.Stored
import RobotMaze.Proofs.Track.Writes
import RobotMaze.Robot.Heading
import RobotMaze.Robot.Run
import RobotMaze.Service.AuditLog
import RobotMaze.Service.Games
import RobotMaze.Service.Logins
import RobotMaze.Service.Reports
import RobotMaze.Service.Tracks
import RobotMaze.Service.Users
import RobotMaze.Session.Basic
import RobotMaze.Session.Report
import RobotMaze.Statistics.Activity
import RobotMaze.Statistics.Sessions
import RobotMaze.Statistics.Complete
import RobotMaze.Statistics.Overview
import RobotMaze.Store.Audit
import RobotMaze.Store.Cells
import RobotMaze.Store.Database
import RobotMaze.Store.Users
import RobotMaze.Store.Rows
import RobotMaze.Store.Sessions
import RobotMaze.Store.Snapshot
import RobotMaze.Store.Table
import RobotMaze.Store.Tracks
import RobotMaze.Store.Trail
import RobotMaze.Text.Base64Url
import RobotMaze.Text.Blank
import RobotMaze.Text.LowerCase
import RobotMaze.Text.LowerCase.Table
import RobotMaze.Text.Number
import RobotMaze.Text.Pattern
import RobotMaze.Text.Percent
import RobotMaze.Text.Split
import RobotMaze.Time.Calendar
import RobotMaze.Time.Instant
import RobotMaze.Time.Printer
import RobotMaze.Time.Reader
import RobotMaze.Toml.Document
import RobotMaze.Toml.Quoted
import RobotMaze.Toml.Scalar
import RobotMaze.Toml.Table
import RobotMaze.Track.Basic
import RobotMaze.Track.Change
import RobotMaze.Track.Transfer
import RobotMaze.User.Basic
import RobotMaze.User.Change
import RobotMaze.Violation
import RobotMaze.Web.Handling
import RobotMaze.Web.Entrance
import RobotMaze.Web.Form
import RobotMaze.Web.Html
import RobotMaze.Web.Listing
import RobotMaze.Web.Office.Audit
import RobotMaze.Web.Office.Desk
import RobotMaze.Web.Office.Figures
import RobotMaze.Web.Office.Pages
import RobotMaze.Web.Office.Tracks
import RobotMaze.Web.Office.Users
import RobotMaze.Web.Play
import RobotMaze.Web.Response
import RobotMaze.Web.Request
import RobotMaze.Web.Site
import RobotMaze.Proofs.Service.Traffic
import RobotMaze.Proofs.User.Pacts
import RobotMaze.Proofs.User.Addresses
import RobotMaze.Proofs.User.Admins
import RobotMaze.Proofs.Time.Order
import RobotMaze.Proofs.Login.Cookie
import RobotMaze.Proofs.Login.Standing
import RobotMaze.Proofs.Login.Endings
import RobotMaze.Proofs.Login.Life
import RobotMaze.Proofs.Track.Overlap
import RobotMaze.Proofs.Session.Overlap
import RobotMaze.Proofs.Service.Recorded
import RobotMaze.Proofs.Web.Gate
import RobotMaze.Proofs.Track.Recorded
import RobotMaze.Proofs.User.Rules
import RobotMaze.Proofs.User.Recorded
import RobotMaze.Proofs.Login.Recorded
import RobotMaze.Proofs.User.Life
import RobotMaze.Proofs.User.Passwords
import RobotMaze.Proofs.Session.Stored
import RobotMaze.Proofs.Service.AllOrNothing
import RobotMaze.Proofs.Audit.Log
import RobotMaze.Proofs.Store.Listing
import RobotMaze.Proofs.Service.Pages
import RobotMaze.Proofs.Keyed
import RobotMaze.Proofs.Decimal
import RobotMaze.Proofs.Json.Text
import RobotMaze.Proofs.Json.Number
import RobotMaze.Proofs.Json.Layout
import RobotMaze.Proofs.Json.Records
import RobotMaze.Proofs.Json.Restores
import RobotMaze.Proofs.Time.Written
import RobotMaze.Proofs.Audit.Trail
import RobotMaze.Proofs.Audit.Mirror
import RobotMaze.Proofs.Track.Document
import RobotMaze.Proofs.Track.Import
import RobotMaze.Proofs.Track.Transfer
import RobotMaze.Proofs.Session.Tracks
import RobotMaze.Proofs.Service.Reports
import RobotMaze.Proofs.Web.Handling
import RobotMaze.Proofs.Web.Login
import RobotMaze.Proofs.Text.Split
import RobotMaze.Proofs.Web.Public
import RobotMaze.Proofs.Secrecy.Twins
import RobotMaze.Proofs.Secrecy.Services
import RobotMaze.Proofs.Secrecy.Accounts
import RobotMaze.Proofs.Secrecy.Requests
import RobotMaze.Proofs.Secrecy.Handlers
import RobotMaze.Proofs.Secrecy.Site
import RobotMaze.Proofs.Secrecy.Commands
import RobotMaze.Proofs.Secrecy.Runs
import RobotMaze.Proofs.Track.FreeName
import RobotMaze.Proofs.Track.Renamed
import RobotMaze.Proofs.Web.Cookie
import RobotMaze.Proofs.Web.Markup
import RobotMaze.Proofs.Web.DataBlock
import RobotMaze.Proofs.Web.ScriptText
import RobotMaze.Proofs.Web.GamePage
import RobotMaze.Proofs.Web.Listings
import RobotMaze.Proofs.RoundTrip
import RobotMaze.Proofs.Config.Overlay
import RobotMaze.Proofs.Config.Variable
import RobotMaze.Proofs.Config.Settings
import RobotMaze.Proofs.Config.SettingsFile
import RobotMaze.Proofs.Config.Layers
import RobotMaze.Proofs.Config.TextKeys
import RobotMaze.Proofs.Grid.Rules
import RobotMaze.Proofs.Session.Finished
import RobotMaze.Proofs.Session.Plain
import RobotMaze.Proofs.Service.Seen
import RobotMaze.Proofs.Service.Updates
import RobotMaze.Proofs.Session.Updated
import RobotMaze.Proofs.Login.Audited
import RobotMaze.Proofs.Session.Quick
import RobotMaze.Proofs.Time.Day
import RobotMaze.Proofs.Service.Dated
import RobotMaze.Proofs.Service.Activity
import RobotMaze.Proofs.Service.Daily
import RobotMaze.Proofs.Time.Bound
import RobotMaze.Proofs.Service.Bounds
import RobotMaze.Proofs.Audit.Views
import RobotMaze.Proofs.Text.Pattern
import RobotMaze.Proofs.Text.Base64Url
import RobotMaze.Proofs.Service.Readable
import RobotMaze.Proofs.Service.Search
import RobotMaze.Proofs.Console.Choice
import RobotMaze.Proofs.Console.Import
import RobotMaze.Proofs.Console.Table
