import ContainerLaunch.Binary64.Basic
import ContainerLaunch.Binary64.Decimal
import ContainerLaunch.Cleanup.Roster
import ContainerLaunch.Cleanup.Watcher
import ContainerLaunch.Client
import ContainerLaunch.Error
import ContainerLaunch.ExitStatus
import ContainerLaunch.Helper.Child
import ContainerLaunch.Helper.Command
import ContainerLaunch.Helper.Order
import ContainerLaunch.Helper.Result
import ContainerLaunch.Host.Context
import ContainerLaunch.Host.Direction
import ContainerLaunch.Host.Error
import ContainerLaunch.Host.Ip
import ContainerLaunch.Host.Label
import ContainerLaunch.Host.Name
import ContainerLaunch.Host.Permitted
import ContainerLaunch.Host.Punycode
import ContainerLaunch.Image
import ContainerLaunch.Json.Basic
import ContainerLaunch.Json.Display
import ContainerLaunch.Json.Reader
import ContainerLaunch.Launch.Course
import ContainerLaunch.Launch.Launcher
import ContainerLaunch.Launch.Procedure
import ContainerLaunch.Launch.Watch
import ContainerLaunch.Lifecycle.Address
import ContainerLaunch.Lifecycle.Endpoint
import ContainerLaunch.Lifecycle.Feed
import ContainerLaunch.Lifecycle.Notice
import ContainerLaunch.Lifecycle.Payload
import ContainerLaunch.Lifecycle.Reading
import ContainerLaunch.Lifecycle.Url
import ContainerLaunch.Log
import ContainerLaunch.Mount
import ContainerLaunch.Outcome
import ContainerLaunch.Path
import ContainerLaunch.Proofs.Helper.Directories
import ContainerLaunch.Proofs.Helper.Options
import ContainerLaunch.Proofs.Image.Language
import ContainerLaunch.Proofs.Launch.Children
import ContainerLaunch.Proofs.Launch.Custody
import ContainerLaunch.Proofs.Launch.Guard
import ContainerLaunch.Proofs.Launch.Harmless
import ContainerLaunch.Proofs.Launch.Heed
import ContainerLaunch.Proofs.Launch.Orderly
import ContainerLaunch.Proofs.Launch.Readiness
import ContainerLaunch.Proofs.Launch.Removal
import ContainerLaunch.Proofs.Launch.Silence
import ContainerLaunch.Proofs.Launch.Strategy
import ContainerLaunch.Proofs.Launch.Takeover
import ContainerLaunch.Proofs.Launch.Undisturbed
import ContainerLaunch.Proofs.Lifecycle.Instant
import ContainerLaunch.Proofs.Lifecycle.Life
import ContainerLaunch.Proofs.Lifecycle.Naming
import ContainerLaunch.Proofs.Lifecycle.Resumption
import ContainerLaunch.Proofs.Lifecycle.Skipping
import ContainerLaunch.Proofs.Lifecycle.Socket
import ContainerLaunch.Proofs.Script.Calls
import ContainerLaunch.Proofs.Script.Canonical
import ContainerLaunch.Proofs.Script.Delivery
import ContainerLaunch.Proofs.Script.Names
import ContainerLaunch.Proofs.Script.RoundTrip
import ContainerLaunch.Proofs.Settings.Precedence
import ContainerLaunch.Proofs.Settings.Slot
import ContainerLaunch.Rehearsal.Launch
import ContainerLaunch.Rehearsal.Watch
import ContainerLaunch.Request
import ContainerLaunch.Script.Basic
import ContainerLaunch.Script.Delivery
import ContainerLaunch.Settings.Basic
import ContainerLaunch.Settings.Cache
import ContainerLaunch.Settings.Program
import ContainerLaunch.Shell.Quote
import ContainerLaunch.Text.Blank
import ContainerLaunch.Text.Case
import ContainerLaunch.Text.Composition
import ContainerLaunch.Text.Digit
import ContainerLaunch.Text.Lines
import ContainerLaunch.Text.Numeral
import ContainerLaunch.Text.Percent
import ContainerLaunch.Text.Pieces
import ContainerLaunch.Text.Points
import ContainerLaunch.Text.Printable
import ContainerLaunch.Text.Quoted
import ContainerLaunch.Text.Ranges
import ContainerLaunch.Text.Utf8
