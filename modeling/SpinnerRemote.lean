import SpinnerRemote.Binary.Arithmetic
import SpinnerRemote.Binary.Bits
import SpinnerRemote.Decimal.Layout
import SpinnerRemote.Decimal.Numeral
import SpinnerRemote.Text.Utf8
import SpinnerRemote.Text.Blank
import SpinnerRemote.Json.Reader
import SpinnerRemote.Json.Value
import SpinnerRemote.Control.Session
import SpinnerRemote.Link.Machine
import SpinnerRemote.Preferences.Place
import SpinnerRemote.Settings.File
import SpinnerRemote.Station
import SpinnerRemote.Console.Session
import SpinnerRemote.Program
import SpinnerRemote.Startup
import SpinnerRemote.Main
import SpinnerRemote.Proofs.Link.Timers
import SpinnerRemote.Proofs.Link.Lifecycle
import SpinnerRemote.Proofs.Link.Staleness
import SpinnerRemote.Proofs.Link.Teardown
import SpinnerRemote.Proofs.Link.Release
import SpinnerRemote.Proofs.Link.Scanning
import SpinnerRemote.Proofs.Link.Failures
import SpinnerRemote.Proofs.Link.Refusals
import SpinnerRemote.Proofs.Control.Restart
import SpinnerRemote.Proofs.Control.Frames
import SpinnerRemote.Proofs.Console.Schedule
import SpinnerRemote.Proofs.Preferences.Durability
import SpinnerRemote.Proofs.Station.Frames
import SpinnerRemote.Proofs.Station.Waiting
import SpinnerRemote.Proofs.Control.Pacing
import SpinnerRemote.Proofs.Link.Shutdown
import SpinnerRemote.Proofs.Robot.Ending
import SpinnerRemote.Proofs.Station.Reception
import SpinnerRemote.Proofs.Program.Typed
import SpinnerRemote.Proofs.Control.Isolation
import SpinnerRemote.Proofs.Binary.Order
import SpinnerRemote.Proofs.Wire.Radius
import SpinnerRemote.Proofs.Control.Floor
import SpinnerRemote.Proofs.Program.Range
import SpinnerRemote.Proofs.Binary.Bounds
import SpinnerRemote.Proofs.Control.Tilt
import SpinnerRemote.Proofs.Program.Tilts
