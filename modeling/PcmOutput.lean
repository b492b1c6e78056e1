import PcmOutput.Capability
import PcmOutput.ChannelMap.Basic
import PcmOutput.ChannelMap.Layouts
import PcmOutput.ChannelMap.Notation
import PcmOutput.ChannelMap.Selection
import PcmOutput.Deadline
import PcmOutput.Decimal.Binary64
import PcmOutput.Decimal.Reader
import PcmOutput.Decimal.Shortest
import PcmOutput.Decimal.Single
import PcmOutput.Device
import PcmOutput.DeviceCode
import PcmOutput.Driver.Basic
import PcmOutput.Driver.Callback
import PcmOutput.Driver.Lifecycle
import PcmOutput.Error
import PcmOutput.FormatChoice
import PcmOutput.Frequency
import PcmOutput.Journal
import PcmOutput.Library
import PcmOutput.Mailbox
import PcmOutput.Main
import PcmOutput.Negotiation
import PcmOutput.Options.Basic
import PcmOutput.Options.Environment
import PcmOutput.Options.Profile
import PcmOutput.Options.Setting
import PcmOutput.Output.Basic
import PcmOutput.Output.Callback
import PcmOutput.Output.Confirmation
import PcmOutput.Output.Lifecycle
import PcmOutput.Player.Arguments
import PcmOutput.Player.Performance
import PcmOutput.Player.Program
import PcmOutput.SampleFormat
import PcmOutput.Simulation.Device
import PcmOutput.Simulation.Log
import PcmOutput.Simulation.Recorder
import PcmOutput.Simulation.Rehearsal
import PcmOutput.Simulation.Source
import PcmOutput.Simulation.Tour
import PcmOutput.Source
import PcmOutput.Speaker
import PcmOutput.StreamFormat
import PcmOutput.Text.Blank
import PcmOutput.Text.Fields
import PcmOutput.Text.Numeral
import PcmOutput.Text.Quoted
import PcmOutput.Text.Terminal
import PcmOutput.Text.Unprintable
import PcmOutput.Toml.Canonical
import PcmOutput.Toml.Document
import PcmOutput.Toml.Lexeme
import PcmOutput.Toml.Printer
import PcmOutput.Toml.Reader
import PcmOutput.Toml.Scalar
import PcmOutput.Toml.Tree
import PcmOutput.Toml.Value
import PcmOutput.Tone
import PcmOutput.Transition
import PcmOutput.Proofs.Ends
import PcmOutput.Proofs.Watched
import PcmOutput.Proofs.Agreement
import PcmOutput.Proofs.Course.Transit
import PcmOutput.Proofs.Course.Opening
import PcmOutput.Proofs.Course.Session
import PcmOutput.Proofs.Course.Playback
import PcmOutput.Proofs.Course.Callback
import PcmOutput.Proofs.Run
import PcmOutput.Proofs.Handles.Discipline
import PcmOutput.Proofs.Handles.Run
import PcmOutput.Proofs.State.Motion
import PcmOutput.Proofs.State.Belief
import PcmOutput.Proofs.State.Eager
import PcmOutput.Proofs.Kinship.Matched
import PcmOutput.Proofs.Kinship.Outputs
import PcmOutput.Proofs.Kinship.Operations
import PcmOutput.Proofs.Kinship.Steps
import PcmOutput.Proofs.Kinship.Overlay
import PcmOutput.Proofs.Driver.Paired
import PcmOutput.Proofs.Driver.Lifecycle
import PcmOutput.Proofs.Driver.Callback
import PcmOutput.Proofs.Driver.Run
import PcmOutput.Proofs.Driver.Custody
import PcmOutput.Proofs.Kinship.Acts
import PcmOutput.Proofs.Transparency
import PcmOutput.Proofs.Driver.Renewal
import PcmOutput.Proofs.Driver.Constancy
import PcmOutput.Proofs.Driver.Channels
import PcmOutput.Proofs.Driver.Parts
import PcmOutput.Proofs.Driver.Failure
import PcmOutput.Proofs.Driver.Mail
import PcmOutput.Proofs.Layouts.Closest
import PcmOutput.Proofs.Layouts.Masks
import PcmOutput.Proofs.Layouts.Negotiation
import PcmOutput.Proofs.Library.Loading
import PcmOutput.Proofs.Saturation
import PcmOutput.Proofs.Driver.Deadline
import PcmOutput.Proofs.Layouts.ReadBack
import PcmOutput.Proofs.Text.Literals
import PcmOutput.Proofs.Tone.Sound
import PcmOutput.Proofs.Options.Entries
import PcmOutput.Proofs.Options.Bounds
import PcmOutput.Proofs.Options.Tables
import PcmOutput.Proofs.Options.Layers
import PcmOutput.Proofs.Layouts.Selection
import PcmOutput.Proofs.Course.Waits
import PcmOutput.Proofs.Layouts.Reading
import PcmOutput.Proofs.Player.Conduct
import PcmOutput.Proofs.Player.Turns
import PcmOutput.Proofs.Player.Care
import PcmOutput.Proofs.Player.Hearing
import PcmOutput.Proofs.Player.Seamless
import PcmOutput.Proofs.Options.Refusals
import PcmOutput.Proofs.Lateness
import PcmOutput.Proofs.Layouts.Sameness
import PcmOutput.Proofs.Tone.Ending
