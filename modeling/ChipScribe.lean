import ChipScribe.Region
import ChipScribe.LengthCounter
import ChipScribe.Envelope
import ChipScribe.Sweep
import ChipScribe.FrameSequencer
import ChipScribe.Pulse
import ChipScribe.Triangle
import ChipScribe.Noise
import ChipScribe.Dmc
import ChipScribe.Mixer
import ChipScribe.Memory
import ChipScribe.Register
import ChipScribe.Synth
import ChipScribe.Tuning
import ChipScribe.Pitch
import ChipScribe.Midi.Message
import ChipScribe.Midi.Emitter
import ChipScribe.Text.Hex
import ChipScribe.Text.Blank
import ChipScribe.Text.Printable
import ChipScribe.Text.Quoted
import ChipScribe.Text.Numeral
import ChipScribe.Text.Lines
import ChipScribe.Text.Utf8
import ChipScribe.FileError
import ChipScribe.Voice.Basic
import ChipScribe.Voice.Pulse
import ChipScribe.Voice.Triangle
import ChipScribe.Voice.Noise
import ChipScribe.Sample.Fingerprint
import ChipScribe.Sample.Waveform
import ChipScribe.Sample.Library
import ChipScribe.Log
import ChipScribe.Notice
import ChipScribe.Voice.Dmc
import ChipScribe.Scribe
import ChipScribe.Chip
import ChipScribe.Json.Basic
import ChipScribe.Json.Record
import ChipScribe.Json.Number
import ChipScribe.Json.Reader
import ChipScribe.Json.Canonical
import ChipScribe.Json.Pointer
import ChipScribe.Json.Printer
import ChipScribe.Decimal.Shortest
import ChipScribe.Settings
import ChipScribe.Sample.LibraryFile
import ChipScribe.Midi.Notation
import ChipScribe.Snapshot.Units
import ChipScribe.Snapshot.Voice
import ChipScribe.Snapshot.Channels
import ChipScribe.Snapshot
import ChipScribe.Script
import ChipScribe.Midi.Quantity
import ChipScribe.Midi.File
import ChipScribe.Host.Counting
import ChipScribe.Host.Cartridge
import ChipScribe.Resampler
import ChipScribe.Files
import ChipScribe.Disk
import ChipScribe.Player
import ChipScribe.Options
import ChipScribe.Session
import ChipScribe.Main
import ChipScribe.Proofs.Operation
import ChipScribe.Proofs.Separation
import ChipScribe.Proofs.Receiver
import ChipScribe.Proofs.Parts
import ChipScribe.Proofs.Channels
import ChipScribe.Proofs.Bracketing
import ChipScribe.Proofs.Link
import ChipScribe.Proofs.Addressing
import ChipScribe.Proofs.Tracking
import ChipScribe.Proofs.Clamp
import ChipScribe.Proofs.Regions
import ChipScribe.Proofs.InStep
import ChipScribe.Proofs.Range
import ChipScribe.Proofs.RoundTrip
import ChipScribe.Proofs.Checked
import ChipScribe.Proofs.Overflow
import ChipScribe.Proofs.Safety
import ChipScribe.Proofs.Interrupt
import ChipScribe.Proofs.Pacing
import ChipScribe.Proofs.Finite
import ChipScribe.Proofs.Shapes
import ChipScribe.Proofs.Loading
import ChipScribe.Proofs.Deck
import ChipScribe.Proofs.Bench
import ChipScribe.Proofs.SampleNotes
import ChipScribe.Proofs.Handshake
import ChipScribe.Proofs.Fetching
import ChipScribe.Proofs.Playback
import ChipScribe.Proofs.Restoring
import ChipScribe.Proofs.Timetable
import ChipScribe.Proofs.Redundancy
import ChipScribe.Proofs.FileReader
import ChipScribe.Proofs.Recording
import ChipScribe.Proofs.PowerCycle
import ChipScribe.Proofs.HeldBack
import ChipScribe.Proofs.Hosts
import ChipScribe.Proofs.Idle
import ChipScribe.Proofs.Messages
import ChipScribe.Proofs.Forecast
import ChipScribe.Proofs.SwitchedOff
import ChipScribe.Proofs.Quiescence
import ChipScribe.Proofs.Hysteresis
import ChipScribe.Proofs.HalfWritten
import ChipScribe.Proofs.Drums
import ChipScribe.Proofs.Lookups
import ChipScribe.Proofs.Exact
import ChipScribe.Proofs.Oscillation
import ChipScribe.Proofs.Wavelength
import ChipScribe.Proofs.Divider
import ChipScribe.Proofs.Decay
import ChipScribe.Proofs.Sweeping
import ChipScribe.Proofs.ShiftRegister
import ChipScribe.Proofs.Hiss
import ChipScribe.Proofs.Commuting
import ChipScribe.Proofs.Quantities
import ChipScribe.Proofs.Numerals
import ChipScribe.Proofs.Records
import ChipScribe.Proofs.Scripts
import ChipScribe.Proofs.Deeds
import ChipScribe.Proofs.Replay
import ChipScribe.Proofs.Libraries
