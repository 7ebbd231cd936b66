import Adventure.Bridge.Call
import Adventure.Bridge.Listing
import Adventure.Bridge.Probe
import Adventure.Bridge.Signature
import Adventure.Bridge.Table
import Adventure.Command.Arguments
import Adventure.Command.CallSpec
import Adventure.Command.Job
import Adventure.Command.Report
import Adventure.Command.Response
import Adventure.Command.Run
import Adventure.Decimal.Binary
import Adventure.Decimal.Fixed
import Adventure.Decimal.Layout
import Adventure.Decimal.Numeral
import Adventure.Decimal.Shortest
import Adventure.Dice
import Adventure.Dict
import Adventure.Failure
import Adventure.Function.Basic
import Adventure.Function.Block0
import Adventure.Function.Block1
import Adventure.Function.Block2
import Adventure.Function.Builtin
import Adventure.Function.Change
import Adventure.Function.Deed
import Adventure.Function.Number
import Adventure.Function.Query
import Adventure.Function.Table
import Adventure.Function.Text
import Adventure.Handle
import Adventure.Json.Basic
import Adventure.Json.Fault
import Adventure.Json.Reader
import Adventure.Json.Writer
import Adventure.Literal
import Adventure.Location
import Adventure.Main
import Adventure.Object.Basic
import Adventure.Object.Kind
import Adventure.Object.Loading
import Adventure.Object.Locals
import Adventure.Object.Model
import Adventure.Proofs.Bridge.Admission
import Adventure.Proofs.Bridge.Registration
import Adventure.Proofs.Bridge.Outcome
import Adventure.Queue
import Adventure.Queue.Heap
import Adventure.Record.Basic
import Adventure.Record.Json
import Adventure.Record.Reader
import Adventure.Registry
import Adventure.Resource.Basic
import Adventure.Resource.Directory
import Adventure.Resource.Store
import Adventure.Resource.Talk
import Adventure.Scenario.Answer
import Adventure.Scenario.Making
import Adventure.Scenario.Perform
import Adventure.Scenario.Stage
import Adventure.Scenario.Step
import Adventure.Session.Basic
import Adventure.Session.Scripts
import Adventure.Text.Blank
import Adventure.Text.Casing
import Adventure.Text.Casing.Cased
import Adventure.Text.Casing.Table
import Adventure.Text.Line
import Adventure.Text.Pieces
import Adventure.Text.Quoted
import Adventure.Text.Slice
import Adventure.Text.Unprintable
import Adventure.Value.Basic
import Adventure.Value.Text
import Adventure.Vector
import Adventure.World.Areas
import Adventure.World.Basic
import Adventure.World.Conversation
import Adventure.World.Creation
import Adventure.World.Player
import Adventure.World.Searching
import Adventure.World.Snapshot
import Adventure.Proofs.Dict
import Adventure.Proofs.Registry.TagIndex
import Adventure.Proofs.Registry.TagOrder
import Adventure.Proofs.Registry.History
import Adventure.Proofs.Object.Loading
import Adventure.Proofs.Object.Locals
import Adventure.Proofs.Registry.HandleOrder
import Adventure.Proofs.World.Order
import Adventure.Proofs.World.LinkedOperations
import Adventure.Proofs.World.Step
import Adventure.Proofs.Queue.Order
import Adventure.Proofs.World.Schedule
import Adventure.Proofs.World.Strides
import Adventure.Proofs.Function.Moves
import Adventure.Proofs.Session.Operation
import Adventure.Proofs.Session.Reach
import Adventure.Proofs.Session.Coherence
import Adventure.Proofs.Session.Freshness
import Adventure.Proofs.Session.Batch
import Adventure.Proofs.Session.Lifetime
import Adventure.Proofs.World.Whereabouts
import Adventure.Proofs.Session.Relocation
import Adventure.Proofs.World.Tracking
import Adventure.Proofs.Session.Tracking
import Adventure.Proofs.Session.Unloading
import Adventure.Proofs.Object.Changes
import Adventure.Proofs.Object.Visibility
import Adventure.Proofs.World.Scene
import Adventure.Proofs.World.Shifts
import Adventure.Proofs.World.StepShifts
import Adventure.Proofs.World.Speaking
import Adventure.Proofs.World.Listing
import Adventure.Proofs.Session.Scenes
import Adventure.Proofs.World.Visibility
import Adventure.Proofs.Session.Visibility
import Adventure.Proofs.Session.Entry
import Adventure.Proofs.Function.Parameters
import Adventure.Proofs.Text.Slice
import Adventure.Proofs.Function.Texts
import Adventure.Proofs.Function.Answers
import Adventure.Proofs.Session.Parts
import Adventure.Proofs.Session.Returning
import Adventure.Proofs.Function.Dispatch
import Adventure.Proofs.World.Strays
import Adventure.Proofs.Session.Strays
import Adventure.Proofs.World.Removal
import Adventure.Proofs.Session.Removal
import Adventure.Proofs.Queue.History
import Adventure.Proofs.Queue.Heap
import Adventure.Proofs.Registry.Searching
import Adventure.Proofs.Command.Ticks
import Adventure.Proofs.World.Walks
import Adventure.Proofs.Session.Walks
import Adventure.Proofs.Function.Calls
import Adventure.Proofs.Command.Omission
import Adventure.Proofs.World.Frames
import Adventure.Proofs.World.Jumps
import Adventure.Proofs.World.Locals
import Adventure.Proofs.Function.Effects
import Adventure.Proofs.Session.Transcript
import Adventure.Proofs.Session.Throws
import Adventure.Proofs.World.Gains
import Adventure.Proofs.Session.Arrivals
import Adventure.Proofs.Session.Atomicity
import Adventure.Proofs.Session.Jumps
import Adventure.Proofs.World.Contents
import Adventure.Proofs.Session.Contents
import Adventure.Proofs.Function.Queries
import Adventure.Proofs.Function.Stale
import Adventure.Proofs.Function.Variables
import Adventure.Proofs.Session.Chronicle
import Adventure.Proofs.Session.Locals
import Adventure.Proofs.Record.Reading
import Adventure.Proofs.Object.Properties
import Adventure.Proofs.Object.Precedence
import Adventure.Proofs.Object.Naming
import Adventure.Proofs.World.Finding
import Adventure.Proofs.Function.Finding
import Adventure.Proofs.Session.Finding
import Adventure.Proofs.Decimal.Grammar
import Adventure.Proofs.Function.Readings
import Adventure.Proofs.World.Doors
import Adventure.Proofs.Function.Doors
import Adventure.Proofs.Session.Journal
import Adventure.Proofs.Session.Doors
import Adventure.Proofs.Function.Cuts
import Adventure.Proofs.Dice
import Adventure.Proofs.Function.Dice
import Adventure.Proofs.Number
import Adventure.Proofs.Text.Pieces
import Adventure.Proofs.Command.CallSpec
import Adventure.Proofs.Json.Numbers
import Adventure.Proofs.Json.Texts
import Adventure.Proofs.Json.RoundTrip
import Adventure.Proofs.Record.RoundTrip
import Adventure.Proofs.Resource.Storing
import Adventure.Proofs.Text.ByteOrder
import Adventure.Proofs.Resource.Roles
import Adventure.Proofs.Resource.Folders
import Adventure.Proofs.Resource.Visiting
