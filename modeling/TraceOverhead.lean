import TraceOverhead.Benchmark
import TraceOverhead.Campaign
import TraceOverhead.CommandLine.Generate
import TraceOverhead.CommandLine.Grammar
import TraceOverhead.CommandLine.Measure
import TraceOverhead.Cpu.Hotplug
import TraceOverhead.Cpu.Listing
import TraceOverhead.Dialogue
import TraceOverhead.Dialogue.Course
import TraceOverhead.Error
import TraceOverhead.File.Path
import TraceOverhead.File.Tree
import TraceOverhead.Flatten
import TraceOverhead.Host
import TraceOverhead.Instruments
import TraceOverhead.Json.Basic
import TraceOverhead.Json.Parser
import TraceOverhead.Json.Printer
import TraceOverhead.Json.Record
import TraceOverhead.Json.Token
import TraceOverhead.Kernel
import TraceOverhead.Main
import TraceOverhead.Measurement
import TraceOverhead.Number.Digits
import TraceOverhead.Number.Double
import TraceOverhead.Number.FloatLiteral
import TraceOverhead.Number.FloatText
import TraceOverhead.Number.Shortest
import TraceOverhead.Pass
import TraceOverhead.Platform
import TraceOverhead.Proofs.Campaign.Closing
import TraceOverhead.Proofs.Campaign.FirstCount
import TraceOverhead.Proofs.Campaign.Interrupt
import TraceOverhead.Proofs.Campaign.Law
import TraceOverhead.Proofs.Campaign.Modules
import TraceOverhead.Proofs.Campaign.Numbering
import TraceOverhead.Proofs.Campaign.Passes
import TraceOverhead.Proofs.Campaign.Reading
import TraceOverhead.Proofs.Campaign.Requested
import TraceOverhead.Proofs.Campaign.Requests
import TraceOverhead.Proofs.Campaign.Results
import TraceOverhead.Proofs.Campaign.Rounds
import TraceOverhead.Proofs.Campaign.Run
import TraceOverhead.Proofs.Campaign.Sessions
import TraceOverhead.Proofs.Campaign.Skipping
import TraceOverhead.Proofs.CommandLine.Clearing
import TraceOverhead.Proofs.Cpu.Arranging
import TraceOverhead.Proofs.Cpu.Counting
import TraceOverhead.Proofs.Cpu.Listing
import TraceOverhead.Proofs.Cpu.Machine
import TraceOverhead.Proofs.Cpu.Occupancy
import TraceOverhead.Proofs.Cpu.Refusal
import TraceOverhead.Proofs.Cpu.Restoration
import TraceOverhead.Proofs.Cpu.Setting
import TraceOverhead.Proofs.Cpu.Sparing
import TraceOverhead.Proofs.Cpu.Switching
import TraceOverhead.Proofs.Dialogue.Asks
import TraceOverhead.Proofs.Dialogue.Attempt
import TraceOverhead.Proofs.Dialogue.InTurn
import TraceOverhead.Proofs.Dialogue.Transcript
import TraceOverhead.Proofs.Dialogue.Yields
import TraceOverhead.Proofs.File.Making
import TraceOverhead.Proofs.File.Path
import TraceOverhead.Proofs.File.Tree
import TraceOverhead.Proofs.File.Walk
import TraceOverhead.Proofs.File.Writing
import TraceOverhead.Proofs.Flatten.LastLeaf
import TraceOverhead.Proofs.Flatten.Leaves
import TraceOverhead.Proofs.Flatten.PlainNames
import TraceOverhead.Proofs.Flatten.Separable
import TraceOverhead.Proofs.Host
import TraceOverhead.Proofs.Json.Grammar
import TraceOverhead.Proofs.Json.Lexeme
import TraceOverhead.Proofs.Json.Numbers
import TraceOverhead.Proofs.Json.Ordered
import TraceOverhead.Proofs.Json.Parsing
import TraceOverhead.Proofs.Json.Place
import TraceOverhead.Proofs.Json.Record
import TraceOverhead.Proofs.Json.Scanning
import TraceOverhead.Proofs.Json.Written
import TraceOverhead.Proofs.Kernel.Clearing
import TraceOverhead.Proofs.Kernel.Forgetting
import TraceOverhead.Proofs.Kernel.Modules
import TraceOverhead.Proofs.Kernel.Presence
import TraceOverhead.Proofs.Kernel.Record
import TraceOverhead.Proofs.Measurement.Comparison
import TraceOverhead.Proofs.Measurement.Sums
import TraceOverhead.Proofs.Number.Count
import TraceOverhead.Proofs.Number.Reading
import TraceOverhead.Proofs.Number.Text
import TraceOverhead.Proofs.Pass.Aggregate
import TraceOverhead.Proofs.Pass.Averages
import TraceOverhead.Proofs.Pass.Fields
import TraceOverhead.Proofs.Pass.Numbers
import TraceOverhead.Proofs.Pass.Shape
import TraceOverhead.Proofs.Random.Draws
import TraceOverhead.Proofs.Report.Outputs
import TraceOverhead.Proofs.Report.PlotRefusal
import TraceOverhead.Proofs.Report.Plots
import TraceOverhead.Proofs.Report.Properties
import TraceOverhead.Proofs.Report.Shape
import TraceOverhead.Proofs.Runner.FirstFailure
import TraceOverhead.Proofs.Session.Blocks
import TraceOverhead.Proofs.Session.Creation
import TraceOverhead.Proofs.Session.Daemon
import TraceOverhead.Proofs.Session.Pidfile
import TraceOverhead.Proofs.Session.Service
import TraceOverhead.Proofs.Session.Signalling
import TraceOverhead.Proofs.Session.Workspace
import TraceOverhead.Proofs.Suite.RoundTrip
import TraceOverhead.Proofs.Text.Blank
import TraceOverhead.Proofs.Text.Bytes
import TraceOverhead.Proofs.Text.Source
import TraceOverhead.Proofs.Text.Words
import TraceOverhead.Proofs.Timing.Output
import TraceOverhead.Proofs.Trace.Events
import TraceOverhead.Proofs.Trace.Lines
import TraceOverhead.Proofs.Tracepoint.Consistency
import TraceOverhead.Proofs.Tracepoint.Continuation
import TraceOverhead.Proofs.Tracepoint.Drawing
import TraceOverhead.Proofs.Tracepoint.FieldNames
import TraceOverhead.Proofs.Tracepoint.Files
import TraceOverhead.Proofs.Tracepoint.Sources
import TraceOverhead.Random.ChaCha
import TraceOverhead.Random.Draw
import TraceOverhead.Report
import TraceOverhead.Report.Files
import TraceOverhead.Runner
import TraceOverhead.Session
import TraceOverhead.Session.Client
import TraceOverhead.Session.Config
import TraceOverhead.Session.Daemon
import TraceOverhead.Session.Workspace
import TraceOverhead.Simulation.Machine
import TraceOverhead.Simulation.Script
import TraceOverhead.Simulation.Stand
import TraceOverhead.Suite
import TraceOverhead.Text.Blank
import TraceOverhead.Text.Bytes
import TraceOverhead.Text.DefaultIgnorable
import TraceOverhead.Text.GraphemeExtend
import TraceOverhead.Text.Pieces
import TraceOverhead.Text.Quoted
import TraceOverhead.Text.Unprintable
import TraceOverhead.Timing
import TraceOverhead.Trace
import TraceOverhead.Tracepoint.Basic
import TraceOverhead.Tracepoint.Files
import TraceOverhead.Tracepoint.Random
import TraceOverhead.Tracepoint.Source
