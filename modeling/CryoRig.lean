import CryoRig.CommandLine.Arguments
import CryoRig.CommandLine.Failure
import CryoRig.CommandLine.LogLine
import CryoRig.CommandLine.Outcome
import CryoRig.Control.Job
import CryoRig.Control.Program
import CryoRig.Control.Report
import CryoRig.Control.Sampling
import CryoRig.Control.Session
import CryoRig.Control.Work
import CryoRig.Duration
import CryoRig.Fault
import CryoRig.Files
import CryoRig.Instrument.Bridge
import CryoRig.Instrument.Bus
import CryoRig.Instrument.ControlProgram
import CryoRig.Instrument.CurrentSource
import CryoRig.Instrument.Fault
import CryoRig.Instrument.Gate
import CryoRig.Instrument.Lockin
import CryoRig.Instrument.Magnet
import CryoRig.Instrument.Meters
import CryoRig.Journal
import CryoRig.Main
import CryoRig.Number.Binary64
import CryoRig.Number.Print
import CryoRig.Number.Read
import CryoRig.Number.Shortest
import CryoRig.Process
import CryoRig.Proofs.BetweenWaits
import CryoRig.Proofs.BridgeSteps
import CryoRig.Proofs.BridgeTexts
import CryoRig.Proofs.BusBlocks
import CryoRig.Proofs.BusLine
import CryoRig.Proofs.BusRules
import CryoRig.Proofs.BusTasks
import CryoRig.Proofs.Carried
import CryoRig.Proofs.CheckEffects
import CryoRig.Proofs.CollectedResults
import CryoRig.Proofs.CommandLanguage
import CryoRig.Proofs.Company
import CryoRig.Proofs.CountedReplies
import CryoRig.Proofs.DataFiles
import CryoRig.Proofs.Disciplines
import CryoRig.Proofs.DoubleArithmetic
import CryoRig.Proofs.DoubleRange
import CryoRig.Proofs.DryRuns
import CryoRig.Proofs.EncodedText
import CryoRig.Proofs.ErrandCalls
import CryoRig.Proofs.ExcitationSteps
import CryoRig.Proofs.FramedReplies
import CryoRig.Proofs.Happenings
import CryoRig.Proofs.InstrumentFaults
import CryoRig.Proofs.JobEndings
import CryoRig.Proofs.JobTurns
import CryoRig.Proofs.LatestSettings
import CryoRig.Proofs.LineReplies
import CryoRig.Proofs.LockinCommands
import CryoRig.Proofs.LockinLimits
import CryoRig.Proofs.NumberTexts
import CryoRig.Proofs.OneAcquisition
import CryoRig.Proofs.OneProgram
import CryoRig.Proofs.Operations
import CryoRig.Proofs.OrdersInLine
import CryoRig.Proofs.OverloadRuns
import CryoRig.Proofs.Paths
import CryoRig.Proofs.ProgramErrands
import CryoRig.Proofs.ProgramStates
import CryoRig.Proofs.ProgramTurns
import CryoRig.Proofs.PublishedState
import CryoRig.Proofs.PunctualJobs
import CryoRig.Proofs.PunctualWaits
import CryoRig.Proofs.RangeEnds
import CryoRig.Proofs.ReadArguments
import CryoRig.Proofs.ReadQuantities
import CryoRig.Proofs.ReadingWidth
import CryoRig.Proofs.RefrigeratorColumns
import CryoRig.Proofs.Rehearsal
import CryoRig.Proofs.RelaidRuns
import CryoRig.Proofs.Reliance
import CryoRig.Proofs.ReplyFields
import CryoRig.Proofs.Requests
import CryoRig.Proofs.RoundedMantissas
import CryoRig.Proofs.Rounding
import CryoRig.Proofs.RowsKept
import CryoRig.Proofs.RunCancelled
import CryoRig.Proofs.RunOrders
import CryoRig.Proofs.SampleStack
import CryoRig.Proofs.SamplingTurns
import CryoRig.Proofs.ScannedRows
import CryoRig.Proofs.ScannerReadings
import CryoRig.Proofs.ScannerVisits
import CryoRig.Proofs.ScriptLayout
import CryoRig.Proofs.SensibleSettings
import CryoRig.Proofs.SettledWaits
import CryoRig.Proofs.Siblings
import CryoRig.Proofs.StartedJobs
import CryoRig.Proofs.StepBlocks
import CryoRig.Proofs.StepCommands
import CryoRig.Proofs.StepEntries
import CryoRig.Proofs.StepFiles
import CryoRig.Proofs.StepLabels
import CryoRig.Proofs.StepOrder
import CryoRig.Proofs.StopBoard
import CryoRig.Proofs.StopCalls
import CryoRig.Proofs.StopCourse
import CryoRig.Proofs.StopRig
import CryoRig.Proofs.StopRules
import CryoRig.Proofs.StopScenes
import CryoRig.Proofs.StopTurns
import CryoRig.Proofs.StoppedTicks
import CryoRig.Proofs.SupervisedSweeps
import CryoRig.Proofs.SweepAborted
import CryoRig.Proofs.SweepDurations
import CryoRig.Proofs.SweepFiles
import CryoRig.Proofs.SweepRange
import CryoRig.Proofs.TableText
import CryoRig.Proofs.ThermometersInTurn
import CryoRig.Proofs.TickRecords
import CryoRig.Proofs.TickReports
import CryoRig.Proofs.TrimmedText
import CryoRig.Proofs.UsableQuantities
import CryoRig.Proofs.WholeTicks
import CryoRig.Proofs.WiredCommands
import CryoRig.Proofs.WiredInstruments
import CryoRig.Proofs.Writers
import CryoRig.Proofs.ZigzagPasses
import CryoRig.Quantity
import CryoRig.Rig.Answer
import CryoRig.Rig.Schedule
import CryoRig.Rig.Setup
import CryoRig.Rig.State
import CryoRig.Sampling.Overload
import CryoRig.Sampling.Paths
import CryoRig.Sampling.Protocol
import CryoRig.Sampling.Series
import CryoRig.Sampling.Sweep
import CryoRig.Sampling.Table
import CryoRig.Sampling.TickLoop
import CryoRig.Script.Command
import CryoRig.Script.Complaint
import CryoRig.Script.Listing
import CryoRig.Script.Plan
import CryoRig.Script.State
import CryoRig.Script.Targets
import CryoRig.Settings.Load
import CryoRig.Settings.LogLevel
import CryoRig.Settings.Logging
import CryoRig.Settings.Node
import CryoRig.Settings.Problem
import CryoRig.Settings.Rig
import CryoRig.Settings.Shape
import CryoRig.Settings.Toml.Document
import CryoRig.Settings.Toml.Quoted
import CryoRig.Settings.Toml.Scalar
import CryoRig.Settings.Toml.Table
import CryoRig.Settings.Validity
import CryoRig.Settings.Variables
import CryoRig.Simulated.Bridge
import CryoRig.Simulated.ControlProgram
import CryoRig.Simulated.CurrentSource
import CryoRig.Simulated.Gate
import CryoRig.Simulated.Handler
import CryoRig.Simulated.Lockin
import CryoRig.Simulated.Magnet
import CryoRig.Simulated.Meters
import CryoRig.Simulated.Model
import CryoRig.Site.Action
import CryoRig.Site.Bench
import CryoRig.Site.CryogenFree
import CryoRig.Site.Insert
import CryoRig.Site.Lockins
import CryoRig.Site.Refrigerator
import CryoRig.Text.Blank
import CryoRig.Text.Fields
import CryoRig.Text.Quoted
import CryoRig.Text.Scan
import CryoRig.Text.Uppercase
import CryoRig.Text.Utf8
import CryoRig.Transport.Attachment
import CryoRig.Transport.Endpoint
import CryoRig.Transport.Stream
