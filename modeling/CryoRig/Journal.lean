import CryoRig.Duration
import CryoRig.Fault
import CryoRig.Quantity

/-!
# The journal

What the rig reports about itself. An event is data; its level, its message and its named values
are functions of it.

## Main definitions

* `CryoRig.Level`, `CryoRig.Value`: how important an event is, and the values it names.
* `CryoRig.Event`: what is reported.
* `CryoRig.Event.level`, `CryoRig.Event.message`, `CryoRig.Event.fields`: how it is shown.
-/

namespace CryoRig

/-- How important an event is. -/
inductive Level where
  | info
  | warn
  | error
  deriving DecidableEq, Repr

/-- The name of a level. -/
def Level.name : Level → String
  | info => "INFO"
  | warn => "WARN"
  | error => "ERROR"

/-- A named value of an event. -/
inductive Value where
  | text (value : String)
  | number (value : Float)
  | count (value : Nat)
  | flag (value : Bool)

/-- A value as text. -/
def Value.render : Value → String
  | text value => value
  | number value => Number.plain value
  | count value => toString value
  | flag value => toString value

/-- What a gate source can put out. -/
inductive SourceFunction where
  | voltage
  | current
  deriving DecidableEq, Repr

/-- The name of a function. -/
def SourceFunction.name : SourceFunction → String
  | voltage => "Voltage"
  | current => "Current"

/-- What is reported. -/
inductive Event where
  -- scripts
  | rule
  | scriptLine (text : String)
  | processing (line : Nat) (operation : String) (arguments : List String)
  | programAborted (line : Nat) (fault : Fault)
  | programInterrupted
  | programComplete
  | sweepEstimate (parameter : Parameter) (steps : Nat) (seconds : Float)
  | fieldRamp (start target rate seconds : Float)
  | temperatureRamp (start target rate seconds : Float)
  | waiting (seconds : Float)
  | waitingForField
  | waitingForTemperature
  | waitingForAcquisition
  | startSkipped (fault : StateFault)
  | cannotStop (line : Nat) (fault : StateFault)
  | experimentStarted
  | excitationChanged (direction : Direction) (excitation : Nat)
  | excitationAtLimit (direction : Direction)
  | rangeChanged (channel : Nat) (direction : Direction) (range : Nat)
  | rangeAtLimit (channel : Nat) (direction : Direction)
  -- acquisitions
  | startingAcquisition (name : String) (mode : Mode)
  | fileCreated
  | acquisitionFinished (name : String)
  | acquisitionStopped (name : String)
  | acquisitionOverran (limit : Duration)
  | cannotObtainPoint (fault : DeviceFault)
  | cannotWriteSample (fault : Fault)
  | cannotWriteAggregate (fault : Fault)
  | lockinStatus (index : Nat) (status : LockinStatus)
  | outputOverload (index : Nat) (autorange : Bool)
  | sensitivityIncreased (index : Nat) (range : Nat)
  | sensitivityAtTop (index : Nat)
  | stepClosed (parameter : Parameter) (value : Float)
  | stepEntered (parameter : Parameter) (value : Float)
  | stepFailed (parameter : Parameter) (value : Float) (fault : DeviceFault)
  | sweepFinished (ticks : Nat)
  | differentialInterrupted
  | differentialExported (zeroVoltage : Float) (points : Nat)
  | cannotReadSweepStatus (fault : DeviceFault)
  | cannotExport (fault : DeviceFault)
  | cannotAbort (fault : DeviceFault)
  -- instruments
  | instrumentAttached (id endpoint : String)
  | gateMissing
  | gateInWrongMode (id : String) (wanted : SourceFunction) (actual : Option SourceFunction)
  | offsetExpandOn (id : String) (offset : Float) (expand : Expand)
  | offsetExpandOff (id : String)
  | unknownScannerChannel (channel : Nat)
  -- sessions
  | sessionOpened (site sample : String)
  | estimate (seconds : Float)
  | finishUnknown
  | programStarted
  | stoppingProgram
  | programOverran
  | waitingForAcquisitionStop (limit : Duration)
  | sessionStopped
  -- the command line
  | applicationStarted (config : String)
  | programFailed (fault : Fault)
  | acquisitionKeepsRunning
  | applicationFinished

namespace Event

/-- How important an event is. -/
def level : Event → Level
  | programAborted .. | startSkipped .. | cannotStop .. | acquisitionOverran .. | cannotObtainPoint ..
  | cannotWriteSample .. | cannotWriteAggregate .. | stepFailed .. | cannotReadSweepStatus ..
  | cannotExport .. | cannotAbort .. | programOverran | programFailed .. => .error
  | programInterrupted | excitationAtLimit .. | rangeAtLimit .. | lockinStatus ..
  | sensitivityAtTop .. | differentialInterrupted | gateMissing | gateInWrongMode ..
  | unknownScannerChannel .. => .warn
  | _ => .info

/-- The message of an event. -/
def message : Event → String
  | rule => "*************************"
  | scriptLine text => text
  | processing line operation arguments =>
    Number.padded 2 line ++ ": Processing command " ++ operation ++ "(" ++
      ",".intercalate arguments ++ ")"
  | programAborted .. => "Program aborted"
  | programInterrupted => "Program interrupted"
  | programComplete => "Program complete"
  | sweepEstimate .. => "Stepped sweep estimate"
  | fieldRamp .. => "Field ramp"
  | temperatureRamp .. => "Temperature ramp"
  | waiting seconds => "Waiting for " ++ Number.plain seconds ++ " seconds"
  | waitingForField => "Waiting for the field to settle"
  | waitingForTemperature => "Waiting for the temperature to settle"
  | waitingForAcquisition => "Waiting for the acquisition to finish"
  | startSkipped .. => "Start skipped"
  | cannotStop .. => "Cannot stop"
  | experimentStarted => "Experiment started"
  | excitationChanged .. => "Excitation changed"
  | excitationAtLimit .. => "Excitation already at its limit"
  | rangeChanged .. => "Resistance range changed"
  | rangeAtLimit .. => "Resistance range already at its limit"
  | startingAcquisition .. => "Starting acquisition"
  | fileCreated => "Data file created"
  | acquisitionFinished .. => "Acquisition finished"
  | acquisitionStopped .. => "Acquisition stopped"
  | acquisitionOverran .. => "Acquisition did not stop in time"
  | cannotObtainPoint .. => "Cannot obtain point"
  | cannotWriteSample .. => "Cannot write sample"
  | cannotWriteAggregate .. => "Cannot write aggregate"
  | lockinStatus .. => "Lock-in status"
  | outputOverload .. => "Output overload on consecutive checks"
  | sensitivityIncreased .. => "Sensitivity range increased"
  | sensitivityAtTop .. => "Already at the top sensitivity range"
  | stepClosed .. => "Step closed"
  | stepEntered .. => "Step entered"
  | stepFailed .. => "Cannot set step value"
  | sweepFinished .. => "Sweep finished"
  | differentialInterrupted => "Differential sweep interrupted"
  | differentialExported .. => "Differential sweep exported"
  | cannotReadSweepStatus .. => "Cannot read sweep status"
  | cannotExport .. => "Cannot export differential sweep"
  | cannotAbort .. => "Cannot abort differential sweep"
  | instrumentAttached .. => "Instrument attached"
  | gateMissing => "Gate source not configured"
  | gateInWrongMode .. => "Gate source is in the wrong mode, level not changed"
  | offsetExpandOn .. => "Offset and expand on"
  | offsetExpandOff .. => "Offset and expand off"
  | unknownScannerChannel .. => "Unknown scanner channel"
  | sessionOpened .. => "Session opened"
  | estimate seconds =>
    "Estimated time is " ++ Number.fixed 2 (seconds / 3600) ++ " hours (" ++
      Number.fixed 1 (seconds / 60) ++ " minutes)"
  | finishUnknown => "Program would finish at an unknown time"
  | programStarted => "Program started"
  | stoppingProgram => "Stopping program"
  | programOverran => "Error stopping program"
  | waitingForAcquisitionStop .. => "Waiting for the acquisition to stop"
  | sessionStopped => "Session stopped"
  | applicationStarted .. => "Application started"
  | programFailed .. => "Program failed"
  | acquisitionKeepsRunning =>
    "Program finished, acquisition keeps running. Press Ctrl+C to stop"
  | applicationFinished => "Application finished"

/-- The text of an optional function of a gate source. -/
def optionalFunction : Option SourceFunction → String
  | none => "None"
  | some f => "Some(" ++ f.name ++ ")"

/-- The named values of an event. -/
def fields : Event → List (String × Value)
  | programAborted line fault => [("line", .count line), ("error", .text fault.message)]
  | sweepEstimate parameter steps seconds =>
    [("parameter", .text parameter.name), ("steps", .count steps),
      ("minutes", .number (seconds / 60))]
  | fieldRamp start target rate seconds | temperatureRamp start target rate seconds =>
    [("from", .number start), ("to", .number target), ("rate", .number rate),
      ("delay", .text (hms seconds))]
  | startSkipped fault => [("error", .text (Fault.state fault).message)]
  | cannotStop line fault =>
    [("line", .count line), ("error", .text (Fault.state fault).message)]
  | excitationChanged direction excitation =>
    [("direction", .text direction.name), ("excitation", .count excitation)]
  | excitationAtLimit direction => [("direction", .text direction.name)]
  | rangeChanged channel direction range =>
    [("channel", .count channel), ("direction", .text direction.name), ("range", .count range)]
  | rangeAtLimit channel direction =>
    [("channel", .count channel), ("direction", .text direction.name)]
  | startingAcquisition name mode => [("name", .text name), ("mode", .text mode.name)]
  | acquisitionFinished name | acquisitionStopped name => [("name", .text name)]
  | acquisitionOverran limit | waitingForAcquisitionStop limit =>
    [("timeout_secs", .number limit.seconds)]
  | cannotObtainPoint fault | cannotReadSweepStatus fault | cannotExport fault
  | cannotAbort fault => [("error", .text fault.message)]
  | cannotWriteSample fault | cannotWriteAggregate fault | programFailed fault =>
    [("error", .text fault.message)]
  | lockinStatus index status =>
    [("lockin", .text (lockinLabel index)), ("status", .text status.text)]
  | outputOverload index autorange =>
    [("lockin", .text (lockinLabel index)), ("autorange", .flag autorange)]
  | sensitivityIncreased index range =>
    [("lockin", .text (lockinLabel index)), ("range", .count range)]
  | sensitivityAtTop index => [("lockin", .text (lockinLabel index))]
  | stepClosed parameter value | stepEntered parameter value =>
    [("parameter", .text parameter.name), ("value", .number value)]
  | stepFailed parameter value fault =>
    [("parameter", .text parameter.name), ("value", .number value), ("error", .text fault.message)]
  | sweepFinished ticks => [("ticks", .count ticks)]
  | differentialExported zeroVoltage points =>
    [("zero_voltage", .number zeroVoltage), ("points", .count points)]
  | instrumentAttached id endpoint => [("instrument", .text id), ("endpoint", .text endpoint)]
  | gateInWrongMode id wanted actual =>
    [("instrument", .text id), ("wanted", .text wanted.name),
      ("actual", .text (optionalFunction actual))]
  | offsetExpandOn id offset expand =>
    [("lockin", .text id), ("offset", .number offset), ("expand", .text expand.name)]
  | offsetExpandOff id => [("lockin", .text id)]
  | unknownScannerChannel channel => [("channel", .count channel)]
  | sessionOpened site sample => [("facility", .text site), ("sample", .text sample)]
  | applicationStarted config => [("config", .text config)]
  | _ => []

end Event

end CryoRig
