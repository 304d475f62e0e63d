import CryoRig.Settings.Shape
import CryoRig.Simulated.Model
import CryoRig.Site.Insert
import CryoRig.Site.Refrigerator

/-!
# The settings of a rig

What a rig is made of and how it is run: the site with the instruments it is wired to, how each
instrument is reached, and the tuning of acquisitions and programs.

## Main definitions

* `CryoRig.Settings.Rig`: all settings, with the parts they are made of.
* `CryoRig.Settings.Rig.shape`: how they are read from a tree, with every default.
* `CryoRig.Settings.Rig.toNode`: the tree they are written as.
* `CryoRig.Settings.Rig.enabled`, `CryoRig.Settings.Facility.references`: the instruments that are
  there, and those that the site talks to.
-/

namespace CryoRig.Settings

open Site

/-! ## Parts -/

/-- The program and its log. -/
structure Application where
  /-- The name of the rig. -/
  name : String
  /-- The least important level that is logged. -/
  logLevel : String
  /-- How log lines look. -/
  logFormat : String
  deriving DecidableEq, Repr

/-- What data files are named after and where they go. -/
structure Labels where
  /-- The sample. -/
  sample : String
  /-- The directory of all data files. -/
  dataDir : String
  deriving DecidableEq, Repr

/-- The tuning of acquisitions. -/
structure Acquisitions where
  /-- The pause after each tick, in milliseconds. -/
  tickMillis : Nat
  /-- Lock-ins are checked on every tick whose number is a multiple of this. -/
  statusCheckEvery : Nat
  /-- How many checks in a row have to find an overload. -/
  overloadThreshold : Nat
  /-- How long an acquisition may take to stop, in seconds. -/
  stopSeconds : Nat
  /-- The rate of field steps, in tesla per minute. -/
  fieldStepRate : Float
  /-- Whether ranges are raised on overload. -/
  autorange : Bool

/-- The tuning of programs. -/
structure Programs where
  /-- How often it is looked whether something has settled, in seconds. -/
  pollSeconds : Nat
  /-- How long a program may take to stop, in seconds. -/
  stopSeconds : Nat
  deriving DecidableEq, Repr

/-- The site with its wiring. -/
inductive Facility where
  | refrigerator (wiring : RefrigeratorWiring)
  | cryogenFree (wiring : CryogenFreeWiring)
  | insert (wiring : InsertWiring)
  deriving DecidableEq, Repr

/-- The parity of a serial line. -/
inductive Parity where
  | none
  | even
  | odd
  deriving DecidableEq, Repr

/-- How an instrument is reached. Time limits are in milliseconds. -/
inductive Connection where
  /-- A serial line. -/
  | serial (port : String) (baudRate : Nat) (parity : Parity) (terminator : String) (limit : Nat)
  /-- A connection on which lines go back and forth. -/
  | tcp (address terminator : String) (limit : Nat)
  /-- A new connection for each request, with replies of stated length. -/
  | mss (address : String) (limit : Nat)
  /-- A resource of an instrument library. -/
  | visa (resource terminator : String) (limit : Nat)
  /-- A simulated instrument. -/
  | simulated (model : Simulated.Model)
  deriving DecidableEq, Repr

/-- An instrument. -/
structure Instrument where
  /-- Its name on the bus. -/
  id : String
  /-- Whether it is used. -/
  enabled : Bool
  /-- How it is reached. -/
  connection : Connection
  deriving DecidableEq, Repr

/-- All settings. -/
structure Rig where
  /-- The program and its log. -/
  application : Application
  /-- What data files are named after. -/
  labels : Labels
  /-- The tuning of acquisitions. -/
  acquisitions : Acquisitions
  /-- The tuning of programs. -/
  programs : Programs
  /-- The site. -/
  facility : Facility
  /-- The instruments. -/
  instruments : List Instrument

/-! ## Shapes -/

/-- How the part on the program is read. -/
def Application.shape : Shape Application :=
  Application.mk <$> .required "name" text <*> .required "log_level" text <*>
    .optional "log_format" text "pretty"

/-- How the part on data files is read. -/
def Labels.shape : Shape Labels :=
  Labels.mk <$> .required "sample" text <*> .required "data_dir" (textAs "path string")

/-- What holds if the part on data files is missing. -/
def Labels.default : Labels := ⟨"sample", "data"⟩

/-- How the tuning of acquisitions is read. -/
def Acquisitions.shape : Shape Acquisitions :=
  Acquisitions.mk <$> .optional "tick_interval_ms" huge 1000 <*>
    .optional "status_check_every" huge 100 <*> .optional "overload_threshold" long 3 <*>
    .optional "stop_timeout_secs" huge 10 <*> .optional "field_step_rate" number 0.01 <*>
    .optional "autorange" flag true

/-- What holds if the tuning of acquisitions is missing. -/
def Acquisitions.default : Acquisitions := ⟨1000, 100, 3, 10, 0.01, true⟩

/-- How the tuning of programs is read. -/
def Programs.shape : Shape Programs :=
  Programs.mk <$> .optional "wait_poll_secs" huge 5 <*>
    .optional "program_stop_timeout_secs" huge 5

/-- What holds if the tuning of programs is missing. -/
def Programs.default : Programs := ⟨5, 5⟩

/-- An instrument that a site may be wired to. -/
def wire (key : String) : Shape (Option String) := .optional key (maybe text) none

/-- The lock-ins that a site is wired to. -/
def lockinWires : Shape (List String) := .optional "lockins" (sequence text) []

/-- The cases of a site. -/
def Facility.cases : List (Case Facility) :=
  [⟨RefrigeratorWiring.siteName, "struct BlueforsConfig", .refrigerator <$>
      (RefrigeratorWiring.mk <$> lockinWires <*> wire "magnet" <*> .required "bridge" text <*>
        wire "gate" <*> wire "resistance_meter" <*> wire "current_source" <*>
        .optional "measure_hall" flag false <*> .optional "pt_flange" flag false <*>
        .optional "first_lockin_measures_current" flag false)⟩,
    ⟨CryogenFreeWiring.siteName, "struct CfmsConfig", .cryogenFree <$>
      (CryogenFreeWiring.mk <$> lockinWires <*> .required "mss" text <*> wire "gate")⟩,
    ⟨InsertWiring.siteName, "struct StudentInsertConfig", .insert <$>
      (InsertWiring.mk <$> .required "multimeter" text <*>
        .required "temperature_controller" text <*> .required "lockin" text)⟩]

/-- How a site is read. -/
def Facility.reader : Reader Facility := choice "kind" "FacilityConfig" Facility.cases

/-- The names of parities. -/
def Parity.names : List (String × Parity) := [("none", .none), ("even", .even), ("odd", .odd)]

/-- The names of simulated instruments. -/
def modelNames : List (String × Simulated.Model) := Simulated.Model.all.map fun m => (m.name, m)

/-- The time limit of a connection. -/
def limit : Shape Nat := .optional "timeout_ms" huge 2000

/-- What a case of a connection is called. -/
def connectionTitle (name : String) : String := "struct variant TransportConfig::" ++ name

/-- The cases of a connection. -/
def Connection.cases : List (Case Connection) :=
  [⟨"serial", connectionTitle "Serial",
      .serial <$> .required "port" text <*> .optional "baud_rate" long 9600 <*>
        .optional "parity" (name Parity.names) .none <*> .optional "terminator" text "\n" <*>
        limit⟩,
    ⟨"tcp", connectionTitle "Tcp",
      .tcp <$> .required "address" text <*> .optional "terminator" text "\r\n" <*> limit⟩,
    ⟨"mss", connectionTitle "Mss", .mss <$> .required "address" text <*> limit⟩,
    ⟨"visa", connectionTitle "Visa",
      .visa <$> .required "resource" text <*> .optional "terminator" text "\n" <*> limit⟩,
    ⟨"simulated", connectionTitle "Simulated", .simulated <$> .required "model" (name modelNames)⟩]

/-- How a connection is read. -/
def Connection.reader : Reader Connection := choice "kind" "TransportConfig" Connection.cases

/-- How an instrument is read. -/
def Instrument.shape : Shape Instrument :=
  Instrument.mk <$> .required "id" text <*> .optional "enabled" flag true <*>
    .required "transport" Connection.reader

/-- How all settings are read. -/
def Rig.shape : Shape Rig :=
  Rig.mk <$> .required "application" (Application.shape.read "ApplicationConfig") <*>
    .optional "session" (Labels.shape.read "SessionConfig") .default <*>
    .optional "acquisition" (Acquisitions.shape.read "AcquisitionConfig") .default <*>
    .optional "interpreter" (Programs.shape.read "InterpreterConfig") .default <*>
    .required "facility" Facility.reader <*>
    .optional "instruments" (sequence (Instrument.shape.read "InstrumentDefinition")) []

/-- All settings, read from a tree. -/
def Rig.ofNode : Reader Rig := Rig.shape.read "RigConfig"

/-! ## Trees -/

/-- A text that may be missing. -/
def textOrAbsent : Option String → Node
  | some value => .text value
  | none => .absent

/-- A list of texts. -/
def textNodes (values : List String) : Node := .sequence (values.map .text)

/-- The tree of the part on the program. -/
def Application.toNode (a : Application) : Node :=
  .ofEntries [("name", .text a.name), ("log_level", .text a.logLevel),
    ("log_format", .text a.logFormat)]

/-- The tree of the part on data files. -/
def Labels.toNode (l : Labels) : Node :=
  .ofEntries [("sample", .text l.sample), ("data_dir", .text l.dataDir)]

/-- The tree of the tuning of acquisitions. -/
def Acquisitions.toNode (a : Acquisitions) : Node :=
  .ofEntries [("tick_interval_ms", .unsigned a.tickMillis),
    ("status_check_every", .unsigned a.statusCheckEvery),
    ("overload_threshold", .unsigned a.overloadThreshold),
    ("stop_timeout_secs", .unsigned a.stopSeconds), ("field_step_rate", .float a.fieldStepRate),
    ("autorange", .flag a.autorange)]

/-- The tree of the tuning of programs. -/
def Programs.toNode (p : Programs) : Node :=
  .ofEntries [("wait_poll_secs", .unsigned p.pollSeconds),
    ("program_stop_timeout_secs", .unsigned p.stopSeconds)]

/-- The tree of a site. -/
def Facility.toNode : Facility → Node
  | .refrigerator w =>
    .ofEntries [("kind", .text RefrigeratorWiring.siteName), ("lockins", textNodes w.lockins),
      ("magnet", textOrAbsent w.magnet), ("bridge", .text w.bridge), ("gate", textOrAbsent w.gate),
      ("resistance_meter", textOrAbsent w.resistanceMeter),
      ("current_source", textOrAbsent w.currentSource), ("measure_hall", .flag w.measureHall),
      ("pt_flange", .flag w.ptFlange),
      ("first_lockin_measures_current", .flag w.firstMeasuresCurrent)]
  | .cryogenFree w =>
    .ofEntries [("kind", .text CryogenFreeWiring.siteName), ("lockins", textNodes w.lockins),
      ("mss", .text w.control), ("gate", textOrAbsent w.gate)]
  | .insert w =>
    .ofEntries [("kind", .text InsertWiring.siteName), ("multimeter", .text w.multimeter),
      ("temperature_controller", .text w.controller), ("lockin", .text w.lockin)]

/-- The name of a parity. -/
def Parity.name : Parity → String
  | .none => "none"
  | .even => "even"
  | .odd => "odd"

/-- The tree of a connection. -/
def Connection.toNode : Connection → Node
  | .serial port baudRate parity terminator limit =>
    .ofEntries [("kind", .text "serial"), ("port", .text port), ("baud_rate", .unsigned baudRate),
      ("parity", .text parity.name), ("terminator", .text terminator),
      ("timeout_ms", .unsigned limit)]
  | .tcp address terminator limit =>
    .ofEntries [("kind", .text "tcp"), ("address", .text address), ("terminator", .text terminator),
      ("timeout_ms", .unsigned limit)]
  | .mss address limit =>
    .ofEntries [("kind", .text "mss"), ("address", .text address), ("timeout_ms", .unsigned limit)]
  | .visa resource terminator limit =>
    .ofEntries [("kind", .text "visa"), ("resource", .text resource),
      ("terminator", .text terminator), ("timeout_ms", .unsigned limit)]
  | .simulated model => .ofEntries [("kind", .text "simulated"), ("model", .text model.name)]

/-- The tree of an instrument. -/
def Instrument.toNode (i : Instrument) : Node :=
  .ofEntries [("id", .text i.id), ("enabled", .flag i.enabled),
    ("transport", i.connection.toNode)]

/-- The tree of all settings. -/
def Rig.toNode (r : Rig) : Node :=
  .ofEntries [("application", r.application.toNode), ("session", r.labels.toNode),
    ("acquisition", r.acquisitions.toNode), ("interpreter", r.programs.toNode),
    ("facility", r.facility.toNode), ("instruments", .sequence (r.instruments.map Instrument.toNode))]

/-! ## Instruments in use -/

/-- The instruments that are used. -/
def Rig.enabled (r : Rig) : List Instrument := r.instruments.filter Instrument.enabled

/-- The instruments that a site talks to, by their names on the bus. -/
def Facility.references : Facility → List String
  | .refrigerator w =>
    w.lockins ++ w.bridge :: [w.magnet, w.gate, w.resistanceMeter, w.currentSource].filterMap id
  | .cryogenFree w => w.lockins ++ w.control :: w.gate.toList
  | .insert w => [w.multimeter, w.controller, w.lockin]

/-- The number of lock-ins of a site. -/
def Facility.lockinCount : Facility → Nat
  | .refrigerator w => w.lockins.length
  | .cryogenFree w => w.lockins.length
  | .insert _ => 1

/-- The site over the instruments of its wiring. -/
def Facility.site : Facility → Site CryoRig.Instrument.Surroundings
  | .refrigerator w => Site.refrigerator w
  | .cryogenFree w => Site.cryogenFree w
  | .insert w => Site.insert w

end CryoRig.Settings
