import CryoRig.Number.Print
import CryoRig.Number.Read

/-!
# What can go wrong with an instrument

Faults carry their cause. A fault that arises while something else is done is wrapped in what was
being done, so its message reads from the outside to the cause.

## Main definitions

* `CryoRig.SystemFault`: what the operating system refuses.
* `CryoRig.DeviceFault`: what an instrument, the bus or a site refuses.
* `CryoRig.Action`: the actions a site may not support.
-/

namespace CryoRig

/-! ## The operating system -/

/-- What the operating system refuses to do. -/
inductive SystemFault where
  | noEntry
  | alreadyExists
  | notDirectory
  | isDirectory
  | nameTooLong
  | networkUnreachable
  /-- A file name holds the character zero. -/
  | zeroInName
  /-- A file does not hold text. -/
  | notText
  /-- An address without a port. -/
  | badAddress
  /-- A port that is no number. -/
  | badPort
  /-- A host that nobody knows. -/
  | unknownHost
  /-- A stream ended inside what was being read. -/
  | endOfStream
  /-- Any other refusal, in its own words. -/
  | other (text : String)
  deriving DecidableEq, Repr

/-- The wording of a refusal. -/
def SystemFault.message : SystemFault → String
  | noEntry => "No such file or directory (os error 2)"
  | alreadyExists => "File exists (os error 17)"
  | notDirectory => "Not a directory (os error 20)"
  | isDirectory => "Is a directory (os error 21)"
  | nameTooLong => "File name too long (os error 36)"
  | networkUnreachable => "Network is unreachable (os error 101)"
  | zeroInName => "file name contained an unexpected NUL byte"
  | notText => "stream did not contain valid UTF-8"
  | badAddress => "invalid socket address"
  | badPort => "invalid port value"
  | unknownHost =>
    "failed to lookup address information: Temporary failure in name resolution"
  | endOfStream => "early eof"
  | other text => text

/-! ## Instruments -/

/-- What a site may be unable to do. -/
inductive Ability where
  | autoscan
  | differentialSweep
  | gateVoltage
  | gateCurrent
  | gateOutput
  | fieldControl
  | temperatureControl
  | lockinAmplitude
  | lockinFrequency
  | offsetAndExpand
  | scannerSelection
  | excitationControl
  | rangeControl
  | heaterControl
  deriving DecidableEq, Repr

/-- An ability in words. -/
def Ability.name : Ability → String
  | autoscan => "autoscan sampling"
  | differentialSweep => "differential sweep"
  | gateVoltage => "gate voltage"
  | gateCurrent => "gate current"
  | gateOutput => "gate output"
  | fieldControl => "field control"
  | temperatureControl => "temperature control"
  | lockinAmplitude => "lock-in amplitude"
  | lockinFrequency => "lock-in frequency"
  | offsetAndExpand => "offset and expand"
  | scannerSelection => "scanner channel selection"
  | excitationControl => "excitation control"
  | rangeControl => "range control"
  | heaterControl => "heater control"

/-- What was being done when a fault arose. -/
inductive Doing where
  /-- Writing a command to an instrument. -/
  | writing (id command : String)
  /-- Asking an instrument. -/
  | querying (id command : String)
  /-- Making sense of the reply to a command. -/
  | reading (id command : String)
  /-- Making sense of one field of a reply. -/
  | field (text : String)
  /-- Making sense of a reply that is one whole number. -/
  | wholeReply (id command reply : String)
  /-- Reaching an address. -/
  | connecting (peer : String)
  /-- Anything else, in its own words. -/
  | other (text : String)
  deriving DecidableEq, Repr

/-- What was being done, in words. -/
def Doing.text : Doing → String
  | writing id command => s!"{id}: write '{command}'"
  | querying id command => s!"{id}: query '{command}'"
  | reading id command => s!"{id}: reply to '{command}'"
  | field text => s!"Failed to parse '{text}' as a number"
  | wholeReply id command reply => s!"{id}: bad {command} reply '{reply}'"
  | connecting peer => s!"Failed to connect to {peer}"
  | other text => text

/-- What goes wrong with instruments. -/
inductive DeviceFault where
  /-- A fault that arose while something was done. -/
  | during (doing : Doing) (cause : DeviceFault)
  /-- No such instrument is on the bus. -/
  | notAttached (id : String)
  /-- A text is no number. -/
  | number (cause : Number.Fault)
  /-- The operating system refused. -/
  | system (cause : SystemFault)
  /-- A reply without any field. -/
  | emptyReply
  /-- A query that was not answered. -/
  | noReply (name command : String)
  /-- A command the instrument does not know. -/
  | unknownCommand (model command : String)
  /-- An argument that is no number. -/
  | argumentNotNumber (text : String)
  /-- A command with the wrong number of arguments. -/
  | wrongArguments (model command : String) (expected : Nat)
  /-- A reply with the wrong number of fields. -/
  | wrongCount (id command : String) (expected got : Nat)
  /-- A reply with too few fields. -/
  | tooFewFields (id command : String) (got : Nat)
  /-- A trace that does not consist of pairs. -/
  | oddTrace (id : String) (got : Nat)
  /-- A sweep that did not get ready in time. -/
  | notArmed (id : String)
  /-- An amplitude a lock-in cannot produce. -/
  | amplitudeOutside (id : String) (volts : Float)
  /-- A frequency a lock-in cannot produce. -/
  | frequencyOutside (id : String) (hertz : Float)
  /-- The site has no means of doing it. -/
  | unsupported (site : String) (ability : Ability)
  /-- The site has no lock-in at this place. -/
  | noLockin (site : String) (index : Nat)
  /-- The site has only one lock-in. -/
  | onlyFirstLockin (site : String)
  /-- The site has no magnet. -/
  | noMagnet (site : String)
  /-- The site has no current source. -/
  | noCurrentSource (site : String)
  /-- A reading that was set up to fail. -/
  | readFailed (site : String) (count : Nat)
  /-- A data file that could not be written. -/
  | storage (text : String)
  /-- An answer that took too long. -/
  | timedOut (waitingFor : String)
  /-- A peer that hung up. -/
  | closed (peer : String)
  /-- A reply of negative length. -/
  | negativeSize (size : Int)
  /-- A reply of more bytes than are taken. -/
  | oversized (size limit : Nat)
  /-- Anything else, in its own words. -/
  | reported (text : String)

/-- The wording of a fault, outermost circumstance first. -/
def DeviceFault.message : DeviceFault → String
  | during doing cause => doing.text ++ ": " ++ cause.message
  | notAttached id => s!"No instrument '{id}' attached to the bus"
  | number cause => cause.message
  | system cause => cause.message
  | emptyReply => "Empty reply"
  | noReply name command => s!"{name}: no reply to '{command}'"
  | unknownCommand model command => s!"{model}: unknown command '{command}'"
  | argumentNotNumber text => s!"not a number: '{text}'"
  | wrongArguments model command expected => s!"{model}: {command} expects {expected} fields"
  | wrongCount id command expected got =>
    s!"{id}: expected {expected} values from {command}, got {got}"
  | tooFewFields id command got => s!"{id}: {command} returned {got} fields"
  | oddTrace id got => s!"{id}: odd number of values in trace ({got})"
  | notArmed id => s!"{id}: differential sweep did not arm"
  | amplitudeOutside id volts =>
    id ++ ": amplitude " ++ Number.plain volts ++ " V outside 0.004..5 V"
  | frequencyOutside id hertz =>
    id ++ ": frequency " ++ Number.plain hertz ++ " Hz outside 0.001..102000 Hz"
  | unsupported site ability =>
    site ++ ": " ++ ability.name ++ " is not supported on this facility"
  | noLockin site index => site ++ ": lock-in R" ++ toString (index + 1) ++ " is not configured"
  | onlyFirstLockin site => s!"{site}: only lock-in R1 is available"
  | noMagnet site => s!"{site}: no magnet configured"
  | noCurrentSource site => s!"{site}: no current source configured"
  | readFailed site count => s!"{site}: read {count} failed"
  | storage text => text
  | timedOut waitingFor => s!"Timed out {waitingFor}"
  | closed peer => s!"Connection to {peer} closed"
  | negativeSize size => s!"MSS sent negative reply size {size}"
  | oversized size limit => s!"MSS reply size {size} exceeds {limit} bytes"
  | reported text => text

end CryoRig
