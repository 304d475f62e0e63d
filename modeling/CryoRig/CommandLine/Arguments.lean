import CryoRig.Settings.Load

/-!
# The command line

A command line names a script and says whether to check it or to run it; it may name the file with
the settings. Arguments are read from left to right: the first one that asks for help ends the
reading, and so does the first one that makes no sense.

## Main definitions

* `CryoRig.CommandLine.Order`: what is to be done with which script.
* `CryoRig.CommandLine.Word`: what a single argument says.
* `CryoRig.CommandLine.Invocation.read?`: what a list of arguments asks for.

## Main results

* `CryoRig.CommandLine.Invocation.read?_check`, `read?_config`: plain command lines are understood.
-/

namespace CryoRig.CommandLine

/-- What is to be done with a script. -/
inductive Purpose where
  | check
  | run
  deriving DecidableEq, Repr

/-- What is to be done with which script. -/
structure Order where
  /-- What is to be done. -/
  purpose : Purpose
  /-- The path of the script. -/
  script : String
  /-- The path of the settings. -/
  config : String
  deriving DecidableEq, Repr

/-- What a command line asks for. -/
inductive Invocation where
  | help
  | order (order : Order)
  deriving DecidableEq, Repr

/-! ## Single arguments -/

/-- What an argument says. -/
inductive Word where
  /-- All arguments after this one are plain. -/
  | separator
  /-- Help is wanted. -/
  | help
  /-- The path of the settings is the next argument. -/
  | config
  /-- The path of the settings. -/
  | configAs (path : String)
  /-- There is no such option. -/
  | unknown
  /-- Anything that is no option. -/
  | plain (text : String)
  deriving DecidableEq, Repr

/-- What begins the option that names the settings along with their path. -/
def configMark : String := "--config="

/-- What an argument says. -/
def Word.of (argument : String) : Word :=
  if argument = "--" then separator
  else if argument = "--help" then help
  else if argument = "--config" then config
  else if argument.startsWith configMark then
    configAs (String.ofList (argument.toList.drop configMark.length))
  else if argument.startsWith "-h" then help
  else if argument.startsWith "-" ∧ argument ≠ "-" then unknown
  else plain argument

/-! ## What was named -/

/-- The paths that were named so far. -/
structure Named where
  /-- The path of the script. -/
  script : Option String
  /-- The path of the settings. -/
  config : Option String

namespace Named

/-- Nothing was named. -/
def nothing : Named := ⟨none, none⟩

/-- A path that is not empty, at a place where none was named. -/
def once (path : String) : Option String → Option String
  | none => if path = "" then none else some path
  | some _ => none

/-- Name the script. -/
def withScript? (n : Named) (path : String) : Option Named := do
  pure { n with script := some (← once path n.script) }

/-- Name the settings. -/
def withConfig? (n : Named) (path : String) : Option Named := do
  pure { n with config := some (← once path n.config) }

/-- The order for the paths that were named; there has to be a script. -/
def order? (n : Named) (purpose : Purpose) : Option Invocation := do
  pure (.order ⟨purpose, ← n.script, n.config.getD Settings.defaultPath⟩)

end Named

/-! ## All arguments -/

namespace Invocation

/-- Arguments that are all plain. -/
def readPlain (purpose : Purpose) (n : Named) : List String → Option Invocation
  | [] => n.order? purpose
  | script :: rest => do readPlain purpose (← n.withScript? script) rest

/-- The arguments after the purpose. -/
def readPaths (purpose : Purpose) (n : Named) : List String → Option Invocation
  | [] => n.order? purpose
  | argument :: rest =>
    match Word.of argument with
    | .separator => readPlain purpose n rest
    | .help => some .help
    | .config =>
      match rest with
      | [] => none
      | path :: rest =>
        match Word.of path with
        | .plain path => do readPaths purpose (← n.withConfig? path) rest
        | _ => none
    | .configAs path => do readPaths purpose (← n.withConfig? path) rest
    | .unknown => none
    | .plain script => do readPaths purpose (← n.withScript? script) rest

/-- The purpose with a given name. -/
def purpose? : String → Option Purpose
  | "check" => some .check
  | "run" => some .run
  | _ => none

/-- Topics that help is wanted on; no topic has topics of its own. -/
def readTopics : List String → Option Invocation
  | [] => some .help
  | [topic] => if topic = "help" ∨ (purpose? topic).isSome then some .help else none
  | _ => none

/-- What a list of arguments asks for; `none` if it makes no sense. -/
def read? : List String → Option Invocation
  | [] => none
  | argument :: rest =>
    match purpose? argument with
    | some purpose => readPaths purpose .nothing rest
    | none =>
      if argument = "help" then readTopics rest
      else if Word.of argument = .help then some .help
      else none

/-- A script that is no option is checked with the settings at their usual place. -/
theorem read?_check {script : String} (h : Word.of script = .plain script) (hne : script ≠ "") :
    read? ["check", script] = some (.order ⟨.check, script, Settings.defaultPath⟩) := by
  simp [read?, purpose?, readPaths, h, Named.withScript?, Named.nothing, Named.once, hne,
    Named.order?]

/-- The settings may be named after the script. -/
theorem read?_config {script config : String} (hs : Word.of script = .plain script)
    (hs' : script ≠ "") (hc : Word.of config = .plain config) (hc' : config ≠ "") :
    read? ["run", script, "--config", config] = some (.order ⟨.run, script, config⟩) := by
  have h : Word.of "--config" = .config := by decide
  simp [read?, purpose?, readPaths, hs, hc, h, Named.withScript?, Named.withConfig?, Named.nothing,
    Named.once, hs', hc', Named.order?]

end Invocation

end CryoRig.CommandLine
