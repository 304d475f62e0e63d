import CryoRig.Fault
import CryoRig.Files
import CryoRig.Settings.Logging
import CryoRig.Settings.Variables

/-!
# Failures of the command line

What ends the program with an error, and the report of it: what went wrong, and below that what
caused it. A problem with the settings is reported with the key and the place it comes from.

## Main definitions

* `CryoRig.CommandLine.Failure`: everything that can go wrong.
* `CryoRig.CommandLine.Failure.report`: the lines that say so.
-/

namespace CryoRig.CommandLine

/-- Everything that can go wrong. -/
inductive Failure where
  /-- The settings in a file, and in variables laid over it, do not have the right shape. -/
  | settings (path : String) (layer : Settings.Node) (problem : Settings.Problem)
  /-- The settings of the log make no sense. -/
  | log (cause : Settings.LogFault)
  /-- The script cannot be read. -/
  | script (path : String) (cause : SystemFault)
  /-- Anything else. -/
  | fault (cause : Fault)

/-- How a file is called in a report. -/
def shownPath (path : String) : String :=
  match pathSteps path with
  | "/" :: _ => path
  | steps => "/".intercalate steps

/-- The key at a path and the place that decides it. -/
def whereabouts (file : String) (layer : Settings.Node) : List String → String
  | [] => ""
  | keys =>
    if layer.decides keys then
      " for key " ++ Text.quoted (".".intercalate (keys.map String.toUpper)) ++
        " in `" ++ Settings.Variables.mark ++ "` environment variable(s)"
    else
      " for key " ++ Text.quoted (".".intercalate ("default" :: keys)) ++
        " in " ++ shownPath file ++ " TOML file"

namespace Failure

/-- What went wrong. -/
def message : Failure → String
  | settings path _ _ => "loading " ++ path
  | log cause => cause.message
  | script path _ => "reading script " ++ path
  | fault cause => cause.message

/-- What caused it, the nearest cause first. -/
def causes : Failure → List String
  | settings path layer problem =>
    let text := problem.kind.message ++ whereabouts path layer problem.path
    ["Configuration error: " ++ text, text]
  | script _ cause => [cause.message]
  | log _ | fault _ => []

end Failure

/-- The lines of a text; the first one follows a mark, the others are set in as far. -/
def setIn (mark text : String) : List String :=
  match text.splitOn "\n" with
  | [] => []
  | first :: rest => (mark ++ first) :: rest.map (String.ofList (List.replicate mark.length ' ') ++ ·)

/-- The lines of causes that are numbered from `n` on. -/
def numbered (n : Nat) : List String → List String
  | [] => []
  | cause :: rest => setIn ("    " ++ toString n ++ ": ") cause ++ numbered (n + 1) rest

/-- The lines that say what went wrong and why; several causes are numbered. -/
def Failure.report (f : Failure) : List String :=
  ("Error: " ++ f.message).splitOn "\n" ++
    match f.causes with
    | [] => []
    | [cause] => "" :: "Caused by:" :: setIn "    " cause
    | causes => "" :: "Caused by:" :: numbered 0 causes

end CryoRig.CommandLine
