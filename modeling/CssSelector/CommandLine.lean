import CssSelector.Application

/-!
# The command line

Arguments are read into a command, and a command is run in an application. What it writes and its
exit code are the result.
-/

set_option autoImplicit false

namespace CssSelector

inductive Command where
  | help
  | info
  | scan (selector : String) (json : Bool)
  deriving DecidableEq, Repr

namespace Command

/-- Reads arguments. Help and information are given at once, whatever follows. -/
def parseFrom (selector : Option String) (json : Bool) : List String → Except String Command
  | [] =>
      match selector with
      | some selector => .ok (.scan selector json)
      | none => .error "Missing selector argument"
  | argument :: later =>
      if argument = "--help" || argument = "-h" then .ok .help
      else if argument = "--info" then .ok .info
      else if argument = "--json" then parseFrom selector true later
      else if argument.startsWith "--" then .error s!"Unknown option '{argument}'"
      else
        match selector with
        | some _ => .error s!"Unexpected extra argument '{argument}'"
        | none => parseFrom (some argument) json later

def parse (arguments : List String) : Except String Command := parseFrom none false arguments

end Command

def helpText (program : String) : String :=
  "\n".intercalate
    [s!"Selector Compiler v{version}", "Tokenizes CSS selectors with the context-stack scanner", "",
     "USAGE:", s!"    {program} <selector> [--json]", "", "OPTIONS:",
     "    --json      Print tokens and scan metrics as JSON",
     "    --info      Show compile-time limits and lexical contexts",
     "    --help      Show this help message", "", "EXAMPLES:", s!"    {program} 'E > F'",
     s!"    {program} 'div#id.class:has(span.title)' --json", ""]

def usageError (program problem : String) : String :=
  s!"Error: {problem}\nUsage: {program} <selector> [--json]\n       {program} --help\n"

/-- What running the program comes to. A fault is no exit. -/
structure CommandOutcome where
  transcript : Transcript
  exitCode : Except Fault Nat

namespace Application

def write (text : String) (application : Application) : Application :=
  application.mapSession fun session =>
    { session with transcript := { session.transcript with out := session.transcript.out ++ text } }

def writeError (text : String) (application : Application) : Application :=
  application.mapSession fun session =>
    { session with transcript := { session.transcript with err := session.transcript.err ++ text } }

def exit (code : Nat) (application : Application) : CommandOutcome :=
  ⟨application.session.transcript, .ok code⟩

/-- Ends an application because something is wrong that is not the user's fault. -/
def exitProblem (problem : String) (application : Application) : CommandOutcome :=
  (application.writeError s!"Error: \"{problem}\"\n").exit 1

def runScan (selector : String) (json : Bool) (application : Application) : CommandOutcome :=
  match application.logging (reportInto (.ofEnvironment application.environment) 0 selector) with
  | (.done report, application) =>
      let written := if json then report.toJson.spread else report.render
      (application.write (written ++ "\n")).exit 0
  | (.fault cause, application) => ⟨application.session.transcript, .error cause⟩
  | (.failed error, application) =>
      match error.render selector with
      | .ok rendered => (application.writeError rendered).exit 1
      | .error cause => ⟨application.session.transcript, .error cause⟩

def runCommand (program : String) (command : Command) (application : Application) :
    CommandOutcome :=
  match command with
  | .help => (application.write (helpText program)).exit 0
  | .info => (application.write (capabilities application.hasSharedLog ++ "\n")).exit 0
  | .scan selector json => application.runScan selector json

/-- Runs the program in a fresh application: the log is started and everything is checked before the
arguments are looked at. -/
def runProgram (program : String) (arguments : List String) (application : Application) :
    CommandOutcome :=
  match application.startLog with
  | (.error problem, application) => application.exitProblem problem
  | (.ok (), application) =>
      match application.validate with
      | (.error problem, application) => application.exitProblem problem
      | (.ok (), application) =>
          match Command.parse arguments with
          | .error problem => (application.writeError (usageError program problem)).exit 1
          | .ok command => application.runCommand program command

end Application

end CssSelector
