import CssSelector.CommandLine

/-!
# The program

Reads the environment, runs the command line, and writes what comes of it.
-/

set_option autoImplicit false

open CssSelector

def settingNames : List String :=
  ["SELECTOR_SCANNER_COLLECT_METRICS", "SELECTOR_SCANNER_LOG_TRANSITIONS",
   "SELECTOR_SCANNER_INCLUDE_REMAINDER", "SELECTOR_PARSER_LOG_DELEGATION",
   "SELECTOR_PARSER_LOG_MISMATCHES", "SELECTOR_LOGGING_USE_STRUCTURED",
   "SELECTOR_LOGGING_ENABLE_CONSOLE", "SELECTOR_LOGGING_MIN_LEVEL"]

def readEnvironment : IO Environment := do
  let mut environment : Environment := []
  for name in settingNames do
    if let some value ← IO.getEnv name then
      environment := (name, value) :: environment
  return environment

def main (arguments : List String) : IO UInt32 := do
  let application : Application := { environment := ← readEnvironment }
  let outcome := application.runProgram "selectorc" arguments
  (← IO.getStdout).putStr outcome.transcript.out
  (← IO.getStderr).putStr outcome.transcript.err
  match outcome.exitCode with
  | .ok code => return code.toUInt32
  | .error _ => return 101
