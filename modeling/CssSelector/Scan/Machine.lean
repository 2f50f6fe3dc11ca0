import CssSelector.Scan.Basic

/-!
# Scanning with a list of open contexts

The same scan as a machine without recursion into contexts: it keeps the open contexts in a list,
the innermost first, and asks only the first one. It logs nothing.
-/

set_option autoImplicit false

namespace CssSelector

namespace ContextFamily

variable {κ : Type} (family : ContextFamily κ) (preferences : ScanPreferences) (source : Source)

def openContext (context : κ) (opened : List κ) (progress : Progress) :
    Except ScanError (List κ × Progress) :=
  if maxContextDepth ≤ opened.length then
    .error (.contextTooDeep (opened.length + 1) progress.offset)
  else
    .ok (context :: opened,
      if preferences.collectMetrics then
        { progress with metrics := progress.metrics.recordContext (opened.length + 1) }
      else progress)

/-- Runs the machine. It stops when no context is open or the source ends; the fuel is the number
of bytes that are left. -/
def runMachine : Nat → List κ → Progress → ScanStep
  | 0, _, progress => (progress, .done ())
  | _ + 1, [], progress => (progress, .done ())
  | fuel + 1, context :: outer, progress =>
      if progress.offset < source.length then
        match family.next preferences source context progress with
        | .failed error => (progress, .failed error)
        | .fault cause => (progress, .fault cause)
        | .done token =>
            let progress := progress.accept preferences token
            if family.closes context token then runMachine fuel outer progress
            else
              match family.opens? context token with
              | none => runMachine fuel (context :: outer) progress
              | some inner =>
                  match openContext preferences inner (context :: outer) progress with
                  | .ok (opened, progress) => runMachine fuel opened progress
                  | .error error => (progress, .failed error)
      else (progress, .done ())

def machine (root : κ) (offset : Nat) : ScanStep :=
  match openContext preferences root [] { offset := offset, events := #[] } with
  | .ok (opened, progress) =>
      family.runMachine preferences source (source.length - offset) opened progress
  | .error error => ({ offset := offset, events := #[] }, .failed error)

end ContextFamily

end CssSelector
