import CssSelector.Scan.Basic

/-!
# Scanners

A scanner scans one source after the other from the same outermost context. It keeps the
statistics of its last scan only.
-/

set_option autoImplicit false

namespace CssSelector

/-- An outermost context with preferences, and the statistics of the last scan. -/
structure Scanner (κ : Type) where
  family : ContextFamily κ
  root : κ
  preferences : ScanPreferences := {}
  metrics : ScanMetrics := {}

structure ScanRequest where
  source : Source
  offset : Nat := 0

namespace Scanner

variable {κ σ : Type}

/-- Scans the source of a request. The tokens are put at the back of a stream. -/
def scanInto [EventLog σ] (scanner : Scanner κ) (request : ScanRequest) (stream : TokenStream)
    (log : σ) : Scanner κ × TokenStream × ScanResult σ :=
  let result := scanner.family.scanInto scanner.preferences scanner.root request.source
    request.offset log
  ({ scanner with metrics := result.metrics }, stream.append result.tokens, result)

def scan (scanner : Scanner κ) (request : ScanRequest) (stream : TokenStream) :
    Scanner κ × TokenStream × ScanOutcome :=
  scanner.scanInto request stream #[]

def describe (scanner : Scanner κ) : String :=
  describeScanner (scanner.family.name scanner.root) scanner.metrics

end Scanner

end CssSelector
