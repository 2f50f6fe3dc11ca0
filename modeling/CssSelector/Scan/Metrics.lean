import CssSelector.Token.Json

/-!
# Statistics of a scan

How many tokens of each kind and class were produced, and how deep contexts were nested. Kinds
and classes that did not occur have no entry.
-/

set_option autoImplicit false

namespace CssSelector

/-- Adds one to the count of an item. Entries are sorted by rank. -/
def tally {α : Type} [DecidableEq α] (rank : α → Nat) (item : α) :
    List (α × Nat) → List (α × Nat)
  | [] => [(item, 1)]
  | (other, count) :: rest =>
      if item = other then (other, count + 1) :: rest
      else if rank item < rank other then (item, 1) :: (other, count) :: rest
      else (other, count) :: tally rank item rest

/-- The count of an item, zero without an entry. -/
def tallied {α : Type} [DecidableEq α] (item : α) (counts : List (α × Nat)) : Nat :=
  ((counts.find? fun entry => entry.1 = item).map (·.2)).getD 0

structure ScanMetrics where
  totalTokens : Nat := 0
  tokensByKind : List (TokenKind × Nat) := []
  tokensByClass : List (TokenClass × Nat) := []
  /-- The contexts that were opened, the outermost included. -/
  contextsEntered : Nat := 0
  maxContextDepth : Nat := 0
  bytesScanned : Nat := 0
  deriving DecidableEq, Repr

namespace ScanMetrics

def recordToken (metrics : ScanMetrics) (token : Token) : ScanMetrics :=
  { metrics with
    totalTokens := metrics.totalTokens + 1
    bytesScanned := metrics.bytesScanned + token.length
    tokensByKind := tally TokenKind.index token.kind metrics.tokensByKind
    tokensByClass := tally TokenClass.ctorIdx token.kind.tokenClass metrics.tokensByClass }

def recordContext (metrics : ScanMetrics) (depth : Nat) : ScanMetrics :=
  { metrics with
    contextsEntered := metrics.contextsEntered + 1
    maxContextDepth := max metrics.maxContextDepth depth }

def count (metrics : ScanMetrics) (kind : TokenKind) : Nat := tallied kind metrics.tokensByKind

def countClass (metrics : ScanMetrics) (tokenClass : TokenClass) : Nat :=
  tallied tokenClass metrics.tokensByClass

def toJson (metrics : ScanMetrics) : Json :=
  .object
    [("total_tokens", .natural metrics.totalTokens),
     ("tokens_by_kind",
        .object (metrics.tokensByKind.map fun (kind, count) => (kind.name, .natural count))),
     ("tokens_by_class",
        .object (metrics.tokensByClass.map fun (item, count) => (item.name, .natural count))),
     ("contexts_entered", .natural metrics.contextsEntered),
     ("max_context_depth", .natural metrics.maxContextDepth),
     ("bytes_scanned", .natural metrics.bytesScanned)]

def describeCounts (counts : List (String × Nat)) : String :=
  "\x7b" ++ ", ".intercalate (counts.map fun (label, count) => s!"{label}: {count}") ++ "\x7d"

def describe (metrics : ScanMetrics) : String :=
  let kinds := describeCounts (metrics.tokensByKind.map fun (kind, count) => (kind.label, count))
  let classes := describeCounts (metrics.tokensByClass.map fun (item, count) => (item.label, count))
  "ScanMetrics \x7b total_tokens: " ++ toString metrics.totalTokens
    ++ ", tokens_by_kind: " ++ kinds ++ ", tokens_by_class: " ++ classes
    ++ ", contexts_entered: " ++ toString metrics.contextsEntered
    ++ ", max_context_depth: " ++ toString metrics.maxContextDepth
    ++ ", bytes_scanned: " ++ toString metrics.bytesScanned ++ " \x7d"

end ScanMetrics

end CssSelector
