import CssSelector.Parse.Error
import CssSelector.Token.Stream

/-!
# Grammar rules

A rule is a tree of questions to the token stream. Each node asks one of the primitive questions,
and the answer selects the tree to go on with; a leaf is a result, an error or a fault. Questions
that can be answered by an error hand the error to the tree, which may go on regardless.

Rules call each other through productions: a grammar gives a rule for every production, and a
rule delegates to a production by its name. So rules may be recursive although each is a finite
tree.
-/

set_option autoImplicit false

namespace CssSelector

/-- A rule over productions `ν`, where a production `p` yields an `Ast p`. -/
inductive Rule {ν : Type} (Ast : ν → Type) (α : Type) : Type where
  | done (value : α)
  | fail (error : ParseError)
  /-- The rule breaks a contract. -/
  | fault (cause : Fault)
  | read (expected : Expected) (next : Except ParseError Token → Rule Ast α)
  /-- Looks at the token at a place counted from the front. Behind the last token it finds
  `Token.endOfTokens` if that is allowed. -/
  | look (expected : Expected) (place : Nat) (allowEnd : Bool)
      (next : Except ParseError Token → Rule Ast α)
  /-- Removes all tokens at the front that are expected, and tells whether there were any. -/
  | ignore (expected : Expected) (next : Bool → Rule Ast α)
  /-- Inspects the stream and the number of active rules. -/
  | inspect (next : TokenStream → Nat → Rule Ast α)
  | delegate (production : ν) (next : Except ParseError (Ast production) → Rule Ast α)

namespace Rule

variable {ν : Type} {Ast : ν → Type} {α β : Type}

/-- Goes on with the result of a rule. Errors and faults end both. -/
def bind : Rule Ast α → (α → Rule Ast β) → Rule Ast β
  | done value, continuation => continuation value
  | fail error, _ => fail error
  | fault cause, _ => fault cause
  | read expected next, continuation => read expected fun answer => (next answer).bind continuation
  | look expected place allowEnd next, continuation =>
      look expected place allowEnd fun answer => (next answer).bind continuation
  | ignore expected next, continuation =>
      ignore expected fun answer => (next answer).bind continuation
  | inspect next, continuation => inspect fun stream depth => (next stream depth).bind continuation
  | delegate production next, continuation =>
      delegate production fun answer => (next answer).bind continuation

instance : Monad (Rule Ast) where
  pure := done
  bind := bind

/-- A rule whose failure is a result. -/
def attempt : Rule Ast α → Rule Ast (Except ParseError α)
  | done value => done (.ok value)
  | fail error => done (.error error)
  | fault cause => fault cause
  | read expected next => read expected fun answer => (next answer).attempt
  | look expected place allowEnd next =>
      look expected place allowEnd fun answer => (next answer).attempt
  | ignore expected next => ignore expected fun answer => (next answer).attempt
  | inspect next => inspect fun stream depth => (next stream depth).attempt
  | delegate production next => delegate production fun answer => (next answer).attempt

def propagate : Except ParseError α → Rule Ast α
  | .ok value => done value
  | .error error => fail error

def expect (expected : Expected) : Rule Ast Token := read expected propagate

def lookahead (expected : Expected) (place : Nat) (allowEnd : Bool) : Rule Ast Token :=
  look expected place allowEnd propagate

def peek (expected : Expected) : Rule Ast Token := lookahead expected 0 false

def endOfTokens (place : Nat) : Rule Ast Bool :=
  inspect fun stream _ => done (stream.length ≤ place)

def skip (expected : Expected) : Rule Ast Bool := ignore expected done

def remaining : Rule Ast Nat := inspect fun stream _ => done stream.length

def depth : Rule Ast Nat := inspect fun _ depth => done depth

def tokens : Rule Ast (List Token) := inspect fun stream _ => done stream.toList

def call (production : ν) : Rule Ast (Ast production) := delegate production propagate

def violation (reason : String) (token : Token) : Rule Ast α :=
  match token.span with
  | .ok span => fail (.grammarViolation reason span)
  | .error cause => fault cause

end Rule

/-- A grammar: a rule and a name for every production. -/
structure Grammar (ν : Type) where
  Ast : ν → Type
  name : ν → String
  rule : (production : ν) → Rule Ast (Ast production)

end CssSelector
