import CssSelector.Text.Digit
import CssSelector.Text.Space
import CssSelector.Text.Word

/-!
# Lexemes of selectors

A recognizer looks at the rest of a source and returns the lexeme at its front, if there is one.
Lexemes are never empty. Each recognizer takes as much as its lexemes allow.
-/

set_option autoImplicit false

namespace CssSelector

abbrev Recognizer := List Char → Option (List Char)

namespace Lexeme

def nonempty (lexeme : List Char) : Option (List Char) :=
  if lexeme.isEmpty then none else some lexeme

/-- The given text; the empty text is no lexeme. -/
def literal (text : List Char) : Recognizer := fun input =>
  if text.isPrefixOf input then nonempty text else none

def run (belongs : Char → Bool) : Recognizer := fun input =>
  nonempty (input.takeWhile belongs)

/-! ## Names -/

/-- A character with which a name may go on: a word character or a hyphen. -/
def continuesName (c : Char) : Bool := isWord c || c = '-'

/-- A character with which a name may start, behind an optional hyphen. -/
def startsName (c : Char) : Bool := isWord c && !isDigit c

def bareIdentifier : Recognizer
  | [] => none
  | c :: rest => if startsName c then some (c :: rest.takeWhile continuesName) else none

def identifier : Recognizer
  | '-' :: rest => (bareIdentifier rest).map ('-' :: ·)
  | input => bareIdentifier input

/-! ## Parts of a selector -/

def whitespace : Recognizer := run isSpace

/-- One of the given marks, with the white space around it. -/
def spacedMark (isMark : Char → Bool) : Recognizer := fun input =>
  match input.dropWhile isSpace with
  | [] => none
  | c :: rest =>
      if isMark c then some (input.takeWhile isSpace ++ c :: rest.takeWhile isSpace) else none

def isCombinator (c : Char) : Bool := c = '>' || c = '+' || c = '~'

def combinator : Recognizer := spacedMark isCombinator

def separator : Recognizer := spacedMark (· = ',')

def typeSelector : Recognizer
  | '*' :: _ => some ['*']
  | input => identifier input

def classSelector : Recognizer
  | '.' :: rest => (identifier rest).map ('.' :: ·)
  | _ => none

/-- A number sign and characters of names. They need not form a name: digits may come first. -/
def idSelector : Recognizer
  | '#' :: rest => (run continuesName rest).map ('#' :: ·)
  | _ => none

def pseudoElement : Recognizer
  | ':' :: ':' :: rest => (identifier rest).map fun name => ':' :: ':' :: name
  | _ => none

def pseudoClass : Recognizer
  | ':' :: rest => (identifier rest).map (':' :: ·)
  | _ => none

/-! ## Positions -/

def splitSign : List Char → List Char × List Char
  | '+' :: rest => (['+'], rest)
  | '-' :: rest => (['-'], rest)
  | input => ([], input)

/-- The constant of a position behind its `n`: white space, a sign, white space and digits, or
nothing. -/
def positionConstant (input : List Char) : List Char :=
  let leading := input.takeWhile isSpace
  match splitSign (input.dropWhile isSpace) with
  | ([], _) => []
  | (sign, rest) =>
      let digits := (rest.dropWhile isSpace).takeWhile isDigit
      if digits.isEmpty then [] else leading ++ sign ++ rest.takeWhile isSpace ++ digits

def parity : Recognizer
  | 'o' :: 'd' :: 'd' :: _ => some ['o', 'd', 'd']
  | 'e' :: 'v' :: 'e' :: 'n' :: _ => some ['e', 'v', 'e', 'n']
  | _ => none

/-- A position such as `2n + 1`, `-n`, `+3`, `odd` or `even`. -/
def position : Recognizer := fun input =>
  let (sign, unsigned) := splitSign input
  let digits := unsigned.takeWhile isDigit
  match unsigned.dropWhile isDigit with
  | 'n' :: rest => some (sign ++ digits ++ 'n' :: positionConstant rest)
  | _ => if digits.isEmpty then parity input else some (sign ++ digits)

/-- Whether a position may end here: at white space, at a closing parenthesis or at the end. -/
def endsPosition : List Char → Bool
  | [] => true
  | c :: _ => isSpace c || c = ')'

def delimitedPosition : Recognizer := fun input =>
  match position input with
  | some lexeme => if endsPosition (input.drop lexeme.length) then some lexeme else none
  | none => none

/-! ## Attributes and strings -/

def modifiesOperator (c : Char) : Bool := c = '~' || c = '^' || c = '$' || c = '*' || c = '|'

def attributeOperator : Recognizer
  | '=' :: _ => some ['=']
  | c :: '=' :: _ => if modifiesOperator c then some [c, '='] else none
  | _ => none

def attributeWord : Recognizer := run continuesName

def escapedCharacter : Recognizer
  | '\\' :: c :: _ => some ['\\', c]
  | _ => none

def stringCharacters (quote : Char) : Recognizer := run fun c => c ≠ quote && c ≠ '\\'

/-! ## Patterns that may match anywhere -/

/-- A search in a text: where a match starts and how many characters it has. -/
abbrev Finder := List Char → Option (Nat × Nat)

def findRun (belongs : Char → Bool) : Finder := fun input =>
  let start := input.findIdx belongs
  let found := (input.drop start).takeWhile belongs
  if found.isEmpty then none else some (start, found.length)

def leadingRun (belongs : Char → Bool) : Finder := fun input =>
  some (0, (input.takeWhile belongs).length)

def leadingChar (belongs : Char → Bool) : Finder
  | [] => none
  | c :: _ => if belongs c then some (0, 1) else none

/-- A search as a recognizer: only a match at the front counts, and only if it is not empty. -/
def atFront (find : Finder) : Recognizer := fun input =>
  match find input with
  | some (0, count) => nonempty (input.take count)
  | _ => none

def single (belongs : Char → Bool) : Recognizer
  | [] => none
  | c :: _ => if belongs c then some [c] else none

private theorem take_length_takeWhile (belongs : Char → Bool) (input : List Char) :
    input.take (input.takeWhile belongs).length = input.takeWhile belongs :=
  (List.prefix_iff_eq_take.mp (List.takeWhile_prefix belongs)).symm

/-- A run that counts only at the front need not be searched for. -/
theorem atFront_findRun (belongs : Char → Bool) : atFront (findRun belongs) = run belongs := by
  funext input
  cases input with
  | nil => rfl
  | cons c rest =>
      cases member : belongs c with
      | true =>
          simp [atFront, findRun, run, nonempty, List.findIdx_cons, member, take_length_takeWhile]
      | false => simp [atFront, findRun, run, nonempty, List.findIdx_cons, member]

theorem atFront_leadingRun (belongs : Char → Bool) :
    atFront (leadingRun belongs) = run belongs := by
  funext input
  simp [atFront, leadingRun, run, take_length_takeWhile]

theorem atFront_leadingChar (belongs : Char → Bool) :
    atFront (leadingChar belongs) = single belongs := by
  funext input
  cases input with
  | nil => rfl
  | cons c rest =>
      cases member : belongs c <;> simp [atFront, leadingChar, single, nonempty, member]

end Lexeme

end CssSelector
