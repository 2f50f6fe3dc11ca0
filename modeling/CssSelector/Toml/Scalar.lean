import CssSelector.Toml.Text

/-!
# Numbers, times and truth values of TOML

A scalar is a word without blanks; only a date and a time may have one blank between them. Numbers
are checked and then dropped, since no setting is a number. A time is a record with a field of its
own, so it may stand where a record is asked for, and then it gives none of the fields.
-/

set_option autoImplicit false

namespace CssSelector

namespace Toml

def unsigned : List Char → List Char
  | '+' :: rest => rest
  | '-' :: rest => rest
  | word => word

/-- Digits of a class, with single underscores between digits only. -/
def isGrouped (belongs : Char → Bool) : List Char → Bool
  | [] => false
  | [c] => belongs c
  | c :: '_' :: rest => belongs c && isGrouped belongs rest
  | c :: rest => belongs c && isGrouped belongs rest

def isDecimalInteger (word : List Char) : Bool :=
  isGrouped Json.isDecimal word && (word.head? ≠ some '0' || word.length = 1)

def maxInteger : Nat := 9223372036854775807

/-- The value of digits to a base, without the underscores. Digits are read while the value is at
most a limit, so a value above it is only known to be above it. -/
def digitsValue (limit base : Nat) (digits : List Char) : Nat :=
  digits.foldl
    (fun value c =>
      if c = '_' || limit < value then value else base * value + (Json.hexValue? c).getD 0) 0

def isDigitOf (base : Nat) (c : Char) : Bool :=
  match Json.hexValue? c with
  | some value => value < base
  | none => false

/-- An integer of 64 bits: decimal with an optional sign, or hexadecimal, octal or binary. -/
def isInteger (word : List Char) : Bool :=
  match word with
  | '0' :: 'x' :: digits => based 16 digits
  | '0' :: 'o' :: digits => based 8 digits
  | '0' :: 'b' :: digits => based 2 digits
  | _ =>
      let digits := unsigned word
      let bound := if word.head? = some '-' then maxInteger + 1 else maxInteger
      isDecimalInteger digits && digitsValue bound 10 digits ≤ bound
where
  based (base : Nat) (digits : List Char) : Bool :=
    isGrouped (isDigitOf base) digits && digitsValue maxInteger base digits ≤ maxInteger

def maxPlaces : Nat := 309

/-- The least number that rounds to something beyond the largest double: half a unit above it. -/
def doubleLimit : Nat := Nat.pow 2 1024 - Nat.pow 2 970

/-- Whether a decimal number rounds to something beyond the largest double. The number has the
given digits, and its point stands behind the given number of places; the first digit is not zero.
Only the part before the point matters. -/
def overflows (digits : List Char) (places : Int) : Bool :=
  let whole := digits.take maxPlaces
  let missing := maxPlaces - whole.length
  !digits.isEmpty
    && (maxPlaces < places
        || (places = maxPlaces && doubleLimit ≤ Json.decimalValue whole * Nat.pow 10 missing))

def splitAt (isMark : Char → Bool) (word : List Char) : List Char × Option (List Char) :=
  match word.dropWhile fun c => !isMark c with
  | [] => (word, none)
  | _ :: rest => (word.takeWhile fun c => !isMark c, some rest)

/-- No digits of an exponent are read once it has reached this size. -/
def exponentLimit : Nat := 65535

def exponentValue (exponent : List Char) : Int :=
  let size : Int := digitsValue exponentLimit 10 (unsigned exponent)
  if exponent.head? = some '-' then -size else size

/-- A number with a fraction, an exponent or both. Above zero it may not be too large to be a
double. -/
def isFraction (word : List Char) : Bool :=
  let (mantissa, exponent) := splitAt (fun c => c = 'e' || c = 'E') (unsigned word)
  let (whole, fraction) := splitAt (· = '.') mantissa
  let wholeDigits := whole.filter (· ≠ '_')
  let fractionDigits := (fraction.getD []).filter (· ≠ '_')
  let allDigits := wholeDigits ++ fractionDigits
  let digits := allDigits.dropWhile (· = '0')
  let places : Int := digits.length - fractionDigits.length + exponentValue (exponent.getD [])
  (fraction.isSome || exponent.isSome)
    && isDecimalInteger whole
    && (fraction.isNone || isGrouped Json.isDecimal (fraction.getD []))
    && (exponent.isNone || isGrouped Json.isDecimal (unsigned (exponent.getD [])))
    && (word.head? = some '-' || !overflows digits places)

def isSpecial (word : List Char) : Bool :=
  unsigned word = ['i', 'n', 'f'] || unsigned word = ['n', 'a', 'n']

def twoDigits? (a b : Char) : Option Nat :=
  if Json.isDecimal a && Json.isDecimal b then some (Json.decimalValue [a, b]) else none

def daysInMonth (year month : Nat) : Nat :=
  if month = 2 then
    if year % 4 = 0 && (year % 100 ≠ 0 || year % 400 = 0) then 29 else 28
  else if month = 4 || month = 6 || month = 9 || month = 11 then 30
  else 31

def skipDate? : List Char → Option (List Char)
  | a :: b :: c :: d :: '-' :: e :: f :: '-' :: g :: h :: rest => do
      let century ← twoDigits? a b
      let year := 100 * century + (← twoDigits? c d)
      let month ← twoDigits? e f
      let day ← twoDigits? g h
      if 1 ≤ month && month ≤ 12 && 1 ≤ day && day ≤ daysInMonth year month then some rest
      else none
  | _ => none

def skipTime? : List Char → Option (List Char)
  | a :: b :: ':' :: c :: d :: ':' :: e :: f :: rest => do
      let hour ← twoDigits? a b
      let minute ← twoDigits? c d
      let second ← twoDigits? e f
      if hour ≤ 23 && minute ≤ 59 && second ≤ 60 then
        match rest with
        | '.' :: fraction => Json.skipDigits? fraction
        | _ => some rest
      else none
  | _ => none

def isZone : List Char → Bool
  | ['Z'] => true
  | ['z'] => true
  | [sign, a, b, ':', c, d] =>
      (sign = '+' || sign = '-')
        && (match twoDigits? a b, twoDigits? c d with
            | some hour, some minute => hour ≤ 23 && minute ≤ 59
            | _, _ => false)
  | _ => false

def isZonedTime (word : List Char) : Bool :=
  match skipTime? word with
  | some rest => rest.isEmpty || isZone rest
  | none => false

def isTime (word : List Char) : Bool :=
  match skipDate? word with
  | some [] => true
  | some (mark :: time) => (mark = 'T' || mark = 't' || mark = ' ') && isZonedTime time
  | none => skipTime? word = some []

def isScalarChar (c : Char) : Bool :=
  isBare c || c = '+' || c = '.' || c = ':'

/-- The word at the front of an input; behind a date it goes on over one blank. -/
def scalarWord (input : List Char) : List Char :=
  let word := input.takeWhile isScalarChar
  match input.dropWhile isScalarChar with
  | ' ' :: c :: rest =>
      if skipDate? word = some [] && Json.isDecimal c then
        word ++ ' ' :: (c :: rest).takeWhile isScalarChar
      else word
  | _ => word

def readScalar (input : List Char) : Option (Json × List Char) :=
  let word := scalarWord input
  let rest := input.drop word.length
  if word = ['t', 'r', 'u', 'e'] then some (.bool true, rest)
  else if word = ['f', 'a', 'l', 's', 'e'] then some (.bool false, rest)
  else if isTime word then some (.object [("datetime", .text (String.ofList word))], rest)
  else if isInteger word || isFraction word || isSpecial word then some (.other, rest)
  else none

end Toml

end CssSelector
