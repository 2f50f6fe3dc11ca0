import CssSelector.Json.Basic

/-!
# Reading JSON

The reader accepts exactly the JSON grammar: no comments, no trailing commas, no leading zeros,
no raw control characters in strings. A string literal may spell a lone surrogate; then it is
well-formed, but it is no text, and it becomes `Json.other`, like every number that is not
written as a natural number of at most twenty digits; no larger one fits into 64 bits.
-/

set_option autoImplicit false

namespace CssSelector

namespace Json

def isBlank (c : Char) : Bool := c = ' ' || c = '\t' || c = '\n' || c = '\r'

def skipBlanks (input : List Char) : List Char := input.dropWhile isBlank

def isDecimal (c : Char) : Bool := '0' ≤ c && c ≤ '9'

def decimalValue (digits : List Char) : Nat :=
  digits.foldl (fun value c => 10 * value + (c.toNat - 48)) 0

def hexValue? (c : Char) : Option Nat :=
  if '0' ≤ c && c ≤ '9' then some (c.toNat - 48)
  else if 'a' ≤ c && c ≤ 'f' then some (c.toNat - 87)
  else if 'A' ≤ c && c ≤ 'F' then some (c.toNat - 55)
  else none

def hexNumber? (digits : List Char) : Option Nat :=
  digits.foldl (fun value c => do return 16 * (← value) + (← hexValue? c)) (some 0)

def unescape? (c : Char) : Option Char :=
  match c with
  | '"' => some '"'
  | '\\' => some '\\'
  | '/' => some '/'
  | 'b' => some '\x08'
  | 'f' => some '\x0c'
  | 'n' => some '\n'
  | 'r' => some '\r'
  | 't' => some '\t'
  | _ => none

/-- What is known of a string literal while it is read: the characters so far in reverse, a
leading surrogate that waits for its other half, and whether all halves found each other. -/
structure Literal where
  reversed : List Char
  pending : Option Nat
  sound : Bool

namespace Literal

def start : Literal := ⟨[], none, true⟩

def add (literal : Literal) (c : Char) : Literal :=
  ⟨c :: literal.reversed, none, literal.sound && literal.pending.isNone⟩

def addUnit (literal : Literal) (unit : Nat) : Literal :=
  let leading := 0xD800 ≤ unit && unit < 0xDC00
  let trailing := 0xDC00 ≤ unit && unit < 0xE000
  match literal.pending with
  | some first =>
      if trailing then
        let code := 0x10000 + (first - 0xD800) * 0x400 + (unit - 0xDC00)
        ⟨Char.ofNat code :: literal.reversed, none, literal.sound⟩
      else ⟨literal.reversed, none, false⟩
  | none =>
      if leading then ⟨literal.reversed, some unit, literal.sound⟩
      else if trailing then ⟨literal.reversed, none, false⟩
      else literal.add (Char.ofNat unit)

def text? (literal : Literal) : Option String :=
  if literal.sound && literal.pending.isNone then some (String.ofList literal.reversed.reverse)
  else none

end Literal

/-- Reads a string behind its opening quote. The outer `none` is a syntax error, the inner one a
literal that is no text. -/
def readLiteral (literal : Literal) : List Char → Option (Option String × List Char)
  | [] => none
  | ['\\'] => none
  | '\\' :: 'u' :: a :: b :: c :: d :: rest =>
      match hexNumber? [a, b, c, d] with
      | some unit => readLiteral (literal.addUnit unit) rest
      | none => none
  | '\\' :: c :: rest =>
      match unescape? c with
      | some plain => readLiteral (literal.add plain) rest
      | none => none
  | c :: rest =>
      if c = '"' then some (literal.text?, rest)
      else if c.toNat < 32 then none
      else readLiteral (literal.add c) rest

def skipDigits? (input : List Char) : Option (List Char) :=
  match input with
  | [] => none
  | c :: rest => if isDecimal c then some (rest.dropWhile isDecimal) else none

/-- What comes behind the digits of an integer, which has no leading zero. -/
def skipInteger? (input : List Char) : Option (List Char) :=
  match input with
  | '0' :: rest =>
      match rest with
      | c :: _ => if isDecimal c then none else some rest
      | [] => some []
  | _ => skipDigits? input

def skipFraction? (input : List Char) : Option (List Char) :=
  match input with
  | '.' :: rest => skipDigits? rest
  | _ => some input

def skipExponent? (input : List Char) : Option (List Char) :=
  match input with
  | c :: rest =>
      if c = 'e' || c = 'E' then
        match rest with
        | '+' :: digits => skipDigits? digits
        | '-' :: digits => skipDigits? digits
        | digits => skipDigits? digits
      else some input
  | [] => some []

/-- A character that numbers are spelled with. No value goes on with one of them behind a number. -/
def isNumeric (c : Char) : Bool :=
  isDecimal c || c = '-' || c = '+' || c = '.' || c = 'e' || c = 'E'

def isNumber (word : List Char) : Bool :=
  let unsigned := match word with
    | '-' :: rest => rest
    | _ => word
  ((skipInteger? unsigned).bind skipFraction?).bind skipExponent? == some []

def maxDigits : Nat := 20

def readNumber (input : List Char) : Option (Json × List Char) :=
  let word := input.takeWhile isNumeric
  let rest := input.dropWhile isNumeric
  if !isNumber word then none
  else if word.all isDecimal && word.length ≤ maxDigits then
    some (.natural (decimalValue word), rest)
  else some (.other, rest)

def readWord (word : List Char) (value : Json) (input : List Char) : Option (Json × List Char) :=
  if word.isPrefixOf input then some (value, input.drop word.length) else none

def readString (input : List Char) : Option (Option String × List Char) :=
  match input with
  | '"' :: rest => readLiteral .start rest
  | _ => none

def textFields? (fields : List (Option String × Json)) : Option (List (String × Json)) :=
  fields.mapM fun (key, value) => key.map fun key => (key, value)

mutual

/-- Reads a value. The fuel bounds the number of values and separators. -/
def readValue : Nat → List Char → Option (Json × List Char)
  | 0, _ => none
  | fuel + 1, input =>
      let input := skipBlanks input
      match input with
      | [] => none
      | '"' :: rest =>
          match readLiteral .start rest with
          | some (some content, rest) => some (.text content, rest)
          | some (none, rest) => some (.other, rest)
          | none => none
      | '[' :: rest =>
          match skipBlanks rest with
          | ']' :: rest => some (.array [], rest)
          | _ => readItems fuel [] rest
      | '\x7b' :: rest =>
          match skipBlanks rest with
          | '\x7d' :: rest => some (.object [], rest)
          | _ =>
              match readFields fuel [] rest with
              | some (fields, rest) =>
                  match textFields? fields with
                  | some fields => some (.object fields, rest)
                  | none => some (.other, rest)
              | none => none
      | 'n' :: _ => readWord ['n', 'u', 'l', 'l'] .null input
      | 't' :: _ => readWord ['t', 'r', 'u', 'e'] (.bool true) input
      | 'f' :: _ => readWord ['f', 'a', 'l', 's', 'e'] (.bool false) input
      | _ => readNumber input

def readItems : Nat → List Json → List Char → Option (Json × List Char)
  | 0, _, _ => none
  | fuel + 1, reversed, input =>
      match readValue fuel input with
      | none => none
      | some (item, rest) =>
          match skipBlanks rest with
          | ',' :: rest => readItems fuel (item :: reversed) rest
          | ']' :: rest => some (.array (item :: reversed).reverse, rest)
          | _ => none

def readFields : Nat → List (Option String × Json) → List Char →
    Option (List (Option String × Json) × List Char)
  | 0, _, _ => none
  | fuel + 1, reversed, input =>
      match readString (skipBlanks input) with
      | none => none
      | some (key, rest) =>
          match skipBlanks rest with
          | ':' :: rest =>
              match readValue fuel rest with
              | none => none
              | some (value, rest) =>
                  match skipBlanks rest with
                  | ',' :: rest => readFields fuel ((key, value) :: reversed) rest
                  | '\x7d' :: rest => some (((key, value) :: reversed).reverse, rest)
                  | _ => none
          | _ => none

end

/-- The value that a text spells; nothing but blanks may surround it. -/
def read? (written : String) : Option Json :=
  let input := written.toList
  match readValue (input.length + 1) input with
  | some (value, rest) => if (skipBlanks rest).isEmpty then some value else none
  | none => none

end Json

end CssSelector
