import CssSelector.Json.Reader

/-!
# Strings and keys of TOML

Each reader takes the input behind an opening mark and returns what it read with the rest.
Control characters are refused, except for the tab and, where lines may break, line breaks.
-/

set_option autoImplicit false

namespace CssSelector

namespace Toml

def isBlank (c : Char) : Bool := c = ' ' || c = '\t'

def skipBlanks (input : List Char) : List Char := input.dropWhile isBlank

def isPlain (c : Char) : Bool := c = '\t' || (32 ≤ c.toNat && c.toNat ≠ 127)

def skipBreak? : List Char → Option (List Char)
  | '\n' :: rest => some rest
  | '\r' :: '\n' :: rest => some rest
  | _ => none

def unescape? (c : Char) : Option Char :=
  match c with
  | '"' => some '"'
  | '\\' => some '\\'
  | 'b' => some '\x08'
  | 'f' => some '\x0c'
  | 'n' => some '\n'
  | 'r' => some '\r'
  | 't' => some '\t'
  | _ => none

def codePoint? (digits : List Char) : Option Char := do
  let code ← Json.hexNumber? digits
  if code.isValidChar then some (Char.ofNat code) else none

def readBasic (reversed : List Char) : List Char → Option (String × List Char)
  | [] => none
  | ['\\'] => none
  | '\\' :: 'u' :: a :: b :: c :: d :: rest =>
      match codePoint? [a, b, c, d] with
      | some plain => readBasic (plain :: reversed) rest
      | none => none
  | '\\' :: 'U' :: a :: b :: c :: d :: e :: f :: g :: h :: rest =>
      match codePoint? [a, b, c, d, e, f, g, h] with
      | some plain => readBasic (plain :: reversed) rest
      | none => none
  | '\\' :: c :: rest =>
      match unescape? c with
      | some plain => readBasic (plain :: reversed) rest
      | none => none
  | c :: rest =>
      if c = '"' then some (String.ofList reversed.reverse, rest)
      else if isPlain c then readBasic (c :: reversed) rest
      else none

def readLiteral (reversed : List Char) : List Char → Option (String × List Char)
  | [] => none
  | c :: rest =>
      if c = '\'' then some (String.ofList reversed.reverse, rest)
      else if isPlain c then readLiteral (c :: reversed) rest
      else none

/-- Where a run of quotes in a string of several lines ends the string: the quotes that belong to
the string and what comes behind it. The last three of at most five quotes end it. -/
def closingQuotes? (quote : Char) (input : List Char) : Option (List Char × List Char) :=
  let quotes := (input.take 5).takeWhile (· = quote)
  if quotes.length < 3 then none else some (quotes.drop 3, input.drop quotes.length)

/-- The input without the blanks and line breaks at its front. A carriage return alone is none. -/
def skipFolded : List Char → List Char
  | [] => []
  | '\r' :: '\n' :: rest => skipFolded rest
  | c :: rest => if isBlank c || c = '\n' then skipFolded rest else c :: rest

/-- What comes behind a backslash at the end of a line, up to the next visible character. -/
def skipFold? (input : List Char) : Option (List Char) :=
  (skipBreak? (skipBlanks input)).map skipFolded

def readLongBasic : Nat → List Char → List Char → Option (String × List Char)
  | 0, _, _ => none
  | fuel + 1, reversed, input =>
      match closingQuotes? '"' input with
      | some (quotes, rest) => some (String.ofList (quotes ++ reversed).reverse, rest)
      | none =>
          match input with
          | '\\' :: 'u' :: a :: b :: c :: d :: rest => do
              readLongBasic fuel ((← codePoint? [a, b, c, d]) :: reversed) rest
          | '\\' :: 'U' :: a :: b :: c :: d :: e :: f :: g :: h :: rest => do
              readLongBasic fuel ((← codePoint? [a, b, c, d, e, f, g, h]) :: reversed) rest
          | '\\' :: c :: rest =>
              match unescape? c with
              | some plain => readLongBasic fuel (plain :: reversed) rest
              | none => do readLongBasic fuel reversed (← skipFold? (c :: rest))
          | '\r' :: '\n' :: rest => readLongBasic fuel ('\n' :: reversed) rest
          | c :: rest =>
              if c = '\n' || (isPlain c && c ≠ '\\') then readLongBasic fuel (c :: reversed) rest
              else none
          | [] => none

def readLongLiteral : Nat → List Char → List Char → Option (String × List Char)
  | 0, _, _ => none
  | fuel + 1, reversed, input =>
      match closingQuotes? '\'' input with
      | some (quotes, rest) => some (String.ofList (quotes ++ reversed).reverse, rest)
      | none =>
          match input with
          | '\r' :: '\n' :: rest => readLongLiteral fuel ('\n' :: reversed) rest
          | c :: rest =>
              if c = '\n' || isPlain c then readLongLiteral fuel (c :: reversed) rest else none
          | [] => none

def dropBreak (input : List Char) : List Char := (skipBreak? input).getD input

def readString (fuel : Nat) (input : List Char) : Option (String × List Char) :=
  match input with
  | '"' :: '"' :: '"' :: rest => readLongBasic fuel [] (dropBreak rest)
  | '\'' :: '\'' :: '\'' :: rest => readLongLiteral fuel [] (dropBreak rest)
  | '"' :: rest => readBasic [] rest
  | '\'' :: rest => readLiteral [] rest
  | _ => none

def isBare (c : Char) : Bool :=
  ('a' ≤ c && c ≤ 'z') || ('A' ≤ c && c ≤ 'Z') || Json.isDecimal c || c = '_' || c = '-'

def readSimpleKey (input : List Char) : Option (String × List Char) :=
  match input with
  | '"' :: rest => readBasic [] rest
  | '\'' :: rest => readLiteral [] rest
  | _ =>
      let key := input.takeWhile isBare
      if key.isEmpty then none else some (String.ofList key, input.dropWhile isBare)

/-- The bound on the parts of a key and on the nesting of values. -/
def maxNesting : Nat := 80

def readKey : Nat → List Char → Option (List String × List Char)
  | 0, _ => none
  | fuel + 1, input => do
      let (key, rest) ← readSimpleKey (skipBlanks input)
      match skipBlanks rest with
      | '.' :: rest =>
          let (later, rest) ← readKey fuel rest
          return (key :: later, rest)
      | rest => return ([key], rest)

end Toml

end CssSelector
