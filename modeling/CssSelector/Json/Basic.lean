/-!
# JSON values and their text

Values keep the order of their fields. Two forms of text are written: the compact form without
blanks, and the spread form with one item a line and two blanks for each level.
-/

set_option autoImplicit false

namespace CssSelector

/-- A JSON value. Numbers are natural numbers; of every other literal nothing is kept. -/
inductive Json where
  | null
  | bool (value : Bool)
  | natural (value : Nat)
  | text (value : String)
  | array (items : List Json)
  | object (fields : List (String × Json))
  /-- A well-formed value that is no data for this library. It is never part of what is written;
  `null` stands for it there. -/
  | other
  deriving Repr

namespace Json

/-! ## Strings -/

def hexDigit (value : Nat) : Char :=
  if value < 10 then Char.ofNat (48 + value) else Char.ofNat (87 + value)

/-- The escape of a character within a string, for those that need one: the quote, the backslash
and the control characters. -/
def escape? (c : Char) : Option String :=
  if c = '"' then some "\\\""
  else if c = '\\' then some "\\\\"
  else if c = '\x08' then some "\\b"
  else if c = '\x0c' then some "\\f"
  else if c = '\n' then some "\\n"
  else if c = '\r' then some "\\r"
  else if c = '\t' then some "\\t"
  else if c.toNat < 32 then
    some (String.ofList ['\\', 'u', '0', '0', hexDigit (c.toNat / 16), hexDigit (c.toNat % 16)])
  else none

def writeChar (written : String) (c : Char) : String :=
  match escape? c with
  | some escape => written ++ escape
  | none => written.push c

def writeText (written : String) (text : String) : String :=
  (text.toList.foldl writeChar (written.push '"')).push '"'

/-! ## The compact form -/

mutual

def writeTo (written : String) : Json → String
  | null => written ++ "null"
  | bool value => written ++ (if value then "true" else "false")
  | natural value => written ++ toString value
  | text value => writeText written value
  | array [] => written ++ "[]"
  | array (first :: later) => (writeItems (writeTo (written.push '[') first) later).push ']'
  | object [] => written ++ "\x7b\x7d"
  | object ((key, value) :: later) =>
      let opened := (writeText (written.push '\x7b') key).push ':'
      (writeFields (writeTo opened value) later).push '\x7d'
  | other => written ++ "null"

def writeItems (written : String) : List Json → String
  | [] => written
  | item :: later => writeItems (writeTo (written.push ',') item) later

def writeFields (written : String) : List (String × Json) → String
  | [] => written
  | (key, value) :: later =>
      writeFields (writeTo ((writeText (written.push ',') key).push ':') value) later

end

def compact (value : Json) : String := writeTo "" value

/-! ## The spread form -/

def newLine (written : String) (level : Nat) : String :=
  (List.replicate (2 * level) ' ').foldl String.push (written.push '\n')

mutual

/-- Writes a value in the spread form; its lines are those of a level. -/
def spreadTo (level : Nat) (written : String) : Json → String
  | array (first :: later) =>
      let opened := spreadTo (level + 1) (newLine (written.push '[') (level + 1)) first
      (newLine (spreadItems (level + 1) opened later) level).push ']'
  | object ((key, value) :: later) =>
      let opened := writeText (newLine (written.push '\x7b') (level + 1)) key ++ ": "
      let first := spreadTo (level + 1) opened value
      (newLine (spreadFields (level + 1) first later) level).push '\x7d'
  | value => writeTo written value

def spreadItems (level : Nat) (written : String) : List Json → String
  | [] => written
  | item :: later =>
      spreadItems level (spreadTo level (newLine (written.push ',') level) item) later

def spreadFields (level : Nat) (written : String) : List (String × Json) → String
  | [] => written
  | (key, value) :: later =>
      let opened := writeText (newLine (written.push ',') level) key ++ ": "
      spreadFields level (spreadTo level opened value) later

end

def spread (value : Json) : String := spreadTo 0 "" value

end Json

end CssSelector
