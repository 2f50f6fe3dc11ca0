import CssSelector.Toml.Scalar
import CssSelector.Toml.Table

/-!
# Reading TOML

A document is read line by line: comments, table headers, and keys with values.
-/

set_option autoImplicit false

namespace CssSelector

namespace Toml

def skipComment? (input : List Char) : Option (List Char) :=
  match input with
  | '#' :: rest => some (rest.dropWhile isPlain)
  | _ => some input

/-- What comes behind the end of a line: blanks, a comment, and a line break or the end. -/
def skipLineEnd? (input : List Char) : Option (List Char) := do
  match ← skipComment? (skipBlanks input) with
  | [] => some []
  | rest => skipBreak? rest

/-- What comes behind blanks, comments and line breaks; the flag tells whether the input starts
within a comment. -/
def skipLayout (inComment : Bool) : List Char → List Char
  | [] => []
  | '\r' :: '\n' :: rest => skipLayout false rest
  | c :: rest =>
      if c = '\n' then skipLayout false rest
      else if inComment && isPlain c then skipLayout true rest
      else if !inComment && isBlank c then skipLayout false rest
      else if !inComment && c = '#' then skipLayout true rest
      else c :: rest

def splitPath (path : List String) : Option (List String × String) :=
  path.getLast?.map fun key => (path.dropLast, key)

mutual

/-- Reads a value at a level of nesting. The fuel bounds the length of the input. -/
def readValue : Nat → Nat → List Char → Option (Json × List Char)
  | 0, _, _ => none
  | fuel + 1, level, input =>
      match input with
      | '[' :: rest => if maxNesting ≤ level + 1 then none else readItems fuel (level + 1) [] rest
      | '\x7b' :: rest =>
          if maxNesting ≤ level + 1 then none
          else
            match skipBlanks rest with
            | '\x7d' :: rest => some (.object [], rest)
            | rest => readEntries fuel (level + 1) ∅ rest
      | '"' :: _ => (readString fuel input).map fun (content, rest) => (.text content, rest)
      | '\'' :: _ => (readString fuel input).map fun (content, rest) => (.text content, rest)
      | _ => readScalar input

/-- Reads the items of an array up to its closing bracket. A comma may follow the last one. -/
def readItems : Nat → Nat → List Json → List Char → Option (Json × List Char)
  | 0, _, _, _ => none
  | fuel + 1, level, reversed, input =>
      match skipLayout false input with
      | ']' :: rest => some (.array reversed.reverse, rest)
      | input =>
          match readValue fuel level input with
          | none => none
          | some (item, rest) =>
              match skipLayout false rest with
              | ',' :: rest => readItems fuel level (item :: reversed) rest
              | ']' :: rest => some (.array (item :: reversed).reverse, rest)
              | _ => none

/-- Reads the entries of a table that is a value, up to its closing brace. It has no line breaks
and no comma behind the last entry. -/
def readEntries : Nat → Nat → Entries → List Char → Option (Json × List Char)
  | 0, _, _, _ => none
  | fuel + 1, level, entries, input =>
      match readKey (maxNesting - 1) input with
      | some (path, '=' :: rest) =>
          match readValue fuel level (skipBlanks rest), splitPath path with
          | some (data, rest), some (path, key) =>
              match insertValue path key data entries with
              | none => none
              | some entries =>
                  match skipBlanks rest with
                  | ',' :: rest => readEntries fuel level entries rest
                  | '\x7d' :: rest => some (entryData entries, rest)
                  | _ => none
          | _, _ => none
      | _ => none

end

def readEntry (fuel : Nat) (input : List Char) (document : Document) :
    Option (Document × List Char) := do
  match ← readKey (maxNesting - 1) input with
  | (path, '=' :: rest) =>
      let (data, rest) ← readValue fuel 0 (skipBlanks rest)
      let (path, key) ← splitPath path
      return (← document.insert path key data, rest)
  | _ => none

def readHeader (input : List Char) (document : Document) : Option (Document × List Char) := do
  match input with
  | '[' :: '[' :: rest =>
      match ← readKey (maxNesting - 1) rest with
      | (path, ']' :: ']' :: rest) =>
          let (path, key) ← splitPath path
          return (← document.openRow path key, rest)
      | _ => none
  | '[' :: rest =>
      match ← readKey (maxNesting - 1) rest with
      | (path, ']' :: rest) =>
          let (path, key) ← splitPath path
          return (← document.openTable path key, rest)
      | _ => none
  | _ => none

def readLines : Nat → List Char → Document → Option Document
  | 0, _, _ => none
  | fuel + 1, input, document =>
      match skipBlanks input with
      | [] => some document
      | '[' :: rest => do
          let (document, rest) ← readHeader ('[' :: rest) document
          readLines fuel (← skipLineEnd? rest) document
      | c :: rest =>
          if c = '#' || c = '\n' || c = '\r' then do
            readLines fuel (← skipLineEnd? (c :: rest)) document
          else do
            let (document, rest) ← readEntry (fuel + 1) (c :: rest) document
            readLines fuel (← skipLineEnd? rest) document

/-- The data of a document. A byte order mark at its start is passed over. -/
def read? (text : String) : Option Json := do
  let input := match text.toList with
    | '\uFEFF' :: rest => rest
    | input => input
  let document ← readLines (input.length + 1) input {}
  return entryData (← document.close)

end Toml

end CssSelector
