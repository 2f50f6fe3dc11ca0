import CssSelector.Json.Basic

/-!
# Reading records and names out of values

A record is written as an object with its fields in any order, or as an array of its fields in
order. Fields that a record does not have are passed over; a field of the record that is given
twice is refused. The formats differ in two details, which `RecordRules` holds.
-/

set_option autoImplicit false

namespace CssSelector

/-- Where the data formats differ in how they spell records and names. -/
structure RecordRules where
  /-- Whether an array may go on behind the fields of its record. -/
  extraItems : Bool
  /-- Whether a value may stand behind the name of an alternative that carries nothing. -/
  carriesNothing : Json → Bool

namespace Json

/-- JSON: an array has no more items than the record has fields, and `null` is nothing. -/
def records : RecordRules where
  extraItems := false
  carriesNothing
    | .null => true
    | _ => false

def fields? (rules : RecordRules) (names : List String) : Json → Option (List (Option Json))
  | object fields =>
      if names.any fun name => 1 < fields.countP fun field => field.1 = name then none
      else some (names.map fun name => (fields.find? fun field => field.1 = name).map (·.2))
  | array items =>
      if !rules.extraItems && names.length < items.length then none
      else some ((List.range names.length).map fun place => items[place]?)
  | _ => none

/-- The name of an alternative: a text, or an object with the name as its only key. -/
def alternative? (rules : RecordRules) : Json → Option String
  | text name => some name
  | object [(name, value)] => if rules.carriesNothing value then some name else none
  | _ => none

def natural? (bound : Nat) : Json → Option Nat
  | natural value => if value ≤ bound then some value else none
  | _ => none

def bool? : Json → Option Bool
  | bool value => some value
  | _ => none

def text? : Json → Option String
  | text value => some value
  | _ => none

def items? : Json → Option (List Json)
  | array items => some items
  | _ => none

end Json

end CssSelector
