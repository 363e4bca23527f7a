/-!
Owns TOML documents as trees.

The entries of a table stand in ascending order of their keys. Dates and times are kept as written. A
number may be well-formed and have no value; it can stand where nobody asks for the value.
-/

namespace RuleGrammar

inductive Toml where
  | string (s : String)
  | integer (n : Int)
  | float (x : Float)
  | unreadable
  | boolean (b : Bool)
  | dateTime (text : String)
  | array (items : List Toml)
  | table (entries : List (String × Toml))
deriving Repr

namespace Toml

def asString? : Toml → Option String
  | .string s => some s
  | _ => none

def asBool? : Toml → Option Bool
  | .boolean b => some b
  | _ => none

/-- Integers that are not negative and fit in 64 bits. -/
def asNat? : Toml → Option Nat
  | .integer n => if 0 ≤ n ∧ n < UInt64.size then some n.toNat else none
  | _ => none

def asArray? : Toml → Option (List Toml)
  | .array items => some items
  | _ => none

/-- Where a table is asked for, a date or time is a table of a single entry, its text. -/
def asTable? : Toml → Option (List (String × Toml))
  | .table entries => some entries
  | .dateTime text => some [("$__toml_private_datetime", .string text)]
  | _ => none

/-! ## Numbers inside a value -/

mutual

/-- Whether every number in the value has a value, and every integer passes the test. -/
def allIntegers (test : Int → Bool) : Toml → Bool
  | .integer n => test n
  | .unreadable => false
  | .array items => allIntegersOfItems test items
  | .table entries => allIntegersOfEntries test entries
  | _ => true

def allIntegersOfItems (test : Int → Bool) : List Toml → Bool
  | [] => true
  | item :: items => item.allIntegers test && allIntegersOfItems test items

def allIntegersOfEntries (test : Int → Bool) : List (String × Toml) → Bool
  | [] => true
  | (_, value) :: entries => value.allIntegers test && allIntegersOfEntries test entries

end

/-- Whether every number can be read. -/
def isReadable (value : Toml) : Bool :=
  value.allIntegers fun _ => true

/-- Whether every number can be read and every integer fits in 64 bits, with a sign or without. -/
def fitsWords (value : Toml) : Bool :=
  value.allIntegers fun n => decide (-(Nat.pow 2 63) ≤ n ∧ n < UInt64.size)

end Toml

end RuleGrammar
