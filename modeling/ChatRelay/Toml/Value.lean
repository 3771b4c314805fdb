import Std.Data.TreeMap.Raw.Basic

/-!
# TOML values

What a TOML file says. Numbers with a fraction and moments in time are recognised but have no setting
that they could give, so their values are not kept. A table remembers how it came about, since this
decides what may still be added to it.

- `Value.fields?`: the fields of a record given as a value.
- `Value.string?`, `Value.natural?`: a value of a simple type.
-/

namespace ChatRelay.Toml

/-- How a table came about. -/
inductive Origin where
  /-- It stands between braces, and is complete. -/
  | braces
  /-- A header began it. -/
  | header
  /-- A header led through it to another table. -/
  | passage
  /-- A dotted key led through it. -/
  | dottedKey
  deriving DecidableEq, Repr, Inhabited

/-- A value of a TOML file. -/
inductive Value where
  | string (text : String)
  | integer (n : Int)
  | float
  | boolean (b : Bool)
  | moment
  | array (items : List Value)
  | table (origin : Origin) (entries : Std.TreeMap.Raw String Value)
  /-- The tables that headers with double brackets began, the latest first. -/
  | tables (latestFirst : List (Std.TreeMap.Raw String Value))
  deriving Inhabited

/-- The entries of a table by their keys. -/
abbrev Entries := Std.TreeMap.Raw String Value

namespace Value

/-- The fields of a record given as a value: by name from a table, by position from an array. A moment
has none of them. No other value is a record. -/
def fields? (names : List String) : Value → Option (List (Option Value))
  | table _ entries => some (names.map fun name => entries.get? name)
  | array items => some (names.mapIdx fun i _ => items[i]?)
  | tables latestFirst =>
    some (names.mapIdx fun i _ => latestFirst.reverse[i]?.map (table .header))
  | moment => some (names.map fun _ => none)
  | _ => none

/-- A text. -/
def string? : Value → Option String
  | string text => some text
  | _ => none

/-- An integer from 0 to `greatest`. -/
def natural? (greatest : Nat) : Value → Option Nat
  | integer n => if 0 ≤ n ∧ n.toNat ≤ greatest then some n.toNat else none
  | _ => none

end Value

end ChatRelay.Toml
