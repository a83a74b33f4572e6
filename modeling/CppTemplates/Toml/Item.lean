/-!
# TOML items

A TOML document is a table: named items, each a value or a table in turn. Every table remembers
how it came about, because that decides whether later lines may add to it.
-/

namespace CppTemplates.Toml

structure Date where
  year : Nat
  month : Nat
  day : Nat
deriving DecidableEq, Repr, Inhabited

structure Time where
  hour : Nat
  minute : Nat
  second : Nat
  /-- The digits after the decimal point. -/
  fraction : List Char
deriving DecidableEq, Repr, Inhabited

/-- A point in time, as far as it is given. -/
structure DateTime where
  date : Option Date
  time : Option Time
  /-- The distance from universal time in minutes. -/
  offset : Option Int
deriving DecidableEq, Repr, Inhabited

/-- A floating point number as it is written. -/
inductive Float where
  /-- A mantissa times a power of ten. -/
  | decimal (negative : Bool) (mantissa : Nat) (exponent : Int)
  | infinity (negative : Bool)
  | notANumber
deriving DecidableEq, Repr, Inhabited

/-- How a table came about. -/
inductive TableOrigin where
  /-- By a header of its own, or as the document itself. -/
  | header
  /-- On the way to the table that a header names. -/
  | path
  /-- By a dotted key. -/
  | dottedKey
  /-- Between braces, as a value. -/
  | inline
deriving DecidableEq, Repr, Inhabited

/-- What a key stands for. -/
inductive Item where
  | string (text : String)
  | integer (value : Int)
  | float (value : Float)
  | boolean (value : Bool)
  | dateTime (value : DateTime)
  | array (items : List Item)
  | table (origin : TableOrigin) (entries : List (String × Item))
  /-- The tables of double-bracket headers. -/
  | tables (elements : List (List (String × Item)))
deriving Repr, Inhabited

/-- The named items of a table, in the order in which they were added. -/
abbrev Entries := List (String × Item)

end CppTemplates.Toml
