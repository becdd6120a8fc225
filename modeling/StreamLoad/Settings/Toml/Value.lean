/-!
# TOML values and tables under construction

A document is built line by line. Each table remembers how it came about,
since that decides what may still be put into it: a table in braces is closed,
a table made by a dotted key takes more dotted keys, a table that is only
mentioned on the way to another one may still get a header of its own. A name
has at most one value in a table.
-/

namespace StreamLoad
namespace Toml

/-- How a table came about. -/
inductive TableOrigin
  /-- It stands in braces. -/
  | closed
  /-- It has a header of its own. -/
  | header
  /-- It lies on the way to a table with a header. -/
  | implied
  /-- It lies on the way of a dotted key. -/
  | dotted
  deriving DecidableEq, Repr

/-- A TOML value. Dates, times and numbers with a fraction or an exponent are
recognised and not kept: no setting has such a value. -/
inductive Value
  | text (characters : String)
  | integer (number : Int)
  | real
  | boolean (value : Bool)
  | moment
  | array (items : List Value)
  | table (origin : TableOrigin) (entries : List (String × Value))
  /-- Tables under one repeated header; the latest may still grow. -/
  | tables
      (earlier : List (List (String × Value)))
      (latest : List (String × Value))

/-- The names of a table with their values, in order of appearance. -/
abbrev Entries : Type := List (String × Value)

namespace Entries

/-- The value of a name. -/
def get? (entries : Entries) (name : String) : Option Value :=
  entries.lookup name

/-- Give a new value to a name that already has one. -/
def replace (name : String) (value : Value) (entries : Entries) : Entries :=
  entries.map fun entry => if entry.1 = name then (name, value) else entry

/-- Give a value to a name that has none. -/
def insert? (name : String) (value : Value) (entries : Entries) :
    Option Entries :=
  match entries.get? name with
  | none => some (entries ++ [(name, value)])
  | some _ => none

/-- Give a value to the name at the end of a dotted key. The tables on the way
are made by dotted keys or, but for the last one, mentioned by headers. The
flag tells whether the table at hand takes the last name. -/
def assign (name : String) (value : Value) :
    List String -> Bool -> Entries -> Option Entries
  | [], takesName, entries =>
      if takesName then entries.insert? name value else none
  | step :: path, _, entries =>
      match entries.get? step with
      | none => do
          let inner ← assign name value path true []
          some (entries ++ [(step, .table .dotted inner)])
      | some (.table .dotted inner) => do
          let inner ← assign name value path true inner
          some (entries.replace step (.table .dotted inner))
      | some (.table .implied inner) => do
          let inner ← assign name value path false inner
          some (entries.replace step (.table .implied inner))
      | some (.tables earlier latest) => do
          let latest ← assign name value path false latest
          some (entries.replace step (.tables earlier latest))
      | some _ => none

/-- Change the entries of the table at the end of a path of headers. Tables
that are missing on the way are made; a closed table is not entered. -/
def descend (change : Entries -> Option Entries) :
    List String -> Entries -> Option Entries
  | [], entries => change entries
  | step :: path, entries =>
      match entries.get? step with
      | none => do
          let inner ← descend change path []
          some (entries ++ [(step, .table .implied inner)])
      | some (.table .closed _) => none
      | some (.table origin inner) => do
          let inner ← descend change path inner
          some (entries.replace step (.table origin inner))
      | some (.tables earlier latest) => do
          let latest ← descend change path latest
          some (entries.replace step (.tables earlier latest))
      | some _ => none

/-- Give a table its header. Only a new table and one that was mentioned
before can get one. -/
def openTable (name : String) (entries : Entries) : Option Entries :=
  match entries.get? name with
  | none => some (entries ++ [(name, .table .header [])])
  | some (.table .implied inner) =>
      some (entries.replace name (.table .header inner))
  | some _ => none

/-- Begin one more table under a repeated header. -/
def openElement (name : String) (entries : Entries) : Option Entries :=
  match entries.get? name with
  | none => some (entries ++ [(name, .tables [] [])])
  | some (.tables earlier latest) =>
      some (entries.replace name (.tables (earlier ++ [latest]) []))
  | some _ => none

end Entries
end Toml
end StreamLoad
