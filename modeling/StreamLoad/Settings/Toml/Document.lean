import StreamLoad.Settings.Toml.Number
import StreamLoad.Settings.Toml.Text
import StreamLoad.Settings.Toml.Value

/-!
# TOML documents

A document is a sequence of lines: assignments of values to keys, and headers
that choose the table which the following assignments fill. Reading gives the
entries of the document, or nothing when any line is not well formed or gives
a name a second value.
-/

namespace StreamLoad
namespace Toml

/-- A value that begins with a sign or a digit. A date or a time is tried
before a number. -/
def numeric? (characters : List Char) : Option (Value × List Char) :=
  match moment? characters with
  | some rest => some (.moment, rest)
  | none =>
      if looksReal characters then
        (decimalReal? characters).map fun rest => (.real, rest)
      else
        match specialReal? characters with
        | some rest => some (.real, rest)
        | none =>
            (integer? characters).map fun read => (.integer read.1, read.2)

/-- A value without parts of its own. -/
def scalar? (characters : List Char) : Option (Value × List Char) :=
  match characters with
  | 't' :: 'r' :: 'u' :: 'e' :: rest => some (.boolean true, rest)
  | 'f' :: 'a' :: 'l' :: 's' :: 'e' :: rest => some (.boolean false, rest)
  | '"' :: _ | '\'' :: _ =>
      (string? characters).map fun read =>
        (.text (String.ofList read.1), read.2)
  | _ => numeric? characters

mutual

/-- A value. The first bound limits the number of steps, the second the depth
of arrays and tables in braces. -/
def value? : Nat -> Nat -> List Char -> Option (Value × List Char)
  | 0, _, _ => none
  | steps + 1, depth, characters =>
      match characters, depth with
      | '[' :: _, 0 => none
      | '{' :: _, 0 => none
      | '[' :: rest, depth + 1 =>
          (items? steps depth rest).map fun read =>
            (.array read.1, read.2)
      | '{' :: rest, depth + 1 =>
          match skipBlanks rest with
          | '}' :: behind => some (.table .closed [], behind)
          | inside => do
              let (entries, behind) ← inlineEntries? steps depth [] inside
              some (.table .closed entries, behind)
      | _, _ => scalar? characters

/-- The items of an array up to its closing bracket. A comma may stand behind
the last item. -/
def items? : Nat -> Nat -> List Char -> Option (List Value × List Char)
  | 0, _, _ => none
  | steps + 1, depth, characters =>
      match skipFiller false characters with
      | ']' :: behind => some ([], behind)
      | inside => do
          let (item, behindItem) ← value? steps depth inside
          match skipFiller false behindItem with
          | ']' :: behind => some ([item], behind)
          | ',' :: more =>
              let (items, behind) ← items? steps depth more
              some (item :: items, behind)
          | _ => none

/-- The entries of a table in braces up to its closing brace, behind those
already read. No comma stands behind the last entry. -/
def inlineEntries? : Nat -> Nat -> Entries -> List Char ->
    Option (Entries × List Char)
  | 0, _, _, _ => none
  | steps + 1, depth, entries, characters => do
      let (path, behindKey) ← key? depthLimit characters
      let behindSign ← expect? '=' behindKey
      let (value, behindValue) ← value? steps depth (skipBlanks behindSign)
      let name ← path.getLast?
      let entries ← entries.assign name value path.dropLast true
      match skipBlanks behindValue with
      | '}' :: behind => some (entries, behind)
      | ',' :: more => inlineEntries? steps depth entries more
      | _ => none

end

/-- A document of which some lines have been read: its entries so far, and the
path of the table that assignments fill. -/
structure Draft where
  entries : Entries
  current : List String

namespace Draft

/-- Nothing has been read. -/
def empty : Draft := { entries := [], current := [] }

/-- Assign a value to a key in the current table. -/
def assign (path : List String) (value : Value) (draft : Draft) :
    Option Draft := do
  let name ← path.getLast?
  let entries ←
    draft.entries.descend (Entries.assign name value path.dropLast true)
      draft.current
  some { draft with entries }

/-- Make a table current by a header that may open it in some way. -/
def openBy
    (change : String -> Entries -> Option Entries)
    (path : List String)
    (draft : Draft) : Option Draft := do
  let name ← path.getLast?
  let entries ← draft.entries.descend (change name) path.dropLast
  some { entries, current := path }

/-- Read one line that is not empty. -/
def readLine (characters : List Char) (draft : Draft) :
    Option (Draft × List Char) :=
  match characters with
  | '[' :: '[' :: rest => do
      let (path, behindKey) ← key? depthLimit rest
      let behind ← expect? ']' (← expect? ']' behindKey)
      some (← draft.openBy Entries.openElement path, ← finishLine behind)
  | '[' :: rest => do
      let (path, behindKey) ← key? depthLimit rest
      let behind ← expect? ']' behindKey
      some (← draft.openBy Entries.openTable path, ← finishLine behind)
  | _ => do
      let (path, behindKey) ← key? depthLimit characters
      let behindSign := skipBlanks (← expect? '=' behindKey)
      let (value, behind) ←
        value? (2 * characters.length + 2) depthLimit behindSign
      some (← draft.assign path value, ← finishLine behind)

/-- Read lines up to the end of the document. The bound limits their number. -/
def readLines : Nat -> List Char -> Draft -> Option Draft
  | 0, _, _ => none
  | bound + 1, characters, draft =>
      match skipFiller false characters with
      | [] => some draft
      | line => do
          let (draft, rest) ← draft.readLine line
          readLines bound rest draft

end Draft

/-- Leave out a byte order mark in front of a document. -/
def skipMark : List Char -> List Char
  | '\ufeff' :: rest => rest
  | characters => characters

/-- The entries of a document. -/
def parse? (document : String) : Option Entries :=
  let characters := skipMark document.toList
  (Draft.readLines (characters.length + 1) characters .empty).map
    fun draft => draft.entries

end Toml
end StreamLoad
