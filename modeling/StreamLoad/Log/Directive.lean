import StreamLoad.Log.Event
import StreamLoad.Log.Pattern
import StreamLoad.Text.Slice

/-!
# Directives

A directive names a greatest detail and may name a target, a span and a field
with a value; it speaks of the events whose target begins with its target and
which carry its field. No event of a run lies in a span, so a directive that
names a span or asks for a particular value decides nothing.

Blanks around a directive are left out while its signs are looked for, but the
positions of the signs then cut the text with its blanks. In front of a name,
blanks therefore move every cut, and a cut may fall inside a character.
-/

namespace StreamLoad

/-- One directive of a filter. A detail of zero lets nothing pass. -/
structure Directive where
  target : Option String
  inSpan : Bool
  field : Option String
  asksValue : Bool
  detail : Nat
  deriving DecidableEq, Repr

/-- Why a directive cannot be read. -/
inductive Misreading
  | malformed
  | brokenCharacter
  deriving DecidableEq, Repr

namespace Directive

/-- The directive that lets events up to some detail pass. -/
def upTo (detail : Nat) : Directive :=
  { target := none, inSpan := false, field := none, asksValue := false, detail }

/-- The greatest detail of all. -/
def everything : Nat := 5

/-- The detail that a number from zero to five gives. -/
def detailOfNumber? (text : List Char) : Option Nat :=
  let digits := match text with
    | '+' :: rest => rest
    | characters => characters
  if digits.isEmpty || !digits.all Char.isDigit then
    none
  else
    let number := digits.foldl
      (fun number digit => 10 * number + (digit.toNat - '0'.toNat)) 0
    if number ≤ everything then some number else none

/-- The detail of a level's name in any case, or of its number. -/
def detail? (text : List Char) : Option Nat :=
  match detailOfNumber? text with
  | some number => some number
  | none =>
      match String.ofList (text.map Char.toLower) with
      | "off" => some 0
      | "error" => some 1
      | "warn" => some 2
      | "info" => some 3
      | "debug" => some 4
      | "trace" => some 5
      | _ => none

/-- The exponent of a decimal number, which may be left out. -/
def IsExponent : List Char -> Prop
  | [] => True
  | letter :: rest =>
      let digits := match rest with
        | '+' :: digits => digits
        | '-' :: digits => digits
        | digits => digits
      (letter = 'e' ∨ letter = 'E') ∧ digits ≠ [] ∧ digits.all Char.isDigit

instance (text : List Char) : Decidable (IsExponent text) := by
  cases text <;> unfold IsExponent <;> infer_instance

/-- A decimal number without a sign: digits on at least one side of a point
that may be left out, and an exponent. -/
def IsDecimal (text : List Char) : Prop :=
  let whole := text.takeWhile Char.isDigit
  match text.dropWhile Char.isDigit with
  | '.' :: rest =>
      (whole ≠ [] ∨ rest.takeWhile Char.isDigit ≠ []) ∧
        IsExponent (rest.dropWhile Char.isDigit)
  | behind => whole ≠ [] ∧ IsExponent behind

instance (text : List Char) : Decidable (IsDecimal text) := by
  unfold IsDecimal
  split <;> infer_instance

/-- A number that a field may be asked to have, finite or not. -/
def IsNumber (text : List Char) : Prop :=
  let unsigned := match text with
    | '+' :: rest => rest
    | '-' :: rest => rest
    | characters => characters
  String.ofList (unsigned.map Char.toLower) ∈ ["inf", "infinity", "nan"] ∨
    IsDecimal unsigned

instance (text : List Char) : Decidable (IsNumber text) := by
  unfold IsNumber
  infer_instance

/-- A value that a field may be asked to have. A truth value is a pattern
too. -/
def IsValue (text : List Char) : Prop :=
  IsNumber text ∨ Pattern.WellFormed text

instance (text : List Char) : Decidable (IsValue text) := by
  unfold IsValue
  infer_instance

/-- A character with which a target may begin. -/
def beginsTarget (character : Char) : Bool :=
  character == '-' || character == ':' || character == '_' ||
    Text.isAlphanumeric character

/-- The part of a directive's text between two positions. -/
def part (text : List Char) (start stop : Nat) :
    Except Misreading (List Char) :=
  match Text.slice? text start stop with
  | some characters => .ok characters
  | none => .error .brokenCharacter

theorem part_append (front middle rest : List Char) :
    part (front ++ (middle ++ rest)) (Text.byteSize front)
      (Text.byteSize front + Text.byteSize middle) = .ok middle := by
  simp only [part, Text.slice?_append]

/-- The detail behind an equals sign; nothing there means everything. -/
def detailFrom (text : List Char) (start : Nat) : Except Misreading Nat :=
  match Text.dropBytes? start text with
  | none => .error .brokenCharacter
  | some [] => .ok everything
  | some level =>
      match detail? level with
      | some detail => .ok detail
      | none => .error .malformed

/-- Give a directive its detail, written behind an equals sign or left out.
The characters given stand at a position of the text. -/
def close
    (text : List Char)
    (directive : Directive)
    (position : Nat) : List Char -> Except Misreading Directive
  | [] => .ok { directive with detail := everything }
  | '=' :: _ => do
      return { directive with detail := ← detailFrom text (position + 1) }
  | _ => .error .malformed

/-- Give a directive its field, which may ask for a value. Behind a second
equals sign nothing counts. -/
def withField (directive : Directive) (field : List Char) :
    Except Misreading Directive :=
  if field = [] then
    .error .malformed
  else
    let named := { directive with
      field := some (String.ofList (field.takeWhile (· != '='))) }
    match field.dropWhile (· != '=') with
    | [] => .ok named
    | _ :: value =>
        if IsValue (value.takeWhile (· != '=')) then
          .ok { named with asksValue := true }
        else
          .error .malformed

/-- Give a directive the field that stands in braces, then its detail behind
the closing bracket. -/
def braces
    (text : List Char)
    (directive : Directive)
    (start : Nat)
    (inside : List Char) : Except Misreading Directive :=
  let stop := start + Text.byteSize (inside.takeWhile (· != '}'))
  match inside.dropWhile (· != '}') with
  | [] => .error .malformed
  | _ :: behind => do
      let complete ← directive.withField (← part text start stop)
      match behind with
      | ']' :: rest => close text complete (stop + 2) rest
      | _ => .error .malformed

/-- Give a directive the span and the field that stand in brackets, then its
detail. -/
def brackets
    (text : List Char)
    (directive : Directive)
    (start : Nat)
    (inside : List Char) : Except Misreading Directive :=
  let span := inside.takeWhile fun character =>
    character != ']' && character != '{'
  let stop := start + Text.byteSize span
  match inside.dropWhile fun character =>
      character != ']' && character != '{' with
  | ']' :: rest => do
      let _ ← part text start stop
      close text { directive with inSpan := true } (stop + 1) rest
  | '{' :: rest => do
      let name ← part text start stop
      braces text { directive with inSpan := name ≠ [] } (stop + 1) rest
  | _ => .error .malformed

/-- Read a word without signs: a level, or a target of which everything
passes. -/
def word (text : List Char) : Directive :=
  match detail? text with
  | some detail => upTo detail
  | none => { upTo everything with target := some (String.ofList text) }

/-- Read a directive. -/
def parse (text : List Char) : Except Misreading Directive :=
  match Text.trim text with
  | [] => .error .malformed
  | '[' :: inside => brackets text (upTo everything) 1 inside
  | first :: others =>
      if beginsTarget first then
        let ahead (character : Char) : Bool :=
          character != '=' && character != '['
        let stop := Text.byteSize ((first :: others).takeWhile ahead)
        match (first :: others).dropWhile ahead with
        | [] => .ok (word text)
        | sign :: behind => do
            let target ← part text 0 stop
            let named :=
              { upTo everything with target := some (String.ofList target) }
            if sign = '[' then
              brackets text named (stop + 1) behind
            else
              close text named stop (sign :: behind)
      else
        .error .malformed

/-- The directive can decide about events outside spans. -/
def isPlain (directive : Directive) : Bool :=
  !directive.inSpan && !directive.asksValue

/-- The directive speaks of an event. -/
def concerns (directive : Directive) (event : Event) : Bool :=
  directive.isPlain &&
    (match directive.target with
      | some target => target.toList.isPrefixOf event.target.toList
      | none => true) &&
    (match directive.field with
      | some field => event.fields.contains field
      | none => true)

/-- The first directive is no more particular than the second. -/
def yieldsTo (left right : Directive) : Bool :=
  let length (target : Option String) : Nat :=
    match target with
    | some text => text.utf8ByteSize + 1
    | none => 0
  let name (field : Option String) : String := field.getD ""
  if length left.target ≠ length right.target then
    length left.target < length right.target
  else
    match left.field, right.field with
    | none, _ => true
    | some _, none => false
    | some _, some _ => !(name right.field < name left.field)

end Directive
end StreamLoad
