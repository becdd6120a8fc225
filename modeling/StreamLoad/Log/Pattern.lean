import StreamLoad.Text.Character

/-!
# Patterns

A directive may ask for a value by a pattern. Only the form of a pattern
matters here: groups and classes are closed, repetitions have something to
repeat, escapes and flags are known. There are no tables of properties, of
letter cases or of words, so what needs them is refused unless a flag turns to
bytes; and bytes must not break characters. A pattern stands inside braces, so
a count in braces never ends.
-/

namespace StreamLoad
namespace Pattern

/-- The flags in force at a place of a pattern. -/
structure Mode where
  unicode : Bool
  ignoreCase : Bool
  ignoreBlanks : Bool
  deriving DecidableEq, Repr

namespace Mode

/-- The flags at the front of a pattern. -/
def standard : Mode :=
  { unicode := true, ignoreCase := false, ignoreBlanks := false }

/-- Comparing without case needs a table of cases unless bytes are compared. -/
def foldsCharacters (mode : Mode) : Bool :=
  mode.ignoreCase && mode.unicode

/-- The flags after one flag is set or cleared; none for an unknown letter. -/
def setFlag (letter : Char) (value : Bool) (mode : Mode) : Option Mode :=
  match letter with
  | 'u' => some { mode with unicode := value }
  | 'i' => some { mode with ignoreCase := value }
  | 'x' => some { mode with ignoreBlanks := value }
  | 'm' => some mode
  | 's' => some mode
  | 'U' => some mode
  | 'R' => some mode
  | _ => none

end Mode

/-- What is behind the end of a line. -/
def skipLine : List Char -> List Char
  | [] => []
  | '\n' :: rest => rest
  | _ :: rest => skipLine rest

theorem length_skipLine_le (text : List Char) :
    (skipLine text).length ≤ text.length := by
  fun_induction skipLine text with
  | case1 => exact Nat.le_refl _
  | case2 rest => exact Nat.le_succ _
  | case3 _ rest _ hypothesis => exact Nat.le_succ_of_le hypothesis

/-- What is behind blanks and remarks, in a mode that ignores them. -/
def skipBlanks (mode : Mode) (text : List Char) : List Char :=
  if mode.ignoreBlanks then
    match text with
    | [] => []
    | character :: rest =>
        if Text.isBlank character then
          skipBlanks mode rest
        else if character = '#' then
          have := length_skipLine_le rest
          skipBlanks mode (skipLine rest)
        else
          character :: rest
  else
    text
termination_by text.length
decreasing_by
  · simp
  · simp only [List.length_cons]
    omega

/-- What an escape or a character stands for. -/
inductive Atom
  | character (value : Char)
  | byte (value : Nat)
  | set (negated : Bool)
  | wordEdge
  | textEdge
  deriving DecidableEq, Repr

/-- The value of a hexadecimal digit. -/
def hexDigit? (character : Char) : Option Nat :=
  if character.isDigit then
    some (character.toNat - 48)
  else if 'a' ≤ character ∧ character ≤ 'f' then
    some (character.toNat - 87)
  else if 'A' ≤ character ∧ character ≤ 'F' then
    some (character.toNat - 55)
  else
    none

/-- Read a number of hexadecimal digits. -/
def readHex (mode : Mode) : Nat -> Nat -> List Char ->
    Option (Nat × List Char)
  | 0, value, text => some (value, text)
  | count + 1, value, text =>
      match skipBlanks mode text with
      | [] => none
      | character :: rest =>
          match hexDigit? character with
          | some digit => readHex mode count (16 * value + digit) rest
          | none => none

/-- The character of a code, unless the code belongs to none. -/
def characterOfCode? (code : Nat) : Option Char :=
  if code.isValidChar then some (Char.ofNat code) else none

/-- Read what stands behind a backslash. -/
def readEscape (mode : Mode) : List Char -> Option (Atom × List Char)
  | [] => none
  | letter :: rest =>
      let coded (count : Nat) : Option (Atom × List Char) := do
        let (code, behind) ← readHex mode count 0 rest
        let value ← characterOfCode? code
        return (.character value, behind)
      match letter with
      | 'x' => do
          let (code, behind) ← readHex mode 2 0 rest
          return (.byte code, behind)
      | 'u' => coded 4
      | 'U' => coded 8
      | 'd' => some (.set false, rest)
      | 's' => some (.set false, rest)
      | 'w' => some (.set false, rest)
      | 'D' => some (.set true, rest)
      | 'S' => some (.set true, rest)
      | 'W' => some (.set true, rest)
      | 'b' => some (.wordEdge, rest)
      | 'B' => some (.wordEdge, rest)
      | '<' => some (.wordEdge, rest)
      | '>' => some (.wordEdge, rest)
      | 'A' => some (.textEdge, rest)
      | 'z' => some (.textEdge, rest)
      | 'a' => some (.character '\x07', rest)
      | 'f' => some (.character '\x0c', rest)
      | 't' => some (.character '\t', rest)
      | 'n' => some (.character '\n', rest)
      | 'r' => some (.character '\r', rest)
      | 'v' => some (.character '\x0b', rest)
      | other =>
          if other.isAlphanum || 0x80 ≤ other.toNat then
            none
          else
            some (.character other, rest)

/-- Read a character or an escape. -/
def readAtom (mode : Mode) : List Char -> Option (Atom × List Char)
  | [] => none
  | '\\' :: rest => readEscape mode rest
  | character :: rest => some (.character character, rest)

/-- The code of an atom that stands for one character or byte. -/
def Atom.code? : Atom -> Option Nat
  | .character value => some value.toNat
  | .byte value => some value
  | _ => none

/-- The atom can be matched outside a class. -/
def Atom.fits (mode : Mode) : Atom -> Bool
  | .character _ => !mode.foldsCharacters
  | .byte value => !mode.foldsCharacters && (mode.unicode || value < 0x80)
  | .set negated => !mode.unicode && !negated
  | .wordEdge => !mode.unicode
  | .textEdge => true

/-- The atom can be a member of a class. -/
def Atom.fitsClass (mode : Mode) : Atom -> Bool
  | .character value => mode.unicode || value.toNat < 0x80
  | .byte value => mode.unicode || value < 0x80
  | .set negated => !mode.unicode && !negated
  | .wordEdge => false
  | .textEdge => false

/-- The names of the classes of ASCII characters. -/
def asciiClasses : List String :=
  ["alnum", "alpha", "ascii", "blank", "cntrl", "digit", "graph", "lower",
    "print", "punct", "space", "upper", "word", "xdigit"]

/-- Read a named class behind its bracket: whether it is negated and what is
behind it. -/
def readAsciiClass? : List Char -> Option (Bool × List Char)
  | ':' :: text =>
      let negated := text.head? == some '^'
      let named := if negated then text.drop 1 else text
      let name := String.ofList (named.takeWhile (· != ':'))
      match named.dropWhile (· != ':') with
      | ':' :: ']' :: behind =>
          if asciiClasses.contains name then some (negated, behind) else none
      | _ => none
  | _ => none

/-- Read dashes at the front of a class, and a bracket that stands for itself
because nothing is in front of it. -/
def readClassFront (mode : Mode) : Nat -> Bool -> List Char ->
    Option (List Char)
  | 0, _, _ => none
  | fuel + 1, first, text =>
      match skipBlanks mode text with
      | [] => none
      | '-' :: rest => readClassFront mode fuel false rest
      | ']' :: rest =>
          if first then
            match skipBlanks mode rest with
            | [] => none
            | behind => some behind
          else
            some (']' :: rest)
      | other => some other

/-- Read the front of a class behind its bracket. A negated class of bytes
would break characters. -/
def readClassOpen (mode : Mode) (text : List Char) : Option (List Char) :=
  match skipBlanks mode text with
  | '^' :: rest =>
      if mode.unicode then
        readClassFront mode (rest.length + 1) true rest
      else
        none
  | other => readClassFront mode (other.length + 1) true other

/-- Read one member of a class, which may be a range. -/
def readMember (mode : Mode) (text : List Char) : Option (List Char) := do
  let (first, behind) ← readAtom mode text
  if !first.fitsClass mode then
    none
  else
    match skipBlanks mode behind with
    | [] => none
    | '-' :: rest =>
        match skipBlanks mode rest with
        | [] => none
        | ']' :: _ => some ('-' :: rest)
        | '-' :: _ => some ('-' :: rest)
        | other => do
            let (last, final) ← readAtom mode other
            let low ← first.code?
            let high ← last.code?
            if last.fitsClass mode && low ≤ high then some final else none
    | other => some other

/-- Read a class to its end, from inside a number of open classes. -/
def readClass (mode : Mode) : Nat -> Nat -> List Char -> Option (List Char)
  | 0, _, _ => none
  | fuel + 1, depth, text =>
      match skipBlanks mode text with
      | [] => none
      | ']' :: rest =>
          if depth ≤ 1 then some rest else readClass mode fuel (depth - 1) rest
      | '[' :: rest =>
          match readAsciiClass? rest with
          | some (negated, behind) =>
              if negated && !mode.unicode then
                none
              else
                readClass mode fuel depth behind
          | none => do
              readClass mode fuel (depth + 1) (← readClassOpen mode rest)
      | '&' :: '&' :: rest => readClass mode fuel depth rest
      | '-' :: '-' :: rest => readClass mode fuel depth rest
      | '~' :: '~' :: rest => readClass mode fuel depth rest
      | other => do readClass mode fuel depth (← readMember mode other)

/-- What the front of a group says. -/
inductive GroupFront
  | flags (mode : Mode)
  | unnamed (mode : Mode)
  | named (name : List Char)

/-- Read the flags of a group: those seen, the mode they make, and whether
they are being cleared. -/
def readFlags : List Char -> List Char -> Mode ->
    Option (GroupFront × List Char)
  | _, [], _ => none
  | seen, ':' :: rest, mode =>
      if seen.head? == some '-' then none else some (.unnamed mode, rest)
  | seen, ')' :: rest, mode =>
      if seen.isEmpty || seen.head? == some '-' then
        none
      else
        some (.flags mode, rest)
  | seen, letter :: rest, mode =>
      if seen.contains letter then
        none
      else if letter = '-' then
        readFlags (letter :: seen) rest mode
      else
        match mode.setFlag letter (!seen.contains '-') with
        | some changed => readFlags (letter :: seen) rest changed
        | none => none

/-- Read the name of a group up to its angle bracket. -/
def readGroupName (text : List Char) : Option (GroupFront × List Char) :=
  let name := text.takeWhile (· != '>')
  match name, text.dropWhile (· != '>') with
  | first :: others, '>' :: rest =>
      let begins := first == '_' ||
        (Text.isAlphanumeric first && !first.isDigit)
      let continues (character : Char) : Bool :=
        character == '_' || character == '.' || character == '[' ||
          character == ']' || Text.isAlphanumeric character
      if begins && others.all continues then some (.named name, rest) else none
  | _, _ => none

/-- Read the front of a group behind its parenthesis. Looking around is not
known. -/
def readGroupFront (mode : Mode) (text : List Char) :
    Option (GroupFront × List Char) :=
  match skipBlanks mode text with
  | '?' :: '=' :: _ => none
  | '?' :: '!' :: _ => none
  | '?' :: '<' :: '=' :: _ => none
  | '?' :: '<' :: '!' :: _ => none
  | '?' :: 'P' :: '<' :: rest => readGroupName rest
  | '?' :: '<' :: rest => readGroupName rest
  | '?' :: rest => readFlags [] rest mode
  | other => some (.unnamed mode, other)

/-- A place in a pattern: the flags, those around each open group, the names
given, and whether something stands here that can be repeated. -/
structure Place where
  mode : Mode
  enclosing : List Mode
  names : List (List Char)
  repeatable : Bool

namespace Place

/-- The front of a pattern. -/
def start : Place :=
  { mode := .standard, enclosing := [], names := [], repeatable := false }

/-- The place behind something that can be repeated. -/
def behindItem (place : Place) : Place := { place with repeatable := true }

/-- The place inside a group that opens here. -/
def inside (mode : Mode) (place : Place) : Place :=
  { place with
    mode, enclosing := place.mode :: place.enclosing, repeatable := false }

end Place

/-- The rest of a pattern is well formed. -/
def readsFrom : Nat -> Place -> List Char -> Bool
  | 0, _, _ => false
  | fuel + 1, place, text =>
      match skipBlanks place.mode text with
      | [] => place.enclosing.isEmpty
      | '(' :: rest =>
          match readGroupFront place.mode rest with
          | none => false
          | some (.flags mode, behind) =>
              readsFrom fuel { place with mode, repeatable := false } behind
          | some (.unnamed mode, behind) =>
              readsFrom fuel (place.inside mode) behind
          | some (.named name, behind) =>
              !place.names.contains name &&
                readsFrom fuel
                  { place.inside place.mode with
                    names := name :: place.names } behind
      | ')' :: rest =>
          match place.enclosing with
          | [] => false
          | mode :: enclosing =>
              readsFrom fuel { place with mode, enclosing, repeatable := true }
                rest
      | '|' :: rest => readsFrom fuel { place with repeatable := false } rest
      | '[' :: rest =>
          !place.mode.foldsCharacters &&
            match readClassOpen place.mode rest with
            | none => false
            | some inner =>
                match readClass place.mode (inner.length + 1) 1 inner with
                | none => false
                | some behind => readsFrom fuel place.behindItem behind
      | '{' :: _ => false
      | '.' :: rest =>
          place.mode.unicode && readsFrom fuel place.behindItem rest
      | '^' :: rest => readsFrom fuel place.behindItem rest
      | '$' :: rest => readsFrom fuel place.behindItem rest
      | character :: rest =>
          if character = '?' ∨ character = '*' ∨ character = '+' then
            let behind := if rest.head? == some '?' then rest.drop 1 else rest
            place.repeatable && readsFrom fuel place behind
          else
            match readAtom place.mode (character :: rest) with
            | none => false
            | some (atom, behind) =>
                atom.fits place.mode && readsFrom fuel place.behindItem behind

/-- The text is a pattern. -/
def WellFormed (text : List Char) : Prop :=
  readsFrom (text.length + 1) .start text = true

instance (text : List Char) : Decidable (WellFormed text) :=
  inferInstanceAs (Decidable (_ = true))

end Pattern
end StreamLoad
