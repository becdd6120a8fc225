/-!
# Characters, blanks, strings and keys of TOML

Readers take a list of characters and give what they read together with the
characters behind it, or nothing when the text is not well formed. Control
characters other than the tab are nowhere allowed. A line ends with a line
feed, before which a carriage return may stand.
-/

namespace StreamLoad
namespace Toml

/-- A tab, or a character that is no control character. -/
def isPlain (character : Char) : Bool :=
  character == '\t' ||
    (0x20 ≤ character.toNat && character.toNat != 0x7f)

/-- A space or a tab. -/
def isBlank (character : Char) : Bool :=
  character == ' ' || character == '\t'

/-- A character of a key without quotes. -/
def isBare (character : Char) : Bool :=
  character.isAlphanum || character == '_' || character == '-'

/-- Skip spaces and tabs. -/
def skipBlanks (characters : List Char) : List Char :=
  characters.dropWhile isBlank

/-- The text behind a line end, at the front. -/
def lineEnd? : List Char -> Option (List Char)
  | '\n' :: rest => some rest
  | '\r' :: '\n' :: rest => some rest
  | _ => none

/-- Skip a comment, if there is one, up to the end of its line. -/
def skipComment : List Char -> List Char
  | '#' :: rest => rest.dropWhile isPlain
  | characters => characters

/-- Finish a line: blanks, perhaps a comment, and a line end or the end of the
document. -/
def finishLine (characters : List Char) : Option (List Char) :=
  match skipComment (skipBlanks characters) with
  | [] => some []
  | rest => lineEnd? rest

/-- Skip blanks, line ends and comments; the flag tells that a comment is being
skipped. A comment runs to the end of its line. -/
def skipFiller : Bool -> List Char -> List Char
  | _, [] => []
  | _, '\n' :: rest => skipFiller false rest
  | _, '\r' :: '\n' :: rest => skipFiller false rest
  | true, character :: rest =>
      if isPlain character then skipFiller true rest else character :: rest
  | false, '#' :: rest => skipFiller true rest
  | false, character :: rest =>
      if isBlank character then
        skipFiller false rest
      else
        character :: rest

/-- The value of a hexadecimal digit in either case. -/
def hexValue? (character : Char) : Option Nat :=
  if character.isDigit then
    some (character.toNat - '0'.toNat)
  else if 'a' ≤ character ∧ character ≤ 'f' then
    some (character.toNat - 'a'.toNat + 10)
  else if 'A' ≤ character ∧ character ≤ 'F' then
    some (character.toNat - 'A'.toNat + 10)
  else
    none

/-- The number of some hexadecimal digits, after a number read before. -/
def hexNumber? : Nat -> List Char -> Option Nat
  | before, [] => some before
  | before, character :: rest => do
      hexNumber? (16 * before + (← hexValue? character)) rest

/-- The character of a code point; surrogates are no characters. -/
def characterOfCode? (code : Nat) : Option Char :=
  if code.isValidChar then some (Char.ofNat code) else none

/-- The character of an escape of one letter. -/
def simpleEscape? : Char -> Option Char
  | 'b' => some '\x08'
  | 't' => some '\t'
  | 'n' => some '\n'
  | 'f' => some '\x0c'
  | 'r' => some '\r'
  | '"' => some '"'
  | '\\' => some '\\'
  | _ => none

/-- The character named by hexadecimal digits. -/
def codeEscape? (digits : List Char) : Option Char := do
  characterOfCode? (← hexNumber? 0 digits)

/-- Put a character in front of a text that has been read. -/
def withFront
    (character : Char)
    (read : Option (List Char × List Char)) :
    Option (List Char × List Char) :=
  read.map fun result => (character :: result.1, result.2)

/-- The rest of a string in double quotes on one line. -/
def basicRest : List Char -> Option (List Char × List Char)
  | [] => none
  | '"' :: rest => some ([], rest)
  | '\\' :: 'u' :: a :: b :: c :: d :: rest => do
      let character ← codeEscape? [a, b, c, d]
      withFront character (basicRest rest)
  | '\\' :: 'U' :: a :: b :: c :: d :: e :: f :: g :: h :: rest => do
      let character ← codeEscape? [a, b, c, d, e, f, g, h]
      withFront character (basicRest rest)
  | '\\' :: letter :: rest => do
      let character ← simpleEscape? letter
      withFront character (basicRest rest)
  | character :: rest =>
      if isPlain character && character != '\\' then
        withFront character (basicRest rest)
      else
        none

/-- The rest of a string in single quotes on one line. -/
def literalRest : List Char -> Option (List Char × List Char)
  | [] => none
  | '\'' :: rest => some ([], rest)
  | character :: rest =>
      if isPlain character then
        withFront character (literalRest rest)
      else
        none

/-- What a reader of a long string in double quotes is doing. -/
inductive LongMode
  /-- Ordinary text. -/
  | body
  /-- Behind a backslash at a line's end, before the line has ended. -/
  | lineTail
  /-- Skipping white space up to the next visible character. -/
  | joining
  deriving DecidableEq, Repr

/-- The rest of a string in three double quotes. Up to two quotes may stand
before the closing three, and a backslash at a line's end joins lines. -/
def longBasicRest : LongMode -> List Char -> Option (List Char × List Char)
  | _, [] => none
  | .lineTail, '\n' :: rest => longBasicRest .joining rest
  | .lineTail, '\r' :: '\n' :: rest => longBasicRest .joining rest
  | .lineTail, character :: rest =>
      if isBlank character then longBasicRest .lineTail rest else none
  | .joining, '\n' :: rest => longBasicRest .joining rest
  | .joining, '\r' :: '\n' :: rest => longBasicRest .joining rest
  | .joining, ' ' :: rest => longBasicRest .joining rest
  | .joining, '\t' :: rest => longBasicRest .joining rest
  | _, '"' :: '"' :: '"' :: '"' :: '"' :: rest => some (['"', '"'], rest)
  | _, '"' :: '"' :: '"' :: '"' :: rest => some (['"'], rest)
  | _, '"' :: '"' :: '"' :: rest => some ([], rest)
  | _, '\\' :: 'u' :: a :: b :: c :: d :: rest => do
      let character ← codeEscape? [a, b, c, d]
      withFront character (longBasicRest .body rest)
  | _, '\\' :: 'U' :: a :: b :: c :: d :: e :: f :: g :: h :: rest => do
      let character ← codeEscape? [a, b, c, d, e, f, g, h]
      withFront character (longBasicRest .body rest)
  | _, '\\' :: '\n' :: rest => longBasicRest .joining rest
  | _, '\\' :: '\r' :: '\n' :: rest => longBasicRest .joining rest
  | _, '\\' :: letter :: rest =>
      if isBlank letter then
        longBasicRest .lineTail rest
      else do
        let character ← simpleEscape? letter
        withFront character (longBasicRest .body rest)
  | _, '\n' :: rest => withFront '\n' (longBasicRest .body rest)
  | _, '\r' :: '\n' :: rest => withFront '\n' (longBasicRest .body rest)
  | _, character :: rest =>
      if isPlain character && character != '\\' then
        withFront character (longBasicRest .body rest)
      else
        none

/-- The rest of a string in three single quotes. -/
def longLiteralRest : List Char -> Option (List Char × List Char)
  | [] => none
  | '\'' :: '\'' :: '\'' :: '\'' :: '\'' :: rest => some (['\'', '\''], rest)
  | '\'' :: '\'' :: '\'' :: '\'' :: rest => some (['\''], rest)
  | '\'' :: '\'' :: '\'' :: rest => some ([], rest)
  | '\n' :: rest => withFront '\n' (longLiteralRest rest)
  | '\r' :: '\n' :: rest => withFront '\n' (longLiteralRest rest)
  | character :: rest =>
      if isPlain character then
        withFront character (longLiteralRest rest)
      else
        none

/-- Leave out the line end directly behind the opening of a long string. -/
def skipFirstLineEnd (characters : List Char) : List Char :=
  (lineEnd? characters).getD characters

/-- A string as a value. -/
def string? : List Char -> Option (List Char × List Char)
  | '"' :: '"' :: '"' :: rest => longBasicRest .body (skipFirstLineEnd rest)
  | '"' :: rest => basicRest rest
  | '\'' :: '\'' :: '\'' :: rest => longLiteralRest (skipFirstLineEnd rest)
  | '\'' :: rest => literalRest rest
  | _ => none

/-- One part of a key: a string on one line, or bare characters. -/
def keyPart? : List Char -> Option (String × List Char)
  | '"' :: rest =>
      (basicRest rest).map fun read => (String.ofList read.1, read.2)
  | '\'' :: rest =>
      (literalRest rest).map fun read => (String.ofList read.1, read.2)
  | characters =>
      match characters.takeWhile isBare with
      | [] => none
      | name => some (String.ofList name, characters.dropWhile isBare)

/-- The greatest number of parts of a key, and the greatest depth of arrays and
tables in braces. -/
def depthLimit : Nat := 79

/-- A key: parts with dots between them and blanks around them, and what is
behind the blanks. The bound limits the number of parts. -/
def key? : Nat -> List Char -> Option (List String × List Char)
  | 0, _ => none
  | bound + 1, characters => do
      let (part, rest) ← keyPart? (skipBlanks characters)
      match skipBlanks rest with
      | '.' :: more =>
          let (parts, final) ← key? bound more
          some (part :: parts, final)
      | final => some ([part], final)

end Toml
end StreamLoad
