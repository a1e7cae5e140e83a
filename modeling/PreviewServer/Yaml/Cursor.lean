/-!
# Positions in a YAML text

A cursor is a position in a text: what is still to be read, and how many characters, lines and
columns were passed.  Columns decide the structure of a YAML text, so a cursor never moves but by
`skip`, which stays on its line, and `skipBreak`, which begins a new one.
-/

namespace PreviewServer.Yaml

/-! ### Faults -/

/-- Why a text is not read. -/
inductive Error where
  /-- A character that may not occur in any text. -/
  | controlCharacter
  /-- A line that has to be a key has no colon. -/
  | keyWithoutColon
  /-- An indicator stands where none is allowed. -/
  | misplacedIndicator
  /-- A character that begins nothing. -/
  | strayCharacter
  /-- A tab stands where indentation is counted. -/
  | tabInIndentation
  /-- A directive is not understood. -/
  | badDirective
  /-- An anchor or an alias has no proper name. -/
  | badAnchor
  /-- A tag is not well formed. -/
  | badTag
  /-- A tag uses a handle that was not declared. -/
  | undeclaredHandle
  /-- The line that opens a block scalar holds something else. -/
  | badBlockHeader
  /-- A quoted scalar is not closed. -/
  | unclosedQuote
  /-- An escape in a quoted scalar is not known. -/
  | badEscape
  /-- A colon in a plain scalar could also end it. -/
  | ambiguousColon
  /-- A token stands where it does not belong. -/
  | unexpectedToken
  /-- An alias names an anchor that did not occur. -/
  | unknownAnchor
  /-- More than one document, where one is wanted. -/
  | severalDocuments
  deriving DecidableEq, Repr

/-! ### Characters -/

/-- Whether a character breaks a line. -/
def isBreak (c : Char) : Bool :=
  c = '\n' || c = '\r' || c = '\u0085' || c = '\u2028' || c = '\u2029'

/-- Whether a character is a space or a tab. -/
def isSpace (c : Char) : Bool := c = ' ' || c = '\t'

/-- Whether a character may occur in a name: an ASCII letter or digit, an underscore or a
hyphen. -/
def isNameChar (c : Char) : Bool := c.isAlphanum || c = '_' || c = '-'

/-- Whether a character may occur in a text at all. -/
def isAllowed (c : Char) : Bool :=
  let n := c.toNat
  n = 0x09 || n = 0x0A || n = 0x0D || (0x20 ≤ n && n ≤ 0x7E) || n = 0x85 ||
    (0xA0 ≤ n && n ≤ 0xFFFD) || 0x10000 ≤ n

/-- The mark that may stand at the start of a text. -/
def byteOrderMark : Char := '\uFEFF'

/-! ### Cursors -/

/-- A position in a text. -/
structure Cursor where
  /-- What is still to be read. -/
  rest : List Char
  /-- How many characters were passed. -/
  index : Nat
  /-- How many lines were passed. -/
  line : Nat
  /-- How many characters of the line were passed. -/
  column : Nat

namespace Cursor

/-- The start of a text. -/
def start (text : List Char) : Cursor := { rest := text, index := 0, line := 0, column := 0 }

/-- The next character. -/
def head? (c : Cursor) : Option Char := c.rest.head?

/-- The character after some others. -/
def peek? (c : Cursor) (n : Nat) : Option Char := (c.rest.drop n).head?

/-- Whether the next character is this one. -/
def isAt (c : Cursor) (ch : Char) : Bool := c.head? = some ch

/-- Whether the text ends here. -/
def atEnd (c : Cursor) : Bool := c.rest.isEmpty

/-- Whether the line ends here. -/
def atLineEnd (c : Cursor) : Bool :=
  match c.head? with
  | some ch => isBreak ch
  | none => true

/-- Whether a line break stands here. -/
def atBreak (c : Cursor) : Bool := !c.atEnd && c.atLineEnd

/-- Whether a space or a tab stands here. -/
def atSpace (c : Cursor) : Bool :=
  match c.head? with
  | some ch => isSpace ch
  | none => false

/-- Whether a word ends before the character after `n` others. -/
def wordEndsAt (c : Cursor) (n : Nat) : Bool :=
  match c.peek? n with
  | some ch => isSpace ch || isBreak ch
  | none => true

/-- The position behind some characters of the same line. -/
def skip (c : Cursor) (n : Nat) : Cursor :=
  { c with rest := c.rest.drop n, index := c.index + n, column := c.column + n }

/-- The position behind the characters that satisfy `p`; line breaks must not. -/
def skipWhile (c : Cursor) (p : Char → Bool) : Cursor := c.skip (c.rest.takeWhile p).length

/-- The position behind a line break. -/
def skipBreak (c : Cursor) : Cursor :=
  match c.rest with
  | '\r' :: '\n' :: rest => { rest := rest, index := c.index + 2, line := c.line + 1, column := 0 }
  | _ :: rest => { rest := rest, index := c.index + 1, line := c.line + 1, column := 0 }
  | [] => c

/-- What a line break contributes to a scalar: a line feed, except for the separators of lines and
paragraphs, which stay. -/
def breakText (c : Cursor) : List Char :=
  match c.head? with
  | some '\u2028' => ['\u2028']
  | some '\u2029' => ['\u2029']
  | some _ => ['\n']
  | none => []

/-- The position at the end of the line. -/
def skipLine (c : Cursor) : Cursor := c.skipWhile (!isBreak ·)

/-- The position at the end of the line, if nothing but a comment comes before it. -/
def skipComment? (c : Cursor) : Option Cursor :=
  let c := c.skipWhile isSpace
  let c := if c.isAt '#' then c.skipLine else c
  if c.atLineEnd then some c else none

/-- Whether a mark of three equal characters stands alone at the start of the line. -/
def atMark (c : Cursor) (ch : Char) : Bool :=
  c.column = 0 && [ch, ch, ch].isPrefixOf c.rest && c.wordEndsAt 3

/-- Whether a document begins or ends here. -/
def atDocumentMark (c : Cursor) : Bool := c.atMark '-' || c.atMark '.'

end Cursor

end PreviewServer.Yaml
