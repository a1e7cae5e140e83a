import PreviewServer.Text.Digits
import PreviewServer.Yaml.Cursor

/-!
# YAML scalars

A scalar is written plain, in single or double quotes, or as a block of lines.  In all but the
last form, blanks around a line break do not count, a single line break counts as a space, and of
several line breaks the first does not count (`Gap.text`).  A block keeps its line breaks, or folds
them in the same way, and its header says what happens to the breaks at its end.
-/

namespace PreviewServer.Yaml

/-- How a scalar is written. -/
inductive Style where
  /-- Without quotes. -/
  | plain
  /-- In single or double quotes. -/
  | quoted
  /-- As a block that keeps its line breaks. -/
  | literal
  /-- As a block that folds its line breaks. -/
  | folded
  deriving DecidableEq, Repr

/-! ### Between two words -/

/-- Blanks and line breaks between two words of a scalar. -/
structure Gap where
  /-- The blanks, as long as there was no line break. -/
  blanks : List Char := []
  /-- Whether a line has ended. -/
  broken : Bool := false
  /-- What the first line break contributes. -/
  firstBreak : List Char := []
  /-- What the other line breaks contribute. -/
  moreBreaks : List Char := []

namespace Gap

/-- What a gap contributes to the scalar. -/
def text (g : Gap) : List Char :=
  if g.broken then
    if g.firstBreak = ['\n'] then if g.moreBreaks = [] then [' '] else g.moreBreaks
    else g.firstBreak ++ g.moreBreaks
  else g.blanks

/-- Reads on in a gap.  On a new line no tab may stand before column `margin`. -/
def read (margin : Nat) : Nat → Cursor → Gap → Except Error (Gap × Cursor)
  | 0, c, g => .ok (g, c)
  | fuel + 1, c, g =>
    if c.atSpace then
      if !g.broken then read margin fuel (c.skip 1) { g with blanks := g.blanks ++ c.rest.take 1 }
      else if c.column < margin ∧ c.isAt '\t' then .error .tabInIndentation
      else read margin fuel (c.skip 1) g
    else if c.atBreak then
      if g.broken then
        read margin fuel c.skipBreak { g with moreBreaks := g.moreBreaks ++ c.breakText }
      else read margin fuel c.skipBreak { broken := true, firstBreak := c.breakText }
    else .ok (g, c)

end Gap

/-! ### Plain scalars -/

/-- The characters that structure a flow collection. -/
def flowIndicators : List Char := [',', '[', ']', '\x7b', '\x7d']

/-- Reads the characters of a plain scalar up to a blank or an indicator that ends it. -/
def readPlainWord (inFlow : Bool) : List Char → Except Error (List Char)
  | [] => .ok []
  | ch :: rest =>
    if isSpace ch || isBreak ch then .ok []
    else if inFlow && ch = ':' && rest.head?.any ('?' :: flowIndicators).contains then
      .error .ambiguousColon
    else if ch = ':' && rest.head?.all (fun d => isSpace d || isBreak d) then .ok []
    else if inFlow && flowIndicators.contains ch then .ok []
    else (readPlainWord inFlow rest).map (ch :: ·)

/-- What was read of a plain scalar. -/
structure PlainScalar where
  /-- Its text. -/
  text : List Char
  /-- Whether a line has ended since its last word. -/
  broken : Bool

/-- Reads on in a plain scalar behind a gap.  Outside flow collections its lines have to be
indented at least to `margin`. -/
def readPlain (inFlow : Bool) (margin : Nat) :
    Nat → Gap → Cursor → Except Error (PlainScalar × Cursor)
  | 0, g, c => .ok ({ text := [], broken := g.broken }, c)
  | fuel + 1, g, c =>
    if c.atDocumentMark || c.isAt '#' then .ok ({ text := [], broken := g.broken }, c)
    else
      match readPlainWord inFlow c.rest with
      | .error e => .error e
      | .ok [] => .ok ({ text := [], broken := g.broken }, c)
      | .ok word =>
        let here := g.text ++ word
        let c := c.skip word.length
        if c.atSpace || c.atBreak then
          match Gap.read margin c.rest.length c {} with
          | .error e => .error e
          | .ok (g, c) =>
            -- A line that is indented too little is none of the scalar.
            if !inFlow ∧ c.column < margin then .ok ({ text := here, broken := g.broken }, c)
            else
              match readPlain inFlow margin fuel g c with
              | .error e => .error e
              | .ok (s, c) => .ok ({ s with text := here ++ s.text }, c)
        else .ok ({ text := here, broken := false }, c)

/-! ### Quoted scalars -/

/-- The escapes of a single character in double quotes. -/
def escapes : List (Char × Char) :=
  [('0', '\x00'), ('a', '\x07'), ('b', '\x08'), ('t', '\t'), ('\t', '\t'), ('n', '\n'),
   ('v', '\x0b'), ('f', '\x0c'), ('r', '\r'), ('e', '\x1b'), (' ', ' '), ('\x22', '\x22'),
   ('/', '/'), ('\x5c', '\x5c'), ('N', '\u0085'), ('_', '\u00A0'), ('L', '\u2028'),
   ('P', '\u2029')]

/-- The number of hexadecimal digits after the escape of a code point. -/
def codeLength? : Char → Option Nat
  | 'x' => some 2
  | 'u' => some 4
  | 'U' => some 8
  | _ => none

/-- The character with a code point, unless that is a surrogate or too large. -/
def charOfCode? (n : Nat) : Option Char := if n.isValidChar then some (Char.ofNat n) else none

/-- Reads the escape of a character behind its backslash; also tells how many characters the
escape has after the backslash. -/
def readEscape (rest : List Char) : Except Error (Char × Nat) :=
  match rest with
  | [] => .error .badEscape
  | k :: rest =>
    match escapes.find? fun e => e.1 = k with
    | some e => .ok (e.2, 1)
    | none =>
      match codeLength? k with
      | none => .error .badEscape
      | some n =>
        if rest.length < n then .error .badEscape
        else
          match (numberInBase? 16 (rest.take n)).bind charOfCode? with
          | some ch => .ok (ch, n + 1)
          | none => .error .badEscape

/-- A word of a quoted scalar. -/
structure QuotedWord where
  /-- Its text. -/
  text : List Char
  /-- Whether it ended with an escaped line break. -/
  escapedBreak : Bool

/-- Reads the characters of a quoted scalar up to a blank, a line break or the closing quote. -/
def readQuotedWord (quote : Char) : Nat → Cursor → Except Error (QuotedWord × Cursor)
  | 0, c => .ok ({ text := [], escapedBreak := false }, c)
  | fuel + 1, c =>
    let more := fun (ch : Char) (n : Nat) =>
      (readQuotedWord quote fuel (c.skip n)).map fun (w, c) => ({ w with text := ch :: w.text }, c)
    match c.rest with
    | [] => .ok ({ text := [], escapedBreak := false }, c)
    | ch :: rest =>
      if isSpace ch || isBreak ch then .ok ({ text := [], escapedBreak := false }, c)
      -- A single quote is written twice to stand for itself.
      else if quote = '\x27' && ch = quote && rest.head? = some quote then more quote 2
      else if ch = quote then .ok ({ text := [], escapedBreak := false }, c)
      else if quote = '\x22' && ch = '\x5c' then
        if rest.head?.any isBreak then
          .ok ({ text := [], escapedBreak := true }, (c.skip 1).skipBreak)
        else
          match readEscape rest with
          | .error e => .error e
          | .ok (d, n) => more d (n + 1)
      else more ch 1

/-- Reads on in a quoted scalar up to and including its closing quote. -/
def readQuoted (quote : Char) : Nat → Cursor → Except Error (List Char × Cursor)
  | 0, _ => .error .unclosedQuote
  | fuel + 1, c =>
    if c.atDocumentMark then .error .unclosedQuote
    else if c.atEnd then .error .unclosedQuote
    else
      match readQuotedWord quote c.rest.length c with
      | .error e => .error e
      | .ok (w, c) =>
        if c.isAt quote then .ok (w.text, c.skip 1)
        else
          match Gap.read 0 c.rest.length c { broken := w.escapedBreak } with
          | .error e => .error e
          | .ok (g, c) =>
            (readQuoted quote fuel c).map fun (more, c) => (w.text ++ g.text ++ more, c)

/-! ### Block scalars -/

/-- What happens to the line breaks at the end of a block. -/
inductive Chomping where
  /-- None is kept. -/
  | strip
  /-- The first one is kept. -/
  | clip
  /-- All are kept. -/
  | keep
  deriving DecidableEq, Repr

/-- Reads an indicator of chomping. -/
def chomping? (c : Cursor) : Option Chomping :=
  if c.isAt '+' then some .keep else if c.isAt '-' then some .strip else none

/-- Reads an indicator of indentation, which must not be zero. -/
def indentation? (c : Cursor) : Except Error (Option Nat) :=
  match c.head? with
  | some ch =>
    if ch = '0' then .error .badBlockHeader
    else if ch.isDigit then .ok (some (ch.toNat - '0'.toNat))
    else .ok none
  | none => .ok none

/-- The header of a block: how it is chomped and how far it is indented, if that is said. -/
structure BlockHeader where
  /-- What happens to the line breaks at its end. -/
  chomping : Chomping
  /-- How much further than its parent it is indented; zero if that is not said. -/
  increment : Nat

/-- Reads the header of a block behind its indicator, up to the start of the next line.  The two
indicators may come in either order. -/
def readBlockHeader (c : Cursor) : Except Error (BlockHeader × Cursor) :=
  let finish := fun (h : BlockHeader) (c : Cursor) =>
    match c.skipComment? with
    | none => .error .badBlockHeader
    | some c => .ok (h, if c.atBreak then c.skipBreak else c)
  match chomping? c with
  | some ch =>
    match indentation? (c.skip 1) with
    | .error e => .error e
    | .ok none => finish { chomping := ch, increment := 0 } (c.skip 1)
    | .ok (some n) => finish { chomping := ch, increment := n } (c.skip 2)
  | none =>
    match indentation? c with
    | .error e => .error e
    | .ok none => finish { chomping := .clip, increment := 0 } c
    | .ok (some n) =>
      match chomping? (c.skip 1) with
      | some ch => finish { chomping := ch, increment := n } (c.skip 2)
      | none => finish { chomping := .clip, increment := n } (c.skip 1)

/-- Empty lines in a block. -/
structure EmptyLines where
  /-- What their line breaks contribute. -/
  breaks : List Char
  /-- The furthest column that was reached in them. -/
  width : Nat

/-- Whether indentation is still counted at a column; zero stands for an indentation that is not
yet known. -/
def isIndenting (indent column : Nat) : Bool := indent = 0 || column < indent

/-- Reads indentation and empty lines of a block. -/
def readEmptyLines (indent : Nat) : Nat → Cursor → Except Error (EmptyLines × Cursor)
  | 0, c => .ok ({ breaks := [], width := 0 }, c)
  | fuel + 1, c =>
    let spaces := (c.rest.takeWhile (· = ' ')).length
    let c := c.skip (if indent = 0 then spaces else min spaces (indent - c.column))
    if isIndenting indent c.column && c.isAt '\t' then .error .tabInIndentation
    else if c.atBreak then
      (readEmptyLines indent fuel c.skipBreak).map fun (e, c') =>
        ({ breaks := c.breakText ++ e.breaks, width := max c.column e.width }, c')
    else .ok ({ breaks := [], width := c.column }, c)

/-- The lines of a block that were read, and the breaks after the last of them. -/
structure BlockLines where
  /-- The text up to the end of the last line. -/
  text : List Char
  /-- What the break of the last line contributes. -/
  lastBreak : List Char
  /-- What the breaks of the empty lines after it contribute. -/
  emptyBreaks : List Char

/-- Reads the lines of a block.  When folding, the break between two lines that do not start with
a blank counts as a space, or not at all if empty lines follow. -/
def readBlockLines (fold : Bool) (indent : Nat) :
    Nat → (lastBreak emptyBreaks : List Char) → (indented : Bool) → Cursor →
      Except Error (BlockLines × Cursor)
  | 0, lastBreak, emptyBreaks, _, c =>
    .ok ({ text := [], lastBreak := lastBreak, emptyBreaks := emptyBreaks }, c)
  | fuel + 1, lastBreak, emptyBreaks, indented, c =>
    if c.column = indent ∧ !c.atEnd then
      let joint :=
        if fold && lastBreak = ['\n'] && !indented && !c.atSpace then
          if emptyBreaks = [] then [' '] else emptyBreaks
        else lastBreak ++ emptyBreaks
      let line := c.rest.takeWhile (!isBreak ·)
      let atBreak := c.skip line.length
      let next := if atBreak.atBreak then atBreak.skipBreak else atBreak
      match readEmptyLines indent (next.rest.length + 1) next with
      | .error e => .error e
      | .ok (e, next) =>
        (readBlockLines fold indent fuel atBreak.breakText e.breaks c.atSpace next).map
          fun (b, c) => ({ b with text := joint ++ line ++ b.text }, c)
    else .ok ({ text := [], lastBreak := lastBreak, emptyBreaks := emptyBreaks }, c)

/-- Reads a block behind its indicator.  Its parent's lines are indented to just before `margin`,
and its own at least to there. -/
def readBlock (fold : Bool) (margin : Nat) (c : Cursor) : Except Error (List Char × Cursor) :=
  match readBlockHeader c with
  | .error e => .error e
  | .ok (h, c) =>
    let known := if h.increment = 0 then 0 else (margin - 1) + h.increment
    match readEmptyLines known (c.rest.length + 1) c with
    | .error e => .error e
    | .ok (e, c) =>
      -- Where the header does not tell, the furthest column up to the first line with text does.
      let indent := if known = 0 then max (max e.width margin) 1 else known
      match readBlockLines fold indent (c.rest.length + 1) [] e.breaks false c with
      | .error e => .error e
      | .ok (b, c) =>
        let ending :=
          match h.chomping with
          | .strip => []
          | .clip => b.lastBreak
          | .keep => b.lastBreak ++ b.emptyBreaks
        .ok (b.text ++ ending, c)

end PreviewServer.Yaml
