import PreviewServer.Yaml.Tag

/-!
# YAML tokens

The tokens of a text are its indicators and scalars, together with tokens for what only the
indentation shows: where a block collection begins and ends.  Whether a scalar is the key of a
mapping is seen at the colon behind it, so a place where a key may have begun is kept until then
(`PossibleKey`), and the tokens of the key are put in front of it afterwards.
-/

namespace PreviewServer.Yaml

/-- A token. -/
inductive Token where
  /-- A directive before a document. -/
  | directive (d : Directive)
  /-- The mark before a document. -/
  | documentStart
  /-- The mark behind a document. -/
  | documentEnd
  /-- The first item of a block sequence follows. -/
  | blockSequence
  /-- The first key of a block mapping follows. -/
  | blockMapping
  /-- A block collection has ended. -/
  | blockEnd
  /-- An opening square bracket. -/
  | flowSequence
  /-- A closing square bracket. -/
  | flowSequenceEnd
  /-- An opening curly bracket. -/
  | flowMapping
  /-- A closing curly bracket. -/
  | flowMappingEnd
  /-- The hyphen before an item of a block sequence. -/
  | item
  /-- The comma behind an entry of a flow collection. -/
  | comma
  /-- A key follows. -/
  | key
  /-- A value follows. -/
  | value
  /-- A reference to an anchor. -/
  | alias (name : List Char)
  /-- The name of the node that follows. -/
  | anchor (name : List Char)
  /-- The tag of the node that follows. -/
  | tag (t : RawTag)
  /-- A scalar. -/
  | scalar (style : Style) (text : List Char)
  deriving DecidableEq, Repr

/-! ### State -/

/-- A place where a key may have begun. -/
structure PossibleKey where
  /-- How many tokens come before it. -/
  tokens : Nat
  /-- Whether nothing but a key can stand there. -/
  required : Bool
  /-- Its position. -/
  place : Cursor

/-- What is known in the middle of a text. -/
structure Lexer where
  /-- The position. -/
  cursor : Cursor
  /-- The tokens so far, the last one first. -/
  tokens : List Token
  /-- The columns of the open block collections, the innermost first. -/
  indents : List Nat
  /-- The place where a key may have begun in the innermost collection. -/
  key : Option PossibleKey
  /-- Such places of the collections around each open flow collection, the innermost first. -/
  outer : List (Option PossibleKey)
  /-- Whether a key may begin here. -/
  keyAllowed : Bool

namespace Lexer

/-- The start of a text. -/
def start (text : List Char) : Lexer :=
  { cursor := .start text, tokens := [], indents := [], key := none, outer := [],
    keyAllowed := true }

/-- Whether a flow collection is open. -/
def inFlow (l : Lexer) : Bool := !l.outer.isEmpty

/-- The first column behind the indentation of the innermost block collection. -/
def margin (l : Lexer) : Nat :=
  match l.indents with
  | [] => 0
  | i :: _ => i + 1

/-- A further token. -/
def emit (l : Lexer) (t : Token) : Lexer := { l with tokens := t :: l.tokens }

/-- A further token that is `n` characters long. -/
def emitMark (l : Lexer) (t : Token) (n : Nat) : Lexer :=
  { l.emit t with cursor := l.cursor.skip n }

/-- A token put in behind the first `n`. -/
def insert (l : Lexer) (n : Nat) (t : Token) : Lexer :=
  -- The tokens are kept in reverse, so those behind the first `n` stand in front.
  let later := l.tokens.length - n
  { l with tokens := l.tokens.take later ++ t :: l.tokens.drop later }

/-! ### Indentation -/

/-- Ends the block collections that are indented further than a column. -/
def closeTo (l : Lexer) (column : Nat) : Lexer :=
  if l.inFlow then l
  else
    { l with
      indents := l.indents.dropWhile (column < ·)
      tokens := (l.indents.takeWhile (column < ·)).map (fun _ => Token.blockEnd) ++ l.tokens }

/-- Ends all block collections. -/
def closeAll (l : Lexer) : Lexer :=
  if l.inFlow then l
  else { l with indents := [], tokens := l.indents.map (fun _ => Token.blockEnd) ++ l.tokens }

/-- Begins a block collection behind the first `n` tokens, unless the innermost one has this column
already. -/
def openAt (l : Lexer) (column n : Nat) (t : Token) : Lexer :=
  if !l.inFlow && l.margin ≤ column then
    { l.insert n t with indents := column :: l.indents }
  else l

/-- Begins a block collection here, unless the innermost one has this column already. -/
def openHere (l : Lexer) (t : Token) : Lexer := l.openAt l.cursor.column l.tokens.length t

/-! ### Keys -/

/-- The furthest that a key may extend on its line. -/
def maxKeyLength : Nat := 1024

/-- Gives up the place where a key may have begun. -/
def forgetKey (l : Lexer) : Except Error Lexer :=
  match l.key with
  | some k => if k.required then .error .keyWithoutColon else .ok { l with key := none }
  | none => .ok l

/-- Notes that a key may begin here. -/
def noteKey (l : Lexer) : Except Error Lexer :=
  if l.keyAllowed then
    match l.forgetKey with
    | .error e => .error e
    | .ok l =>
      .ok { l with
            key := some { tokens := l.tokens.length
                          required := !l.inFlow && l.indents.head? = some l.cursor.column
                          place := l.cursor } }
  else .ok l

/-- A place where a key may have begun, as seen further on: a key lies on one line and is not too
long. -/
def refresh (now : Cursor) : Option PossibleKey → Except Error (Option PossibleKey)
  | none => .ok none
  | some k =>
    if k.place.line < now.line ∨ k.place.index + maxKeyLength < now.index then
      if k.required then .error .keyWithoutColon else .ok none
    else .ok (some k)

/-- Gives up the places that are too far back. -/
def refreshKeys (l : Lexer) : Except Error Lexer :=
  match refresh l.cursor l.key, l.outer.mapM (refresh l.cursor) with
  | .ok key, .ok outer => .ok { l with key := key, outer := outer }
  | .error e, _ => .error e
  | _, .error e => .error e

/-! ### Tokens -/

/-- Skips blanks, comments and line breaks up to the next token.  A new line allows a key. -/
def skipGap : Nat → Lexer → Lexer
  | 0, l => l
  | fuel + 1, l =>
    let c := l.cursor
    let c := if c.column = 0 ∧ c.isAt byteOrderMark then c.skip 1 else c
    -- A tab separates tokens, but it is no indentation, so none may come where a key may begin.
    let tabs := l.inFlow || !l.keyAllowed
    let c := c.skipWhile fun ch => ch = ' ' || (tabs && ch = '\t')
    let c := if c.isAt '#' then c.skipLine else c
    if c.atBreak then
      skipGap fuel { l with cursor := c.skipBreak, keyAllowed := l.keyAllowed || !l.inFlow }
    else { l with cursor := c }

/-- A mark at the border of a document. -/
def documentMark (l : Lexer) (t : Token) : Except Error Lexer :=
  match l.closeAll.forgetKey with
  | .error e => .error e
  | .ok l => .ok { l.emitMark t 3 with keyAllowed := false }

/-- A directive. -/
def directive (l : Lexer) : Except Error Lexer :=
  match l.closeAll.forgetKey, readDirective (l.cursor.skip 1) with
  | .ok l, .ok (d, c) => .ok { l.emit (.directive d) with cursor := c, keyAllowed := false }
  | .error e, _ => .error e
  | _, .error e => .error e

/-- The opening bracket of a flow collection. -/
def openFlow (l : Lexer) (t : Token) : Except Error Lexer :=
  match l.noteKey with
  | .error e => .error e
  | .ok l =>
    .ok { l.emitMark t 1 with key := none, outer := l.key :: l.outer, keyAllowed := true }

/-- The closing bracket of a flow collection. -/
def closeFlow (l : Lexer) (t : Token) : Except Error Lexer :=
  match l.forgetKey with
  | .error e => .error e
  | .ok l =>
    .ok { l.emitMark t 1 with
          key := l.outer.headD none, outer := l.outer.tail, keyAllowed := false }

/-- The comma in a flow collection. -/
def comma (l : Lexer) : Except Error Lexer :=
  match l.forgetKey with
  | .error e => .error e
  | .ok l => .ok { l.emitMark .comma 1 with keyAllowed := true }

/-- An indicator that begins a block collection where none is open at its column. -/
def blockIndicator (l : Lexer) (collection indicator : Token) (keyAllowed : Bool) :
    Except Error Lexer :=
  if !l.inFlow && !l.keyAllowed then .error .misplacedIndicator
  else
    match (l.openHere collection).forgetKey with
    | .error e => .error e
    | .ok l => .ok { l.emitMark indicator 1 with keyAllowed := keyAllowed }

/-- The hyphen before an item. -/
def item (l : Lexer) : Except Error Lexer := l.blockIndicator .blockSequence .item true

/-- The question mark before a key. -/
def explicitKey (l : Lexer) : Except Error Lexer :=
  l.blockIndicator .blockMapping .key (!l.inFlow)

/-- The colon before a value.  If a key may have begun before it, it has. -/
def value (l : Lexer) : Except Error Lexer :=
  match l.key with
  | some k =>
    -- What was read since then is the key: its mark, and the mapping if it is the first one, go in
    -- front of it.
    let l := (l.insert k.tokens .key).openAt k.place.column k.tokens .blockMapping
    .ok { l.emitMark .value 1 with key := none, keyAllowed := false }
  | none =>
    if !l.inFlow && !l.keyAllowed then .error .misplacedIndicator
    else .ok { (l.openHere .blockMapping).emitMark .value 1 with keyAllowed := !l.inFlow }

/-- The characters that may follow a name directly. -/
def nameEnds : List Char := ['?', ':', ',', ']', '\x7d', '%', '@', '\x60']

/-- An anchor or an alias. -/
def name (l : Lexer) (t : List Char → Token) : Except Error Lexer :=
  match l.noteKey with
  | .error e => .error e
  | .ok l =>
    let name := (l.cursor.rest.drop 1).takeWhile isNameChar
    let c := l.cursor.skip (name.length + 1)
    if name ≠ [] ∧ (c.wordEndsAt 0 ∨ c.head?.any nameEnds.contains) then
      .ok { l.emit (t name) with cursor := c, keyAllowed := false }
    else .error .badAnchor

/-- A tag. -/
def tag (l : Lexer) : Except Error Lexer :=
  match l.noteKey, readTag l.inFlow l.cursor with
  | .ok l, .ok (t, c) => .ok { l.emit (.tag t) with cursor := c, keyAllowed := false }
  | .error e, _ => .error e
  | _, .error e => .error e

/-- A block scalar. -/
def block (l : Lexer) (style : Style) : Except Error Lexer :=
  match l.forgetKey, readBlock (style = .folded) l.margin (l.cursor.skip 1) with
  | .ok l, .ok (text, c) => .ok { l.emit (.scalar style text) with cursor := c, keyAllowed := true }
  | .error e, _ => .error e
  | _, .error e => .error e

/-- A quoted scalar. -/
def quoted (l : Lexer) (quote : Char) : Except Error Lexer :=
  let c := l.cursor.skip 1
  match l.noteKey, readQuoted quote (c.rest.length + 1) c with
  | .ok l, .ok (text, c) =>
    .ok { l.emit (.scalar .quoted text) with cursor := c, keyAllowed := false }
  | .error e, _ => .error e
  | _, .error e => .error e

/-- A plain scalar.  If a line has ended behind it, a key may follow. -/
def plain (l : Lexer) : Except Error Lexer :=
  match l.noteKey, readPlain l.inFlow l.margin (l.cursor.rest.length + 1) {} l.cursor with
  | .ok l, .ok (s, c) =>
    .ok { l.emit (.scalar .plain s.text) with cursor := c, keyAllowed := s.broken }
  | .error e, _ => .error e
  | _, .error e => .error e

/-- The characters that no plain scalar begins with. -/
def indicators : List Char :=
  ['-', '?', ':', ',', '[', ']', '\x7b', '\x7d', '#', '&', '*', '!', '|', '>', '\x27', '\x22', '%',
   '@', '\x60', '\t']

/-- The token at the position, which is not the end. -/
def token (l : Lexer) (ch : Char) : Except Error Lexer :=
  let c := l.cursor
  -- Within a flow collection these two indicators need no blank behind them.
  let alone := l.inFlow || c.wordEndsAt 1
  if c.column = 0 ∧ ch = '%' then l.directive
  else if c.atMark '-' then l.documentMark .documentStart
  else if c.atMark '.' then l.documentMark .documentEnd
  else if ch = '[' then l.openFlow .flowSequence
  else if ch = '\x7b' then l.openFlow .flowMapping
  else if ch = ']' then l.closeFlow .flowSequenceEnd
  else if ch = '\x7d' then l.closeFlow .flowMappingEnd
  else if ch = ',' then l.comma
  else if ch = '-' ∧ c.wordEndsAt 1 then l.item
  else if ch = '?' ∧ alone then l.explicitKey
  else if ch = ':' ∧ alone then l.value
  else if ch = '*' then l.name .alias
  else if ch = '&' then l.name .anchor
  else if ch = '!' then l.tag
  else if ch = '|' ∧ !l.inFlow then l.block .literal
  else if ch = '>' ∧ !l.inFlow then l.block .folded
  else if ch = '\x27' ∨ ch = '\x22' then l.quoted ch
  -- Three of the indicators begin a plain scalar if a word goes on behind them.
  else if indicators.contains ch ∧ ¬(ch = '-' ∨ ((ch = '?' ∨ ch = ':') ∧ !l.inFlow)) then
    .error .strayCharacter
  else l.plain

/-- Reads the tokens from here to the end. -/
def run : Nat → Lexer → Except Error (List Token)
  | 0, l => .ok l.tokens.reverse
  | fuel + 1, l =>
    match (skipGap (l.cursor.rest.length + 1) l).refreshKeys with
    | .error e => .error e
    | .ok l =>
      -- The column of a token shows which block collections have ended before it.
      let l := l.closeTo l.cursor.column
      match l.cursor.head? with
      | some ch =>
        match l.token ch with
        | .error e => .error e
        | .ok l => run fuel l
      | none => l.closeAll.forgetKey.map (·.tokens.reverse)

end Lexer

/-- The tokens of a text. -/
def Token.ofText (text : List Char) : Except Error (List Token) :=
  if text.all isAllowed then Lexer.run (text.length + 1) (Lexer.start text)
  else .error .controlCharacter

end PreviewServer.Yaml
