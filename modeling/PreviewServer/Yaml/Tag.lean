import PreviewServer.Text.Utf8
import PreviewServer.Yaml.Scalar

/-!
# Tags and directives

A tag says what kind of value a node has.  It is written in full between angle brackets, or as a
handle and a suffix, where a directive before the document may have declared what the handle
stands for.  Tags are URIs, in which any byte may be escaped as long as the escaped bytes form
whole characters (`readUri`).
-/

namespace PreviewServer.Yaml

/-! ### URIs -/

/-- The marks that may occur in a tag. -/
def uriMarks : List Char :=
  [';', '/', '?', ':', '@', '&', '=', '+', '$', '.', '!', '~', '*', '\x27', '(', ')']

/-- Whether a character stands for itself in a tag.  The indicators of flow collections do so
only in a tag that is written in full. -/
def isUriChar (full : Bool) (c : Char) : Bool :=
  isNameChar c || uriMarks.contains c || (full && [',', '[', ']'].contains c)

/-- How many bytes a character has that begins with this one. -/
def sequenceLength? (b : Nat) : Option Nat :=
  if b < 0x80 then some 1
  else if b / 0x20 = 6 then some 2
  else if b / 0x10 = 14 then some 3
  else if b / 0x08 = 30 then some 4
  else none

/-- Reads the characters of a URI, of which some escapes must follow first to complete a
character.  Also tells how many characters of the text were read. -/
def readUri (full : Bool) : (awaited : Nat) → List Char → Except Error (Bytes × Nat)
  | awaited, '%' :: a :: b :: rest =>
    match digitValue? a, digitValue? b with
    | some x, some y =>
      let byte := x * 16 + y
      let awaited? :=
        if awaited = 0 then (sequenceLength? byte).map (· - 1)
        else if byte / 0x40 = 2 then some (awaited - 1)
        else none
      match awaited? with
      | none => .error .badTag
      | some awaited =>
        match readUri full awaited rest with
        | .error e => .error e
        | .ok (bytes, n) => .ok (byte.toUInt8 :: bytes, n + 3)
    | _, _ => .error .badTag
  | awaited, c :: rest =>
    if awaited ≠ 0 ∨ c = '%' then .error .badTag
    else if isUriChar full c then
      match readUri full 0 rest with
      | .error e => .error e
      | .ok (bytes, n) => .ok (Utf8.encode (String.singleton c) ++ bytes, n + 1)
    else .ok ([], 0)
  | awaited, [] => if awaited = 0 then .ok ([], 0) else .error .badTag

/-! ### Tags -/

/-- A tag as written. -/
structure RawTag where
  /-- The handle; empty if the tag is written in full. -/
  handle : List Char
  /-- What follows the handle. -/
  suffix : Bytes
  deriving DecidableEq, Repr

/-- The handle at a position: an exclamation mark, a name and, if there is one, another
exclamation mark. -/
def handleAt (c : Cursor) : List Char :=
  match c.rest with
  | '!' :: rest =>
    let name := rest.takeWhile isNameChar
    if (rest.drop name.length).head? = some '!' then '!' :: name ++ ['!'] else '!' :: name
  | _ => []

/-- Reads a URI that must not be empty. -/
def readSuffix (full : Bool) (c : Cursor) : Except Error (Bytes × Cursor) :=
  match readUri full 0 c.rest with
  | .error e => .error e
  | .ok (_, 0) => .error .badTag
  | .ok (bytes, n) => .ok (bytes, c.skip n)

/-- Reads a tag written in full, behind its opening bracket. -/
def readFullTag (c : Cursor) : Except Error (RawTag × Cursor) :=
  match readSuffix true c with
  | .error e => .error e
  | .ok (suffix, c) =>
    if c.isAt '>' then .ok ({ handle := [], suffix := suffix }, c.skip 1) else .error .badTag

/-- Reads a tag that begins with a handle.  What looks like a handle without its second mark is
the beginning of the suffix; a lone exclamation mark is a tag of its own. -/
def readShortTag (c : Cursor) : Except Error (RawTag × Cursor) :=
  let handle := handleAt c
  if 2 ≤ handle.length ∧ handle.getLast? = some '!' then
    match readSuffix false (c.skip handle.length) with
    | .error e => .error e
    | .ok (suffix, c) => .ok ({ handle := handle, suffix := suffix }, c)
  else
    match readUri false 0 (c.rest.drop handle.length) with
    | .error e => .error e
    | .ok (more, n) =>
      let suffix := Utf8.encode (String.ofList handle.tail) ++ more
      let c := c.skip (handle.length + n)
      if suffix = [] then .ok ({ handle := [], suffix := Utf8.encode "!" }, c)
      else .ok ({ handle := ['!'], suffix := suffix }, c)

/-- Reads a tag.  It ends with a blank, or in a flow collection with a comma. -/
def readTag (inFlow : Bool) (c : Cursor) : Except Error (RawTag × Cursor) :=
  match if c.peek? 1 = some '<' then readFullTag (c.skip 2) else readShortTag c with
  | .error e => .error e
  | .ok (tag, c) =>
    if c.wordEndsAt 0 || (inFlow && c.isAt ',') then .ok (tag, c) else .error .badTag

/-! ### Directives -/

/-- A line before a document that says how to read it. -/
inductive Directive where
  /-- The version of the format. -/
  | version (major minor : Nat)
  /-- What a handle stands for. -/
  | handle (name : List Char) (meaning : Bytes)
  deriving DecidableEq, Repr

/-- The number of digits that is too long for a version. -/
def maxVersionDigits : Nat := 9

/-- Reads a number of a version. -/
def readVersionNumber (c : Cursor) : Except Error (Nat × Cursor) :=
  let digits := c.rest.takeWhile Char.isDigit
  if digits = [] ∨ maxVersionDigits < digits.length then .error .badDirective
  else
    .ok (decimalValue digits, c.skip digits.length)

/-- Reads what follows the name of a version directive. -/
def readVersion (c : Cursor) : Except Error (Directive × Cursor) :=
  match readVersionNumber (c.skipWhile isSpace) with
  | .error e => .error e
  | .ok (major, c) =>
    if c.isAt '.' then
      match readVersionNumber (c.skip 1) with
      | .error e => .error e
      | .ok (minor, c) => .ok (.version major minor, c)
    else .error .badDirective

/-- Reads what follows the name of a tag directive. -/
def readHandleMeaning (c : Cursor) : Except Error (Directive × Cursor) :=
  let c := c.skipWhile isSpace
  let name := handleAt c
  let behind := c.skip name.length
  if name = ['!'] ∨ (2 ≤ name.length ∧ name.getLast? = some '!') then
    if behind.atSpace then
      match readSuffix true (behind.skipWhile isSpace) with
      | .error e => .error e
      | .ok (meaning, c) =>
        if c.wordEndsAt 0 then .ok (.handle name meaning, c) else .error .badDirective
    else .error .badDirective
  else .error .badDirective

/-- Reads a directive behind its percent sign, up to the start of the next line. -/
def readDirective (c : Cursor) : Except Error (Directive × Cursor) :=
  let name := c.rest.takeWhile isNameChar
  let behind := c.skip name.length
  let content :=
    if !behind.wordEndsAt 0 then .error .badDirective
    else if name = "YAML".toList then readVersion behind
    else if name = "TAG".toList then readHandleMeaning behind
    else .error .badDirective
  match content with
  | .error e => .error e
  | .ok (directive, c) =>
    match c.skipComment? with
    | none => .error .badDirective
    | some c => .ok (directive, if c.atBreak then c.skipBreak else c)

end PreviewServer.Yaml
