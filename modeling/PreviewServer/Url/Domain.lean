import PreviewServer.Text.Split
import PreviewServer.Unicode.Direction
import PreviewServer.Unicode.Normalization
import PreviewServer.Url.HostMapping
import PreviewServer.Url.Punycode

/-!
# Domain names

The name of a host is brought into its ASCII form, or refused: its characters are replaced by those
they stand for, the result is normalized and cut at its dots, and every label that is not ASCII is
written in ASCII.  A label that is already written so must be what it would be written as.  Labels
must not begin with a mark, must not hide joiners where nothing joins, and must not mix directions
of writing.  Neither the length of a label nor hyphens matter, and labels may be empty.
-/

namespace PreviewServer

namespace Url

open Unicode

/-- A label of a domain name, as its characters. -/
abbrev Label := List Char

/-- Whether all characters of a label are ASCII. -/
def isAscii (label : Label) : Bool := label.all (·.toNat < 0x80)

/-! ### Joiners -/

/-- The character that separates letters which would join. -/
def nonJoiner : Char := '\u200C'

/-- The character that joins letters which would not. -/
def joiner : Char := '\u200D'

/-- Whether the last character takes the vowel off a consonant. -/
def endsInVirama (reversed : List Char) : Bool :=
  match reversed with
  | c :: _ => combiningClass c = viramaClass
  | [] => false

/-- Whether the first character that is not transparent has a property. -/
def nextLetter (p : Char → Bool) (cs : List Char) : Bool :=
  match cs.dropWhile isTransparent with
  | c :: _ => p c
  | [] => false

/-- Whether every joiner behind the characters `done`, last one first, has something to act on. -/
def joinersMatter (done : List Char) : List Char → Bool
  | [] => true
  | c :: cs =>
    (if c = nonJoiner then
      endsInVirama done || (nextLetter joinsNext done && nextLetter joinsPrevious cs)
    else c ≠ joiner || endsInVirama done) &&
    joinersMatter (c :: done) cs

/-! ### Direction -/

/-- The directions that may occur in a label that is written from right to left. -/
def rightToLeftMix : List Direction :=
  [.rightToLeft, .arabicNumber, .europeanNumber, .neutral, .nonspacing]

/-- The directions that may occur in a label that is written from left to right. -/
def leftToRightMix : List Direction := [.leftToRight, .europeanNumber, .neutral, .nonspacing]

/-- The last direction, marks not counted. -/
def lastDirection? (ds : List Direction) : Option Direction :=
  (ds.reverse.dropWhile (· = .nonspacing)).head?

/-- Whether a label of these directions can be shown so that it is read in one way only. -/
def isReadable (ds : List Direction) : Bool :=
  match ds with
  | [] => true
  | .rightToLeft :: _ =>
    ds.all rightToLeftMix.contains &&
    (lastDirection? ds).any [.rightToLeft, .europeanNumber, .arabicNumber].contains &&
    !(ds.contains .europeanNumber && ds.contains .arabicNumber)
  | .leftToRight :: _ =>
    ds.all leftToRightMix.contains &&
    (lastDirection? ds).any [.leftToRight, .europeanNumber].contains
  | _ => false

/-- Whether a character is written from right to left. -/
def isRightToLeft (c : Char) : Bool := direction c = .rightToLeft || direction c = .arabicNumber

/-- Whether labels can stand beside each other: if anything is written from right to left, each of
them has to be readable. -/
def areReadable (labels : List Label) : Bool :=
  !labels.any (·.any isRightToLeft) || labels.all fun l => isReadable (l.map direction)

/-! ### Labels -/

/-- How a label begins that is written in ASCII and stands for others. -/
def aceStart : List Char := "xn--".toList

/-- The longest ASCII form that is read. -/
def maxAceLength : Nat := 2000

/-- The longest label that is written in ASCII. -/
def maxLabelLength : Nat := 1000

/-- Whether a label that is not ASCII may occur. -/
def isLabel (label : Label) : Bool :=
  !(label.head?.any isMark) && joinersMatter [] label && !aceStart.isPrefixOf label

/-- The label that an ASCII form stands for. -/
def readAce? (text : List Char) : Option Label :=
  if maxAceLength < text.length ∨ !isAscii text then none
  else
    match Punycode.decode? text with
    | none => none
    | some label =>
      if !isAscii label && label.all isHostChar && normalize label = label && isLabel label then
        some label
      else none

/-- A mapped and normalized label, read and in ASCII. -/
def readLabel? (label : Label) : Option (Label × List Char) :=
  if aceStart.isPrefixOf label then
    (readAce? (label.drop aceStart.length)).map fun read => (read, label)
  -- Neither hyphens nor the length of an ASCII label matter.
  else if isAscii label then some (label, label)
  else if isLabel label && label.length ≤ maxLabelLength then
    some (label, aceStart ++ Punycode.encode label)
  else none

/-! ### Domain names -/

/-- The ASCII characters that no domain name contains, apart from control characters. -/
def forbiddenInDomain : List Char :=
  [' ', '%', '#', '/', ':', '<', '>', '?', '@', '[', '\x5c', ']', '^', '|', '\x7f']

/-- Whether no domain name contains a character. -/
def isForbiddenInDomain (c : Char) : Bool := c.toNat < 0x20 || forbiddenInDomain.contains c

/-- The ASCII form of a domain name. -/
def domainToAscii? (name : List Char) : Option (List Char) :=
  match name.mapM mapHostChar? with
  | none => none
  | some mapped =>
    match (fields '.' (normalize mapped.flatten)).mapM readLabel? with
    | none => none
    | some labels =>
      let ascii := joinWith ['.'] (labels.map Prod.snd)
      if ascii.any isForbiddenInDomain || !areReadable (labels.map Prod.fst) then none
      else some ascii

end Url

end PreviewServer
