import PreviewServer.Unicode.CombiningClass
import PreviewServer.Unicode.Composites

/-!
# Normal form

A text is normalized by taking every composite character apart, sorting the marks behind each
character by their classes, and composing again whatever has a composite (`normalize`).  Syllables
of Hangul are taken apart and composed by arithmetic.  Composites that normal form never contains
are not known here, so a text must have been freed of them before.
-/

namespace PreviewServer.Unicode

/-! ### Hangul -/

/-- The first of the letters that begin a syllable; there are 19. -/
def firstLead : Nat := 0x1100

/-- The first of the vowels of a syllable; there are 21. -/
def firstVowel : Nat := 0x1161

/-- The place before the letters that end a syllable, of which there are 27. -/
def beforeTail : Nat := 0x11A7

/-- The first syllable; the syllables are in the order of their letters. -/
def firstSyllable : Nat := 0xAC00

/-- How many syllables there are. -/
def syllableCount : Nat := 19 * 21 * 28

/-- The letters of a syllable. -/
def lettersOfSyllable? (c : Char) : Option (List Char) :=
  let n := c.toNat - firstSyllable
  if firstSyllable ≤ c.toNat ∧ n < syllableCount then
    let lead := Char.ofNat (firstLead + n / (21 * 28))
    let vowel := Char.ofNat (firstVowel + n % (21 * 28) / 28)
    if n % 28 = 0 then some [lead, vowel] else some [lead, vowel, Char.ofNat (beforeTail + n % 28)]
  else none

/-- The syllable, or the beginning of one, that two letters make. -/
def composeLetters? (a b : Char) : Option Char :=
  let x := a.toNat
  let y := b.toNat
  if firstLead ≤ x ∧ x < firstLead + 19 ∧ firstVowel ≤ y ∧ y < firstVowel + 21 then
    some (Char.ofNat (firstSyllable + ((x - firstLead) * 21 + (y - firstVowel)) * 28))
  else if firstSyllable ≤ x ∧ x < firstSyllable + syllableCount ∧ (x - firstSyllable) % 28 = 0 ∧
      beforeTail < y ∧ y < beforeTail + 28 then
    some (Char.ofNat (x + (y - beforeTail)))
  else none

/-! ### Taking apart -/

/-- The deepest nesting of composites. -/
def maxNesting : Nat := 4

/-- A character taken apart, as far as composites are nested to this depth. -/
def decomposeTo : Nat → Char → List Char
  | 0, c => [c]
  | depth + 1, c =>
    match composites.find? fun e => e.2.2 = c.toNat with
    | some e => decomposeTo depth (Char.ofNat e.1) ++ [Char.ofNat e.2.1]
    | none => [c]

/-- A character taken apart. -/
def decompose (c : Char) : List Char :=
  if c.toNat < 0x80 then [c]
  else
    match lettersOfSyllable? c with
    | some letters => letters
    | none => decomposeTo maxNesting c

/-! ### Sorting marks -/

/-- A text that is sorted, with a further mark put in its place: behind those of a class that is
not greater, counted from the end. -/
def insertMark (c : Char) : (reversed : List Char) → List Char
  | [] => [c]
  | d :: ds =>
    if combiningClass c < combiningClass d then d :: insertMark c ds else c :: d :: ds

/-- The text with its marks sorted. -/
def sortMarks (cs : List Char) : List Char :=
  (cs.foldl
    (fun reversed c => if combiningClass c = 0 then c :: reversed else insertMark c reversed)
    []).reverse

/-! ### Composing -/

/-- The composite of two characters. -/
def compose? (a b : Char) : Option Char :=
  match composeLetters? a b with
  | some c => some c
  | none =>
    (composites.find? fun e => e.1 = a.toNat && e.2.1 = b.toNat).map fun e => Char.ofNat e.2.2

/-- Composes the characters behind `starter`, of which those in `between`, last one first, are
known not to compose with it.  A character is out of reach of the starter if one of its own class or
a later one stands between them. -/
def composeFrom (starter : Char) (between : List Char) : List Char → List Char
  | [] => starter :: between.reverse
  | c :: cs =>
    let reachable :=
      match between with
      | [] => true
      | d :: _ => combiningClass d < combiningClass c
    match if reachable then compose? starter c else none with
    | some both => composeFrom both between cs
    | none =>
      if combiningClass c = 0 then starter :: between.reverse ++ composeFrom c [] cs
      else composeFrom starter (c :: between) cs

/-- The text with everything composed that can be. -/
def compose : List Char → List Char
  | [] => []
  | c :: cs => if combiningClass c = 0 then composeFrom c [] cs else c :: compose cs

/-! ### Normal form -/

/-- The text in normal form. -/
def normalize (cs : List Char) : List Char := compose (sortMarks (cs.flatMap decompose))

end PreviewServer.Unicode
