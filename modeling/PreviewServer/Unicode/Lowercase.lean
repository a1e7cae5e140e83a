import PreviewServer.Unicode.CaseClasses
import PreviewServer.Unicode.Intervals
import PreviewServer.Unicode.LowerRuns

/-!
# Texts in lower case

Every character becomes its lower-case form.  Two characters are special: the capital I with a dot
becomes two characters, and the capital sigma becomes the final sigma at the end of a word, that
is, where a letter stands before it and none after it, characters such as apostrophes and marks
not counted.
-/

namespace PreviewServer

namespace Unicode

/-- Whether the character has letter case and counts where it is looked for. -/
def isCased (c : Char) : Bool := inIntervals c.toNat casedIntervals

/-- Whether the character is passed over where letter case is looked for. -/
def isCaseIgnorable (c : Char) : Bool := inIntervals c.toNat caseIgnorableIntervals

/-- The lower-case form of a character that does not depend on its neighbours. -/
def lowerChar (c : Char) : List Char :=
  let n := c.toNat
  if n < 0x80 then [c.toLower]
  else if n = 0x130 then ['i', '\u0307']
  else
    match lowerRuns.find? fun r => r.first ≤ n && n ≤ r.last && (n - r.first) % r.stride = 0 with
    | some r => [Char.ofNat (n + r.offset).toNat]
    | none => [c]

/-- Whether the first character that is not passed over has letter case. -/
def nextIsCased (cs : List Char) : Bool :=
  match cs.dropWhile isCaseIgnorable with
  | c :: _ => isCased c
  | [] => false

/-- The capital sigma. -/
def capitalSigma : Char := '\u03A3'

/-- The lower-case form of a text whose characters before it, last one first, are `done`. -/
def lowerAfter (done : List Char) : List Char → List Char
  | [] => []
  | c :: cs =>
    (if c = capitalSigma then
      [if nextIsCased done && !nextIsCased cs then '\u03C2' else '\u03C3']
    else lowerChar c) ++ lowerAfter (c :: done) cs

/-- The text in lower case. -/
def lowercase (s : String) : String := String.ofList (lowerAfter [] s.toList)

end Unicode

end PreviewServer
