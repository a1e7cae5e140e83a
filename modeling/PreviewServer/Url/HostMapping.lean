import PreviewServer.Unicode.Intervals
import PreviewServer.Url.HostMapping.Excluded
import PreviewServer.Url.HostMapping.Expansions
import PreviewServer.Url.HostMapping.Ideographs
import PreviewServer.Url.HostMapping.Letters
import PreviewServer.Url.HostMapping.Runs

/-!
# Characters of host names

Host names are compared without regard to case, width and other differences of shape.  Each
character stands for itself or for others, or does not count, or may not occur (`mapHostChar?`).
-/

namespace PreviewServer.Url

open Unicode (inIntervals)

/-- The single characters that stand for others and lie in no run. -/
def mappedSingles : List (List (Nat × Nat)) :=
  [mappedLetters, basicIdeographs, supplementaryIdeographs]

/-- The characters that stand for several others. -/
def mappedExpansions : List (List (Nat × List Nat)) := [letterExpansions, signExpansions]

/-- The value at a key in the first of some tables that has it. -/
def lookupIn? {α : Type} (tables : List (List (Nat × α))) (n : Nat) : Option α :=
  tables.findSome? fun t => (t.find? fun e => e.1 = n).map Prod.snd

/-- The characters that another one stands for, if it does not stand for itself. -/
def replacement? (n : Nat) : Option (List Nat) :=
  match mappingRuns.find? fun r => r.first ≤ n && n ≤ r.last && (n - r.first) % r.stride = 0 with
  | some r => some [(n + r.offset).toNat]
  | none =>
    match lookupIn? mappedSingles n with
    | some m => some [m]
    | none => lookupIn? mappedExpansions n

/-- What a character of a host name stands for; nothing if it may not occur. -/
def mapHostChar? (c : Char) : Option (List Char) :=
  let n := c.toNat
  if inIntervals n excludedIntervals then none
  else if inIntervals n ignoredIntervals then some []
  else some (((replacement? n).getD [n]).map Char.ofNat)

/-- Whether a character stands for itself in a host name. -/
def isHostChar (c : Char) : Bool := mapHostChar? c = some [c]

end PreviewServer.Url
