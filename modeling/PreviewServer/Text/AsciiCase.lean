/-!
# ASCII letter case

Header names and extensions are compared without regard to the case of ASCII letters; every other
character counts as itself.
-/

namespace PreviewServer

/-- Two texts that differ at most in the case of ASCII letters. -/
def sameIgnoringCase (s t : String) : Bool := s.toList.map Char.toLower = t.toList.map Char.toLower

/-- The text with its ASCII letters in lower case. -/
def asciiLower (s : String) : String := String.ofList (s.toList.map Char.toLower)

@[simp] theorem sameIgnoringCase_refl (s : String) : sameIgnoringCase s s := by
  simp [sameIgnoringCase]

theorem sameIgnoringCase_comm (s t : String) : sameIgnoringCase s t = sameIgnoringCase t s := by
  simp [sameIgnoringCase, eq_comm]

theorem sameIgnoringCase_trans {s t u : String} (h : sameIgnoringCase s t)
    (h' : sameIgnoringCase t u) : sameIgnoringCase s u := by
  simp_all [sameIgnoringCase]

/-- Sameness is equality after lowering. -/
theorem sameIgnoringCase_iff {s t : String} :
    sameIgnoringCase s t ↔ asciiLower s = asciiLower t := by
  simp [sameIgnoringCase, asciiLower, String.ofList_inj]

end PreviewServer
