import PreviewServer.Proofs.HeadText
import Mathlib.Data.List.DropRight

/-!
# Header lines

What reading a header line yields is a *field*: a name that is not empty and contains neither a
blank nor a colon, and a value that is trimmed and a single line (`IsField`).  Every line that is
read spells a field (`spellsField_of_readHeaderLine`), and every line that spells a field is read as
that field (`readHeaderLine_of_spellsField`), in particular its shortest one, without blanks around
the value (`readHeaderLine_writtenField`).  The same holds for several lines
(`forall₂_of_readHeaderLines`, `readHeaderLines_of_forall₂`, `readHeaderLines_map_writtenField`).
-/

namespace PreviewServer

/-! ### Trimming -/

theorem isInfix_trimBlanks (cs : List Char) : trimBlanks cs <:+: cs :=
  (List.rdropWhile_prefix isBlank (trimStart cs)).isInfix.trans
    (List.dropWhile_suffix isBlank).isInfix

theorem trimStart_of_isBlank_eq_false {c : Char} {cs : List Char} (h : isBlank c = false) :
    trimStart (c :: cs) = c :: cs := by
  rw [trimStart, List.dropWhile_cons, h, if_neg Bool.false_ne_true]

/-- What was trimmed is trimmed. -/
theorem trimBlanks_trimBlanks (cs : List Char) : trimBlanks (trimBlanks cs) = trimBlanks cs := by
  have hstart : trimStart (trimBlanks cs) = trimBlanks cs := by
    cases h : trimBlanks cs with
    | nil => rfl
    | cons c ds =>
      -- What is cut off at the end leaves the first character in place.
      have hp : c :: ds <+: trimStart cs := h ▸ List.rdropWhile_prefix isBlank (trimStart cs)
      obtain ⟨es, hes⟩ := hp
      exact trimStart_of_isBlank_eq_false (isBlank_of_trimStart_eq_cons hes.symm)
  rw [trimBlanks, hstart]
  exact List.rdropWhile_idempotent isBlank (trimStart cs)

/-- A text without blanks is trimmed. -/
theorem trimBlanks_of_isBlank_eq_false {cs : List Char} (h : ∀ c ∈ cs, isBlank c = false) :
    trimBlanks cs = cs := by
  have hstart : trimStart cs = cs := by
    cases cs with
    | nil => rfl
    | cons c cs => exact trimStart_of_isBlank_eq_false (h c List.mem_cons_self)
  rw [trimBlanks, hstart]
  refine List.rdropWhile_eq_self_iff.mpr fun hne hb => ?_
  rw [h _ (List.getLast_mem hne)] at hb
  cases hb

/-! ### Fields -/

/-- Whether a name and a value can be what a header line is read as. -/
structure IsField (field : String × String) : Prop where
  /-- The name is not empty. -/
  name_ne_nil : field.1.toList ≠ []
  /-- The name contains no blank. -/
  name_isBlank : ∀ c ∈ field.1.toList, isBlank c = false
  /-- The name contains no colon. -/
  colon_not_mem : ':' ∉ field.1.toList
  /-- The value is trimmed. -/
  value_trimmed : trimBlanks field.2.toList = field.2.toList
  /-- The value contains no line break. -/
  value_isLine : IsLine field.2.toList

/-- The shortest line of a field. -/
def writtenField (field : String × String) : List Char := field.1.toList ++ ':' :: field.2.toList

theorem cut?_append {α : Type} [DecidableEq α] {sep : α} {a : List α} (h : sep ∉ a) (b : List α) :
    cut? sep (a ++ sep :: b) = some (a, b) := by
  induction a with
  | nil => exact if_pos rfl
  | cons x a ih =>
    rw [List.mem_cons, not_or] at h
    rw [List.cons_append, cut?, if_neg (Ne.symm h.1), ih h.2]
    rfl

/-- Whether a line spells a field: name and value stand on the two sides of its first colon, with
any blanks around them. -/
def SpellsField (line : List Char) (field : String × String) : Prop :=
  IsField field ∧ ∃ name value, line = name ++ ':' :: value ∧ ':' ∉ name ∧
    field = (String.ofList (trimBlanks name), String.ofList (trimBlanks value))

/-- **A field is read from every line that spells it.** -/
theorem readHeaderLine_of_spellsField {line : List Char} {field : String × String}
    (h : SpellsField line field) : readHeaderLine line = .ok field := by
  obtain ⟨hfield, name, value, rfl, hcolon, rfl⟩ := h
  have hne := hfield.name_ne_nil
  have hblank := hfield.name_isBlank
  simp only [String.toList_ofList] at hne hblank
  have hname : ¬ (trimBlanks name = [] ∨ (trimBlanks name).any isBlank) := by
    rintro (hnil | hany)
    · exact hne hnil
    · obtain ⟨c, hc, hb⟩ := List.any_eq_true.mp hany
      rw [hblank c hc] at hb
      cases hb
  rw [readHeaderLine, cut?_append hcolon]
  dsimp only
  rw [if_neg hname]

/-- **A line that is read spells a field.** -/
theorem spellsField_of_readHeaderLine {line : List Char} {field : String × String}
    (hline : IsLine line) (h : readHeaderLine line = .ok field) : SpellsField line field := by
  unfold readHeaderLine at h
  split at h
  · cases h
  · rename_i name value hcut
    obtain ⟨rfl, hcolon⟩ := eq_of_cut? hcut
    dsimp only at h
    split at h
    · cases h
    · rename_i hname
      cases h
      rw [not_or, Bool.not_eq_true] at hname
      refine ⟨?_, name, value, rfl, hcolon, rfl⟩
      constructor <;> simp only [String.toList_ofList]
      · exact hname.1
      · exact isBlank_eq_false_of_any hname.2
      · exact fun hm => hcolon ((isInfix_trimBlanks name).subset hm)
      · exact trimBlanks_trimBlanks value
      · intro hb
        refine hline (hb.trans ((isInfix_trimBlanks value).trans ?_))
        exact ⟨name ++ [':'], [], by simp⟩

/-- A field is read from its shortest line. -/
theorem readHeaderLine_writtenField {field : String × String} (h : IsField field) :
    readHeaderLine (writtenField field) = .ok field := by
  apply readHeaderLine_of_spellsField
  refine ⟨h, field.1.toList, field.2.toList, rfl, h.colon_not_mem, ?_⟩
  rw [trimBlanks_of_isBlank_eq_false h.name_isBlank, h.value_trimmed, String.ofList_toList,
    String.ofList_toList]

theorem writtenField_ne_nil (field : String × String) : writtenField field ≠ [] := by
  intro h
  have := congrArg List.length h
  rw [writtenField, List.length_append, List.length_cons, List.length_nil] at this
  omega

/-- The line of a field is a single line. -/
theorem IsField.isLine_writtenField {field : String × String} (h : IsField field) :
    IsLine (writtenField field) := by
  have hname : IsLine field.1.toList := by
    apply isLine_of_not_mem
    intro hcr
    exact absurd (h.name_isBlank _ hcr) (by decide)
  exact (isLine_append_cons_iff (by decide)).mpr ⟨hname, h.value_isLine⟩

/-! ### Several lines -/

theorem readHeaderLines_cons {line : List Char} (h : line ≠ []) (lines : List (List Char)) :
    readHeaderLines (line :: lines) =
      match readHeaderLine line with
      | .error e => .error e
      | .ok field =>
        match readHeaderLines lines with
        | .error e => .error e
        | .ok fields => .ok (field :: fields) := by
  cases line with
  | nil => exact absurd rfl h
  | cons c line => rfl

/-- **Fields are read from their lines.** -/
theorem readHeaderLines_map_writtenField {fields : List (String × String)}
    (h : ∀ field ∈ fields, IsField field) :
    readHeaderLines (fields.map writtenField) = .ok fields := by
  induction fields with
  | nil => rfl
  | cons field fields ih =>
    rw [List.map_cons, readHeaderLines_cons (writtenField_ne_nil field),
      readHeaderLine_writtenField (h field List.mem_cons_self),
      ih fun f hf => h f (List.mem_cons_of_mem field hf)]

/-- The fields that lines are read as, one for each line that is not empty. -/
theorem forall₂_of_readHeaderLines {lines : List (List Char)} {fields : List (String × String)}
    (h : readHeaderLines lines = .ok fields) :
    List.Forall₂ (fun line field => readHeaderLine line = .ok field)
      (lines.filter (· ≠ [])) fields := by
  induction lines generalizing fields with
  | nil =>
    cases h
    exact .nil
  | cons line lines ih =>
    by_cases hne : line = []
    · rw [hne] at h ⊢
      exact ih h
    · rw [readHeaderLines_cons hne] at h
      cases hline : readHeaderLine line with
      | error e =>
        rw [hline] at h
        cases h
      | ok field =>
        rw [hline] at h
        cases hlines : readHeaderLines lines with
        | error e =>
          rw [hlines] at h
          cases h
        | ok fields' =>
          rw [hlines] at h
          cases h
          have hkeep : decide (line ≠ []) = true := decide_eq_true hne
          rw [List.filter_cons, if_pos hkeep]
          exact .cons hline (ih hlines)

/-- Lines are read if those that are not empty are. -/
theorem readHeaderLines_of_forall₂ {lines : List (List Char)} {fields : List (String × String)}
    (h : List.Forall₂ (fun line field => readHeaderLine line = .ok field)
      (lines.filter (· ≠ [])) fields) :
    readHeaderLines lines = .ok fields := by
  induction lines generalizing fields with
  | nil =>
    cases h
    rfl
  | cons line lines ih =>
    by_cases hne : line = []
    · rw [hne] at h ⊢
      exact ih h
    · have hkeep : decide (line ≠ []) = true := decide_eq_true hne
      rw [List.filter_cons, if_pos hkeep] at h
      cases h with
      | cons hline hlines => rw [readHeaderLines_cons hne, hline, ih hlines]

end PreviewServer
