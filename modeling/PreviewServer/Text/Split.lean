/-!
# Cutting lists at separators

Request heads, targets and paths are read by cutting them at separators: at every one (`fields`),
at the first one (`cut?`), or at every line break of a message head (`crlfLines`).  Nothing is
lost: joining the pieces again with the separator gives the list back (`joinWith_fields`,
`eq_of_cut?`), and no piece contains the separator it was cut at.
-/

namespace PreviewServer

variable {α : Type} [DecidableEq α]

/-! ### Cutting at every separator -/

/-- The pieces of a list between the occurrences of `sep`.  There is always one more piece than
there are separators, so pieces may be empty. -/
def fields (sep : α) : List α → List (List α)
  | [] => [[]]
  | x :: xs =>
    if x = sep then [] :: fields sep xs
    else
      match fields sep xs with
      | [] => [[x]]
      | f :: fs => (x :: f) :: fs

/-- Pieces put together again with `sep` between two of them. -/
def joinWith {α : Type} (sep : List α) : List (List α) → List α
  | [] => []
  | [f] => f
  | f :: g :: fs => f ++ sep ++ joinWith sep (g :: fs)

theorem fields_ne_nil (sep : α) (xs : List α) : fields sep xs ≠ [] := by
  cases xs with
  | nil => simp [fields]
  | cons x xs =>
    simp only [fields]
    split
    · simp
    · split <;> simp

/-- Joining the pieces gives the list back. -/
theorem joinWith_fields (sep : α) (xs : List α) : joinWith [sep] (fields sep xs) = xs := by
  induction xs with
  | nil => rfl
  | cons x xs ih =>
    simp only [fields]
    cases h : fields sep xs with
    | nil => exact absurd h (fields_ne_nil sep xs)
    | cons f fs =>
      rw [h] at ih
      by_cases hx : x = sep
      · simp [hx, joinWith, ih]
      · cases fs with
        | nil => simp_all [joinWith]
        | cons g gs => simp_all [joinWith]

/-- No piece contains the separator. -/
theorem not_mem_of_mem_fields {sep : α} {xs f : List α} (hf : f ∈ fields sep xs) : sep ∉ f := by
  induction xs generalizing f with
  | nil => simp_all [fields]
  | cons x xs ih =>
    simp only [fields] at hf
    by_cases hx : x = sep
    · rw [if_pos hx] at hf
      rcases List.mem_cons.1 hf with rfl | hf
      · simp
      · exact ih hf
    · rw [if_neg hx] at hf
      cases h : fields sep xs with
      | nil => exact absurd h (fields_ne_nil sep xs)
      | cons g gs =>
        rw [h] at hf ih
        rcases List.mem_cons.1 hf with rfl | hf
        · have := ih (f := g) (by simp)
          simp [Ne.symm hx, this]
        · exact ih (by simp [hf])

/-- A list without the separator is one piece. -/
theorem fields_of_not_mem {sep : α} {a : List α} (h : sep ∉ a) : fields sep a = [a] := by
  induction a with
  | nil => rfl
  | cons x a ih =>
    rw [List.mem_cons, not_or] at h
    rw [fields, if_neg (Ne.symm h.1), ih h.2]

/-- The pieces on both sides of a separator are cut apart from each other. -/
theorem fields_append (sep : α) (a b : List α) :
    fields sep (a ++ sep :: b) = fields sep a ++ fields sep b := by
  induction a with
  | nil => exact if_pos rfl
  | cons x a ih =>
    rw [List.cons_append, fields, fields, ih]
    by_cases hx : x = sep
    · rw [if_pos hx, if_pos hx, List.cons_append]
    · obtain ⟨f, fs, hf⟩ := List.exists_cons_of_ne_nil (fields_ne_nil sep a)
      rw [if_neg hx, if_neg hx, hf]
      rfl

/-- What stands before the first separator is the first piece. -/
theorem fields_append_cons {sep : α} {a : List α} (h : sep ∉ a) (b : List α) :
    fields sep (a ++ sep :: b) = a :: fields sep b := by
  rw [fields_append, fields_of_not_mem h]
  rfl

/-- Pieces that each stand behind a separator are cut apart again. -/
theorem fields_append_flatMap {sep : α} {a : List α} (h : sep ∉ a) {fs : List (List α)}
    (hfs : ∀ f ∈ fs, sep ∉ f) : fields sep (a ++ fs.flatMap fun f => sep :: f) = a :: fs := by
  induction fs generalizing a with
  | nil => rw [List.flatMap_nil, List.append_nil, fields_of_not_mem h]
  | cons f fs ih =>
    obtain ⟨hf, hfs⟩ := List.forall_mem_cons.mp hfs
    rw [List.flatMap_cons, List.cons_append, fields_append_cons h, ih hf hfs]

/-! ### Cutting at the first separator -/

/-- What stands before and after the first `sep`, if there is one. -/
def cut? (sep : α) : List α → Option (List α × List α)
  | [] => none
  | x :: xs => if x = sep then some ([], xs) else (cut? sep xs).map fun (a, b) => (x :: a, b)

/-- A cut loses only the separator, and it is the first one. -/
theorem eq_of_cut? {sep : α} {xs a b : List α} (h : cut? sep xs = some (a, b)) :
    xs = a ++ sep :: b ∧ sep ∉ a := by
  induction xs generalizing a b with
  | nil => simp [cut?] at h
  | cons x xs ih =>
    simp only [cut?] at h
    by_cases hx : x = sep
    · simp only [hx, if_true, Option.some.injEq, Prod.mk.injEq] at h
      obtain ⟨rfl, rfl⟩ := h
      simp [hx]
    · rw [if_neg hx] at h
      obtain ⟨⟨a', b'⟩, h', hab⟩ := Option.map_eq_some_iff.1 h
      simp only [Prod.mk.injEq] at hab
      obtain ⟨rfl, rfl⟩ := hab
      obtain ⟨rfl, hn⟩ := ih h'
      simp [Ne.symm hx, hn]

/-- There is no cut exactly when there is no separator. -/
theorem cut?_eq_none_iff {sep : α} {xs : List α} : cut? sep xs = none ↔ sep ∉ xs := by
  induction xs with
  | nil => simp [cut?]
  | cons x xs ih =>
    by_cases hx : x = sep
    · simp [cut?, hx]
    · simp [cut?, hx, ih, Ne.symm hx]

/-- Everything before the first `sep`, or the whole list when there is none. -/
def before (sep : α) (xs : List α) : List α :=
  match cut? sep xs with
  | some (a, _) => a
  | none => xs

theorem before_cons_of_ne {sep x : α} (h : x ≠ sep) (xs : List α) :
    before sep (x :: xs) = x :: before sep xs := by
  unfold before
  rw [cut?, if_neg h]
  cases cut? sep xs <;> rfl

theorem not_mem_before (sep : α) (xs : List α) : sep ∉ before sep xs := by
  unfold before
  cases h : cut? sep xs with
  | none => exact cut?_eq_none_iff.mp h
  | some parts => exact (eq_of_cut? h).2

theorem mem_of_mem_before {sep x : α} {xs : List α} (h : x ∈ before sep xs) : x ∈ xs := by
  unfold before at h
  cases hcut : cut? sep xs with
  | none =>
    rw [hcut] at h
    exact h
  | some parts =>
    rw [hcut] at h
    rw [(eq_of_cut? hcut).1]
    exact List.mem_append_left _ h

/-! ### Lines of a message head -/

/-- The lines of a message head: the pieces between the pairs of a carriage return and a line
feed.  A carriage return or a line feed that stands alone belongs to its line. -/
def crlfLines : List Char → List (List Char)
  | [] => [[]]
  | '\r' :: '\n' :: cs => [] :: crlfLines cs
  | c :: cs =>
    match crlfLines cs with
    | [] => [[c]]
    | l :: ls => (c :: l) :: ls

theorem crlfLines_ne_nil (cs : List Char) : crlfLines cs ≠ [] := by
  unfold crlfLines
  split <;> (try split) <;> simp

/-- A head without a carriage return is a single line. -/
theorem crlfLines_of_not_mem {cs : List Char} (h : '\r' ∉ cs) : crlfLines cs = [cs] := by
  induction cs with
  | nil => rfl
  | cons c cs ih =>
    rw [crlfLines.eq_def]
    split
    · rename_i heq
      cases heq
    · rename_i heq
      obtain ⟨rfl, -⟩ := List.cons.inj heq
      exact absurd List.mem_cons_self h
    · rename_i heq
      obtain ⟨rfl, rfl⟩ := List.cons.inj heq
      rw [ih fun hc => h (List.mem_cons_of_mem _ hc)]

/-- Joining the lines gives the head back. -/
theorem joinWith_crlfLines (cs : List Char) : joinWith ['\r', '\n'] (crlfLines cs) = cs := by
  fun_induction crlfLines cs with
  | case1 => rfl
  | case2 cs ih =>
    cases h : crlfLines cs with
    | nil => exact absurd h (crlfLines_ne_nil cs)
    | cons f fs => rw [h] at ih; simp [joinWith, ih]
  | case3 c cs _ h _ => exact absurd h (crlfLines_ne_nil cs)
  | case4 c cs _ l ls h ih =>
    rw [h] at ih
    cases ls with
    | nil => simp_all [joinWith]
    | cons g gs => simp_all [joinWith]

end PreviewServer
