/-!
# Text inside a page

Text is put into a page with the five characters that mean something there written as entities.
`unescapeChars` reads the entities back, so nothing is lost (`unescapeChars_escapeChars_append`),
and the written text contains none of the characters that could end an element or an attribute
(`not_mem_escapeChars`), nor an ampersand that starts no entity (`exists_entity_of_escapeChars_eq`).
-/

namespace PreviewServer

namespace Entity

/-- What stands for a character in a page. -/
def ofChar (c : Char) : List Char :=
  if c = '&' then "&amp;".toList
  else if c = '<' then "&lt;".toList
  else if c = '>' then "&gt;".toList
  else if c = '\x22' then "&quot;".toList
  else if c = '\x27' then "&#x27;".toList
  else [c]

/-- The text as it stands in a page. -/
def escapeChars (cs : List Char) : List Char := cs.flatMap ofChar

/-- The text as it stands in a page. -/
def escape (s : String) : String := String.ofList (escapeChars s.toList)

theorem toList_escape (s : String) : (escape s).toList = escapeChars s.toList :=
  String.toList_ofList

/-- The text that stands in a page so, entities read from left to right. -/
def unescapeChars : List Char → List Char
  | '&' :: 'a' :: 'm' :: 'p' :: ';' :: cs => '&' :: unescapeChars cs
  | '&' :: 'l' :: 't' :: ';' :: cs => '<' :: unescapeChars cs
  | '&' :: 'g' :: 't' :: ';' :: cs => '>' :: unescapeChars cs
  | '&' :: 'q' :: 'u' :: 'o' :: 't' :: ';' :: cs => '\x22' :: unescapeChars cs
  | '&' :: '#' :: 'x' :: '2' :: '7' :: ';' :: cs => '\x27' :: unescapeChars cs
  | c :: cs => c :: unescapeChars cs
  | [] => []

/-- Reading back what was written gives the text, whatever follows. -/
theorem unescapeChars_escapeChars_append (cs rest : List Char) :
    unescapeChars (escapeChars cs ++ rest) = cs ++ unescapeChars rest := by
  induction cs with
  | nil => rfl
  | cons c cs ih =>
    have hsplit : escapeChars (c :: cs) ++ rest = ofChar c ++ (escapeChars cs ++ rest) := by
      simp [escapeChars]
    rw [hsplit, ofChar]
    by_cases h1 : c = '&'
    · subst h1; simp [unescapeChars, ih]
    by_cases h2 : c = '<'
    · subst h2; simp [unescapeChars, ih]
    by_cases h3 : c = '>'
    · subst h3; simp [unescapeChars, ih]
    by_cases h4 : c = '\x22'
    · subst h4; simp [unescapeChars, ih]
    by_cases h5 : c = '\x27'
    · subst h5; simp [unescapeChars, ih]
    simp only [h1, h2, h3, h4, h5, if_false, List.cons_append, List.nil_append]
    rw [unescapeChars.eq_def]
    split <;> simp_all

theorem unescapeChars_escapeChars (cs : List Char) : unescapeChars (escapeChars cs) = cs := by
  have hread := unescapeChars_escapeChars_append cs []
  rwa [List.append_nil, unescapeChars, List.append_nil] at hread

/-! ### What is written -/

/-- The characters that mean something in a page, each with the entity that stands for it.  The
ampersand comes first, so that they can also be replaced one after another
(`escapeChars_eq_foldl_replaceAll`). -/
def entities : List (Char × List Char) :=
  [('&', "&amp;".toList), ('<', "&lt;".toList), ('>', "&gt;".toList), ('\x22', "&quot;".toList),
    ('\x27', "&#x27;".toList)]

/-- A character stands for itself, unless it has an entity. -/
theorem ofChar_cases (c : Char) :
    (ofChar c = [c] ∧ ∀ e ∈ entities, c ≠ e.1) ∨ (c, ofChar c) ∈ entities := by
  unfold ofChar
  by_cases h1 : c = '&'
  · subst h1; exact .inr (by decide)
  by_cases h2 : c = '<'
  · subst h2; exact .inr (by decide)
  by_cases h3 : c = '>'
  · subst h3; exact .inr (by decide)
  by_cases h4 : c = '\x22'
  · subst h4; exact .inr (by decide)
  by_cases h5 : c = '\x27'
  · subst h5; exact .inr (by decide)
  refine .inl ⟨?_, ?_⟩
  · rw [if_neg h1, if_neg h2, if_neg h3, if_neg h4, if_neg h5]
  · simp only [entities, List.forall_mem_cons, h1, h2, h3, h4, h5, ne_eq, not_false_eq_true,
      true_and]
    exact nofun

/-- The characters other than the ampersand that mean something in a page. -/
def delimiters : List Char := ['<', '>', '\x22', '\x27']

/-- **What stands in a page contains no delimiter.** -/
theorem not_mem_escapeChars {d : Char} (hd : d ∈ delimiters) (cs : List Char) :
    d ∉ escapeChars cs := by
  intro hmem
  obtain ⟨c, -, hc⟩ := List.mem_flatMap.mp hmem
  rcases ofChar_cases c with ⟨hplain, hne⟩ | hentity
  · rw [hplain, List.mem_singleton] at hc
    subst hc
    have hkey : (delimiters.all fun d => entities.any fun e => d = e.1) = true := by decide
    obtain ⟨e, he, heq⟩ := List.any_eq_true.mp (List.all_eq_true.mp hkey d hd)
    exact hne e he (of_decide_eq_true heq)
  · have hnone : (entities.all fun e => delimiters.all fun d => d ∉ e.2) = true := by decide
    exact of_decide_eq_true (List.all_eq_true.mp (List.all_eq_true.mp hnone _ hentity) d hd) hc

/-- A character that occurs in no entity stands in a page only if it stands in the text. -/
theorem mem_of_mem_escapeChars {d : Char} (hd : ∀ e ∈ entities, d ∉ e.2) {cs : List Char}
    (h : d ∈ escapeChars cs) : d ∈ cs := by
  obtain ⟨c, hmem, hc⟩ := List.mem_flatMap.mp h
  rcases ofChar_cases c with ⟨hplain, -⟩ | hentity
  · rw [hplain, List.mem_singleton] at hc
    exact hc ▸ hmem
  · exact absurd hc (hd _ hentity)

/-- **Every ampersand in a page starts an entity.** -/
theorem exists_entity_of_escapeChars_eq {cs a b : List Char} (h : escapeChars cs = a ++ '&' :: b) :
    ∃ e ∈ entities, e.2 <+: '&' :: b := by
  induction cs generalizing a with
  | nil => exact absurd h.symm (List.append_ne_nil_of_right_ne_nil a (List.cons_ne_nil _ _))
  | cons c cs ih =>
    have hsplit : ofChar c ++ escapeChars cs = a ++ '&' :: b := h
    rcases List.append_eq_append_iff.mp hsplit with ⟨a', rfl, hrest⟩ | ⟨rest, hchar, hrest⟩
    · exact ih hrest
    · cases rest with
      | nil => exact ih (a := []) hrest.symm
      | cons d rest =>
        obtain ⟨rfl, rfl⟩ := List.cons.inj hrest
        have hmem : '&' ∈ ofChar c := hchar ▸ List.mem_append_right a List.mem_cons_self
        rcases ofChar_cases c with ⟨hplain, hne⟩ | hentity
        · rw [hplain, List.mem_singleton] at hmem
          exact absurd hmem.symm (hne _ List.mem_cons_self)
        · -- An entity contains no ampersand but its first character.
          have hstart : ∀ e ∈ entities, '&' ∉ e.2.tail := by decide
          cases a with
          | nil => exact ⟨_, hentity, escapeChars cs, by rw [hchar]; rfl⟩
          | cons d a =>
            refine absurd ?_ (hstart _ hentity)
            rw [hchar]
            exact List.mem_append_right a List.mem_cons_self

/-! ### One replacement after another -/

/-- The text with its occurrences of a character replaced. -/
def replaceAll (cs : List Char) (e : Char × List Char) : List Char :=
  cs.flatMap fun c => if c = e.1 then e.2 else [c]

/-- Replacements follow each other within what stands for a character. -/
theorem foldl_replaceAll (es : List (Char × List Char)) (cs : List Char) :
    es.foldl replaceAll cs = cs.flatMap fun c => es.foldl replaceAll [c] := by
  induction es generalizing cs with
  | nil => exact (List.flatMap_singleton' cs).symm
  | cons e es ih =>
    have hone : ∀ c, replaceAll [c] e = if c = e.1 then e.2 else [c] := fun c => List.append_nil _
    simp only [List.foldl_cons, hone]
    rw [ih, replaceAll, List.flatMap_assoc]
    congr 1
    funext c
    exact (ih _).symm

theorem foldl_replaceAll_singleton {es : List (Char × List Char)} {c : Char}
    (h : ∀ e ∈ es, c ≠ e.1) : es.foldl replaceAll [c] = [c] := by
  induction es with
  | nil => rfl
  | cons e es ih =>
    obtain ⟨hne, hes⟩ := List.forall_mem_cons.mp h
    have hstep : replaceAll [c] e = [c] := by
      rw [replaceAll, List.flatMap_singleton, if_neg hne]
    rw [List.foldl_cons, hstep, ih hes]

/-- **The characters can be replaced one after another.**  The ampersand comes first, so no later
step replaces what an earlier one has written. -/
theorem escapeChars_eq_foldl_replaceAll (cs : List Char) :
    escapeChars cs = entities.foldl replaceAll cs := by
  rw [foldl_replaceAll, escapeChars]
  congr 1
  funext c
  rcases ofChar_cases c with ⟨hplain, hne⟩ | hentity
  · rw [hplain, foldl_replaceAll_singleton hne]
  · have hall : ∀ e ∈ entities, entities.foldl replaceAll [e.1] = e.2 := by decide
    exact (hall _ hentity).symm

end Entity

end PreviewServer
