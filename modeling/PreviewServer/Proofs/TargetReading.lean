import PreviewServer.Target

/-!
# What targets are read as

A target is refused for its form, or for a segment that is offending by itself
(`Target.IsOffending`); otherwise its reading consists of the decoded segments without the empty
ones and the dots (`Target.ofParts`).  Which of the three is the case is said by
`Target.parse_of_not_hasForm`, `Target.parse_of_isOffending` and `Target.parse_of_forall`.  Whatever
the target is, the segments of its reading name one thing each (`Target.isSegment_of_mem_segments`).
-/

namespace PreviewServer

/-- The query of a URL is escaped when it is read. -/
theorem Url.exists_of_query_eq_some {text query : List Char} {u : Url} (h : parse? text = some u)
    (hquery : u.query = some query) : ∃ bs, query = Percent.encodeBytes Percent.query bs := by
  unfold parse? at h
  split at h
  · cases h
  · dsimp only at h
    split at h
    · cases h
      dsimp only at hquery
      split at hquery
      · cases hquery
        exact ⟨_, rfl⟩
      · cases hquery
    · cases h

namespace Target

/-! ### The form -/

/-- Whether a target is a path, or is written as a complete `http` or `https` URL and can be read
as one. -/
def HasForm (target : List Char) : Prop :=
  target.head? = some '/' ∨
    ("http://".toList <+: target ∨ "https://".toList <+: target) ∧ (Url.parse? target).isSome

theorem split?_eq_none_iff {target : List Char} : split? target = none ↔ ¬ HasForm target := by
  have hstarts : (urlStarts.any (·.isPrefixOf target)) = true ↔
      "http://".toList <+: target ∨ "https://".toList <+: target := by
    simp only [urlStarts, List.any_cons, List.any_nil, Bool.or_false, Bool.or_eq_true,
      List.isPrefixOf_iff_prefix]
  unfold split? HasForm
  by_cases hpath : target.head? = some '/'
  · rw [if_pos hpath]
    split <;> simp [hpath]
  · rw [if_neg hpath]
    by_cases hstart : (urlStarts.any (·.isPrefixOf target)) = true
    · rw [if_pos hstart, Option.map_eq_none_iff, or_iff_right hpath,
        and_iff_right (hstarts.mp hstart), Option.not_isSome_iff_eq_none]
    · rw [if_neg hstart, or_iff_right hpath]
      exact ⟨fun _ h => hstart (hstarts.mpr h.1), fun _ => rfl⟩

/-- The query of a path is part of the target as it is written, before any fragment, and that of a
complete URL is escaped anew. -/
theorem query_of_split? {target path query : List Char}
    (h : split? target = some (path, some query)) :
    (∀ c ∈ query, c ∈ before '#' target) ∨ ∃ bs, query = Percent.encodeBytes Percent.query bs := by
  unfold split? at h
  split at h
  · split at h
    · rename_i path' query' hcut
      cases h
      refine .inl fun c hc => ?_
      rw [(eq_of_cut? hcut).1]
      exact List.mem_append_right _ (List.mem_cons_of_mem _ hc)
    · cases h
  · split at h
    · obtain ⟨u, hu, hpair⟩ := Option.map_eq_some_iff.mp h
      obtain ⟨bs, hbs⟩ := Url.exists_of_query_eq_some hu (congrArg Prod.snd hpair)
      exact .inr ⟨bs, hbs⟩
    · cases h

/-- **No query contains the mark of a fragment.** -/
theorem hash_not_mem_query {target path query : List Char}
    (h : split? target = some (path, some query)) : '#' ∉ query := by
  rcases query_of_split? h with hbefore | ⟨bs, rfl⟩
  · exact fun hmem => not_mem_before '#' target (hbefore _ hmem)
  · exact Percent.not_mem_encodeBytes (by decide) (by decide) (by decide) bs

theorem parse_of_not_hasForm {target : String} (h : ¬ HasForm target.toList) :
    parse target = .error .badForm := by
  rw [parse, split?_eq_none_iff.mpr h]

/-! ### The segments -/

/-- The text of a segment, if it is one. -/
def segmentText? (raw : List Char) : Option String :=
  Utf8.decode? (Percent.decode (Utf8.encode (String.ofList raw)))

/-- However a dot is spelled, it is read as one. -/
theorem segmentText?_of_isSingleDot {s : Url.Segment} (h : Url.isSingleDot s = true) :
    segmentText? s = some "." := by
  have hdots : ∀ a ∈ Url.dots, Percent.decode (Utf8.encode (String.ofList a)) = Utf8.encode "." := by
    decide
  rw [segmentText?, hdots s (List.contains_iff_mem.mp h), Utf8.decode?_encode]

theorem segmentText?_of_isDoubleDot {s : Url.Segment} (h : Url.isDoubleDot s = true) :
    segmentText? s = some ".." := by
  have hdots : ∀ a ∈ Url.dots, ∀ b ∈ Url.dots,
      Percent.decode (Utf8.encode (String.ofList (a ++ b))) = Utf8.encode ".." := by
    decide
  obtain ⟨a, ha, h⟩ := List.any_eq_true.mp h
  obtain ⟨b, hb, h⟩ := List.any_eq_true.mp h
  rw [segmentText?, of_decide_eq_true h, hdots a ha b hb, Utf8.decode?_encode]

/-- Whether a segment is no text, goes up, or would be more than one name. -/
def IsOffending (raw : List Char) : Prop :=
  match segmentText? raw with
  | none => True
  | some s => s = ".." ∨ '/' ∈ s.toList ∨ '\x5c' ∈ s.toList ∨ '\x00' ∈ s.toList

/-- The name that a segment stands for, unless it is empty or a dot. -/
def nameOf? (raw : List Char) : Option String :=
  if raw = [] then none
  else
    match segmentText? raw with
    | none => none
    | some s => if s = "." then none else some s

/-- Whether a text can be the name of one thing in its directory: it is not empty, it neither stays
nor goes up, and it contains no slash of either kind and no zero character. -/
structure IsSegment (s : String) : Prop where
  /-- It is not empty. -/
  ne_empty : s ≠ ""
  /-- It does not stay. -/
  ne_dot : s ≠ "."
  /-- It does not go up. -/
  ne_dotDot : s ≠ ".."
  /-- It contains no slash. -/
  slash_not_mem : '/' ∉ s.toList
  /-- It contains no backslash. -/
  backslash_not_mem : '\x5c' ∉ s.toList
  /-- It contains no zero character. -/
  zero_not_mem : '\x00' ∉ s.toList

/-- The name of a segment that does not offend can be the name of one thing. -/
theorem isSegment_of_nameOf? {raw : List Char} (hgood : ¬ IsOffending raw) {s : String}
    (h : nameOf? raw = some s) : IsSegment s := by
  unfold nameOf? at h
  split at h
  · cases h
  · rename_i hne
    unfold IsOffending at hgood
    split at h
    · cases h
    · rename_i text htext
      rw [htext] at hgood
      simp only [not_or] at hgood
      split at h
      · cases h
      · rename_i hdot
        cases h
        refine ⟨?_, hdot, hgood.1, hgood.2.1, hgood.2.2.1, hgood.2.2.2⟩
        rintro rfl
        have hbytes : Utf8.encode (String.ofList raw) ≠ [] :=
          Utf8.encode_ne_nil (mt String.ofList_eq_empty_iff.mp hne)
        exact Percent.decode_ne_nil hbytes (Utf8.decode?_eq_some_iff.mp htext)

/-- The reading of a raw path and a query. -/
def ofParts (path : List Char) (query : Option (List Char)) : Target :=
  { segments := (fields '/' path).filterMap nameOf?
    rawPath := String.ofList path
    query := query.map String.ofList }

theorem any_forbidden_iff {cs : List Char} :
    cs.any forbidden.contains = true ↔ '/' ∈ cs ∨ '\x5c' ∈ cs ∨ '\x00' ∈ cs := by
  rw [List.any_eq_true]
  constructor
  · rintro ⟨c, hc, hmem⟩
    simp only [forbidden, List.contains_eq_mem, List.mem_cons, List.not_mem_nil, or_false,
      decide_eq_true_eq] at hmem
    rcases hmem with rfl | rfl | rfl
    · exact .inl hc
    · exact .inr (.inl hc)
    · exact .inr (.inr hc)
  · rintro (h | h | h)
    all_goals exact ⟨_, h, by decide⟩

/-- A segment that offends is refused, but not for its form. -/
theorem decodeSegment_of_isOffending {raw : List Char} (h : IsOffending raw) :
    ∃ e, decodeSegment raw = .error e ∧ e ≠ .badForm := by
  unfold decodeSegment
  unfold IsOffending segmentText? at h
  split
  · exact ⟨.notText, rfl, nofun⟩
  · rename_i s hs
    rw [hs] at h
    dsimp only at h
    have hdot : s ≠ "." := by
      rintro rfl
      revert h
      decide
    have hbad : s = ".." ∨ s.toList.any forbidden.contains = true :=
      h.imp_right any_forbidden_iff.mpr
    rw [if_neg hdot, if_pos hbad]
    exact ⟨.escapesDirectory, rfl, nofun⟩

/-- Any other segment is read as its name. -/
theorem decodeSegment_of_not_isOffending {raw : List Char} (hne : raw ≠ [])
    (h : ¬ IsOffending raw) : decodeSegment raw = .ok (nameOf? raw) := by
  rw [decodeSegment, ← segmentText?, nameOf?, if_neg hne]
  unfold IsOffending at h
  cases hs : segmentText? raw with
  | none =>
    rw [hs] at h
    exact absurd trivial h
  | some s =>
    rw [hs] at h
    have hbad : ¬ (s = ".." ∨ s.toList.any forbidden.contains = true) :=
      fun hb => h (hb.imp_right any_forbidden_iff.mp)
    dsimp only
    rw [if_neg hbad]
    split <;> rfl

/-- An empty segment does not offend. -/
theorem not_isOffending_nil : ¬ IsOffending [] := by
  have htext : segmentText? [] = some "" := Utf8.decode?_encode ""
  unfold IsOffending
  rw [htext]
  decide

theorem decodeSegments_cons {raw : List Char} (hne : raw ≠ []) (raws : List (List Char)) :
    decodeSegments (raw :: raws) =
      match decodeSegment raw with
      | .error e => .error e
      | .ok segment =>
        match decodeSegments raws with
        | .error e => .error e
        | .ok segments => .ok (segment.toList ++ segments) := by
  cases raw with
  | nil => exact absurd rfl hne
  | cons c raw => rfl

theorem decodeSegments_of_forall {raws : List (List Char)} (h : ∀ raw ∈ raws, ¬ IsOffending raw) :
    decodeSegments raws = .ok (raws.filterMap nameOf?) := by
  induction raws with
  | nil => rfl
  | cons raw raws ih =>
    have hrest := ih fun r hr => h r (List.mem_cons_of_mem raw hr)
    by_cases hne : raw = []
    · rw [hne]
      exact hrest
    · rw [decodeSegments_cons hne,
        decodeSegment_of_not_isOffending hne (h raw List.mem_cons_self), hrest,
        List.filterMap_cons]
      cases nameOf? raw with
      | none => rfl
      | some name => rfl

theorem decodeSegments_of_isOffending {raws : List (List Char)} {raw : List Char}
    (hraw : raw ∈ raws) (h : IsOffending raw) :
    ∃ e, decodeSegments raws = .error e ∧ e ≠ .badForm := by
  induction raws with
  | nil => cases hraw
  | cons first raws ih =>
    by_cases hfirst : IsOffending first
    · have hne : first ≠ [] := fun hnil => not_isOffending_nil (hnil ▸ hfirst)
      obtain ⟨e, he, hform⟩ := decodeSegment_of_isOffending hfirst
      exact ⟨e, by rw [decodeSegments_cons hne, he], hform⟩
    · have hmem : raw ∈ raws := by
        rcases List.mem_cons.mp hraw with rfl | hmem
        · exact absurd h hfirst
        · exact hmem
      obtain ⟨e, he, hform⟩ := ih hmem
      refine ⟨e, ?_, hform⟩
      by_cases hne : first = []
      · rw [hne]
        exact he
      · rw [decodeSegments_cons hne, decodeSegment_of_not_isOffending hne hfirst, he]

/-! ### Whole targets -/

variable {target : String} {path : List Char} {query : Option (List Char)}

/-- **A target with an offending segment is refused**, and not for its form. -/
theorem parse_of_isOffending (hsplit : split? target.toList = some (path, query))
    {raw : List Char} (hraw : raw ∈ fields '/' path) (h : IsOffending raw) :
    ∃ e, parse target = .error e ∧ e ≠ .badForm := by
  obtain ⟨e, he, hform⟩ := decodeSegments_of_isOffending hraw h
  refine ⟨e, ?_, hform⟩
  rw [parse, hsplit]
  dsimp only
  rw [he]

/-- **Every other target is read**, segment by segment. -/
theorem parse_of_forall (hsplit : split? target.toList = some (path, query))
    (h : ∀ raw ∈ fields '/' path, ¬ IsOffending raw) : parse target = .ok (ofParts path query) := by
  rw [parse, hsplit]
  dsimp only
  rw [decodeSegments_of_forall h]
  rfl

/-- A target that is read has no offending segment. -/
theorem exists_of_parse_eq_ok {parsed : Target} (h : parse target = .ok parsed) :
    ∃ path query, split? target.toList = some (path, query) ∧
      (∀ raw ∈ fields '/' path, ¬ IsOffending raw) ∧ parsed = ofParts path query := by
  cases hsplit : split? target.toList with
  | none =>
    rw [parse, hsplit] at h
    cases h
  | some parts =>
    obtain ⟨path, query⟩ := parts
    have hgood : ∀ raw ∈ fields '/' path, ¬ IsOffending raw := by
      intro raw hraw hbad
      obtain ⟨e, he, -⟩ := parse_of_isOffending hsplit hraw hbad
      rw [h] at he
      cases he
    rw [parse_of_forall hsplit hgood] at h
    exact ⟨path, query, rfl, hgood, (Except.ok.inj h).symm⟩

/-- **The segments of a target that is read name one thing each.** -/
theorem isSegment_of_mem_segments {parsed : Target} (h : parse target = .ok parsed) :
    ∀ segment ∈ parsed.segments, IsSegment segment := by
  obtain ⟨path, query, -, hgood, rfl⟩ := exists_of_parse_eq_ok h
  intro segment hsegment
  obtain ⟨raw, hraw, hname⟩ := List.mem_filterMap.mp hsegment
  exact isSegment_of_nameOf? (hgood raw hraw) hname

end Target

end PreviewServer
