import PreviewServer.Proofs.Redirects

/-!
# Queries and fragments

A query and a fragment behind a path never change what is served.  The target is taken apart at the
first number sign and at the first question mark before it, so neither of them is read as part of
the path, whatever slashes, dots, escapes and marks they contain; the names and the raw path are
those of the path alone (`Target.parse_written_eq_map`).

What a request is answered with is a row of the table of outcomes, and the conditions of a row speak
of the path and of the names.  So the row of the path alone is the row of the target with its query
(`Site.Outcome.exists_of_path`), and only the location of a redirect shows the query.
-/

namespace PreviewServer

namespace Target

variable {path : List Char} {query : Option (List Char)}

/-- A query as it is written behind a location. -/
def queryText (query : Option (List Char)) : String :=
  query.elim "" fun q => "?" ++ String.ofList q

/-- A path alone is a target without query and fragment. -/
theorem split?_path (hstart : path.head? = some '/') (hquestion : '?' ∉ path) (hhash : '#' ∉ path) :
    split? path = some (path, none) := by
  have hquery : ∀ q ∈ (none : Option (List Char)), '#' ∉ q := fun q hq => nomatch hq
  have hsplit := split?_written hstart hquestion hhash hquery none
  rwa [written, Option.elim_none, Option.elim_none, List.append_nil, List.append_nil] at hsplit

/-- **A target is read as its path is, with the query that it was written with.** -/
theorem parse_written_eq_map (hstart : path.head? = some '/') (hquestion : '?' ∉ path)
    (hhash : '#' ∉ path) (hquery : ∀ q ∈ query, '#' ∉ q) (fragment : Option (List Char)) :
    parse (String.ofList (written path query fragment)) =
      (parse (String.ofList path)).map fun parsed =>
        { parsed with query := query.map String.ofList } := by
  unfold parse
  rw [String.toList_ofList, String.toList_ofList,
    split?_written hstart hquestion hhash hquery, split?_path hstart hquestion hhash]
  dsimp only
  cases decodeSegments (fields '/' path) with
  | error e => rfl
  | ok segments => rfl

/-- The query stands at the end of a location. -/
theorem directoryLocation_ofParts (path : List Char) (query : Option (List Char)) :
    (ofParts path query).directoryLocation =
      (ofParts path none).directoryLocation ++ queryText query := by
  unfold directoryLocation ofParts queryText
  cases query with
  | none => rw [Option.elim_none, String.append_empty]
  | some q =>
    rw [Option.map_some, Option.elim_some, Option.map_none, String.append_empty]

end Target

namespace Site

open Target

variable {s : Site} {t : FileTree} {r r' : Request} {answer : Option Response}
variable {path : List Char} {query fragment : Option (List Char)}

/-! ### The same row of the table -/

/-- **The outcome of a path is that of the path with a query behind it**, but for the location of a
redirect. -/
theorem Outcome.exists_of_path (hmethod : r'.method = r.method)
    (hpath : split? r.target.toList = some (path, none))
    (hwritten : split? r'.target.toList = some (path, query)) (h : s.Outcome t r answer) :
    ((∀ response, answer = some response → response.status ≠ .movedPermanently) ∧
        s.Outcome t r' answer) ∨
      ∃ location, answer = some (.movedPermanently location) ∧
        s.Outcome t r' (some (.movedPermanently (location ++ queryText query))) := by
  -- No condition of a row speaks of the query, and one answer shows it.
  cases h with
  | @methodNotAllowed response hget hhead h =>
    have hstatus : response.status ≠ .movedPermanently := h.status_ne (by decide)
    rw [← hmethod] at hget hhead
    exact .inl ⟨fun _ heq => Option.some.inj heq ▸ hstatus, .methodNotAllowed hget hhead h⟩
  | badTarget _ hform _ =>
    rw [split?_eq_none_iff.mpr hform] at hpath
    cases hpath
  | @badSegment _ _ _ response hservable hsplit hraw hbad h =>
    have hstatus : response.status ≠ .movedPermanently := h.status_ne (by decide)
    cases hpath.symm.trans hsplit
    rw [← hmethod] at hservable
    exact .inl ⟨fun _ heq => Option.some.inj heq ▸ hstatus, .badSegment hservable hwritten hraw hbad h⟩
  | @unreachable _ _ response hservable hsplit hgood hp h =>
    have hstatus : response.status ≠ .movedPermanently := h.status_ne (by decide)
    cases hpath.symm.trans hsplit
    rw [← hmethod] at hservable
    exact .inl ⟨fun _ heq => Option.some.inj heq ▸ hstatus, .unreachable hservable hwritten hgood hp h⟩
  | moved hservable hsplit hgood hdir hnode hslash h =>
    cases hpath.symm.trans hsplit
    rw [← hmethod] at hservable
    refine .inr ⟨_, congrArg some (h.unique (Response.isText_movedPermanently _)), ?_⟩
    rw [← directoryLocation_ofParts]
    exact .moved hservable hwritten hgood hdir hnode hslash (Response.isText_movedPermanently _)
  | directory hservable hsplit hgood hdir hnode hslash h =>
    cases hpath.symm.trans hsplit
    rw [← hmethod] at hservable
    refine .inl ⟨?_, .directory hservable hwritten hgood hdir hnode hslash h⟩
    rintro response rfl
    exact h.status_ne
  | file hservable hsplit hgood hp hnode h =>
    cases hpath.symm.trans hsplit
    rw [← hmethod] at hservable
    refine .inl ⟨?_, .file hservable hwritten hgood hp hnode h⟩
    rintro response rfl
    exact h.status_ne

/-- Another location takes the place of the one that is there. -/
theorem movedPermanently_withHeader (location other : String) :
    (Response.movedPermanently location).withHeader "Location" other = .movedPermanently other :=
  rfl

/-- **Queries and fragments never change what is served.**  A target is read as the path that it
begins with, and its query is exactly what stands between the first question mark before the
fragment and the fragment.  A site answers it like the path alone; if that answer is a redirect, its
location goes on with the query. -/
theorem handle_written_and_parse_written (path : List Char) (query fragment : Option (List Char))
    (hstart : path.head? = some '/') (hquestion : '?' ∉ path) (hhash : '#' ∉ path)
    (hquery : ∀ q ∈ query, '#' ∉ q) :
    parse (String.ofList (written path query fragment)) =
      ((parse (String.ofList path)).map fun parsed =>
        { parsed with query := query.map String.ofList }) ∧
    ∀ (s : Site) (t : FileTree) (r r' : Request), r'.method = r.method →
      r.target = String.ofList path → r'.target = String.ofList (written path query fragment) →
        ((∀ response, s.handle t r = some response → response.status ≠ .movedPermanently) →
          s.handle t r' = s.handle t r) ∧
        (∀ response, s.handle t r = some response → response.status = .movedPermanently →
          ∃ location, response.headers.get? "Location" = some location ∧
            s.handle t r' =
              some (response.withHeader "Location" (location ++ queryText query))) ∧
        (query = none → s.handle t r' = s.handle t r) := by
  refine ⟨parse_written_eq_map hstart hquestion hhash hquery fragment, ?_⟩
  intro s t r r' hmethod hpath hwritten
  have hsplit : split? r.target.toList = some (path, none) := by
    rw [hpath, String.toList_ofList]
    exact split?_path hstart hquestion hhash
  have hsplit' : split? r'.target.toList = some (path, query) := by
    rw [hwritten, String.toList_ofList]
    exact split?_written hstart hquestion hhash hquery fragment
  obtain ⟨answer, houtcome⟩ := s.exists_outcome t r
  rw [houtcome.eq_handle]
  rcases houtcome.exists_of_path hmethod hsplit hsplit' with
    ⟨hstatus, houtcome'⟩ | ⟨location, rfl, houtcome'⟩
  · rw [houtcome'.eq_handle]
    exact ⟨fun _ => rfl, fun response hr hmoved => absurd hmoved (hstatus response hr),
      fun _ => rfl⟩
  · rw [houtcome'.eq_handle]
    refine ⟨fun hstatus => absurd rfl (hstatus _ rfl), ?_, ?_⟩
    · intro response hr _
      obtain rfl := Option.some.inj hr
      exact ⟨location, rfl, by rw [movedPermanently_withHeader]⟩
    · rintro rfl
      rw [queryText, Option.elim_none, String.append_empty]

/-- The path of the directory, behind it a query that looks like a path and a fragment that looks
like a query. -/
def queriedInDocs : Request := { requestInDocs with target := "//a%3fb?x=/../%2e#y?/#" }

/-- The request for the path alone. -/
def unqueriedInDocs : Request := { requestInDocs with target := "//a%3fb" }

theorem handle_queriedInDocs :
    "//a%3fb".toList.head? = some '/' ∧ '?' ∉ "//a%3fb".toList ∧ '#' ∉ "//a%3fb".toList ∧
      (∀ q ∈ some "x=/../%2e".toList, '#' ∉ q) ∧
      parse queriedInDocs.target =
        .ok { segments := ["a?b"], rawPath := "//a%3fb", query := some "x=/../%2e" } ∧
      ofDocs.handle docs unqueriedInDocs = some (.movedPermanently "/a%3Fb/") ∧
      ofDocs.handle docs queriedInDocs =
        some ((Response.movedPermanently "/a%3Fb/").withHeader "Location" "/a%3Fb/?x=/../%2e") := by
  have hstart : "//a%3fb".toList.head? = some '/' := by decide
  have hquestion : '?' ∉ "//a%3fb".toList := by decide
  have hhash : '#' ∉ "//a%3fb".toList := by decide
  have hquery : ∀ q ∈ some "x=/../%2e".toList, '#' ∉ q := by decide
  have hread : parse unqueriedInDocs.target =
      .ok { segments := ["a?b"], rawPath := "//a%3fb", query := none } := rfl
  have hdir : ofDocs.confine docs [Utf8.encode "docs", Utf8.encode "a?b"] = .ok pathInDocs := by
    cbv
  have hnode : docs.node? pathInDocs = some .directory := by cbv
  have hanswer : ofDocs.handle docs unqueriedInDocs = some (.movedPermanently "/a%3Fb/") :=
    (handle_of_reaches (.inl rfl) hread (confine_eq_ok_iff.mp hdir) hnode).2
  obtain ⟨hparse, hhandle⟩ := handle_written_and_parse_written "//a%3fb".toList
    (some "x=/../%2e".toList) (some "y?/#".toList) hstart hquestion hhash hquery
  have hpath : unqueriedInDocs.target = String.ofList "//a%3fb".toList :=
    String.ofList_toList.symm
  have hwritten : queriedInDocs.target = String.ofList
      (written "//a%3fb".toList (some "x=/../%2e".toList) (some "y?/#".toList)) := by decide
  obtain ⟨-, hredirect, -⟩ := hhandle ofDocs docs unqueriedInDocs queriedInDocs rfl hpath hwritten
  obtain ⟨location, hget, heq⟩ := hredirect _ hanswer rfl
  have hlocation : (Response.movedPermanently "/a%3Fb/").headers.get? "Location" =
      some "/a%3Fb/" := rfl
  obtain rfl := Option.some.inj (hget.symm.trans hlocation)
  exact ⟨hstart, hquestion, hhash, hquery, hparse, hanswer, heq⟩

end Site

end PreviewServer
