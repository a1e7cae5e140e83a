import PreviewServer.Proofs.Outcome
import PreviewServer.Proofs.Spellings
import Mathlib

/-!
# Redirects of directories

A directory that is asked for without a slash at its end is answered with the location of the same
directory with one.  The location is written anew from the decoded segments and is itself one of the
spellings of their path (`Target.spellsPath_directoryPath`), so reading it gives back the segments
and the query of the target that it was made from (`Target.parse_directoryLocation`).  It has one
slash at its start, since both slashes are escaped within a segment.

That a client is never sent in a circle follows from this and from the table of outcomes: only a
target without a slash at its end is redirected (`Site.exists_of_status_eq_movedPermanently`).
-/

namespace PreviewServer

namespace Target

/-! ### Reading a location -/

/-- The path of the location of a directory: each segment escaped and followed by a slash. -/
def directoryPath (segments : List String) : List Char :=
  '/' :: segments.flatMap fun s => Percent.encodeBytes Percent.segment (Utf8.encode s) ++ ['/']

theorem directoryPath_cons (s : String) (segments : List String) :
    directoryPath (s :: segments) =
      '/' :: (Percent.encodeBytes Percent.segment (Utf8.encode s) ++ directoryPath segments) := by
  unfold directoryPath
  rw [List.flatMap_cons, List.append_assoc, List.singleton_append]

/-- The same target with a path that names a directory. -/
def asDirectory (parsed : Target) : Target :=
  { parsed with rawPath := String.ofList (directoryPath parsed.segments) }

/-- A location is written like any target. -/
theorem toList_directoryLocation (parsed : Target) :
    parsed.directoryLocation.toList =
      written (directoryPath parsed.segments) (parsed.query.map String.toList) none := by
  have hpath : ∀ segments : List String,
      (String.join (segments.map fun s => Percent.encode Percent.segment s ++ "/")).toList =
        segments.flatMap fun s =>
          Percent.encodeBytes Percent.segment (Utf8.encode s) ++ ['/'] := by
    intro segments
    rw [String.toList_join, List.flatMap_map]
    congr 1
    funext s
    rw [String.toList_append, Percent.encode, String.toList_ofList]
    rfl
  unfold directoryLocation written directoryPath
  rw [String.toList_append, String.toList_append, hpath, Option.elim_none, List.append_nil]
  cases parsed.query with
  | none => rfl
  | some q =>
    rw [String.toList_append]
    rfl

/-- **The path of a location spells the segments that it is made from.** -/
theorem spellsPath_directoryPath {segments : List String} (h : ∀ s ∈ segments, s ≠ "") :
    SpellsPath (segments.map Utf8.encode) (directoryPath segments) := by
  induction segments with
  | nil => exact .root
  | cons s segments ih =>
    rw [List.forall_mem_cons] at h
    rw [directoryPath_cons]
    exact .cons (Utf8.encode_ne_nil h.1) (Percent.spells_encodeBytes _) (ih h.2)

/-- The name of one thing has no fault. -/
theorem IsSegment.fault?_eq_none {s : String} (h : IsSegment s) :
    fault? (Utf8.encode s) = none := by
  have hgood : ¬ (s = ".." ∨ '/' ∈ s.toList ∨ '\x5c' ∈ s.toList ∨ '\x00' ∈ s.toList) := by
    simp only [not_or]
    exact ⟨h.ne_dotDot, h.slash_not_mem, h.backslash_not_mem, h.zero_not_mem⟩
  rw [fault?, Utf8.decode?_encode]
  exact if_neg hgood

/-- The name of one thing is its own text. -/
theorem IsSegment.text?_eq {s : String} (h : IsSegment s) : text? (Utf8.encode s) = some s := by
  rw [text?, Utf8.decode?_encode]
  exact if_neg h.ne_dot

variable {target : String} {parsed : Target}

theorem hash_not_mem_of_query_eq_some (h : parse target = .ok parsed) {q : String}
    (hq : parsed.query = some q) : '#' ∉ q.toList := by
  obtain ⟨path, query?, hsplit, -, rfl⟩ := exists_of_parse_eq_ok h
  obtain ⟨query, rfl, rfl⟩ := Option.map_eq_some_iff.mp hq
  rw [String.toList_ofList]
  exact hash_not_mem_query hsplit

/-- **A location is read as the target that it was made from**, asked for as a directory. -/
theorem parse_directoryLocation (h : parse target = .ok parsed) :
    parse parsed.directoryLocation = .ok parsed.asDirectory := by
  have hsegment := isSegment_of_mem_segments h
  have hquery : ∀ q ∈ parsed.query.map String.toList, '#' ∉ q := by
    intro q hq
    obtain ⟨text, htext, rfl⟩ := Option.map_eq_some_iff.mp hq
    exact hash_not_mem_of_query_eq_some h htext
  have hfault : (parsed.segments.map Utf8.encode).findSome? fault? = none := by
    rw [List.findSome?_eq_none_iff, List.forall_mem_map]
    exact fun s hs => (hsegment s hs).fault?_eq_none
  have hnames : (parsed.segments.map Utf8.encode).filterMap text? = parsed.segments := by
    have htext : ∀ s ∈ parsed.segments, (text? ∘ Utf8.encode) s = some s :=
      fun s hs => (hsegment s hs).text?_eq
    rw [List.filterMap_map, List.filterMap_congr htext, List.filterMap_some]
  have hoption : (parsed.query.map String.toList).map String.ofList = parsed.query := by
    cases parsed.query with
    | none => rfl
    | some q => exact congrArg some String.ofList_toList
  have hspells := spellsPath_directoryPath fun s hs => (hsegment s hs).ne_empty
  have hparse := parse_written hspells hquery none
  rw [hfault, hnames, hoption] at hparse
  rw [← String.ofList_toList (s := parsed.directoryLocation), toList_directoryLocation, hparse]
  rfl

/-- The path of a location ends in a slash. -/
theorem getLast?_directoryPath (segments : List String) :
    (directoryPath segments).getLast? = some '/' := by
  induction segments with
  | nil => rfl
  | cons s segments ih =>
    have hne : directoryPath segments ≠ [] := List.cons_ne_nil _ _
    rw [directoryPath_cons, List.getLast?_cons_of_ne_nil (List.append_ne_nil_of_right_ne_nil _ hne),
      List.getLast?_append_of_ne_nil _ hne, ih]

theorem hasTrailingSlash_asDirectory (parsed : Target) :
    parsed.asDirectory.hasTrailingSlash = true := by
  rw [hasTrailingSlash, asDirectory, String.toList_ofList, getLast?_directoryPath,
    decide_eq_true_eq]

/-- **A location stays on its host.**  Behind its first character, which is a slash, there is none
of either kind, so browsers do not take what follows for another host. -/
theorem exists_directoryLocation_eq (h : ∀ s ∈ parsed.segments, s ≠ "") :
    ∃ rest, parsed.directoryLocation.toList = '/' :: rest ∧
      ∀ c ∈ rest.head?, c ≠ '/' ∧ c ≠ '\x5c' := by
  rw [toList_directoryLocation]
  cases hsegments : parsed.segments with
  | nil =>
    refine ⟨_, rfl, ?_⟩
    cases parsed.query with
    | none => exact nofun
    | some q =>
      intro c hc
      obtain rfl : '?' = c := Option.some.inj hc
      decide
  | cons s segments =>
    rw [hsegments, List.forall_mem_cons] at h
    -- The second character is the first one of the escaped segment.
    have hraw := (Percent.spells_encodeBytes (Utf8.encode s)).ne_nil (Utf8.encode_ne_nil h.1)
    obtain ⟨c, raw, heq⟩ := List.exists_cons_of_ne_nil hraw
    have hslash : ∀ d, d = '/' ∨ d = '\x5c' →
        d ∉ Percent.encodeBytes Percent.segment (Utf8.encode s) := by
      rintro d (rfl | rfl)
      · exact Percent.not_mem_encodeBytes (by decide) (by decide) (by decide) _
      · exact Percent.not_mem_encodeBytes (by decide) (by decide) (by decide) _
    rw [heq] at hslash
    refine ⟨_, by rw [directoryPath_cons, heq]; rfl, ?_⟩
    intro d hd
    obtain rfl : c = d := Option.some.inj hd
    constructor
    · rintro rfl
      exact hslash _ (.inl rfl) List.mem_cons_self
    · rintro rfl
      exact hslash _ (.inr rfl) List.mem_cons_self

end Target

namespace Site

/-! ### Following a redirect -/

variable {s : Site} {t : FileTree} {response : Response}

theorem FileOutcome.status_ne {p : Path} (h : s.FileOutcome t p (some response)) :
    response.status ≠ .movedPermanently := by
  cases h with
  | delivered _ _ _ h => exact h.status_ne (by decide)
  | unreadable _ h => exact h.status_ne (by decide)

theorem DirectoryOutcome.status_ne {dir : Path} {display : String}
    (h : s.DirectoryOutcome t dir display (some response)) :
    response.status ≠ .movedPermanently := by
  cases h with
  | index _ _ hfile => exact hfile.status_ne
  | indexOutside _ _ h => exact h.status_ne (by decide)
  | notListed _ _ h => exact h.status_ne (by decide)
  | unreadable _ _ _ h => exact h.status_ne (by decide)
  | listed _ _ _ _ h => exact h.status_ne (by decide)

/-- **Only directories are redirected.**  The target leads to one below the root, and the location
is that of the target. -/
theorem exists_of_status_eq_movedPermanently {r : Request} (h : s.handle t r = some response)
    (hstatus : response.status = .movedPermanently) :
    ∃ parsed dir, Target.parse r.target = .ok parsed ∧ s.Reaches t (s.components parsed) dir ∧
      t.node? dir = some .directory ∧ response = .movedPermanently parsed.directoryLocation := by
  obtain ⟨answer, houtcome⟩ := s.exists_outcome t r
  obtain rfl := h.symm.trans houtcome.eq_handle
  -- One row of the table has this status; all others are excluded by theirs.
  cases houtcome with
  | @moved path query dir _ hmethod hsplit hgood hdir hnode hslash h =>
    exact ⟨_, dir, Target.parse_of_forall hsplit hgood, hdir, hnode,
      h.unique (Response.isText_movedPermanently _)⟩
  | directory _ _ _ _ _ _ hdirectory => exact absurd hstatus hdirectory.status_ne
  | file _ _ _ _ _ hfile => exact absurd hstatus hfile.status_ne
  | methodNotAllowed _ _ h => exact absurd hstatus (h.status_ne (by decide))
  | badTarget _ _ h => exact absurd hstatus (h.status_ne (by decide))
  | badSegment _ _ _ _ h => exact absurd hstatus (h.status_ne (by decide))
  | unreachable _ _ _ _ h => exact absurd hstatus (h.status_ne (by decide))

/-- A directory that is asked for with a slash is answered as one. -/
theorem directoryOutcome_of_hasTrailingSlash {r : Request} {parsed : Target} {dir : Path}
    (hmethod : r.method = .get ∨ r.method = .head) (hparse : Target.parse r.target = .ok parsed)
    (hdir : s.Reaches t (s.components parsed) dir) (hnode : t.node? dir = some .directory)
    (hslash : parsed.hasTrailingSlash = true) :
    s.DirectoryOutcome t dir parsed.display (s.handle t r) := by
  obtain ⟨hconfines, hhandle⟩ := handle_of_reaches hmethod hparse hdir hnode
  obtain ⟨answer, houtcome⟩ := s.exists_directoryOutcome t dir parsed.display
  rw [hhandle, if_pos rfl, if_pos hslash, houtcome.eq_answer hconfines]
  exact houtcome

/-- **A redirect stays on its host, keeps its meaning and never leads to another one.**  The
location of a target starts with one slash and is read as the segments and the query of the target,
with a slash at the end.  So whenever a site redirects a request, the location leads to the
directory that the target leads to, and a request for it is answered with that directory. -/
theorem directoryLocation_and_handle_of_moved :
    (∀ (target : String) (parsed : Target), Target.parse target = .ok parsed →
      (∃ rest, parsed.directoryLocation.toList = '/' :: rest ∧
        ∀ c ∈ rest.head?, c ≠ '/' ∧ c ≠ '\x5c') ∧
      ∃ again, Target.parse parsed.directoryLocation = .ok again ∧
        again.segments = parsed.segments ∧ again.query = parsed.query ∧
        again.hasTrailingSlash = true) ∧
    ∀ (s : Site) (t : FileTree) (r : Request) (response : Response),
      s.handle t r = some response → response.status = .movedPermanently →
      ∃ location dir,
        response.headers.get? "Location" = some location ∧
        t.node? dir = some .directory ∧
        (∃ parsed, Target.parse r.target = .ok parsed ∧ s.Reaches t (s.components parsed) dir) ∧
        ∃ again, Target.parse location = .ok again ∧ s.Reaches t (s.components again) dir ∧
          ∀ r' : Request, r'.target = location →
            (∀ response', s.handle t r' = some response' →
              response'.status ≠ .movedPermanently) ∧
            (r'.method = .get ∨ r'.method = .head →
              s.DirectoryOutcome t dir again.display (s.handle t r')) := by
  constructor
  · intro target parsed hparse
    have hne : ∀ segment ∈ parsed.segments, segment ≠ "" :=
      fun segment hmem => (Target.isSegment_of_mem_segments hparse segment hmem).ne_empty
    exact ⟨Target.exists_directoryLocation_eq hne, _, Target.parse_directoryLocation hparse, rfl,
      rfl, parsed.hasTrailingSlash_asDirectory⟩
  · intro s t r response h hmoved
    obtain ⟨parsed, dir, hparse, hdir, hnode, rfl⟩ :=
      exists_of_status_eq_movedPermanently h hmoved
    have hagain := Target.parse_directoryLocation hparse
    refine ⟨parsed.directoryLocation, dir, ?_, hnode, ⟨parsed, hparse, hdir⟩, _, hagain, hdir, ?_⟩
    · exact (Dict.get?_insert _ _ _ _).trans (if_pos rfl)
    · intro r' htarget
      have hserved : r'.method = .get ∨ r'.method = .head →
          s.DirectoryOutcome t dir parsed.asDirectory.display (s.handle t r') := by
        intro hmethod
        rw [← htarget] at hagain
        exact directoryOutcome_of_hasTrailingSlash hmethod hagain hdir hnode
          parsed.hasTrailingSlash_asDirectory
      refine ⟨fun response' h' => ?_, hserved⟩
      -- A method that is not served is not redirected either.
      by_cases hmethod : r'.method = .get ∨ r'.method = .head
      · have houtcome := hserved hmethod
        rw [h'] at houtcome
        exact houtcome.status_ne
      · rw [handle, if_neg (mt isServable_iff.mp hmethod)] at h'
        obtain rfl := Option.some.inj h'
        decide

/-- The site of a directory. -/
def ofDocs : Site :=
  { root := [Utf8.encode "docs"], indexFiles := [], listing := false, types := .builtinOnly }

/-- The directory within it, whose name has to be escaped. -/
def pathInDocs : Path := [Utf8.encode "docs", Utf8.encode "a?b"]

/-- A tree with these two directories. -/
def docs : FileTree :=
  (FileTree.empty.set [Utf8.encode "docs"] .directory).set pathInDocs .directory

/-- The request for this directory, written with a slash too many and one too few. -/
def requestInDocs : Request :=
  { method := .get, target := "//a%3fb?x=/", version := "HTTP/1.1", headers := .empty, body := [] }

/-- What its target is read as. -/
def targetInDocs : Target :=
  { segments := ["a?b"], rawPath := "//a%3fb", query := some "x=/" }

theorem handle_requestInDocs :
    ofDocs.handle docs requestInDocs = some (.movedPermanently "/a%3Fb/?x=/") ∧
      ∀ r' : Request, r'.target = "/a%3Fb/?x=/" →
        ∀ response', ofDocs.handle docs r' = some response' →
          response'.status ≠ .movedPermanently := by
  have hparse : Target.parse requestInDocs.target = .ok targetInDocs := rfl
  have hlocation : targetInDocs.directoryLocation = "/a%3Fb/?x=/" := by decide
  have hdir : ofDocs.confine docs (ofDocs.components targetInDocs) = .ok pathInDocs := by
    cbv
  have hlookup : docs.lookup pathInDocs = .ok (pathInDocs, .directory) := by
    cbv
  have heq : ofDocs.handle docs requestInDocs = some (.movedPermanently "/a%3Fb/?x=/") := by
    rw [handle_of_servable (.inl rfl), serve, hparse]
    dsimp only
    rw [serveTarget, hdir]
    dsimp only
    rw [hlookup]
    dsimp only
    rw [if_neg (by decide), hlocation]
    rfl
  obtain ⟨location, dir, hget, -, -, again, -, -, hfollow⟩ :=
    directoryLocation_and_handle_of_moved.2 _ _ _ _ heq rfl
  have hheader : (Response.movedPermanently "/a%3Fb/?x=/").headers.get? "Location" =
      some "/a%3Fb/?x=/" := rfl
  obtain rfl := Option.some.inj (hget.symm.trans hheader)
  exact ⟨heq, fun r' htarget => (hfollow r' htarget).1⟩

end Site

end PreviewServer
