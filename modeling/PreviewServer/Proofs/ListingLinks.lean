import PreviewServer.Proofs.ListingPages
import PreviewServer.Proofs.LossyDecoding
import PreviewServer.Proofs.Redirects
import PreviewServer.Proofs.Trails

/-!
# Every link of a listing leads to its entry

A link is escaped twice, as a segment of a path and as text of a page, and undone in the opposite
order: what stands between the quotation marks of a line is the escaped segment again
(`Listing.href_eq`).  Behind a path with a slash at its end it is a field of its own, whatever the
fields before it look like, and is read as one segment more (`Target.parse_rawPath_append`).  For
this the path must not contain the delimiters of a query or a fragment, also if it comes from a
complete URL, where they are escaped (`Target.path_of_split?`).

A site answers with a listing exactly if it succeeds and tells no time (`Site.exists_lists_iff`).  A
link on it has a slash at its end if its child leads to a directory from there
(`FileTree.leadsToDirectory_iff`).  A request goes the whole way from the root instead, and comes to
the same node (`FileTree.lookup_concat_of_canonicalize`).  So a request for a directory has its
slash, and is not redirected (`Site.Lists.parse_href`).
-/

namespace PreviewServer

namespace Listing

/-! ### Names of entries -/

/-- Whether a text can be the name of an entry: it is a name, and not one that means a directory
itself or the one above it. -/
structure IsEntryName (name : String) : Prop where
  /-- It is not empty. -/
  ne_empty : name ≠ ""
  /-- It does not stay. -/
  ne_dot : name ≠ "."
  /-- It does not go up. -/
  ne_dotDot : name ≠ ".."
  /-- It contains no slash. -/
  slash_not_mem : '/' ∉ name.toList
  /-- It contains no zero character. -/
  zero_not_mem : '\x00' ∉ name.toList

/-- Whatever the bytes of a name are, it is shown as one. -/
theorem isEntryName_decodeLossy {name : Name} (h : isName name) :
    IsEntryName (Utf8.decodeLossy name) := by
  simp only [isName, ne_eq, decide_not, Bool.and_eq_true, Bool.not_eq_true',
    decide_eq_false_iff_not, List.contains_eq_mem] at h
  obtain ⟨⟨⟨⟨⟨hempty, hdot⟩, hup⟩, hzero⟩, hslash⟩, -⟩ := h
  have hread : ∀ {s : String} {bs : Bytes}, Utf8.decodeLossy name = s →
      (s.toList.all fun c => c.toNat < 128) = true → Utf8.encode s = bs → name = bs := by
    intro s bs heq hs hbs
    have hascii : ∀ c ∈ s.toList, c.toNat < 128 :=
      fun c hc => of_decide_eq_true (List.all_eq_true.mp hs c hc)
    exact (Utf8.eq_encode_of_decodeLossy heq hascii).trans hbs
  have hmem : ∀ c : Char, c.toNat < 128 → c ∈ (Utf8.decodeLossy name).toList →
      UInt8.ofNat c.toNat ∈ name := by
    intro c hc h
    rw [Utf8.decodeLossy, String.toList_ofList] at h
    exact Utf8.mem_of_mem_lossyChars hc h
  exact
    { ne_empty := fun heq => hempty (hread heq (by decide) (by decide))
      ne_dot := fun heq => hdot (hread heq (by decide) (by decide))
      ne_dotDot := fun heq => hup (hread heq (by decide) (by decide))
      slash_not_mem := fun h => hslash (hmem '/' (by decide) h)
      zero_not_mem := fun h => hzero (hmem '\x00' (by decide) h) }

theorem isEntryName_of_mem_entries {t : FileTree} {dir : Path} {e : Entry}
    (h : e ∈ entries t dir) : IsEntryName e.name := by
  rw [entries_eq_map] at h
  obtain ⟨name, hname, rfl⟩ := List.mem_map.mp h
  exact isEntryName_decodeLossy (FileTree.isName_of_mem_children (mem_shownNames.mp hname))

/-! ### The link on a line -/

/-- What a line begins with, up to its link. -/
def lineStart : String := "<li><a href=\""

/-- The link that is read from the line of an entry: what stands before the next quotation mark,
with the entities undone. -/
def href (e : Entry) : List Char :=
  Entity.unescapeChars (before '"' ((line e).toList.drop lineStart.toList.length))

/-- A mark adds no character but a slash. -/
theorem not_mem_append_mark {cs : List Char} {d : Char} (hslash : d ≠ '/') (h : d ∉ cs)
    (isDirectory : Bool) : d ∉ cs ++ mark isDirectory := by
  rw [List.mem_append, not_or]
  refine ⟨h, ?_⟩
  cases isDirectory with
  | true => exact fun hmem => hslash (List.mem_singleton.mp hmem)
  | false => exact List.not_mem_nil

/-- **The link that is read is the escaped name**, with a slash behind it if it leads to a
directory. -/
theorem href_eq (e : Entry) :
    href e = Percent.encodeBytes Percent.segment (Utf8.encode e.name) ++ mark e.isDirectory := by
  have hsuffix : (suffix e).toList = mark e.isDirectory := toList_suffix e.name e.isDirectory
  have hquote : '"' ∉ (link e).toList := by
    rw [link, String.toList_append, hsuffix, Entity.escape, String.toList_ofList]
    exact not_mem_append_mark (by decide) (Entity.not_mem_escapeChars (by decide) _) _
  have hline : ∃ rest, (line e).toList = lineStart.toList ++ ((link e).toList ++ '"' :: rest) := by
    have hend : "\">".toList = ['"', '>'] := rfl
    unfold line lineStart
    generalize "\">" = quote at hend ⊢
    generalize "<li><a href=\"" = opening
    generalize "</a></li>\n" = closing
    refine ⟨'>' :: (Entity.escape e.name ++ suffix e ++ closing).toList, ?_⟩
    simp only [String.toList_append, hend, List.append_assoc, List.cons_append, List.nil_append]
  obtain ⟨rest, hrest⟩ := hline
  have hmark : Entity.unescapeChars (mark e.isDirectory) = mark e.isDirectory := by
    cases e.isDirectory <;> rfl
  rw [href, hrest, List.drop_left, before, cut?_append hquote]
  dsimp only
  rw [link, String.toList_append, hsuffix, Entity.escape, String.toList_ofList, Percent.encode,
    String.toList_ofList, Entity.unescapeChars_escapeChars_append, hmark]

end Listing

/-! ### Paths of targets -/

namespace Url

theorem mem_of_mem_dropSegment {done : List Segment} {s : Segment} (h : s ∈ dropSegment done) :
    s ∈ done := by
  unfold dropSegment at h
  split at h
  · split at h
    · exact h
    · exact List.mem_of_mem_dropLast h
  · cases h

/-- Carrying out dots makes no segments but empty ones. -/
theorem forall_mem_resolveDots {P : Segment → Prop} (hnil : P []) {done todo : List Segment}
    (hdone : ∀ s ∈ done, P s) (htodo : ∀ s ∈ todo, P s) : ∀ s ∈ resolveDots done todo, P s := by
  have hdrop : ∀ {done : List Segment}, (∀ s ∈ done, P s) → ∀ s ∈ dropSegment done, P s :=
    fun h s hs => h s (mem_of_mem_dropSegment hs)
  have hconcat : ∀ {done : List Segment} {t : Segment}, (∀ s ∈ done, P s) → P t →
      ∀ s ∈ done ++ [t], P s :=
    fun h ht => List.forall_mem_append.mpr ⟨h, List.forall_mem_singleton.mpr ht⟩
  fun_induction resolveDots done todo with
  | case1 done => exact hdone
  | case2 done last hup => exact hconcat (hdrop hdone) hnil
  | case3 done last hup hstay => exact hconcat hdone hnil
  | case4 done last hup hstay => exact hconcat hdone (List.forall_mem_singleton.mp htodo)
  | case5 done first rest hne hup ih => exact ih (hdrop hdone) (List.forall_mem_cons.mp htodo).2
  | case6 done first rest hne hup hstay ih => exact ih hdone (List.forall_mem_cons.mp htodo).2
  | case7 done first rest hne hup hstay ih =>
    obtain ⟨hfirst, hrest⟩ := List.forall_mem_cons.mp htodo
    exact ih (hconcat hdone hfirst) hrest

/-- The last segment is kept, or leaves an empty one. -/
theorem resolveDots_ne_nil {done todo : List Segment} (h : todo ≠ []) :
    resolveDots done todo ≠ [] := by
  fun_induction resolveDots done todo with
  | case1 => exact absurd rfl h
  | case2 | case3 | case4 => exact List.append_ne_nil_of_right_ne_nil _ (List.cons_ne_nil _ _)
  | case5 done first rest hne hup ih => exact ih hne
  | case6 done first rest hne hup hstay ih => exact ih hne
  | case7 done first rest hne hup hstay ih => exact ih hne

/-- The path of a URL that is read has segments, in which the delimiters behind a path are
escaped. -/
theorem segments_of_parse? {text : List Char} {u : Url} (h : parse? text = some u) :
    u.segments ≠ [] ∧ ∀ s ∈ u.segments, '?' ∉ s ∧ '#' ∉ s := by
  have hread : ∃ path, u.segments = readPath path := by
    unfold parse? at h
    split at h
    · cases h
    · dsimp only at h
      split at h
      · cases h
        exact ⟨_, rfl⟩
      · cases h
  obtain ⟨path, hpath⟩ := hread
  rw [hpath, readPath]
  constructor
  · exact resolveDots_ne_nil (mt List.map_eq_nil_iff.mp (fields_ne_nil _ _))
  · refine forall_mem_resolveDots ⟨List.not_mem_nil, List.not_mem_nil⟩ (List.forall_mem_nil _) ?_
    intro s hs
    obtain ⟨raw, -, rfl⟩ := List.mem_map.mp hs
    exact ⟨Percent.not_mem_encodeBytes (by decide) (by decide) (by decide) _,
      Percent.not_mem_encodeBytes (by decide) (by decide) (by decide) _⟩

end Url

namespace Target

/-- The path of a target begins with a slash and contains none of the delimiters behind it, also if
the target is a complete URL. -/
theorem path_of_split? {target path : List Char} {query : Option (List Char)}
    (h : split? target = some (path, query)) :
    path.head? = some '/' ∧ '?' ∉ path ∧ '#' ∉ path := by
  unfold split? at h
  split at h
  · rename_i hstart
    have hpath : path = before '?' (before '#' target) := by
      unfold before at h ⊢
      split at h
      · rename_i hcut
        cases h
        rw [hcut]
      · rename_i hcut
        cases h
        rw [hcut]
    obtain ⟨rest, rfl⟩ := List.head?_eq_some_iff.mp hstart
    rw [hpath]
    refine ⟨?_, not_mem_before _ _, fun hmem => not_mem_before _ _ (mem_of_mem_before hmem)⟩
    rw [before_cons_of_ne (by decide), before_cons_of_ne (by decide), List.head?_cons]
  · split at h
    · obtain ⟨u, hu, hpair⟩ := Option.map_eq_some_iff.mp h
      obtain ⟨hne, hsegments⟩ := Url.segments_of_parse? hu
      cases hpair
      obtain ⟨s, rest, hs⟩ := List.exists_cons_of_ne_nil hne
      have hmem : ∀ c, c ≠ '/' → (∀ s ∈ u.segments, c ∉ s) → c ∉ Url.pathText u.segments := by
        intro c hslash hnot hc
        obtain ⟨s, hs, hc⟩ := List.mem_flatMap.mp hc
        rcases List.mem_cons.mp hc with hc | hc
        · exact hslash hc
        · exact hnot s hs hc
      refine ⟨?_, hmem _ (by decide) fun s hs => (hsegments s hs).1,
        hmem _ (by decide) fun s hs => (hsegments s hs).2⟩
      rw [hs]
      rfl
    · cases h

/-- A path alone is a target without a query. -/
theorem split?_of_not_mem {path : List Char} (hstart : path.head? = some '/') (hquestion : '?' ∉ path)
    (hhash : '#' ∉ path) : split? path = some (path, none) := by
  have hsplit : split? (written path none none) = some (path, none) :=
    split?_written hstart hquestion hhash (fun _ h => by cases h) none
  rwa [written, Option.elim_none, Option.elim_none, List.append_nil, List.append_nil] at hsplit

/-! ### One segment more -/

variable {target : String} {parsed : Target} {s : String} {raw : List Char}

theorem segmentText?_of_spells (hraw : Percent.Spells (Utf8.encode s) raw) :
    segmentText? raw = some s := by
  rw [segmentText?, Percent.decode_of_spells hraw, Utf8.decode?_encode]

theorem nameOf?_of_spells (hs : IsSegment s) (hraw : Percent.Spells (Utf8.encode s) raw) :
    nameOf? raw = some s := by
  rw [nameOf?, if_neg (hraw.ne_nil (Utf8.encode_ne_nil hs.ne_empty)), segmentText?_of_spells hraw]
  exact if_neg hs.ne_dot

theorem not_isOffending_of_spells (hs : IsSegment s) (hraw : Percent.Spells (Utf8.encode s) raw) :
    ¬ IsOffending raw := by
  rw [IsOffending, segmentText?_of_spells hraw]
  simp only [not_or]
  exact ⟨hs.ne_dotDot, hs.slash_not_mem, hs.backslash_not_mem, hs.zero_not_mem⟩

/-- Behind a slash stands one field more, and an empty one if there is a mark. -/
theorem fields_append_mark (hraw : '/' ∉ raw) (start : List Char) (isDirectory : Bool) :
    fields '/' (start ++ ['/'] ++ (raw ++ Listing.mark isDirectory)) =
      fields '/' start ++ raw :: if isDirectory then [[]] else [] := by
  rw [List.append_assoc, List.singleton_append, fields_append]
  cases isDirectory with
  | true => exact congrArg (_ ++ ·) (fields_append_cons hraw [])
  | false =>
    rw [Listing.mark, if_neg Bool.false_ne_true, List.append_nil, fields_of_not_mem hraw]
    rfl

/-- The target that is read when a link stands behind the path of a target and leads to `name`. -/
def child (parsed : Target) (name : String) (link : List Char) : Target :=
  { segments := parsed.segments ++ [name]
    rawPath := parsed.rawPath ++ String.ofList link
    query := none }

/-- **A name behind the path of a directory** is read as one segment more, whatever the path looks
like. -/
theorem parse_rawPath_append (h : parse target = .ok parsed)
    (hslash : parsed.hasTrailingSlash = true) (hs : IsSegment s)
    (hraw : Percent.Spells (Utf8.encode s) raw) (isDirectory : Bool) :
    parse (parsed.rawPath ++ String.ofList (raw ++ Listing.mark isDirectory)) =
      .ok (parsed.child s (raw ++ Listing.mark isDirectory)) := by
  obtain ⟨path, query, hsplit, hgood, rfl⟩ := exists_of_parse_eq_ok h
  obtain ⟨start, rfl⟩ :=
    List.getLast?_eq_some_iff.mp ((Site.hasTrailingSlash_ofParts path query).mp hslash)
  obtain ⟨hstart, hquestion, hhash⟩ := path_of_split? hsplit
  have hfields := fields_append_mark (hraw.not_mem (by decide) (by decide)) start isDirectory
  have hbefore : fields '/' (start ++ ['/']) = fields '/' start ++ [[]] := fields_append '/' start []
  have hnil : nameOf? [] = none := rfl
  have hgood' : ∀ field ∈ fields '/' (start ++ ['/'] ++ (raw ++ Listing.mark isDirectory)),
      ¬ IsOffending field := by
    rw [hfields, List.forall_mem_append, List.forall_mem_cons]
    refine ⟨fun field hfield => hgood field (hbefore ▸ List.mem_append_left _ hfield),
      not_isOffending_of_spells hs hraw, ?_⟩
    cases isDirectory with
    | true => exact List.forall_mem_singleton.mpr not_isOffending_nil
    | false =>
      intro field hfield
      cases hfield
  have hsegments : (fields '/' (start ++ ['/'] ++ (raw ++ Listing.mark isDirectory))).filterMap nameOf? =
      (fields '/' (start ++ ['/'])).filterMap nameOf? ++ [s] := by
    rw [hfields, hbefore, List.filterMap_append, List.filterMap_append,
      List.filterMap_cons_some (nameOf?_of_spells hs hraw), List.filterMap_cons_none hnil,
      List.filterMap_nil, List.append_nil]
    cases isDirectory with
    | true => rfl
    | false => rfl
  have hhead : (start ++ ['/'] ++ (raw ++ Listing.mark isDirectory)).head? = some '/' := by
    rw [List.head?_append, hstart]
    rfl
  have hdelimiter : ∀ d, d ∈ Percent.delimiters → d ≠ '%' → d ≠ '/' → d ∉ start ++ ['/'] →
      d ∉ start ++ ['/'] ++ (raw ++ Listing.mark isDirectory) := by
    intro d hd hpercent hslash hnot
    rw [List.mem_append, not_or]
    exact ⟨hnot, Listing.not_mem_append_mark hslash (hraw.not_mem hd hpercent) isDirectory⟩
  have htarget : split? (String.ofList (start ++ ['/'] ++ (raw ++ Listing.mark isDirectory))).toList =
      some (start ++ ['/'] ++ (raw ++ Listing.mark isDirectory), none) := by
    rw [String.toList_ofList]
    exact split?_of_not_mem hhead (hdelimiter '?' (by decide) (by decide) (by decide) hquestion)
      (hdelimiter '#' (by decide) (by decide) (by decide) hhash)
  have hpath : (ofParts (start ++ ['/']) query).rawPath ++
      String.ofList (raw ++ Listing.mark isDirectory) =
        String.ofList (start ++ ['/'] ++ (raw ++ Listing.mark isDirectory)) :=
    String.ofList_append.symm
  rw [child, hpath, parse_of_forall htarget hgood', ofParts, hsegments]
  rfl

/-- Behind the spelling of a name, a slash at the end is the mark of a directory. -/
theorem hasTrailingSlash_child (parsed : Target) (hs : IsSegment s)
    (hraw : Percent.Spells (Utf8.encode s) raw) (isDirectory : Bool) :
    (parsed.child s (raw ++ Listing.mark isDirectory)).hasTrailingSlash = true ↔
      isDirectory = true := by
  rw [hasTrailingSlash, child, decide_eq_true_eq, String.toList_append, String.toList_ofList]
  cases isDirectory with
  | true =>
    rw [← List.append_assoc]
    exact iff_of_true List.getLast?_concat rfl
  | false =>
    have hslash : '/' ∉ raw := hraw.not_mem (by decide) (by decide)
    rw [Listing.mark, if_neg Bool.false_ne_true, List.append_nil,
      List.getLast?_append_of_ne_nil _ (hraw.ne_nil (Utf8.encode_ne_nil hs.ne_empty))]
    exact iff_of_false (fun h => hslash (List.mem_of_getLast? h)) Bool.false_ne_true

/-- The name of a node is a segment if it is a text without backslashes. -/
theorem isSegment_of_isName (hname : isName (Utf8.encode s)) (hbackslash : '\x5c' ∉ s.toList) :
    IsSegment s := by
  have h := Listing.isEntryName_decodeLossy hname
  rw [Utf8.decodeLossy_encode] at h
  exact
    { ne_empty := h.ne_empty
      ne_dot := h.ne_dot
      ne_dotDot := h.ne_dotDot
      slash_not_mem := h.slash_not_mem
      backslash_not_mem := hbackslash
      zero_not_mem := h.zero_not_mem }

end Target

/-! ### Children that are directories -/

namespace FileTree

variable {t : FileTree} {dir p : Path}

/-- Whether components lead to a directory, links followed.  A directory that stands there itself is
one also if its path is too long to be followed. -/
def LeadsToDirectory (t : FileTree) (components : List Name) : Prop :=
  (∃ p, t.lookup components = .ok (p, .directory)) ∨ t.node? components = some .directory

/-- A canonical path leads nowhere else. -/
theorem IsCanonical.eq_of_lookup {n : Node} {q : Path} (hp : t.IsCanonical p)
    (h : t.lookup p = .ok (q, n)) : q = p := by
  unfold lookup follow at h
  rw [if_neg hp.not_any_zero, walk_of_isCanonical hp] at h
  split at h
  · cases h
  · rename_i r hr
    split at hr
    · cases hr
    · cases hr
      split at h
      · cases h
        rfl
      · cases h

/-- The mark of an entry tells whether its child leads to a directory. -/
theorem leadsToDirectory_iff (hdir : t.IsCanonical dir) (hnode : t.node? dir = some .directory)
    (name : Name) :
    Listing.leadsToDirectory t dir name = true ↔ t.LeadsToDirectory (dir ++ [name]) := by
  unfold Listing.leadsToDirectory Listing.leadsToDirectoryFrom LeadsToDirectory
  cases hlookup : t.lookup (dir ++ [name]) with
  | error e =>
    dsimp only
    rw [isDirectory, decide_eq_true_eq]
    constructor
    · exact .inr
    · rintro (⟨p, hp⟩ | h)
      · cases hp
      · exact h
  | ok found =>
    obtain ⟨p, n⟩ := found
    dsimp only
    rw [decide_eq_true_eq]
    constructor
    · rintro rfl
      exact .inl ⟨p, rfl⟩
    · rintro (⟨q, hq⟩ | h)
      · cases hq
        rfl
      · -- A directory that stands there itself is what its path leads to.
        have hchild := hdir.concat hnode h nofun
        obtain rfl := hchild.eq_of_lookup hlookup
        exact Option.some.inj ((lookup_spec hlookup).2.symm.trans h)

end FileTree

/-! ### Following a link -/

namespace Site

variable {s : Site} {t : FileTree} {r : Request} {parsed : Target} {dir : Path}

/-- Whether a request is answered with the listing of a directory. -/
structure Lists (s : Site) (t : FileTree) (r : Request) (parsed : Target) (dir : Path) : Prop where
  /-- It asks for something. -/
  method : r.method = .get ∨ r.method = .head
  /-- Its target can be read. -/
  parse_eq : Target.parse r.target = .ok parsed
  /-- The path of the target ends in a slash. -/
  hasTrailingSlash : parsed.hasTrailingSlash = true
  /-- The target leads to the directory. -/
  reaches : s.Reaches t (s.components parsed) dir
  /-- A directory stands there. -/
  node?_eq : t.node? dir = some .directory
  /-- It has no index file. -/
  index_missing : ∀ name ∈ s.indexFiles, ¬ t.LeadsToFile (candidate dir name)
  /-- Listings are wanted. -/
  listing : s.listing = true
  /-- It can be read. -/
  readable : t.isLocked dir = false

theorem Lists.handle_eq (h : s.Lists t r parsed dir) :
    s.handle t r = some (Response.ok "text/html; charset=utf-8"
      (Utf8.encode (Listing.page parsed.display (Listing.entries t dir)))) := by
  obtain ⟨hn, hhandle⟩ := handle_of_reaches h.method h.parse_eq h.reaches h.node?_eq
  have houtcome : s.DirectoryOutcome t dir parsed.display _ :=
    .listed h.index_missing h.listing h.readable rfl (Response.is_ok _ _)
  rw [hhandle, if_pos rfl, if_pos h.hasTrailingSlash]
  exact houtcome.eq_answer hn

theorem FileOutcome.not_untimed {p : Path} {response : Response}
    (h : s.FileOutcome t p (some response)) (hstatus : response.status = .ok) :
    response.headers.get? "Last-Modified" ≠ none := by
  cases h with
  | delivered _ _ _ h =>
    rw [h.unique (Response.is_dated _ _ _), Response.withHeader, Dict.get?_insert, if_pos rfl]
    exact Option.some_ne_none _
  | unreadable _ h => exact absurd hstatus (h.status_ne (by decide))

/-- **A listing is a success that tells no time.**  All others have the time of a node. -/
theorem exists_lists_iff :
    (∃ parsed dir, s.Lists t r parsed dir) ↔
      ∃ response, s.handle t r = some response ∧ response.status = .ok ∧
        response.headers.get? "Last-Modified" = none := by
  constructor
  · rintro ⟨parsed, dir, h⟩
    exact ⟨_, h.handle_eq, rfl, rfl⟩
  · rintro ⟨response, hhandle, hstatus, htime⟩
    obtain ⟨answer, houtcome⟩ := s.exists_outcome t r
    obtain rfl := hhandle.symm.trans houtcome.eq_handle
    cases houtcome with
    | methodNotAllowed _ _ h => exact absurd hstatus (h.status_ne (by decide))
    | badTarget _ _ h => exact absurd hstatus (h.status_ne (by decide))
    | badSegment _ _ _ _ h => exact absurd hstatus (h.status_ne (by decide))
    | unreachable _ _ _ _ h => exact absurd hstatus (h.status_ne (by decide))
    | moved _ _ _ _ _ _ h => exact absurd hstatus (h.status_ne (by decide))
    | file _ _ _ _ _ h => exact absurd htime (h.not_untimed hstatus)
    | @directory path query dir _ hmethod hsplit hgood hdir hnode hslash h =>
      cases h with
      | indexOutside _ _ h => exact absurd hstatus (h.status_ne (by decide))
      | index _ _ h => exact absurd htime (h.not_untimed hstatus)
      | notListed _ _ h => exact absurd hstatus (h.status_ne (by decide))
      | unreadable _ _ _ h => exact absurd hstatus (h.status_ne (by decide))
      | listed hnone hlisting hread =>
        exact ⟨_, dir, hmethod, Target.parse_of_forall hsplit hgood,
          (hasTrailingSlash_ofParts path query).mpr hslash, hdir, hnode, hnone, hlisting, hread⟩

/-- A target with a slash at its end is never redirected. -/
theorem status_ne_of_hasTrailingSlash (hparse : Target.parse r.target = .ok parsed)
    (hslash : parsed.hasTrailingSlash = true) {response : Response}
    (h : s.handle t r = some response) : response.status ≠ .movedPermanently := by
  intro hstatus
  by_cases hmethod : r.method = .get ∨ r.method = .head
  · obtain ⟨again, dir, hagain, hdir, hnode, -⟩ := exists_of_status_eq_movedPermanently h hstatus
    obtain rfl := Except.ok.inj (hparse.symm.trans hagain)
    have houtcome := directoryOutcome_of_hasTrailingSlash hmethod hparse hdir hnode hslash
    rw [h] at houtcome
    exact houtcome.status_ne hstatus
  · rw [handle, if_neg (mt isServable_iff.mp hmethod)] at h
    obtain rfl := Option.some.inj h
    cases hstatus

/-- A link leads one component further. -/
theorem components_child (s : Site) (parsed : Target) (name : String) (link : List Char) :
    s.components (parsed.child name link) = s.components parsed ++ [Utf8.encode name] := by
  rw [components, components, Target.child, List.map_append, List.append_assoc]
  rfl

/-- **Every link of a listing leads to its entry.**  Whatever the target of the listing looks like,
and whatever the name of a child is, as long as it is a text without backslashes: the link behind
the path of the target is read as one segment more, which is this name, without a query, and with a
slash at its end exactly if the child leads to a directory.  So what it leads to is what the child
leads to, and a request for it is never redirected. -/
theorem Lists.parse_href (h : s.Lists t r parsed dir) :
    s.handle t r = some (Response.ok "text/html; charset=utf-8"
        (Utf8.encode (Listing.page parsed.display (Listing.entries t dir)))) ∧
      ∀ name : String, Utf8.encode name ∈ t.children dir → '\x5c' ∉ name.toList →
        Listing.entry t dir (Utf8.encode name) ∈ Listing.entries t dir ∧
        ∃ link again,
          link = parsed.rawPath ++
            String.ofList (Listing.href (Listing.entry t dir (Utf8.encode name))) ∧
          Target.parse link = .ok again ∧
          again.segments = parsed.segments ++ [name] ∧ again.query = none ∧
          (again.hasTrailingSlash = true ↔ t.LeadsToDirectory (dir ++ [Utf8.encode name])) ∧
          (∀ p n, s.Reaches t (s.components again) p → t.node? p = some n →
            t.lookup (dir ++ [Utf8.encode name]) = .ok (p, n)) ∧
          ∀ r' : Request, r'.target = link → ∀ response', s.handle t r' = some response' →
            response'.status ≠ .movedPermanently := by
  refine ⟨h.handle_eq, fun name hname hbackslash => ?_⟩
  have hisName := FileTree.isName_of_mem_children hname
  have hsegment := Target.isSegment_of_isName hisName hbackslash
  have hmark := FileTree.leadsToDirectory_iff (FileTree.canonicalize_spec h.reaches.1).1 h.node?_eq
    (Utf8.encode name)
  have hmem : Listing.entry t dir (Utf8.encode name) ∈ Listing.entries t dir := by
    rw [Listing.entries_eq_map]
    exact List.mem_map_of_mem (Listing.mem_shownNames.mpr hname)
  have hhref : Listing.href (Listing.entry t dir (Utf8.encode name)) =
      Percent.encodeBytes Percent.segment (Utf8.encode name) ++
        Listing.mark (Listing.leadsToDirectory t dir (Utf8.encode name)) := by
    rw [Listing.href_eq, Listing.entry_eq, Utf8.decodeLossy_encode]
  have hspells := Percent.spells_encodeBytes (Utf8.encode name)
  have hparse := Target.parse_rawPath_append h.parse_eq h.hasTrailingSlash hsegment hspells
    (Listing.leadsToDirectory t dir (Utf8.encode name))
  have hslash := Target.hasTrailingSlash_child parsed hsegment hspells
    (Listing.leadsToDirectory t dir (Utf8.encode name))
  rw [← hhref] at hparse hslash
  have hleads : ∀ link p n, s.Reaches t (s.components (parsed.child name link)) p →
      t.node? p = some n → t.lookup (dir ++ [Utf8.encode name]) = .ok (p, n) := by
    intro link p n hreaches hnode
    rw [Reaches, components_child] at hreaches
    exact FileTree.lookup_concat_of_canonicalize h.reaches.1 hisName hreaches.1 hnode
  refine ⟨hmem, _, _, rfl, hparse, rfl, rfl, hslash.trans hmark, hleads _, ?_⟩
  intro r' htarget response' hhandle hstatus
  rw [← htarget] at hparse
  -- What is redirected is a directory; so the link has a slash, with which nothing is redirected.
  obtain ⟨again, p, hagain, hreaches, hnode, -⟩ :=
    exists_of_status_eq_movedPermanently hhandle hstatus
  obtain rfl := Except.ok.inj (hparse.symm.trans hagain)
  have hdirectory : t.LeadsToDirectory (dir ++ [Utf8.encode name]) :=
    .inl ⟨p, hleads _ p _ hreaches hnode⟩
  exact status_ne_of_hasTrailingSlash hparse (hslash.mpr (hmark.mpr hdirectory)) hhandle hstatus

/-- The site of the directory, with listings. -/
def ofListedDocs : Site := { ofDocs with listing := true }

/-- The directory. -/
def docsPath : Path := [Utf8.encode "docs"]

/-- A tree in which the directory contains a link to itself, whose name has to be escaped twice. -/
def loopInDocs : FileTree :=
  (FileTree.empty.set docsPath .directory).set (docsPath ++ [Utf8.encode "&\"?"])
    (.link (Utf8.encode "."))

/-- The request for the directory. -/
def requestOfDocs : Request :=
  { method := .get, target := "/", version := "HTTP/1.1", headers := .empty, body := [] }

/-- What its target is read as. -/
def targetOfDocs : Target := { segments := [], rawPath := "/", query := none }

theorem parse_href_loopInDocs :
    ofListedDocs.Lists loopInDocs requestOfDocs targetOfDocs docsPath ∧
      (∃ again, Target.parse "/&%22%3F/" = .ok again ∧ again.segments = ["&\"?"] ∧
        again.query = none ∧ again.hasTrailingSlash = true) ∧
      ∀ r' : Request, r'.target = "/&%22%3F/" →
        ∀ response', ofListedDocs.handle loopInDocs r' = some response' →
          response'.status ≠ .movedPermanently := by
  have hreaches : ofListedDocs.confine loopInDocs (ofListedDocs.components targetOfDocs) =
      .ok docsPath := by
    cbv
  have hlists : ofListedDocs.Lists loopInDocs requestOfDocs targetOfDocs docsPath :=
    { method := .inl rfl
      parse_eq := rfl
      hasTrailingSlash := rfl
      reaches := confine_eq_ok_iff.mp hreaches
      node?_eq := by cbv
      index_missing := fun name hname => by cases hname
      listing := rfl
      readable := rfl }
  have hchild : Utf8.encode "&\"?" ∈ loopInDocs.children docsPath := by
    rw [FileTree.mem_children]
    decide
  have hdirectory : Listing.leadsToDirectory loopInDocs docsPath (Utf8.encode "&\"?") = true := by
    cbv
  have hleads := (FileTree.leadsToDirectory_iff
    (FileTree.canonicalize_spec hlists.reaches.1).1 hlists.node?_eq _).mp hdirectory
  have hhref : Listing.href (Listing.entry loopInDocs docsPath (Utf8.encode "&\"?")) =
      "&%22%3F/".toList := by
    rw [Listing.href_eq, Listing.entry_eq, Utf8.decodeLossy_encode, hdirectory]
    decide
  obtain ⟨-, link, again, hlink, hparse, hsegments, hquery, hslash, -, hstatus⟩ :=
    hlists.parse_href.2 "&\"?" hchild (by decide)
  rw [hhref] at hlink
  have hfull : link = "/&%22%3F/" := hlink
  rw [hfull] at hparse hstatus
  exact ⟨hlists, ⟨again, hparse, hsegments, hquery, hslash.mpr hleads⟩, hstatus⟩

end Site

end PreviewServer
