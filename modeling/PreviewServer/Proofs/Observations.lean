import PreviewServer.Proofs.ListingPages
import PreviewServer.Proofs.Outcome
import PreviewServer.Proofs.Trails
import Mathlib

/-!
# What can be observed of files outside the root

Two trees are alike inside if they agree below the root and no path that a site follows comes back
to it from outside (`Site.AlikeInside`).  Answers for files, redirects and failures are the same in
both, because they are found out about a path after it has been compared with the root.

Two things are found out before.  Whether a name is that of an index file depends on what a link
leads to, also if it leads outside, and so does the mark that a link has in a listing.  An answer
tells two trees that are alike inside apart in these two ways (`Site.BetraysAt`), and in no other
(`Site.handle_eq_iff_not_betrays`).
-/

namespace PreviewServer

open FileTree

namespace Site

/-! ### Trees that are alike inside -/

/-- Whether no path that a site follows from below the root comes back after it has left. -/
structure LeavesForGood (s : Site) (t : FileTree) : Prop where
  /-- Names are followed when a target or a child of a directory is looked up. -/
  of_names : ∀ dir todo, s.root <+: dir → t.IsCanonical dir → dotDot ∉ todo →
    StaysAway s.root (t.trail maxLinks dir todo)
  /-- The names of index files may contain more than one component. -/
  of_index : ∀ dir, s.root <+: dir → t.IsCanonical dir → ∀ index ∈ s.indexFiles,
    StaysAway s.root (t.trailFrom dir (Utf8.encode index))

/-- Whether two trees cannot be told apart by someone who stays below the root. -/
structure AlikeInside (s : Site) (t t' : FileTree) : Prop where
  /-- The root is canonical in the first tree. -/
  root_isCanonical : t.IsCanonical s.root
  /-- The root is canonical in the second tree. -/
  root_isCanonical' : t'.IsCanonical s.root
  /-- The trees agree below the root. -/
  agreesBelow : AgreesBelow s.root t t'
  /-- In the first tree, paths that leave the root do not come back. -/
  leavesForGood : s.LeavesForGood t
  /-- In the second tree, paths that leave the root do not come back. -/
  leavesForGood' : s.LeavesForGood t'

variable {s : Site} {t t' : FileTree}

/-- A path below the root is canonical in both trees. -/
theorem AlikeInside.isCanonical (h : s.AlikeInside t t') {p : Path} (hroot : s.root <+: p)
    (hp : t.IsCanonical p) : t'.IsCanonical p :=
  h.agreesBelow.isCanonical h.root_isCanonical' hroot hp

/-- Names behind a canonical path below the root have canonical paths in step. -/
theorem AlikeInside.inStep_append (h : s.AlikeInside t t') {dir : Path} {todo : List Name}
    (hroot : s.root <+: dir) (hdir : t.IsCanonical dir) (hnames : dotDot ∉ todo) :
    InStep s.root (t.canonicalize (dir ++ todo)) (t'.canonicalize (dir ++ todo)) :=
  inStep_canonicalize_append h.agreesBelow hroot hdir (h.isCanonical hroot hdir)
    (h.leavesForGood.of_names dir todo hroot hdir hnames)
    (h.leavesForGood'.of_names dir todo hroot (h.isCanonical hroot hdir) hnames)

/-- Index files have canonical paths in step. -/
theorem AlikeInside.inStep_candidate (h : s.AlikeInside t t') {dir : Path} (hroot : s.root <+: dir)
    (hdir : t.IsCanonical dir) {index : String} (hindex : index ∈ s.indexFiles) :
    InStep s.root (t.canonicalize (candidate dir index)) (t'.canonicalize (candidate dir index)) :=
  inStep_canonicalize_componentsFrom h.agreesBelow hroot hdir (h.isCanonical hroot hdir)
    (h.leavesForGood.of_index dir hroot hdir index hindex)
    (h.leavesForGood'.of_index dir hroot (h.isCanonical hroot hdir) index hindex)

/-- What has a canonical path outside the root only is not reached. -/
theorem not_reaches_of_canonicalize {components : List Name}
    (h : ∀ p, t.canonicalize components = .ok p → ¬ s.root <+: p) (p : Path) :
    ¬ s.Reaches t components p :=
  fun hp => h p hp.1 hp.2

/-- Components whose canonical paths are in step are confined to the same path, or reach nothing. -/
theorem confine_eq_or_not_reaches {components : List Name}
    (h : InStep s.root (t.canonicalize components) (t'.canonicalize components)) :
    s.confine t components = s.confine t' components ∨
      (∀ p, ¬ s.Reaches t components p) ∧ ∀ p, ¬ s.Reaches t' components p := by
  rcases h with ⟨heq, -⟩ | ⟨hout, hout'⟩
  · exact .inl (by rw [confine, confine, heq])
  · exact .inr ⟨not_reaches_of_canonicalize hout, not_reaches_of_canonicalize hout'⟩

/-! ### Nodes with bytes -/

/-- What stands below the root is served alike. -/
theorem AlikeInside.serveFile_eq (h : s.AlikeInside t t') {p : Path} {n : Node}
    (hp : s.Confines t p n) (hp' : s.Confines t' p n) : s.serveFile t p = s.serveFile t' p := by
  rw [serveFile, serveFile, hp.read?_eq, hp'.read?_eq,
    h.agreesBelow.isLocked_eq p hp.root_prefix]

/-- A path that is confined in both trees leads to the same node. -/
theorem AlikeInside.exists_confines (h : s.AlikeInside t t') {components : List Name} {p : Path}
    (hp : s.confine t components = .ok p) (hp' : s.confine t' components = .ok p) :
    ∃ n, s.Confines t p n ∧ s.Confines t' p n := by
  obtain ⟨n, hn⟩ := confines_of_confine hp
  obtain ⟨n', hn'⟩ := confines_of_confine hp'
  have hnode := h.agreesBelow.node?_eq p hn.root_prefix
  rw [hn.node?_eq, hn'.node?_eq] at hnode
  cases hnode
  exact ⟨n, hn, hn'⟩

/-! ### Directories -/

/-- The name of the index file that is found in a directory. -/
def firstIndex? (s : Site) (t : FileTree) (dir : Path) : Option String :=
  s.indexFiles.find? (isIndex t dir)

/-- Whether anything is shown for a directory: its index file, which is below the root, or without
one its listing. -/
def ShowsAt (s : Site) (t : FileTree) (dir : Path) : Prop :=
  match s.firstIndex? t dir with
  | some index => ∃ p, s.Reaches t (candidate dir index) p
  | none => s.listing = true

/-- Whether a directory would be listed with different marks in two trees. -/
def MarksDiffer (s : Site) (t t' : FileTree) (dir : Path) : Prop :=
  s.listing = true ∧ t.isLocked dir = false ∧ ∃ name ∈ t.children dir,
    Listing.leadsToDirectory t dir name ≠ Listing.leadsToDirectory t' dir name

/-- Whether the answer for a directory tells two trees apart: different index files are found, and
one of the trees shows something; or there is a listing in both, with different marks. -/
def BetraysAt (s : Site) (t t' : FileTree) (dir : Path) : Prop :=
  s.firstIndex? t dir ≠ s.firstIndex? t' dir ∧ (s.ShowsAt t dir ∨ s.ShowsAt t' dir) ∨
    s.firstIndex? t dir = none ∧ s.firstIndex? t' dir = none ∧ s.MarksDiffer t t' dir

/-- What is not shown is answered as if it were not there. -/
theorem answer_of_not_showsAt {dir : Path} {display : String} (h : ¬ s.ShowsAt t dir) :
    ServeError.answer (s.serveDirectory t dir display) = some .notFound := by
  unfold ShowsAt at h
  rw [serveDirectory, ← firstIndex?]
  cases hfind : s.firstIndex? t dir with
  | some index =>
    rw [hfind] at h
    obtain ⟨e, hconfine, he⟩ := exists_confine_eq_error (not_exists.mp h)
    dsimp only
    rw [hconfine]
    exact congrArg some he
  | none =>
    rw [hfind] at h
    dsimp only
    rw [if_neg h]
    rfl

theorem some_ne_notFound {r : Response} (h : r.status ≠ .notFound) : some r ≠ some .notFound :=
  fun heq => h (congrArg Response.status (Option.some.inj heq))

theorem answer_serveFile_ne {p : Path} :
    ServeError.answer (s.serveFile t p) ≠ some .notFound := by
  unfold serveFile
  split
  · exact some_ne_notFound nofun
  · rename_i content modified _
    cases hdate : HttpDate.format? modified with
    | none => exact nofun
    | some date => exact some_ne_notFound nofun

/-- What is shown is not answered so. -/
theorem answer_ne_of_showsAt {dir : Path} {display : String} (h : s.ShowsAt t dir)
    (hdir : s.Confines t dir .directory) :
    ServeError.answer (s.serveDirectory t dir display) ≠ some .notFound := by
  unfold ShowsAt at h
  rw [serveDirectory, ← firstIndex?]
  cases hfind : s.firstIndex? t dir with
  | some index =>
    rw [hfind] at h
    obtain ⟨p, hp⟩ := h
    dsimp only
    rw [confine_eq_ok_iff.mpr hp]
    exact answer_serveFile_ne
  | none =>
    rw [hfind] at h
    dsimp only
    rw [if_pos h, hdir.render_eq]
    cases t.isLocked dir <;> exact some_ne_notFound nofun

/-- Two searches that find something else disagree about what one of them finds. -/
theorem exists_of_find?_ne {α : Type} {p q : α → Bool} {xs : List α}
    (h : xs.find? p ≠ xs.find? q) :
    ∃ x ∈ xs, p x ≠ q x ∧ (xs.find? p = some x ∨ xs.find? q = some x) := by
  induction xs with
  | nil => exact absurd rfl h
  | cons x xs ih =>
    by_cases hx : p x = q x
    · rw [List.find?_cons, List.find?_cons, hx] at h ⊢
      cases hq : q x with
      | true =>
        rw [hq] at h
        exact absurd rfl h
      | false =>
        rw [hq] at h
        obtain ⟨y, hy, hne, hfind⟩ := ih h
        exact ⟨y, List.mem_cons_of_mem x hy, hne, hfind⟩
    · refine ⟨x, List.mem_cons_self, hx, ?_⟩
      cases hp : p x with
      | true => exact .inl (List.find?_cons_of_pos hp)
      | false =>
        cases hq : q x with
        | true => exact .inr (List.find?_cons_of_pos hq)
        | false => exact absurd (hp.trans hq.symm) hx

/-- A name that is an index file in one tree only leads outside in both. -/
theorem AlikeInside.not_reaches_of_isIndex_ne (h : s.AlikeInside t t') {dir : Path}
    (hroot : s.root <+: dir) (hdir : t.IsCanonical dir) {index : String}
    (hindex : index ∈ s.indexFiles) (hne : isIndex t dir index ≠ isIndex t' dir index) :
    (∀ p, ¬ s.Reaches t (candidate dir index) p) ∧ ∀ p, ¬ s.Reaches t' (candidate dir index) p := by
  rcases h.inStep_candidate hroot hdir hindex with ⟨heq, hbelow⟩ | ⟨hout, hout'⟩
  · -- What is reached below the root is found alike in both trees.
    have hnot : ∀ p, ¬ t.canonicalize (candidate dir index) = .ok p := by
      intro p hp
      have hnode := h.agreesBelow.node?_eq p (hbelow p hp)
      have hlookup := lookup_eq_of_canonicalize hp (heq.symm.trans hp) hnode
      exact hne (by rw [isIndex, isIndex, hlookup])
    exact ⟨fun p hp => hnot p hp.1, fun p hp => hnot p (heq.trans hp.1)⟩
  · exact ⟨not_reaches_of_canonicalize hout, not_reaches_of_canonicalize hout'⟩

/-- If different index files are found, one of the trees shows nothing. -/
theorem AlikeInside.not_showsAt_of_firstIndex?_ne (h : s.AlikeInside t t') {dir : Path}
    (hroot : s.root <+: dir) (hdir : t.IsCanonical dir)
    (hne : s.firstIndex? t dir ≠ s.firstIndex? t' dir) :
    ¬ s.ShowsAt t dir ∨ ¬ s.ShowsAt t' dir := by
  obtain ⟨index, hindex, hdiff, hfind⟩ := exists_of_find?_ne hne
  obtain ⟨hout, hout'⟩ := h.not_reaches_of_isIndex_ne hroot hdir hindex hdiff
  unfold ShowsAt firstIndex?
  rcases hfind with hfind | hfind
  · left
    rw [hfind]
    exact not_exists.mpr hout
  · right
    rw [hfind]
    exact not_exists.mpr hout'

/-- The same index file is answered alike. -/
theorem AlikeInside.answer_of_firstIndex?_eq_some (h : s.AlikeInside t t') {dir : Path}
    (hroot : s.root <+: dir) (hdir : t.IsCanonical dir) {display index : String}
    (hfind : s.firstIndex? t dir = some index) (hfind' : s.firstIndex? t' dir = some index) :
    ServeError.answer (s.serveDirectory t dir display) =
      ServeError.answer (s.serveDirectory t' dir display) := by
  have hindex : index ∈ s.indexFiles := List.mem_of_find?_eq_some hfind
  rcases confine_eq_or_not_reaches (h.inStep_candidate hroot hdir hindex) with
    heq | ⟨hout, hout'⟩
  · have hserve : s.serveDirectory t dir display = s.serveDirectory t' dir display := by
      unfold serveDirectory
      rw [← firstIndex?, hfind, ← firstIndex?, hfind']
      dsimp only
      rw [← heq]
      cases hconfine : s.confine t (candidate dir index) with
      | error e => rfl
      | ok p =>
        obtain ⟨n, hn, hn'⟩ := h.exists_confines hconfine (heq ▸ hconfine)
        exact h.serveFile_eq hn hn'
    rw [hserve]
  · have hnot : ¬ s.ShowsAt t dir := by
      rw [ShowsAt, hfind]
      exact not_exists.mpr hout
    have hnot' : ¬ s.ShowsAt t' dir := by
      rw [ShowsAt, hfind']
      exact not_exists.mpr hout'
    rw [answer_of_not_showsAt hnot, answer_of_not_showsAt hnot']

/-- Without index files the answers are told apart by the marks in the listing. -/
theorem AlikeInside.answer_eq_iff_of_firstIndex?_eq_none (h : s.AlikeInside t t') {dir : Path}
    (hdir : s.Confines t dir .directory) (hdir' : s.Confines t' dir .directory) {display : String}
    (hfind : s.firstIndex? t dir = none) (hfind' : s.firstIndex? t' dir = none) :
    ServeError.answer (s.serveDirectory t dir display) =
        ServeError.answer (s.serveDirectory t' dir display) ↔ ¬ s.MarksDiffer t t' dir := by
  have hchildren := h.agreesBelow.children_eq dir hdir.root_prefix
  have hlocked := h.agreesBelow.isLocked_eq dir hdir.root_prefix
  unfold serveDirectory MarksDiffer
  rw [← firstIndex?, hfind, ← firstIndex?, hfind', hdir.render_eq, hdir'.render_eq, ← hlocked]
  cases s.listing with
  | false => simp
  | true =>
    cases t.isLocked dir with
    | true => simp
    | false =>
      simp only [true_and, not_exists, not_and, Classical.not_not, ne_eq]
      rw [← Listing.page_entries_eq_iff hchildren display]
      constructor
      · intro heq
        exact Utf8.encode_injective (congrArg Response.body (Option.some.inj heq))
      · intro heq
        rw [heq]

/-- **The answers for a directory are the same unless they tell the trees apart.** -/
theorem AlikeInside.answer_serveDirectory_eq_iff (h : s.AlikeInside t t') {dir : Path}
    {display : String} (hdir : s.Confines t dir .directory) (hdir' : s.Confines t' dir .directory) :
    ServeError.answer (s.serveDirectory t dir display) =
        ServeError.answer (s.serveDirectory t' dir display) ↔ ¬ s.BetraysAt t t' dir := by
  unfold BetraysAt
  by_cases hsame : s.firstIndex? t dir = s.firstIndex? t' dir
  · cases hfind : s.firstIndex? t dir with
    | some index =>
      have hfind' := hsame.symm.trans hfind
      rw [h.answer_of_firstIndex?_eq_some hdir.root_prefix hdir.isCanonical hfind hfind']
      simp [hfind']
    | none =>
      have hfind' := hsame.symm.trans hfind
      rw [h.answer_eq_iff_of_firstIndex?_eq_none hdir hdir' hfind hfind']
      simp [hfind']
  · have hnone : ¬ (s.firstIndex? t dir = none ∧ s.firstIndex? t' dir = none ∧
        s.MarksDiffer t t' dir) := fun hn => hsame (hn.1.trans hn.2.1.symm)
    rw [or_iff_left hnone, and_iff_right hsame, not_or]
    constructor
    · intro heq
      rcases h.not_showsAt_of_firstIndex?_ne hdir.root_prefix hdir.isCanonical hsame with
        hnot | hnot
      · refine ⟨hnot, fun hshows => ?_⟩
        apply answer_ne_of_showsAt hshows hdir'
        rw [← heq, answer_of_not_showsAt hnot]
      · refine ⟨fun hshows => ?_, hnot⟩
        apply answer_ne_of_showsAt hshows hdir
        rw [heq, answer_of_not_showsAt hnot]
    · rintro ⟨hnot, hnot'⟩
      rw [answer_of_not_showsAt hnot, answer_of_not_showsAt hnot']

/-! ### Requests -/

/-- Whether the answer to a request tells two trees apart: it is for a directory that does. -/
def Betrays (s : Site) (t t' : FileTree) (r : Request) : Prop :=
  r.method.isServable = true ∧ ∃ target dir, Target.parse r.target = .ok target ∧
    target.hasTrailingSlash = true ∧ s.Reaches t (s.components target) dir ∧
    t.node? dir = some .directory ∧ s.BetraysAt t t' dir

/-- The components of a target go nowhere up. -/
theorem dotDot_not_mem_segments {text : String} {target : Target}
    (h : Target.parse text = .ok target) : dotDot ∉ target.segments.map Utf8.encode := by
  intro hmem
  obtain ⟨segment, hsegment, heq⟩ := List.mem_map.mp hmem
  exact (Target.isSegment_of_mem_segments h segment hsegment).ne_dotDot (Utf8.encode_injective heq)

/-- A target that reaches the same path in both trees is answered by what stands there. -/
theorem AlikeInside.answer_serveTarget_eq_iff_of_confine (h : s.AlikeInside t t') {target : Target}
    {p : Path} (hp : s.confine t (s.components target) = .ok p)
    (hp' : s.confine t' (s.components target) = .ok p) :
    ServeError.answer (s.serveTarget t target) = ServeError.answer (s.serveTarget t' target) ↔
      ¬ (target.hasTrailingSlash = true ∧ t.node? p = some .directory ∧ s.BetraysAt t t' p) := by
  obtain ⟨n, hn, hn'⟩ := h.exists_confines hp hp'
  rw [serveTarget_of_reaches (confine_eq_ok_iff.mp hp) hn,
    serveTarget_of_reaches (confine_eq_ok_iff.mp hp') hn', hn.node?_eq, Option.some_inj]
  by_cases hnode : n = .directory
  · subst hnode
    rw [if_pos rfl, if_pos rfl, eq_self, true_and]
    cases target.hasTrailingSlash with
    | false => simp
    | true =>
      rw [if_pos rfl, if_pos rfl, eq_self, true_and]
      exact h.answer_serveDirectory_eq_iff hn hn'
  · rw [if_neg hnode, if_neg hnode, h.serveFile_eq hn hn']
    exact iff_of_true rfl fun hbetrays => hnode hbetrays.2.1

theorem AlikeInside.answer_serveTarget_eq_iff (h : s.AlikeInside t t') {text : String}
    {target : Target} (hparse : Target.parse text = .ok target) :
    ServeError.answer (s.serveTarget t target) = ServeError.answer (s.serveTarget t' target) ↔
      ¬ ∃ dir, target.hasTrailingSlash = true ∧ s.Reaches t (s.components target) dir ∧
        t.node? dir = some .directory ∧ s.BetraysAt t t' dir := by
  have hstep : InStep s.root (t.canonicalize (s.components target))
      (t'.canonicalize (s.components target)) :=
    h.inStep_append List.prefix_rfl h.root_isCanonical (dotDot_not_mem_segments hparse)
  rcases confine_eq_or_not_reaches hstep with heq | ⟨hout, hout'⟩
  · cases hconfine : s.confine t (s.components target) with
    | error e =>
      have hnot : ∀ p, ¬ s.Reaches t (s.components target) p := by
        intro p hp
        rw [confine_eq_ok_iff.mpr hp] at hconfine
        cases hconfine
      rw [serveTarget, hconfine, serveTarget, heq.symm.trans hconfine]
      refine iff_of_true rfl ?_
      rintro ⟨dir, -, hdir, -⟩
      exact hnot dir hdir
    | ok p =>
      have hreach := confine_eq_ok_iff.mp hconfine
      rw [h.answer_serveTarget_eq_iff_of_confine hconfine (heq.symm.trans hconfine)]
      apply not_congr
      constructor
      · rintro ⟨hslash, hbetrays⟩
        exact ⟨p, hslash, hreach, hbetrays⟩
      · rintro ⟨dir, hslash, hdir, hbetrays⟩
        obtain rfl := hdir.unique hreach
        exact ⟨hslash, hbetrays⟩
  · obtain ⟨e, hconfine, he⟩ := exists_confine_eq_error hout
    obtain ⟨e', hconfine', he'⟩ := exists_confine_eq_error hout'
    rw [serveTarget, hconfine, serveTarget, hconfine']
    refine iff_of_true (congrArg some (he.trans he'.symm)) ?_
    rintro ⟨dir, -, hdir, -⟩
    exact hout dir hdir

/-- **What can be observed of files outside the root.**  In two trees that are alike inside a
request has the same answer, unless it is for a directory, written with a slash, and the search for
an index file or the marks in the listing tell the trees apart. -/
theorem handle_eq_iff_not_betrays (h : s.AlikeInside t t') (r : Request) :
    s.handle t r = s.handle t' r ↔ ¬ s.Betrays t t' r := by
  unfold Betrays
  by_cases hmethod : r.method.isServable = true
  · rw [handle_of_servable (isServable_iff.mp hmethod),
      handle_of_servable (isServable_iff.mp hmethod), serve, serve, and_iff_right hmethod]
    cases hparse : Target.parse r.target with
    | error e => simp
    | ok target =>
      dsimp only
      rw [h.answer_serveTarget_eq_iff hparse]
      simp
  · rw [handle, handle, if_neg hmethod, if_neg hmethod]
    exact iff_of_true rfl fun hbetrays => hmethod hbetrays.1

end Site

/-! ### A link that leads outside -/

/-- A tree with a directory in which `index.html` is a link to a place beside the directory. -/
def FileTree.inner : FileTree :=
  (FileTree.empty.set [Utf8.encode "inner"] .directory).set
    [Utf8.encode "inner", Utf8.encode "index.html"] (.link (Utf8.encode "../outer"))

/-- The same tree with a file at that place. -/
def FileTree.innerWithOuter : FileTree := inner.set [Utf8.encode "outer"] (.file [] 0)

/-- The site that serves the directory. -/
def Site.ofInner : Site :=
  { root := [Utf8.encode "inner"], indexFiles := ["index.html"], listing := true,
    types := .builtinOnly }

/-- The request for the root of a site. -/
def Request.forRoot : Request :=
  { method := .get, target := "/", version := "HTTP/1.1", headers := .empty, body := [] }

/-- The request for the link. -/
def Request.forIndex : Request := { Request.forRoot with target := "/index.html" }

namespace FileTree

theorem isCanonical_inner {t : FileTree} (h : t.node? [Utf8.encode "inner"] = some .directory) :
    t.IsCanonical Site.ofInner.root :=
  isCanonical_nil.concat rfl h nofun

/-- What stands outside makes no difference inside. -/
theorem agreesBelow_inner : AgreesBelow Site.ofInner.root inner innerWithOuter where
  node?_eq p hp := by
    have hne : p ≠ [Utf8.encode "outer"] := by
      rintro rfl
      revert hp
      decide
    rw [innerWithOuter, node?_set (by decide), if_neg fun h => hne h.1]
  children_eq dir hdir := by
    have hkeys : innerWithOuter.nodes.keys = inner.nodes.keys ++ [[Utf8.encode "outer"]] := rfl
    have hnone : childName? dir [Utf8.encode "outer"] = none := by
      refine if_neg fun heq => ?_
      rw [← heq] at hdir
      revert hdir
      decide
    rw [children, children, hkeys, List.filterMap_append, List.filterMap_cons, hnone,
      List.filterMap_nil, List.append_nil]
  isLocked_eq _ _ := rfl

variable {t : FileTree}

/-- In the directory there is nothing but the link. -/
theorem eq_of_node?_inner {p : Path} {n : Node} (hroot : Site.ofInner.root <+: p)
    (h : inner.node? p = some n) :
    p = Site.ofInner.root ∨ p = Site.ofInner.root ++ [Utf8.encode "index.html"] := by
  have hnil : p ≠ [] := by
    rintro rfl
    revert hroot
    decide
  rw [node?, if_neg hnil] at h
  have hkeys : p ∈ [Site.ofInner.root, Site.ofInner.root ++ [Utf8.encode "index.html"]] :=
    Dict.mem_keys_of_get?_eq_some h
  simpa using hkeys

/-- Where a walk that begins in the directory may be, with the names it has yet to follow. -/
inductive FromInner : Nat → Path → List Name → Prop
  /-- It is still there, with names only. -/
  | inside {links : Nat} {todo : List Name} (names : dotDot ∉ todo) :
      FromInner links Site.ofInner.root todo
  /-- It has met the link. -/
  | leaving {links : Nat} (rest : List Name) :
      FromInner links Site.ofInner.root (dotDot :: Utf8.encode "outer" :: rest)
  /-- It has gone up. -/
  | above {links : Nat} (rest : List Name) : FromInner links [] (Utf8.encode "outer" :: rest)
  /-- It is where the link leads. -/
  | outside {links : Nat} {todo : List Name} : FromInner links [Utf8.encode "outer"] todo

/-- A step in the directory, along a name, stays there or meets the link. -/
theorem fromInner_of_step_inner {links : Nat} {c : Name} {rest : List Name}
    {next : Nat × Path × List Name} (hnames : dotDot ∉ c :: rest)
    (hstep : inner.step links Site.ofInner.root c rest = .ok next) :
    FromInner next.1 next.2.1 next.2.2 := by
  rw [List.mem_cons, not_or] at hnames
  by_cases hindex : c = Utf8.encode "index.html"
  · subst hindex
    cases links with
    | zero => cases hstep
    | succ links =>
      cases hstep
      exact .leaving rest
  · have hnone : inner.node? (Site.ofInner.root ++ [c]) = none := by
      cases hn : inner.node? (Site.ofInner.root ++ [c]) with
      | none => rfl
      | some n =>
        rcases eq_of_node?_inner (List.prefix_append _ _) hn with heq | heq
        · simp at heq
        · exact absurd (List.singleton_inj.mp (List.append_cancel_left heq)) hindex
    have hdirectory : inner.node? Site.ofInner.root = some .directory := rfl
    unfold step at hstep
    rw [if_pos hdirectory, if_neg (Ne.symm hnames.1), hnone] at hstep
    split at hstep
    · cases hstep
      exact .inside hnames.2
    · split at hstep <;> cases hstep

/-- A step of a walk that begins in the directory does not lead back to it. -/
theorem fromInner_of_step (h : AgreesBelow Site.ofInner.root inner t)
    (houter : t.node? [Utf8.encode "outer"] = none ∨
      t.node? [Utf8.encode "outer"] = some (.file [] 0))
    (links : Nat) (here : Path) (c : Name) (rest : List Name) (next : Nat × Path × List Name)
    (hwalk : FromInner links here (c :: rest)) (hstep : t.step links here c rest = .ok next) :
    FromInner next.1 next.2.1 next.2.2 ∧
      (¬ Site.ofInner.root <+: here → ¬ Site.ofInner.root <+: next.2.1) := by
  cases hwalk with
  | inside hnames =>
    rw [← step_eq_of_node?_eq h.node?_eq List.prefix_rfl] at hstep
    exact ⟨fromInner_of_step_inner hnames hstep, fun hout => absurd List.prefix_rfl hout⟩
  | leaving rest =>
    rw [← step_eq_of_node?_eq h.node?_eq List.prefix_rfl] at hstep
    cases hstep
    exact ⟨.above rest, fun hout => absurd List.prefix_rfl hout⟩
  | above =>
    have hplace : ¬ Site.ofInner.root <+: [Utf8.encode "outer"] := by decide
    unfold step at hstep
    rw [List.nil_append] at hstep
    rcases houter with houter | houter
    · rw [houter] at hstep
      cases hstep
    · rw [houter] at hstep
      cases hstep
      exact ⟨.outside, fun _ => hplace⟩
  | outside =>
    have hne : t.node? [Utf8.encode "outer"] ≠ some .directory := by
      rcases houter with houter | houter <;> rw [houter] <;> exact nofun
    unfold step at hstep
    rw [if_neg hne] at hstep
    cases hstep

theorem leavesForGood_ofInner (h : AgreesBelow Site.ofInner.root inner t)
    (houter : t.node? [Utf8.encode "outer"] = none ∨
      t.node? [Utf8.encode "outer"] = some (.file [] 0)) : Site.ofInner.LeavesForGood t := by
  have hroot : ∀ dir, Site.ofInner.root <+: dir → t.IsCanonical dir → dir = Site.ofInner.root := by
    intro dir hbelow hdir
    obtain ⟨n, hn, hlink⟩ := hdir.exists_node
    rw [← h.node?_eq dir hbelow] at hn
    rcases eq_of_node?_inner hbelow hn with heq | rfl
    · exact heq
    · exact absurd (Option.some.inj hn).symm (hlink (Utf8.encode "../outer"))
  have hstay : ∀ todo, dotDot ∉ todo →
      StaysAway Site.ofInner.root (t.trail maxLinks Site.ofInner.root todo) :=
    fun todo htodo => staysAway_trail (fromInner_of_step h houter) (.inside htodo)
  constructor
  · intro dir todo hbelow hdir htodo
    rw [hroot dir hbelow hdir]
    exact hstay todo htodo
  · intro dir hbelow hdir index hindex
    obtain rfl := List.mem_singleton.mp hindex
    rw [hroot dir hbelow hdir]
    exact hstay _ (by decide)

theorem alikeInside_inner : Site.ofInner.AlikeInside innerWithOuter inner where
  root_isCanonical := isCanonical_inner rfl
  root_isCanonical' := isCanonical_inner rfl
  agreesBelow := agreesBelow_inner.symm
  leavesForGood := leavesForGood_ofInner agreesBelow_inner (.inr rfl)
  leavesForGood' :=
    leavesForGood_ofInner ⟨fun _ _ => rfl, fun _ _ => rfl, fun _ _ => rfl⟩ (.inl rfl)

end FileTree

namespace Site

/-- The root of the site is reached by its request. -/
theorem reaches_ofInner {t : FileTree}
    (h : t.canonicalize Site.ofInner.root = .ok Site.ofInner.root) :
    ofInner.Reaches t (ofInner.components (.ofParts ['/'] none)) ofInner.root :=
  ⟨h, List.prefix_rfl⟩

theorem not_isOffending_of_mem_fields_slash :
    ∀ raw ∈ fields '/' ['/'], ¬ Target.IsOffending raw := by
  intro raw hraw
  have hnil : raw = [] := by simpa [fields] using hraw
  rw [hnil]
  exact Target.not_isOffending_nil

/-- **Something outside is observed.**  A file outside the root, to which a link leads, takes the
place of the listing, although it is not served. -/
theorem handle_innerWithOuter_ne :
    ofInner.AlikeInside innerWithOuter inner ∧
      (ofInner.handle innerWithOuter .forRoot).map Response.status = some .notFound ∧
      (ofInner.handle inner .forRoot).map Response.status = some .ok ∧
      ofInner.handle innerWithOuter .forRoot ≠ ofInner.handle inner .forRoot := by
  have hfound : innerWithOuter.lookup (candidate ofInner.root "index.html") =
      .ok ([Utf8.encode "outer"], .file [] 0) := by
    cbv
  have hmissing : inner.lookup (candidate ofInner.root "index.html") = .error .notFound := by
    cbv
  have hwith : ofInner.handle innerWithOuter .forRoot = some .notFound := by
    have hfirst : ofInner.IsFirstIndex innerWithOuter ofInner.root "index.html" :=
      ⟨[], [], rfl, fun _ hother => absurd hother List.not_mem_nil, _, _, _, hfound⟩
    refine Outcome.eq_handle (.directory (.inl rfl) rfl not_isOffending_of_mem_fields_slash
      (reaches_ofInner (by cbv)) rfl rfl (.indexOutside hfirst ?_ Response.isText_notFound))
    have houtside : innerWithOuter.canonicalize (candidate ofInner.root "index.html") =
        .ok [Utf8.encode "outer"] := by
      cbv
    apply not_reaches_of_canonicalize
    intro p hp
    obtain rfl := Except.ok.inj (houtside.symm.trans hp)
    decide
  have hwithout : (ofInner.handle inner .forRoot).map Response.status = some .ok := by
    rw [Outcome.eq_handle (.directory (.inl rfl) rfl not_isOffending_of_mem_fields_slash
      (reaches_ofInner (by cbv)) rfl rfl (.listed ?_ rfl rfl rfl (Response.is_ok _ _)))]
    · rfl
    · rintro name hname ⟨p, content, modified, hfile⟩
      rw [List.mem_singleton.mp hname] at hfile
      cases hmissing.symm.trans hfile
  refine ⟨alikeInside_inner, by rw [hwith]; rfl, hwithout, fun heq => ?_⟩
  rw [← heq, hwith] at hwithout
  cases hwithout

/-- The link itself is answered alike, whether or not there is something where it leads. -/
theorem handle_innerWithOuter_forIndex :
    ofInner.AlikeInside innerWithOuter inner ∧
      ofInner.handle innerWithOuter .forIndex = ofInner.handle inner .forIndex := by
  have hparse : Target.parse "/index.html" =
      .ok { segments := ["index.html"], rawPath := "/index.html", query := none } := rfl
  have hnot : ¬ ofInner.Betrays innerWithOuter inner .forIndex := by
    rintro ⟨-, target, dir, htarget, hslash, -⟩
    cases hparse.symm.trans htarget
    revert hslash
    decide
  exact ⟨alikeInside_inner, (handle_eq_iff_not_betrays alikeInside_inner .forIndex).mpr hnot⟩

end Site

end PreviewServer
