import PreviewServer.Proofs.ByteOrder
import PreviewServer.Proofs.ListingPages
import PreviewServer.Proofs.LossyDecoding
import PreviewServer.Proofs.Trails
import Mathlib.Data.List.Forall2
import Mathlib.Data.List.Nodup

/-!
# A listing is its directory, sorted

A listing has one entry for each child of its directory and no others, in the order of the names in
lower case (`Listing.isListing_entriesFrom`).  An entry is marked if its child is a directory once
links are followed (`Listing.leadsToDirectoryFrom_iff`).  A child that is no link is what its path
leads to, if the path can be followed at all (`FileTree.eq_of_lookup_concat`), and a link whose path
cannot be followed is no directory.

Trees may hold the same nodes and enumerate them in different orders (`FileTree.SameNodes`).  Paths
lead to the same places in them (`FileTree.SameNodes.lookup_eq`), so the entries to be sorted are
the same; and names that differ in lower case can be sorted in one way only
(`Listing.shownNames_eq`).
-/

namespace PreviewServer

namespace FileTree

variable {t t' : FileTree} {components : List Name} {dir : Path} {name : Name}

/-! ### Children of a directory -/

theorem mem_children_iff : name ∈ t.children dir ↔ (t.node? (dir ++ [name])).isSome := by
  rw [mem_children, node?, if_neg (List.append_ne_nil_of_right_ne_nil _ (List.cons_ne_nil _ _)),
    Dict.mem_keys_iff]

/-- Looking up a path is walking along it. -/
theorem walk_of_lookup {p : Path} {n : Node} (h : t.lookup components = .ok (p, n)) :
    t.walk maxLinks [] components = .ok p := by
  unfold lookup follow at h
  split at h
  · cases h
  · rename_i q hq
    split at h
    · cases h
      split at hq
      · cases hq
      · split at hq
        · cases hq
        · exact hq
    · cases h

/-- **A child that is no link is what its path leads to**, if that can be followed. -/
theorem eq_of_lookup_concat {n m : Node} {p : Path}
    (hdir : t.lookup components = .ok (dir, .directory)) (hn : t.node? (dir ++ [name]) = some n)
    (hlink : ∀ target, n ≠ .link target) (h : t.lookup (components ++ [name]) = .ok (p, m)) :
    m = n := by
  obtain ⟨hcanonical, hnode⟩ := lookup_spec hdir
  have hchild := hcanonical.concat hnode hn hlink
  obtain ⟨k, -, hmore⟩ := exists_walk_append (walk_of_lookup hdir)
  have hwalk : t.walk k dir ([name] ++ []) = t.walk k (dir ++ [name]) [] :=
    walk_append_of_isCanonical hchild []
  rw [List.append_nil, walk] at hwalk
  have hp : p = dir ++ [name] := by
    -- The walk along the longer path goes on from the directory, and the child is its end.
    have hlong := walk_of_lookup h
    rw [hmore, hwalk] at hlong
    exact (Except.ok.inj hlong).symm
  have hm := (lookup_spec h).2
  rw [hp, hn] at hm
  exact (Option.some.inj hm).symm

/-! ### The order of enumeration -/

/-- Whether two trees are the same but for the order in which they are enumerated. -/
structure SameNodes (t t' : FileTree) : Prop where
  /-- The same nodes stand at the same paths. -/
  node?_eq : ∀ p, t.node? p = t'.node? p
  /-- The same files and directories refuse to be read. -/
  isLocked_eq : ∀ p, t.isLocked p = t'.isLocked p

/-- The nodes in another order. -/
theorem sameNodes_of_perm (h : t.nodes.entries.Perm t'.nodes.entries)
    (hlocked : t.locked = t'.locked) : t.SameNodes t' where
  node?_eq p := by rw [node?, node?, Dict.get?_eq_of_perm h]
  isLocked_eq p := by rw [isLocked, isLocked, hlocked]

theorem SameNodes.step_eq (h : t.SameNodes t') (links : Nat) (here : Path) (c : Name)
    (rest : List Name) : t.step links here c rest = t'.step links here c rest :=
  step_eq_of_node?_eq (fun p _ => h.node?_eq p) (List.nil_prefix (l := here)) links c rest

/-- **Paths lead to the same places.** -/
theorem SameNodes.walk_eq (h : t.SameNodes t') (links : Nat) (here : Path) (todo : List Name) :
    t.walk links here todo = t'.walk links here todo := by
  fun_induction trail t links here todo with
  | case1 links here => rw [walk, walk]
  | case2 links here c rest e hstep =>
    have hstep' := h.step_eq links here c rest
    rw [walk_cons, walk_cons, ← hstep', hstep]
  | case3 links here c rest next hstep ih =>
    have hstep' := h.step_eq links here c rest
    rw [walk_cons, walk_cons, ← hstep', hstep]
    exact ih

theorem SameNodes.lookup_eq (h : t.SameNodes t') (components : List Name) :
    t.lookup components = t'.lookup components := by
  have hfollow : t.follow components = t'.follow components := by
    rw [follow, follow, h.walk_eq]
  unfold lookup
  rw [hfollow]
  cases t'.follow components with
  | error e => rfl
  | ok p =>
    dsimp only
    rw [h.node?_eq]

/-- The children of a directory are the same, but for their order. -/
theorem SameNodes.children_perm (h : t.SameNodes t') (dir : Path) :
    (t.children dir).Perm (t'.children dir) := by
  rw [List.perm_ext_iff_of_nodup (nodup_children t dir) (nodup_children t' dir)]
  intro name
  rw [mem_children_iff, mem_children_iff, h.node?_eq]

end FileTree

namespace Listing

variable {t t' : FileTree} {components : List Name} {dir : Path} {name : Name}

/-! ### The entries of a directory -/

/-- Whether an entry is that of a child. -/
structure IsEntryOf (t : FileTree) (components : List Name) (dir : Path) (name : Name)
    (e : Entry) : Prop where
  /-- The name is shown as text. -/
  name_eq : e.name = Utf8.decodeLossy name
  /-- What is marked is a directory, or a link behind the components whose path leads to one. -/
  isDirectory_iff : e.isDirectory = true ↔
    t.node? (dir ++ [name]) = some .directory ∨
      (∃ target, t.node? (dir ++ [name]) = some (.link target)) ∧
        ∃ p, t.lookup (components ++ [name]) = .ok (p, .directory)

/-- Whether entries are those of the children of a directory, sorted. -/
structure IsListing (t : FileTree) (components : List Name) (dir : Path) (es : List Entry) :
    Prop where
  /-- There is one entry for each child. -/
  exists_names : ∃ names : List Name, names.Nodup ∧
    (∀ name, name ∈ names ↔ (t.node? (dir ++ [name])).isSome) ∧
    List.Forall₂ (IsEntryOf t components dir) names es
  /-- The names in lower case are in the order of their bytes. -/
  pairwise_le : es.Pairwise fun a b => Utf8.encode (sortKey a) ≤ Utf8.encode (sortKey b)

/-- The name of a child by which its entry is sorted. -/
def lowerName (name : Name) : String := Unicode.lowercase (Utf8.decodeLossy name)

theorem pairwise_shownNames (t : FileTree) (dir : Path) :
    (shownNames t dir).Pairwise fun a b => leText (lowerName a) (lowerName b) = true :=
  @List.pairwise_mergeSort _ (fun a b => leText (lowerName a) (lowerName b))
    (fun _ _ _ h h' => leChars_trans h h') (fun _ _ => leChars_total _ _) (t.children dir)

/-- **What is marked** is a directory once links are followed. -/
theorem leadsToDirectoryFrom_iff (hdir : t.lookup components = .ok (dir, .directory))
    (hchild : (t.node? (dir ++ [name])).isSome) :
    leadsToDirectoryFrom t components dir name = true ↔
      t.node? (dir ++ [name]) = some .directory ∨
        (∃ target, t.node? (dir ++ [name]) = some (.link target)) ∧
          ∃ p, t.lookup (components ++ [name]) = .ok (p, .directory) := by
  obtain ⟨n, hn⟩ := Option.isSome_iff_exists.mp hchild
  unfold leadsToDirectoryFrom
  simp only [FileTree.isDirectory, hn, Option.some.injEq]
  by_cases hlink : ∃ target, n = .link target
  · obtain ⟨target, rfl⟩ := hlink
    have hnot : Node.link target ≠ .directory := nofun
    cases hfound : t.lookup (components ++ [name]) with
    | error e =>
      dsimp only
      rw [decide_eq_true_eq]
      constructor
      · exact fun h => absurd h hnot
      · rintro (h | ⟨-, p, hp⟩)
        · exact absurd h hnot
        · cases hp
    | ok found =>
      obtain ⟨p, m⟩ := found
      dsimp only
      rw [decide_eq_true_eq]
      constructor
      · rintro rfl
        exact .inr ⟨⟨target, rfl⟩, p, rfl⟩
      · rintro (h | ⟨-, q, hq⟩)
        · exact absurd h hnot
        · cases hq
          rfl
  · -- A child that is no link is marked for what it is, found or not.
    rw [or_iff_left fun h => hlink h.1]
    cases hfound : t.lookup (components ++ [name]) with
    | error e =>
      dsimp only
      rw [decide_eq_true_eq]
    | ok found =>
      obtain rfl := FileTree.eq_of_lookup_concat hdir hn
        (fun target htarget => hlink ⟨target, htarget⟩) hfound
      dsimp only
      rw [decide_eq_true_eq]

/-- A listing shows the children of its directory in order. -/
theorem isListing_entriesFrom (hdir : t.lookup components = .ok (dir, .directory)) :
    IsListing t components dir (entriesFrom t components dir) where
  exists_names := by
    refine ⟨shownNames t dir, ?_, ?_, ?_⟩
    · exact (List.mergeSort_perm _ _).nodup_iff.mpr (FileTree.nodup_children t dir)
    · intro name
      rw [mem_shownNames, FileTree.mem_children_iff]
    · rw [entriesFrom_eq_map, List.forall₂_map_right_iff, List.forall₂_same]
      intro name hname
      rw [mem_shownNames, FileTree.mem_children_iff] at hname
      exact ⟨rfl, leadsToDirectoryFrom_iff hdir hname⟩
  pairwise_le := by
    rw [entriesFrom_eq_map, List.pairwise_map]
    exact (pairwise_shownNames t dir).imp fun h => (leText_iff _ _).mp h

/-! ### The order of enumeration -/

/-- If no two names are the same in lower case, they are sorted in one way only. -/
theorem shownNames_eq (h : t.SameNodes t')
    (hkeys : ∀ a ∈ t.children dir, ∀ b ∈ t.children dir, lowerName a = lowerName b → a = b) :
    shownNames t dir = shownNames t' dir := by
  have hperm : (shownNames t dir).Perm (shownNames t' dir) :=
    (List.mergeSort_perm _ _).trans ((h.children_perm dir).trans (List.mergeSort_perm _ _).symm)
  refine hperm.eq_of_pairwise ?_ (pairwise_shownNames t dir) (pairwise_shownNames t' dir)
  intro a b ha hb hab hba
  have hname : lowerName a = lowerName b := String.toList_inj.mp (leChars_antisymm hab hba)
  exact hkeys a (mem_shownNames.mp ha) b (mem_shownNames.mp (hperm.mem_iff.mpr hb)) hname

/-- Then they have the same entries in the same order. -/
theorem entriesFrom_eq (h : t.SameNodes t')
    (hkeys : ∀ a ∈ t.children dir, ∀ b ∈ t.children dir, lowerName a = lowerName b → a = b) :
    entriesFrom t components dir = entriesFrom t' components dir := by
  have hentry : entryFrom t components dir = entryFrom t' components dir := by
    funext name
    rw [entryFrom, entryFrom, leadsToDirectoryFrom, leadsToDirectoryFrom, h.lookup_eq,
      FileTree.isDirectory, FileTree.isDirectory]
    simp only [h.node?_eq]
  rw [entriesFrom_eq_map, entriesFrom_eq_map, shownNames_eq h hkeys, hentry]

/-- **A listing is its directory, sorted.**  Where components lead to a directory that can be read,
the page has one entry for each child and no others, with the name as text and the mark of a
directory if the child is one once links are followed; a link that leads nowhere, or in a circle,
has no mark.  The entries are in the order of their names in lower case.  If no two of these are the
same, the page does not depend on the order in which the system enumerates the children. -/
theorem render_isListing_and_eq_of_sameNodes (display : String)
    (hdir : t.lookup components = .ok (dir, .directory)) (hreadable : t.isLocked dir = false) :
    (∃ es, render t components display = .ok (page display es) ∧ IsListing t components dir es) ∧
      ∀ t', t.SameNodes t' →
        (∀ a ∈ t.children dir, ∀ b ∈ t.children dir, lowerName a = lowerName b → a = b) →
        render t' components display = render t components display := by
  have hrender : render t components display =
      .ok (page display (entriesFrom t components dir)) := by
    rw [render, hdir]
    dsimp only
    rw [hreadable]
    rfl
  refine ⟨⟨_, hrender, isListing_entriesFrom hdir⟩, fun t' h hkeys => ?_⟩
  rw [hrender, render, ← h.lookup_eq, hdir]
  dsimp only
  rw [← h.isLocked_eq, hreadable, entriesFrom_eq h hkeys]
  rfl

/-- The path of a directory. -/
def docsPath : Path := [Utf8.encode "docs"]

/-- A directory with a directory, a link to itself, a link that leads nowhere and one that leads in
a circle. -/
def linksInDocs : FileTree :=
  (((((FileTree.empty.set docsPath .directory).set (docsPath ++ [Utf8.encode "b"])
    (.link (Utf8.encode "nowhere"))).set (docsPath ++ [Utf8.encode "A"])
    (.link (Utf8.encode "A"))).set (docsPath ++ [Utf8.encode "c"]) (.link (Utf8.encode "."))).set
    (docsPath ++ [Utf8.encode "D"]) .directory)

/-- The same nodes, enumerated the other way round. -/
def linksInDocs' : FileTree :=
  { nodes := ⟨linksInDocs.nodes.entries.reverse, by
      rw [List.map_reverse]
      exact List.nodup_reverse.mpr linksInDocs.nodes.keys_nodup⟩
    locked := linksInDocs.locked
    names_ok := fun p hp => linksInDocs.names_ok p (by
      rw [Dict.keys, List.map_reverse, List.mem_reverse] at hp
      exact hp) }

theorem render_linksInDocs :
    linksInDocs.lookup docsPath = .ok (docsPath, .directory) ∧
      linksInDocs.SameNodes linksInDocs' ∧
      (∃ es, render linksInDocs docsPath "/" = .ok (page "/" es) ∧
        IsListing linksInDocs docsPath docsPath es) ∧
      render linksInDocs' docsPath "/" = render linksInDocs docsPath "/" := by
  have hdir : linksInDocs.lookup docsPath = .ok (docsPath, .directory) := by cbv
  have hsame : linksInDocs.SameNodes linksInDocs' :=
    FileTree.sameNodes_of_perm (List.reverse_perm _).symm rfl
  have hkeys : ∀ a ∈ linksInDocs.children docsPath, ∀ b ∈ linksInDocs.children docsPath,
      lowerName a = lowerName b → a = b := by
    have hchildren : linksInDocs.children docsPath = ["b", "A", "c", "D"].map Utf8.encode := by
      decide
    have hencode : lowerName ∘ Utf8.encode = Unicode.lowercase := by
      funext name
      rw [Function.comp_apply, lowerName, Utf8.decodeLossy_encode]
    have hlower : (linksInDocs.children docsPath).map lowerName = ["b", "a", "c", "d"] := by
      rw [hchildren, List.map_map, hencode]
      cbv
    exact List.inj_on_of_nodup_map (by rw [hlower]; decide)
  obtain ⟨hlisting, heq⟩ := render_isListing_and_eq_of_sameNodes "/" hdir (by decide)
  exact ⟨hdir, hsame, hlisting, heq linksInDocs' hsame hkeys⟩

end Listing

end PreviewServer
