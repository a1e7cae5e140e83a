import PreviewServer.Listing
import PreviewServer.Proofs.CanonicalPaths

/-!
# Files that cannot be seen

`FileTree.hideOutside` takes the bytes and the times of all nodes that are not below a root out of a
tree, and leaves everything else as it is: the names, the directories, the links, the kinds of nodes
and what refuses to be read.  Paths lead to the same places as before (`lookup_hideOutside`), for a
walk looks at no bytes, and directories have the same listings (`render_hideOutside`).
-/

namespace PreviewServer

/-! ### Hiding -/

/-- The node without the bytes that come when it is read, and without its time. -/
def Node.hidden : Node → Node
  | .file _ _ => .file [] 0
  | .special _ _ => .special none 0
  | n => n

/-- The node at a path, hidden unless the path is below the root. -/
def Node.seenFrom (root p : Path) (n : Node) : Node := if root.isPrefixOf p then n else n.hidden

namespace FileTree

/-- The tree in which nodes are hidden that are not below the root. -/
def hideOutside (t : FileTree) (root : Path) : FileTree :=
  { nodes := t.nodes.mapValues (Node.seenFrom root)
    locked := t.locked
    names_ok := by
      rw [Dict.keys_mapValues]
      exact t.names_ok }

end FileTree

variable {t : FileTree} {root p : Path} {n : Node}

theorem Node.seenFrom_of_prefix (h : root.isPrefixOf p) : n.seenFrom root p = n := if_pos h

/-! Directories and links stay as they are, and other nodes are of the same kind. -/

@[simp] theorem Node.seenFrom_directory : Node.directory.seenFrom root p = .directory :=
  ite_self _

@[simp] theorem Node.seenFrom_link (target : Bytes) :
    (Node.link target).seenFrom root p = .link target := ite_self _

theorem Node.exists_seenFrom_file (root p : Path) (content : Bytes) (modified : Int) :
    ∃ content' modified', (Node.file content modified).seenFrom root p =
      .file content' modified' := by
  unfold seenFrom
  split
  · exact ⟨content, modified, rfl⟩
  · exact ⟨[], 0, rfl⟩

theorem Node.exists_seenFrom_special (root p : Path) (content : Option Bytes) (modified : Int) :
    ∃ content' modified', (Node.special content modified).seenFrom root p =
      .special content' modified' := by
  unfold seenFrom
  split
  · exact ⟨content, modified, rfl⟩
  · exact ⟨none, 0, rfl⟩

theorem Node.seenFrom_eq_directory_iff : n.seenFrom root p = .directory ↔ n = .directory := by
  cases n with
  | file content modified =>
    obtain ⟨content', modified', h⟩ := exists_seenFrom_file root p content modified
    rw [h]
    exact ⟨nofun, nofun⟩
  | directory => rw [seenFrom_directory]
  | link target => rw [seenFrom_link]
  | special content modified =>
    obtain ⟨content', modified', h⟩ := exists_seenFrom_special root p content modified
    rw [h]
    exact ⟨nofun, nofun⟩

namespace FileTree

/-! ### Following paths -/

theorem node?_hideOutside (t : FileTree) (root p : Path) :
    (t.hideOutside root).node? p = (t.node? p).map (Node.seenFrom root p) := by
  unfold node?
  split
  · rw [Option.map_some, Node.seenFrom_directory]
  · exact t.nodes.get?_mapValues (Node.seenFrom root) p

theorem node?_hideOutside_eq_directory_iff :
    (t.hideOutside root).node? p = some .directory ↔ t.node? p = some .directory := by
  rw [node?_hideOutside]
  cases t.node? p with
  | none => exact ⟨nofun, nofun⟩
  | some n => rw [Option.map_some, Option.some_inj, Option.some_inj, Node.seenFrom_eq_directory_iff]

theorem children_hideOutside (t : FileTree) (root dir : Path) :
    (t.hideOutside root).children dir = t.children dir := by
  unfold children hideOutside
  rw [Dict.keys_mapValues]

/-- A walk goes the same way. -/
theorem walk_hideOutside (t : FileTree) (root : Path) (links : Nat) (here : Path)
    (todo : List Name) : (t.hideOutside root).walk links here todo = t.walk links here todo := by
  have hsame : ∀ {q : Path}, t.node? q = some .directory →
      (t.hideOutside root).node? q = some .directory :=
    fun h => node?_hideOutside_eq_directory_iff.mpr h
  have hlink : ∀ {q : Path} {target : Bytes}, t.node? q = some (.link target) →
      (t.hideOutside root).node? q = some (.link target) := by
    intro q target h
    rw [node?_hideOutside, h, Option.map_some, Node.seenFrom_link]
  fun_induction walk t links here todo with
  | case1 links here => rw [walk]
  | case2 links here c rest hdir hstay ih => rw [walk, if_pos (hsame hdir), if_pos hstay, ih]
  | case3 links here rest hdir hstay ih =>
    rw [walk, if_pos (hsame hdir), if_neg hstay, if_pos rfl, ih]
  | case4 links here c rest hdir hstay hup hlen =>
    rw [walk, if_pos (hsame hdir), if_neg hstay, if_neg hup, if_pos hlen]
  | case5 links here c rest hdir hstay hup hlen hc =>
    rw [walk_cons_of_name (hsame hdir) hstay hup hlen, node?_hideOutside, hc]
    rfl
  | case6 here c rest hdir hstay hup hlen target hc =>
    rw [walk_cons_of_name (hsame hdir) hstay hup hlen, hlink hc]
  | case7 here c rest hdir hstay hup hlen links hc =>
    rw [walk_cons_of_name (hsame hdir) hstay hup hlen, hlink hc]
    rfl
  | case8 here c rest hdir hstay hup hlen target hc links hne habs ih =>
    rw [walk_cons_of_name (hsame hdir) hstay hup hlen, hlink hc]
    dsimp only
    rw [if_neg hne, if_pos habs, ih]
  | case9 here c rest hdir hstay hup hlen target hc links hne habs ih =>
    rw [walk_cons_of_name (hsame hdir) hstay hup hlen, hlink hc]
    dsimp only
    rw [if_neg hne, if_neg habs, ih]
  | case10 links here c rest hdir hstay hup hlen n hn hc ih =>
    rw [walk_cons_of_name (hsame hdir) hstay hup hlen, node?_hideOutside, hc, Option.map_some]
    -- Whether a node is hidden or not, it is no link if it was none.
    cases n with
    | file content modified =>
      obtain ⟨content', modified', h⟩ :=
        Node.exists_seenFrom_file root (here ++ [c]) content modified
      rw [h]
      exact ih
    | directory =>
      rw [Node.seenFrom_directory]
      exact ih
    | link target => exact absurd rfl (hn target)
    | special content modified =>
      obtain ⟨content', modified', h⟩ :=
        Node.exists_seenFrom_special root (here ++ [c]) content modified
      rw [h]
      exact ih
  | case11 links here c rest hdir =>
    rw [walk, if_neg (fun h => hdir (node?_hideOutside_eq_directory_iff.mp h))]

/-- **Paths lead to the same places**, where only the node may be hidden. -/
theorem lookup_hideOutside (t : FileTree) (root : Path) (components : List Name) :
    (t.hideOutside root).lookup components =
      (t.lookup components).map fun found => (found.1, found.2.seenFrom root found.1) := by
  have hfollow : (t.hideOutside root).follow components = t.follow components := by
    rw [follow, follow, walk_hideOutside]
  unfold lookup
  rw [hfollow]
  cases t.follow components with
  | error e => rfl
  | ok p =>
    dsimp only
    rw [node?_hideOutside]
    cases t.node? p with
    | none => rfl
    | some n => rfl

theorem canonicalize_hideOutside (t : FileTree) (root : Path) (components : List Name) :
    (t.hideOutside root).canonicalize components = t.canonicalize components := by
  have hwritable : (t.hideOutside root).writable = t.writable.hideOutside root := by
    simp only [writable, hideOutside, Dict.filterKeys_mapValues]
  rw [canonicalize, canonicalize, hwritable, walk_hideOutside]

end FileTree

/-! ### Listings -/

namespace Listing

theorem leadsToDirectoryFrom_hideOutside (t : FileTree) (root : Path) (components : List Name)
    (dir : Path) (name : Name) :
    leadsToDirectoryFrom (t.hideOutside root) components dir name =
      leadsToDirectoryFrom t components dir name := by
  unfold leadsToDirectoryFrom
  rw [FileTree.lookup_hideOutside]
  cases t.lookup (components ++ [name]) with
  | error e =>
    exact decide_eq_decide.mpr FileTree.node?_hideOutside_eq_directory_iff
  | ok found => exact decide_eq_decide.mpr Node.seenFrom_eq_directory_iff

/-- **A directory has the same listing.** -/
theorem render_hideOutside (t : FileTree) (root : Path) (components : List Name)
    (display : String) :
    render (t.hideOutside root) components display = render t components display := by
  have hentries : ∀ dir, entriesFrom (t.hideOutside root) components dir =
      entriesFrom t components dir := by
    intro dir
    have hentry : entryFrom (t.hideOutside root) components dir = entryFrom t components dir := by
      funext name
      rw [entryFrom, entryFrom, leadsToDirectoryFrom_hideOutside]
    rw [entriesFrom, entriesFrom, FileTree.children_hideOutside, hentry]
  unfold render
  rw [FileTree.lookup_hideOutside]
  cases t.lookup components with
  | error e => rfl
  | ok found =>
    obtain ⟨dir, n⟩ := found
    rw [Except.map]
    cases n with
    | file content modified =>
      obtain ⟨content', modified', h⟩ := Node.exists_seenFrom_file root dir content modified
      rw [h]
    | directory =>
      rw [Node.seenFrom_directory]
      dsimp only
      rw [hentries]
      rfl
    | link target => rw [Node.seenFrom_link]
    | special content modified =>
      obtain ⟨content', modified', h⟩ := Node.exists_seenFrom_special root dir content modified
      rw [h]

end Listing

end PreviewServer
