import PreviewServer.Dict
import PreviewServer.Text.Split
import PreviewServer.Text.Utf8

/-!
# File trees

A file tree is a finite picture of a file system: which node stands at which path.  A path that
names a node directly, without links, dots or empty components, is a list of names from the top;
it is the canonical path of its node.  The top itself is a directory.

A tree is read through two views, `node?` and `children`, and changed by `set` and `remove`
(`node?_set`, `node?_remove`).  A node can be there and refuse to be read (`isLocked`).  That a
tree holds proper names only, and each path once, is part of its type: what `children` lists can be
named in a request, and is listed once.
-/

namespace PreviewServer

/-! ### Names and paths -/

/-- The name of a node in its directory. -/
abbrev Name := Bytes

/-- The names that lead from the top of a tree to a node. -/
abbrev Path := List Name

/-- The byte between two components of a path. -/
def slash : UInt8 := 0x2F

/-- The component that stays where it is. -/
def dot : Name := [0x2E]

/-- The component that goes up. -/
def dotDot : Name := [0x2E, 0x2E]

/-- The longest name of a node, in bytes. -/
def maxNameLength : Nat := 255

/-- Whether a node can have this name: some bytes, not too many, none of them zero or a slash, and
not the two components that mean something else. -/
def isName (name : Name) : Bool :=
  name ≠ [] && name ≠ dot && name ≠ dotDot && !name.contains 0 && !name.contains slash &&
    name.length ≤ maxNameLength

/-- The text of a canonical path. -/
def Path.text (p : Path) : Bytes :=
  match p with
  | [] => [slash]
  | p => p.flatMap fun name => slash :: name

/-! ### Trees -/

/-- What can stand at a path. -/
inductive Node where
  /-- A regular file with its bytes and the time of its last change, in seconds since the start
  of 1970. -/
  | file (content : Bytes) (modified : Int)
  /-- A directory. -/
  | directory
  /-- A symbolic link with the text it points at. -/
  | link (target : Bytes)
  /-- Something else, such as a pipe, a device or a socket, with the bytes that come when it is read
  to its end, if it can be read, and the time of its last change. -/
  | special (content : Option Bytes) (modified : Int)
  deriving DecidableEq

/-- The bytes that come when a node is read, and the time of its last change.  Directories and links
are not read. -/
def Node.content? : Node → Option (Bytes × Int)
  | .file content modified => some (content, modified)
  | .special (some content) modified => some (content, modified)
  | _ => none

/-- A file system at rest. -/
structure FileTree where
  /-- The nodes below the top with their canonical paths.  The children of a directory are
  enumerated in the order in which they stand here. -/
  nodes : Dict Path Node
  /-- The canonical paths of the nodes that refuse to be read: paths lead to them and through them,
  but what they hold cannot be found out. -/
  locked : List Path := []
  /-- A canonical path consists of names. -/
  names_ok : ∀ p ∈ nodes.keys, p.all isName

namespace FileTree

/-! ### Views -/

/-- The tree that has nothing below its top. -/
def empty : FileTree := { nodes := Dict.empty, names_ok := by simp [Dict.empty, Dict.keys] }

/-- The node at a canonical path. -/
def node? (t : FileTree) (p : Path) : Option Node :=
  if p = [] then some .directory else t.nodes.get? p

/-- The name that a path has directly below a directory. -/
def childName? (dir : Path) (p : Path) : Option Name :=
  if p.dropLast = dir then p.getLast? else none

/-- The names of the nodes directly below a directory, in the order of enumeration. -/
def children (t : FileTree) (dir : Path) : List Name := t.nodes.keys.filterMap (childName? dir)

/-- Whether a path leads to a directory. -/
def isDirectory (t : FileTree) (p : Path) : Bool := t.node? p = some .directory

/-- Whether what stands at a canonical path refuses to be read. -/
def isLocked (t : FileTree) (p : Path) : Bool := t.locked.contains p

theorem childName?_eq_some_iff {dir p : Path} {name : Name} :
    childName? dir p = some name ↔ p = dir ++ [name] := by
  unfold childName?
  constructor
  · intro h
    split at h
    · rename_i hd
      obtain ⟨ys, rfl⟩ := List.getLast?_eq_some_iff.mp h
      rw [← hd, List.dropLast_concat]
    · simp at h
  · rintro rfl
    simp

/-- A path at which a node stands consists of names. -/
theorem isName_of_node?_eq_some {t : FileTree} {p : Path} {n : Node} (h : t.node? p = some n) :
    ∀ name ∈ p, isName name := by
  unfold node? at h
  split at h
  · rename_i hp
    rw [hp]
    exact nofun
  · exact List.all_eq_true.mp (t.names_ok p (Dict.mem_keys_of_get?_eq_some h))

/-- The children of a directory are the nodes directly below it. -/
theorem mem_children {t : FileTree} {dir : Path} {name : Name} :
    name ∈ t.children dir ↔ dir ++ [name] ∈ t.nodes.keys := by
  simp [children, List.mem_filterMap, childName?_eq_some_iff]

/-- The children of a directory have proper names. -/
theorem isName_of_mem_children {t : FileTree} {dir : Path} {name : Name}
    (h : name ∈ t.children dir) : isName name := by
  have := t.names_ok _ (mem_children.mp h)
  simp at this
  exact this.2

/-- No child is enumerated twice. -/
theorem nodup_children (t : FileTree) (dir : Path) : (t.children dir).Nodup := by
  refine List.Pairwise.filterMap (childName? dir) ?_ t.nodes.keys_nodup
  intro p q hpq name hp other hq heq
  rw [childName?_eq_some_iff] at hp hq
  exact hpq (by rw [hp, hq, heq])

/-! ### Changes -/

/-- The tree with this node at a canonical path, in place of what stood there; it can be read.  A
path with an improper name is left out. -/
def set (t : FileTree) (p : Path) (n : Node) : FileTree :=
  if h : p.all isName then
    { nodes := t.nodes.insert p n
      locked := t.locked.filter (· ≠ p)
      names_ok := fun q hq => (Dict.mem_keys_insert.mp hq).elim (· ▸ h) (t.names_ok q) }
  else t

/-- The tree in which what stands at a canonical path refuses to be read. -/
def lock (t : FileTree) (p : Path) : FileTree := { t with locked := p :: t.locked }

/-- The tree without the node at a canonical path and without everything below it. -/
def remove (t : FileTree) (p : Path) : FileTree :=
  { nodes := t.nodes.filterKeys fun q => !p.isPrefixOf q
    locked := t.locked.filter fun q => !p.isPrefixOf q
    names_ok := fun q hq => t.names_ok q (Dict.mem_keys_filterKeys.mp hq).1 }

/-- Setting a node changes what stands at its path only. -/
theorem node?_set {t : FileTree} {p : Path} (h : p.all isName) (n : Node) (q : Path) :
    (t.set p n).node? q = if q = p ∧ q ≠ [] then some n else t.node? q := by
  unfold node? set
  by_cases hq : q = []
  · simp [hq]
  · simp only [hq, h, if_false, dif_pos, ne_eq, not_false_eq_true, and_true, Dict.get?_insert]
    simp only [eq_comm]

/-- Removing a node leaves what is neither there nor below. -/
theorem node?_remove (t : FileTree) (p q : Path) :
    (t.remove p).node? q = if q ≠ [] ∧ p.isPrefixOf q then none else t.node? q := by
  unfold node? remove
  by_cases hq : q = []
  · simp [hq]
  · simp only [hq, if_false, ne_eq, not_false_eq_true, true_and, Dict.get?_filterKeys]
    cases p.isPrefixOf q <;> simp

end FileTree

end PreviewServer
