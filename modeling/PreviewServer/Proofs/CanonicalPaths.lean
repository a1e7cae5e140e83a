import PreviewServer.Files.Lookup

/-!
# Canonical paths

A canonical path passes through directories only and ends at a node that is no link
(`FileTree.IsCanonical`).  Whatever links, dots and empty components a path as written contains,
following it leads to a canonical path (`canonicalize_spec`): this is an invariant of the walk,
which holds before and after every component (`isCanonical_of_walk`).

Canonical paths are found out in the part of the tree whose paths can be written down, which has the
canonical paths of the tree up to a length (`isCanonical_writable_iff`).

Reading a canonical path again leads to the same node, for no component of it is a dot or a link
(`walk_of_isCanonical`).  So what was found out about a path still holds when the path is used
(`lookup_of_canonicalize`, `canonicalize_idempotent`).
-/

namespace PreviewServer

namespace FileTree

variable {t : FileTree} {p here : Path} {components : List Name}

/-! ### Paths without links -/

/-- Whether a path names a node without links: what it passes through are directories, and what is
at its end is no link. -/
structure IsCanonical (t : FileTree) (p : Path) : Prop where
  /-- It passes through directories. -/
  directory_of_prefix : ∀ q, q <+: p → q ≠ p → t.node? q = some .directory
  /-- There is a node at its end, and it is no link. -/
  exists_node : ∃ n, t.node? p = some n ∧ ∀ target, n ≠ .link target

/-- The top is named by the empty path. -/
theorem isCanonical_nil : t.IsCanonical [] where
  directory_of_prefix _ hq hne := absurd (List.prefix_nil.mp hq) hne
  exists_node := ⟨.directory, rfl, nofun⟩

/-- Going up leads to a directory. -/
theorem IsCanonical.dropLast (h : t.IsCanonical p) : t.IsCanonical p.dropLast := by
  by_cases hp : p = []
  · rw [hp]
    exact isCanonical_nil
  · have hlt : p.dropLast.length < p.length := by
      rw [List.length_dropLast]
      have := List.length_pos_iff.mpr hp
      omega
    have hne : p.dropLast ≠ p := fun heq => absurd (congrArg List.length heq) (by omega)
    refine ⟨?_, .directory, h.directory_of_prefix _ (List.dropLast_prefix p) hne, nofun⟩
    intro q hq _
    apply h.directory_of_prefix q (hq.trans (List.dropLast_prefix p))
    intro heq
    have := hq.length_le
    rw [heq] at this
    omega

/-- A child of a directory that is no link is named by one component more. -/
theorem IsCanonical.concat (h : t.IsCanonical here) (hdir : t.node? here = some .directory)
    {c : Name} {n : Node} (hc : t.node? (here ++ [c]) = some n) (hn : ∀ target, n ≠ .link target) :
    t.IsCanonical (here ++ [c]) := by
  refine ⟨?_, n, hc, hn⟩
  intro q hq hne
  rcases List.prefix_concat_iff.mp hq with heq | hq
  · exact absurd heq hne
  · by_cases heq : q = here
    · rw [heq]
      exact hdir
    · exact h.directory_of_prefix q hq heq

/-! ### Where a walk leads -/

/-- One component of a walk that is a name. -/
theorem walk_cons_of_name {links : Nat} {here : Path} {c : Name} {rest : List Name}
    (hdir : t.node? here = some .directory) (hstay : ¬ (c = [] ∨ c = dot)) (hup : c ≠ dotDot)
    (hlen : ¬ maxNameLength < c.length) :
    t.walk links here (c :: rest) =
      match t.node? (here ++ [c]) with
      | none => .error .notFound
      | some (.link target) =>
        match links with
        | 0 => .error .tooManyLinks
        | links + 1 =>
          if target = [] then .error .notFound
          else if isAbsolute target then t.walk links [] (fields slash target ++ rest)
          else t.walk links here (fields slash target ++ rest)
      | some _ => t.walk links (here ++ [c]) rest := by
  rw [walk, if_pos hdir, if_neg hstay, if_neg hup]
  exact if_neg hlen

/-- **A walk keeps to canonical paths**, through whatever components and links it goes. -/
theorem isCanonical_of_walk {links : Nat} {todo : List Name} (hhere : t.IsCanonical here)
    (h : t.walk links here todo = .ok p) : t.IsCanonical p := by
  fun_induction walk t links here todo with
  | case1 links here =>
    cases h
    exact hhere
  | case2 links here c rest hdir hstay ih => exact ih hhere h
  | case3 links here rest hdir hstay ih => exact ih hhere.dropLast h
  | case4 | case5 | case6 | case7 | case11 => cases h
  | case8 here c rest hdir hstay hup hlen target hc links hne habs ih =>
    exact ih isCanonical_nil h
  | case9 here c rest hdir hstay hup hlen target hc links hne habs ih => exact ih hhere h
  | case10 links here c rest hdir hstay hup hlen n hn hc ih =>
    exact ih (hhere.concat hdir hc hn) h

/-- A path that was followed is canonical, and a node stands there. -/
theorem lookup_spec {n : Node} (h : t.lookup components = .ok (p, n)) :
    t.IsCanonical p ∧ t.node? p = some n := by
  unfold lookup at h
  split at h
  · cases h
  · rename_i q hfollow
    split at h
    · rename_i m hm
      cases h
      refine ⟨?_, hm⟩
      unfold follow at hfollow
      split at hfollow
      · cases hfollow
      · split at hfollow
        · cases hfollow
        · exact isCanonical_of_walk isCanonical_nil hfollow
    · cases h

/-! ### Paths that can be written down -/

theorem writtenLength_append (p q : List Name) :
    writtenLength (p ++ q) = writtenLength p + writtenLength q := by
  have hfold : ∀ (q : List Name) (n : Nat),
      q.foldl (fun n c => n + c.length + 1) n = n + writtenLength q := by
    intro q
    induction q with
    | nil => exact fun n => rfl
    | cons c q ih =>
      intro n
      have hcons : writtenLength (c :: q) = 0 + c.length + 1 + writtenLength q := ih _
      rw [List.foldl_cons, ih]
      omega
  rw [writtenLength, List.foldl_append, hfold, ← writtenLength]

theorem writtenLength_le_of_prefix {q : Path} (h : q <+: p) : writtenLength q ≤ writtenLength p := by
  obtain ⟨rest, rfl⟩ := h
  rw [writtenLength_append]
  exact Nat.le_add_right _ _

theorem node?_writable (t : FileTree) (p : Path) :
    t.writable.node? p = if writtenLength p ≤ maxPathLength then t.node? p else none := by
  unfold node? writable
  by_cases hp : p = []
  · rw [hp]
    rfl
  · simp only [hp, if_false, Dict.get?_filterKeys, decide_eq_true_eq]

/-- What stands in the writable part stands in the tree, and its path can be written. -/
theorem of_node?_writable {n : Node} (h : t.writable.node? p = some n) :
    t.node? p = some n ∧ writtenLength p ≤ maxPathLength := by
  rw [node?_writable] at h
  split at h
  · rename_i hlen
    exact ⟨h, hlen⟩
  · cases h

/-- The canonical paths of the writable part are those of the tree that can be written. -/
theorem isCanonical_writable_iff :
    t.writable.IsCanonical p ↔ t.IsCanonical p ∧ writtenLength p ≤ maxPathLength := by
  constructor
  · intro h
    obtain ⟨n, hn, hlink⟩ := h.exists_node
    obtain ⟨hnode, hlen⟩ := of_node?_writable hn
    have hdir : ∀ q, q <+: p → q ≠ p → t.node? q = some .directory := fun q hq hne =>
      (of_node?_writable (h.directory_of_prefix q hq hne)).1
    exact ⟨⟨hdir, n, hnode, hlink⟩, hlen⟩
  · rintro ⟨h, hlen⟩
    have hnode : ∀ q, q <+: p → t.writable.node? q = t.node? q := by
      intro q hq
      have := writtenLength_le_of_prefix hq
      rw [node?_writable, if_pos (by omega)]
    constructor
    · intro q hq hne
      rw [hnode q hq]
      exact h.directory_of_prefix q hq hne
    · rw [hnode p List.prefix_rfl]
      exact h.exists_node

/-- **A canonical path** is found out for a node that is there, and can be written. -/
theorem canonicalize_spec (h : t.canonicalize components = .ok p) :
    t.IsCanonical p ∧ writtenLength p ≤ maxPathLength := by
  unfold canonicalize at h
  split at h
  · cases h
  · exact isCanonical_writable_iff.mp (isCanonical_of_walk isCanonical_nil h)

/-! ### Reading a canonical path again -/

/-- A name is no component that stays or goes up, and is not too long to be looked for. -/
theorem ne_of_isName {c : Name} (h : isName c) :
    ¬ (c = [] ∨ c = dot) ∧ c ≠ dotDot ∧ (0 : UInt8) ∉ c ∧ c.length ≤ maxNameLength := by
  simp only [isName, ne_eq, decide_not, Bool.and_eq_true, Bool.not_eq_true',
    decide_eq_false_iff_not, decide_eq_true_eq, List.contains_eq_mem] at h
  obtain ⟨⟨⟨⟨⟨hempty, hdot⟩, hup⟩, hzero⟩, -⟩, hlen⟩ := h
  refine ⟨?_, hup, hzero, hlen⟩
  rintro (h | h)
  · exact hempty h
  · exact hdot h

/-- Along a canonical path there are no links. -/
theorem IsCanonical.ne_link_of_prefix (h : t.IsCanonical p) {q : Path} (hq : q <+: p) :
    ∃ n, t.node? q = some n ∧ ∀ target, n ≠ .link target := by
  by_cases heq : q = p
  · rw [heq]
    exact h.exists_node
  · exact ⟨.directory, h.directory_of_prefix q hq heq, nofun⟩

/-- A canonical path consists of names. -/
theorem IsCanonical.isName_of_mem (h : t.IsCanonical p) : ∀ c ∈ p, isName c := by
  obtain ⟨n, hn, -⟩ := h.exists_node
  exact isName_of_node?_eq_some hn

/-- **A walk along a canonical path leads to it**, and goes on from there. -/
theorem walk_append_of_isCanonical {links : Nat} {q : Path} (h : t.IsCanonical (here ++ q))
    (rest : List Name) : t.walk links here (q ++ rest) = t.walk links (here ++ q) rest := by
  induction q generalizing here with
  | nil => rw [List.nil_append, List.append_nil]
  | cons c q ih =>
    have happend : here ++ c :: q = here ++ [c] ++ q := List.append_cons here c q
    have hdir : t.node? here = some .directory := by
      apply h.directory_of_prefix here (List.prefix_append _ _)
      intro heq
      exact List.cons_ne_nil c q (List.append_right_eq_self.mp heq.symm)
    obtain ⟨hstay, hup, -, hlen⟩ := ne_of_isName (h.isName_of_mem c (by simp))
    obtain ⟨n, hn, hlink⟩ := h.ne_link_of_prefix (q := here ++ [c])
      (by rw [happend]; exact List.prefix_append _ _)
    rw [List.cons_append, walk_cons_of_name hdir hstay hup (by omega), hn, happend]
    rw [happend] at h
    cases n with
    | link target => exact absurd rfl (hlink target)
    | file content modified => exact ih h
    | directory => exact ih h
    | special => exact ih h

/-- A walk along a canonical path ends at it. -/
theorem walk_of_isCanonical {links : Nat} (h : t.IsCanonical p) : t.walk links [] p = .ok p := by
  have hwalk : t.walk links [] (p ++ []) = t.walk links p [] := walk_append_of_isCanonical h []
  rw [List.append_nil] at hwalk
  rw [hwalk, walk]

/-- A canonical path contains no zero byte. -/
theorem IsCanonical.not_any_zero (h : t.IsCanonical p) : ¬ p.any (·.contains 0) := by
  intro hany
  obtain ⟨c, hc, hmem⟩ := List.any_eq_true.mp hany
  rw [List.contains_eq_mem, decide_eq_true_eq] at hmem
  exact (ne_of_isName (h.isName_of_mem c hc)).2.2.1 hmem

/-- **What was found out still holds when the path is used.**  Looking up a canonical path gives
the path and its node. -/
theorem lookup_of_canonicalize (h : t.canonicalize components = .ok p) :
    ∃ n, t.node? p = some n ∧ t.lookup p = .ok (p, n) := by
  obtain ⟨hp, hlen⟩ := canonicalize_spec h
  obtain ⟨n, hn, -⟩ := hp.exists_node
  refine ⟨n, hn, ?_⟩
  have hfollow : t.follow p = .ok p := by
    rw [follow, if_neg hp.not_any_zero, if_neg (by omega)]
    exact walk_of_isCanonical hp
  rw [lookup, hfollow]
  dsimp only
  rw [hn]

/-- A canonical path is its own canonical path. -/
theorem canonicalize_idempotent (h : t.canonicalize components = .ok p) :
    t.canonicalize p = .ok p := by
  have hp := canonicalize_spec h
  rw [canonicalize, if_neg hp.1.not_any_zero]
  exact walk_of_isCanonical (isCanonical_writable_iff.mpr hp)

end FileTree

end PreviewServer
