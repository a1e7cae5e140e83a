import PreviewServer.Proofs.CanonicalPaths

/-!
# Walks in two trees

Two trees that agree below a root (`FileTree.AgreesBelow`) cannot be told apart by a walk as long as
it stays there: each of its steps looks only at where it is and at what is directly below
(`step_eq_of_node?_eq`).  Once it has left the root the two trees may lead it to different
places.  If it does not come back (`StaysAway`, of all places that it comes to), then either it
never leaves and comes to the same end in both trees, or it ends outside in both (`walk_inStep`).
So the canonical paths found in the two trees are in step (`InStep`): they are the same, or both are
outside.  They are found by walks in the writable parts of the trees, which come to no other places
(`prefix_trail_writable`).

Within one tree, a walk along a longer path begins with the walk along the shorter one
(`exists_walk_append`).  So what a path leads to is found again from its directory, on a walk that
has fewer links to follow (`lookup_concat_of_canonicalize`).
-/

namespace PreviewServer

namespace FileTree

/-! ### Steps of a walk -/

/-- One step of a walk: the links that may still be followed, the place and the rest of the path
after the component `c`. -/
def step (t : FileTree) (links : Nat) (here : Path) (c : Name) (rest : List Name) :
    Except PathError (Nat × Path × List Name) :=
  if t.node? here = some .directory then
    if c = [] ∨ c = dot then .ok (links, here, rest)
    else if c = dotDot then .ok (links, here.dropLast, rest)
    else if maxNameLength < c.length then .error .nameTooLong
    else
      match t.node? (here ++ [c]) with
      | none => .error .notFound
      | some (.link target) =>
        match links with
        | 0 => .error .tooManyLinks
        | links + 1 =>
          if target = [] then .error .notFound
          else if isAbsolute target then .ok (links, [], fields slash target ++ rest)
          else .ok (links, here, fields slash target ++ rest)
      | some _ => .ok (links, here ++ [c], rest)
  else .error .notADirectory

variable {t t' : FileTree} {root here p : Path} {links : Nat} {c : Name} {rest todo : List Name}

/-- A walk consists of steps. -/
theorem walk_cons (t : FileTree) (links : Nat) (here : Path) (c : Name) (rest : List Name) :
    t.walk links here (c :: rest) =
      match t.step links here c rest with
      | .error e => .error e
      | .ok next => t.walk next.1 next.2.1 next.2.2 := by
  rw [walk]
  unfold step
  split
  · split
    · rfl
    · split
      · rfl
      · split
        · rfl
        · cases t.node? (here ++ [c]) with
          | none => rfl
          | some n =>
            cases n with
            | link target =>
              cases links with
              | zero => rfl
              | succ links =>
                dsimp only
                split
                · rfl
                · split <;> rfl
            | file content modified => rfl
            | directory => rfl
            | special => rfl
  · rfl

/-- A step takes a component off the path, or follows a link. -/
theorem step_decreases {next : Nat × Path × List Name}
    (h : t.step links here c rest = .ok next) :
    Prod.Lex (· < ·) (· < ·) (next.1, next.2.2.length) (links, (c :: rest).length) := by
  have hrest : Prod.Lex (· < ·) (· < ·) (links, rest.length) (links, (c :: rest).length) :=
    Prod.Lex.right _ (Nat.lt_succ_self _)
  unfold step at h
  split at h
  · split at h
    · cases h
      exact hrest
    · split at h
      · cases h
        exact hrest
      · split at h
        · cases h
        · split at h
          · cases h
          · cases links with
            | zero => cases h
            | succ links =>
              dsimp only at h
              split at h
              · cases h
              · split at h <;> cases h <;> exact Prod.Lex.left _ _ (Nat.lt_succ_self _)
          · cases h
            exact hrest
  · cases h

/-- The places that a walk comes to, from the one where it starts. -/
def trail (t : FileTree) (links : Nat) (here : Path) (todo : List Name) : List Path :=
  match todo with
  | [] => [here]
  | c :: rest =>
    match _h : t.step links here c rest with
    | .error _ => [here]
    | .ok next => here :: trail t next.1 next.2.1 next.2.2
termination_by (links, todo.length)
decreasing_by exact step_decreases _h

theorem trail_of_ok {next : Nat × Path × List Name} (h : t.step links here c rest = .ok next) :
    t.trail links here (c :: rest) = here :: t.trail next.1 next.2.1 next.2.2 := by
  rw [trail]
  split
  · rename_i herror
    rw [h] at herror
    cases herror
  · rename_i hok
    rw [h] at hok
    cases hok
    rfl

/-- The place where a walk ends is one that it comes to. -/
theorem mem_trail_of_walk (h : t.walk links here todo = .ok p) : p ∈ t.trail links here todo := by
  fun_induction trail t links here todo with
  | case1 links here =>
    rw [walk] at h
    cases h
    exact List.mem_cons_self
  | case2 links here c rest e hstep =>
    rw [walk_cons, hstep] at h
    cases h
  | case3 links here c rest next hstep ih =>
    rw [walk_cons, hstep] at h
    exact List.mem_cons_of_mem here (ih h)

theorem exists_trail_eq_cons (t : FileTree) (links : Nat) (here : Path) (todo : List Name) :
    ∃ places, t.trail links here todo = here :: places := by
  fun_induction trail t links here todo with
  | case1 => exact ⟨[], rfl⟩
  | case2 => exact ⟨[], rfl⟩
  | case3 => exact ⟨_, rfl⟩

/-! ### Walks that go on -/

/-- A step does the same when more links may be followed and the path is longer. -/
theorem step_append {next : Nat × Path × List Name} (h : t.step links here c rest = .ok next)
    (d : Nat) (more : List Name) :
    t.step (links + d) here c (rest ++ more) = .ok (next.1 + d, next.2.1, next.2.2 ++ more) := by
  unfold step at h ⊢
  split at h
  · rename_i hdir
    rw [if_pos hdir]
    split at h
    · rename_i hstay
      cases h
      rw [if_pos hstay]
    · rename_i hstay
      rw [if_neg hstay]
      split at h
      · rename_i hup
        cases h
        rw [if_pos hup]
      · rename_i hup
        rw [if_neg hup]
        split at h
        · cases h
        · rename_i hlen
          rw [if_neg hlen]
          cases hn : t.node? (here ++ [c]) with
          | none =>
            rw [hn] at h
            cases h
          | some n =>
            rw [hn] at h
            cases n with
            | link target =>
              cases links with
              | zero => cases h
              | succ links =>
                rw [Nat.succ_add]
                dsimp only at h ⊢
                split at h
                · cases h
                · rename_i htarget
                  rw [if_neg htarget, ← List.append_assoc]
                  split at h <;> rename_i habsolute <;> cases h
                  · rw [if_pos habsolute]
                  · rw [if_neg habsolute]
            | file content modified =>
              cases h
              rfl
            | directory =>
              cases h
              rfl
            | special =>
              cases h
              rfl
  · cases h

/-- **A walk goes on** from where it has led, with the links that it has not used. -/
theorem exists_walk_append (h : t.walk links here todo = .ok p) :
    ∃ k ≤ links, ∀ more, t.walk links here (todo ++ more) = t.walk k p more := by
  fun_induction trail t links here todo with
  | case1 links here =>
    rw [walk] at h
    cases h
    exact ⟨links, Nat.le_refl _, fun _ => rfl⟩
  | case2 links here c rest e hstep =>
    rw [walk_cons, hstep] at h
    cases h
  | case3 links here c rest next hstep ih =>
    rw [walk_cons, hstep] at h
    obtain ⟨k, hk, hwalk⟩ := ih h
    have hlinks : next.1 ≤ links := by
      rcases Prod.lex_def.mp (step_decreases hstep) with hlt | ⟨heq, -⟩
      · exact Nat.le_of_lt hlt
      · exact Nat.le_of_eq heq
    refine ⟨k, Nat.le_trans hk hlinks, fun more => ?_⟩
    have hstep' := step_append hstep 0 more
    rw [Nat.add_zero] at hstep'
    rw [List.cons_append, walk_cons, hstep']
    exact hwalk more

/-- A walk leads to the same place when more links may be followed. -/
theorem walk_add (h : t.walk links here todo = .ok p) (d : Nat) :
    t.walk (links + d) here todo = .ok p := by
  fun_induction trail t links here todo with
  | case1 links here =>
    rw [walk] at h ⊢
    exact h
  | case2 links here c rest e hstep =>
    rw [walk_cons, hstep] at h
    cases h
  | case3 links here c rest next hstep ih =>
    rw [walk_cons, hstep] at h
    have hstep' := step_append hstep d []
    rw [List.append_nil, List.append_nil] at hstep'
    rw [walk_cons, hstep']
    exact ih h

/-! ### Leaving for good -/

/-- Whether places that have left the root stay outside. -/
def StaysAway (root : Path) (places : List Path) : Prop :=
  places.Pairwise fun p q => ¬ root <+: p → ¬ root <+: q

/-- A walk that begins outside, and does not come back, ends outside. -/
theorem StaysAway.not_prefix_of_walk (hstay : StaysAway root (t.trail links here todo))
    (hout : ¬ root <+: here) (h : t.walk links here todo = .ok p) : ¬ root <+: p := by
  have hmem := mem_trail_of_walk h
  obtain ⟨places, hplaces⟩ := exists_trail_eq_cons t links here todo
  rw [hplaces] at hstay hmem
  rcases List.mem_cons.mp hmem with rfl | hmem
  · exact hout
  · exact List.rel_of_pairwise_cons hstay hmem hout

/-- **A walk leaves for good** if no step leads back, as long as what is known of the walk holds on
the way. -/
theorem staysAway_trail {known : Nat → Path → List Name → Prop}
    (hstep : ∀ links here c rest next, known links here (c :: rest) →
      t.step links here c rest = .ok next →
      known next.1 next.2.1 next.2.2 ∧ (¬ root <+: here → ¬ root <+: next.2.1))
    (h : known links here todo) : StaysAway root (t.trail links here todo) := by
  have hout : ∀ links here todo, known links here todo → ¬ root <+: here →
      ∀ p ∈ t.trail links here todo, ¬ root <+: p := by
    intro links here todo h hhere
    fun_induction trail t links here todo with
    | case1 links here => simpa using hhere
    | case2 links here c rest e herror => simpa using hhere
    | case3 links here c rest next hok ih =>
      obtain ⟨hknown, haway⟩ := hstep links here c rest next h hok
      exact List.forall_mem_cons.mpr ⟨hhere, ih hknown (haway hhere)⟩
  fun_induction trail t links here todo with
  | case1 links here => exact List.pairwise_singleton _ _
  | case2 links here c rest e herror => exact List.pairwise_singleton _ _
  | case3 links here c rest next hok ih =>
    obtain ⟨hknown, haway⟩ := hstep links here c rest next h hok
    refine List.pairwise_cons.mpr ⟨fun p hp hhere => ?_, ih hknown⟩
    exact hout _ _ _ hknown (haway hhere) p hp

/-! ### Trees that agree below a root -/

/-- Whether two trees are the same below a root, the root included. -/
structure AgreesBelow (root : Path) (t t' : FileTree) : Prop where
  /-- The same nodes stand there: directories, links with their texts, and files with their bytes
  and times. -/
  node?_eq : ∀ p, root <+: p → t.node? p = t'.node? p
  /-- Directories enumerate the same names. -/
  children_eq : ∀ dir, root <+: dir → t.children dir = t'.children dir
  /-- The same files and directories refuse to be read. -/
  isLocked_eq : ∀ p, root <+: p → t.isLocked p = t'.isLocked p

theorem AgreesBelow.symm (h : AgreesBelow root t t') : AgreesBelow root t' t where
  node?_eq p hp := (h.node?_eq p hp).symm
  children_eq dir hdir := (h.children_eq dir hdir).symm
  isLocked_eq p hp := (h.isLocked_eq p hp).symm

/-- A canonical path below a canonical root is canonical in both trees. -/
theorem AgreesBelow.isCanonical (h : AgreesBelow root t t') (hroot : t'.IsCanonical root)
    (hpath : root <+: p) (hp : t.IsCanonical p) : t'.IsCanonical p where
  directory_of_prefix q hq hne := by
    by_cases hbelow : root <+: q
    · rw [← h.node?_eq q hbelow]
      exact hp.directory_of_prefix q hq hne
    · have habove : q <+: root := (List.prefix_or_prefix_of_prefix hq hpath).resolve_right hbelow
      exact hroot.directory_of_prefix q habove fun heq => hbelow (heq ▸ List.prefix_rfl)
  exists_node := by
    rw [← h.node?_eq p hpath]
    exact hp.exists_node

/-- **A step** from a place below the root is the same in both trees. -/
theorem step_eq_of_node?_eq (h : ∀ p, root <+: p → t.node? p = t'.node? p) (hhere : root <+: here)
    (links : Nat) (c : Name) (rest : List Name) :
    t.step links here c rest = t'.step links here c rest := by
  unfold step
  rw [h here hhere, h (here ++ [c]) (hhere.trans (List.prefix_append _ _))]

/-! ### Results in step -/

/-- Whether the places found in two trees are the same and below a root, or outside in both. -/
def InStep (root : Path) (x x' : Except PathError Path) : Prop :=
  (x = x' ∧ ∀ p, x = .ok p → root <+: p) ∨
    ((∀ p, x = .ok p → ¬ root <+: p) ∧ ∀ p, x' = .ok p → ¬ root <+: p)

/-- **A walk** from a place below the root, which does not come back, ends in step. -/
theorem walk_inStep (h : ∀ p, root <+: p → t.node? p = t'.node? p) (hhere : root <+: here)
    (hstay : StaysAway root (t.trail links here todo))
    (hstay' : StaysAway root (t'.trail links here todo)) :
    InStep root (t.walk links here todo) (t'.walk links here todo) := by
  fun_induction trail t links here todo with
  | case1 links here =>
    refine .inl ⟨by rw [walk, walk], fun a ha => ?_⟩
    rw [walk] at ha
    cases ha
    exact hhere
  | case2 links here c rest e hstep =>
    have hstep' := (step_eq_of_node?_eq h hhere links c rest).symm.trans hstep
    rw [walk_cons, walk_cons, hstep, hstep']
    refine .inl ⟨rfl, ?_⟩
    intro a ha
    cases ha
  | case3 links here c rest next hstep ih =>
    have hstep' := (step_eq_of_node?_eq h hhere links c rest).symm.trans hstep
    rw [trail_of_ok hstep'] at hstay'
    have hnext := List.Pairwise.of_cons hstay
    have hnext' := List.Pairwise.of_cons hstay'
    rw [walk_cons, walk_cons, hstep, hstep']
    by_cases hbelow : root <+: next.2.1
    · exact ih hbelow hnext hnext'
    · exact .inr ⟨fun a ha => StaysAway.not_prefix_of_walk hnext hbelow ha,
        fun a ha => StaysAway.not_prefix_of_walk hnext' hbelow ha⟩

/-! ### Walks in the writable part -/

/-- A step in the writable part of a tree is one in the tree. -/
theorem step_of_step_writable {next : Nat × Path × List Name}
    (h : t.writable.step links here c rest = .ok next) : t.step links here c rest = .ok next := by
  unfold step at h ⊢
  split at h
  · rename_i hdir
    rw [if_pos (of_node?_writable hdir).1]
    split at h
    · rename_i hstay
      rw [if_pos hstay, h]
    · rename_i hstay
      rw [if_neg hstay]
      split at h
      · rename_i hup
        rw [if_pos hup, h]
      · rename_i hup
        rw [if_neg hup]
        split at h
        · cases h
        · rename_i hlen
          rw [if_neg hlen]
          cases hn : t.writable.node? (here ++ [c]) with
          | none =>
            rw [hn] at h
            cases h
          | some n =>
            rw [hn] at h
            rw [(of_node?_writable hn).1, h]
  · cases h

/-- A walk in the writable part of a tree leads to the same place in the tree. -/
theorem walk_of_walk_writable (h : t.writable.walk links here todo = .ok p) :
    t.walk links here todo = .ok p := by
  fun_induction trail t.writable links here todo with
  | case1 links here =>
    rw [walk] at h ⊢
    exact h
  | case2 links here c rest e hstep =>
    rw [walk_cons, hstep] at h
    cases h
  | case3 links here c rest next hstep ih =>
    rw [walk_cons, hstep] at h
    rw [walk_cons, step_of_step_writable hstep]
    exact ih h

/-- In the writable part a walk comes to the same places, for as long as they can be written. -/
theorem prefix_trail_writable (t : FileTree) (links : Nat) (here : Path) (todo : List Name) :
    t.writable.trail links here todo <+: t.trail links here todo := by
  fun_induction trail t.writable links here todo with
  | case1 links here =>
    exact ⟨[], by rw [trail, List.append_nil]⟩
  | case2 links here c rest e hstep =>
    obtain ⟨places, hplaces⟩ := exists_trail_eq_cons t links here (c :: rest)
    rw [hplaces]
    exact List.prefix_append [here] places
  | case3 links here c rest next hstep ih =>
    rw [trail_of_ok (step_of_step_writable hstep)]
    exact List.cons_prefix_cons.mpr ⟨rfl, ih⟩

theorem StaysAway.writable (h : StaysAway root (t.trail links here todo)) :
    StaysAway root (t.writable.trail links here todo) :=
  h.sublist (prefix_trail_writable t links here todo).sublist

/-- A canonical path that is passed through in the writable part can be written. -/
theorem writtenLength_le_of_walk_writable {q : Path} (h : t.IsCanonical (here ++ q))
    (hlen : writtenLength here ≤ maxPathLength)
    (hwalk : t.writable.walk links here (q ++ rest) = .ok p) :
    writtenLength (here ++ q) ≤ maxPathLength := by
  induction q generalizing here with
  | nil =>
    rw [List.append_nil]
    exact hlen
  | cons c q ih =>
    have happend : here ++ c :: q = here ++ [c] ++ q := List.append_cons here c q
    obtain ⟨hstay, hup, -, hname⟩ := ne_of_isName (h.isName_of_mem c (by simp))
    rw [happend] at h ⊢
    obtain ⟨n, hn, hlink⟩ := h.ne_link_of_prefix (q := here ++ [c]) (List.prefix_append _ _)
    rw [List.cons_append, walk_cons, step] at hwalk
    by_cases hdir : t.writable.node? here = some .directory
    · rw [if_pos hdir, if_neg hstay, if_neg hup, if_neg (by omega)] at hwalk
      cases hnext : t.writable.node? (here ++ [c]) with
      | none =>
        rw [hnext] at hwalk
        cases hwalk
      | some m =>
        obtain ⟨hnode, hshort⟩ := of_node?_writable hnext
        obtain rfl := Option.some.inj (hn.symm.trans hnode)
        rw [hnext] at hwalk
        cases n with
        | link target => exact absurd rfl (hlink target)
        | file content modified => exact ih h hshort hwalk
        | directory => exact ih h hshort hwalk
        | special => exact ih h hshort hwalk
    · rw [if_neg hdir] at hwalk
      cases hwalk

/-! ### Canonical paths in two trees -/

section Canonicalize

variable {components : List Name}

theorem walk_of_canonicalize (h : t.canonicalize components = .ok p) :
    t.walk maxLinks [] components = .ok p := by
  unfold canonicalize at h
  split at h
  · cases h
  · exact walk_of_walk_writable h

/-- A name that is looked at in the writable part has a path that can be written. -/
theorem writtenLength_concat_le_of_walk {dir : Path} {name : Name} (hname : isName name)
    (h : t.writable.walk links dir [name] = .ok p) :
    writtenLength (dir ++ [name]) ≤ maxPathLength := by
  obtain ⟨hstay, hup, -, hlen⟩ := ne_of_isName hname
  by_cases hdir : t.writable.node? dir = some .directory
  · rw [walk_cons_of_name hdir hstay hup (by omega)] at h
    cases hn : t.writable.node? (dir ++ [name]) with
    | none =>
      rw [hn] at h
      cases h
    | some n => exact (of_node?_writable hn).2
  · rw [walk, if_neg hdir] at h
    cases h

/-- **What a longer path leads to is found in its directory.**  If components lead to a directory,
and with a name behind them to a node, then the name leads to this node from the directory. -/
theorem lookup_concat_of_canonicalize {dir : Path} {name : Name} {n : Node}
    (hdir : t.canonicalize components = .ok dir) (hname : isName name)
    (h : t.canonicalize (components ++ [name]) = .ok p) (hn : t.node? p = some n) :
    t.lookup (dir ++ [name]) = .ok (p, n) := by
  have hcanonical := (canonicalize_spec hdir).1
  unfold canonicalize at hdir h
  split at hdir
  · cases hdir
  · split at h
    · cases h
    · obtain ⟨k, hk, hmore⟩ := exists_walk_append hdir
      rw [hmore [name]] at h
      have hshort := writtenLength_concat_le_of_walk hname h
      have hwalk : t.walk maxLinks [] (dir ++ [name]) = .ok p := by
        have hadd := walk_add (walk_of_walk_writable h) (maxLinks - k)
        rw [Nat.add_sub_cancel' hk] at hadd
        rw [walk_append_of_isCanonical hcanonical, List.nil_append, hadd]
      have hzero : ¬ (dir ++ [name]).any (·.contains 0) := by
        rw [List.any_append, Bool.or_eq_true, not_or]
        refine ⟨hcanonical.not_any_zero, ?_⟩
        have hnot := (ne_of_isName hname).2.2.1
        rw [List.any_cons, List.any_nil, Bool.or_false, List.contains_eq_mem, decide_eq_true_eq]
        exact hnot
      have hfollow : t.follow (dir ++ [name]) = .ok p := by
        rw [follow, if_neg hzero, if_neg (by omega), hwalk]
      unfold lookup
      rw [hfollow]
      dsimp only
      rw [hn]

/-- What has the same canonical path in two trees, and is the same there, is found alike. -/
theorem lookup_eq_of_canonicalize (h : t.canonicalize components = .ok p)
    (h' : t'.canonicalize components = .ok p) (hnode : t.node? p = t'.node? p) :
    t.lookup components = t'.lookup components := by
  have hfollow : t.follow components = t'.follow components := by
    rw [follow, follow, walk_of_canonicalize h, walk_of_canonicalize h']
  unfold lookup
  rw [← hfollow]
  cases hp : t.follow components with
  | error e => rfl
  | ok q =>
    have hq : q = p := by
      unfold follow at hp
      split at hp
      · cases hp
      · split at hp
        · cases hp
        · exact Except.ok.inj (hp.symm.trans (walk_of_canonicalize h))
    dsimp only
    rw [hq, hnode]

/-- Canonical paths are in step if the walks in the writable parts are. -/
theorem inStep_canonicalize (h : InStep root (t.writable.walk maxLinks [] components)
      (t'.writable.walk maxLinks [] components)) :
    InStep root (t.canonicalize components) (t'.canonicalize components) := by
  unfold canonicalize
  split
  · exact .inl ⟨rfl, nofun⟩
  · exact h

theorem AgreesBelow.node?_writable_eq (h : AgreesBelow root t t') :
    ∀ p, root <+: p → t.writable.node? p = t'.writable.node? p := by
  intro p hp
  rw [node?_writable, node?_writable, h.node?_eq p hp]

end Canonicalize

/-! ### Paths from a place below the root -/

/-- The places that following a path as written comes to, seen from a directory. -/
def trailFrom (t : FileTree) (dir : Path) (text : Bytes) : List Path :=
  if isAbsolute text then dir :: t.trail maxLinks [] (fields slash text.tail)
  else t.trail maxLinks dir (fields slash text)

/-- Components behind a canonical path below the root have canonical paths in step. -/
theorem inStep_canonicalize_append (h : AgreesBelow root t t') {dir : Path} (hdir : root <+: dir)
    (hcanonical : t.IsCanonical dir) (hcanonical' : t'.IsCanonical dir)
    (hstay : StaysAway root (t.trail maxLinks dir todo))
    (hstay' : StaysAway root (t'.trail maxLinks dir todo)) :
    InStep root (t.canonicalize (dir ++ todo)) (t'.canonicalize (dir ++ todo)) := by
  apply inStep_canonicalize
  have hzero : writtenLength [] ≤ maxPathLength := by decide
  by_cases hlen : writtenLength dir ≤ maxPathLength
  · have hwritable := isCanonical_writable_iff.mpr ⟨hcanonical, hlen⟩
    have hwritable' := isCanonical_writable_iff.mpr ⟨hcanonical', hlen⟩
    rw [walk_append_of_isCanonical hwritable, walk_append_of_isCanonical hwritable']
    exact walk_inStep h.node?_writable_eq hdir hstay.writable hstay'.writable
  · -- A directory whose path cannot be written is not passed through in either tree.
    exact .inr ⟨fun p hp => absurd (writtenLength_le_of_walk_writable hcanonical hzero hp) hlen,
      fun p hp => absurd (writtenLength_le_of_walk_writable hcanonical' hzero hp) hlen⟩

/-- A path as written has canonical paths in step, also if it starts at the top. -/
theorem inStep_canonicalize_componentsFrom (h : AgreesBelow root t t') {dir : Path}
    (hdir : root <+: dir) (hcanonical : t.IsCanonical dir) (hcanonical' : t'.IsCanonical dir)
    {text : Bytes} (hstay : StaysAway root (t.trailFrom dir text))
    (hstay' : StaysAway root (t'.trailFrom dir text)) :
    InStep root (t.canonicalize (componentsFrom dir text))
      (t'.canonicalize (componentsFrom dir text)) := by
  unfold trailFrom at hstay hstay'
  unfold componentsFrom
  split
  · rename_i habsolute
    rw [if_pos habsolute] at hstay hstay'
    have hwalk := StaysAway.writable (List.Pairwise.of_cons hstay)
    have hwalk' := StaysAway.writable (List.Pairwise.of_cons hstay')
    apply inStep_canonicalize
    by_cases htop : root <+: []
    · exact walk_inStep h.node?_writable_eq htop hwalk hwalk'
    · exact .inr ⟨fun a ha => StaysAway.not_prefix_of_walk hwalk htop ha,
        fun a ha => StaysAway.not_prefix_of_walk hwalk' htop ha⟩
  · rename_i hrelative
    rw [if_neg hrelative] at hstay hstay'
    exact inStep_canonicalize_append h hdir hcanonical hcanonical' hstay hstay'

end FileTree

end PreviewServer
