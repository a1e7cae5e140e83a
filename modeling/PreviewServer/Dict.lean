import PreviewServer.Text.Order

/-!
# Dictionaries

A dictionary holds at most one value for each key and remembers the order in which its keys first
came.  Writing a key again replaces its value where it stands (`get?_insert`).  Header fields,
media types and the nodes of a file tree are held in dictionaries.
-/

namespace PreviewServer

/-- A finite map that remembers the order of its keys. -/
structure Dict (κ ν : Type) where
  /-- The pairs of key and value, in the order in which the keys were first written. -/
  entries : List (κ × ν)
  /-- No key occurs twice. -/
  keys_nodup : (entries.map Prod.fst).Nodup

namespace Dict

variable {κ ν : Type}

/-! ### Reading -/

/-- The dictionary without keys. -/
def empty : Dict κ ν := ⟨[], by simp⟩

/-- The keys, in the order in which they were first written. -/
def keys (d : Dict κ ν) : List κ := d.entries.map Prod.fst

/-- How many keys there are. -/
def size (d : Dict κ ν) : Nat := d.entries.length

/-- The value of a key. -/
def get? [DecidableEq κ] (d : Dict κ ν) (key : κ) : Option ν :=
  (d.entries.find? (fun e => e.1 = key)).map Prod.snd

/-- The pairs in the order of their keys. -/
def sorted (d : Dict String ν) : List (String × ν) :=
  d.entries.mergeSort fun a b => leText a.1 b.1

@[simp] theorem get?_empty [DecidableEq κ] (key : κ) : (empty : Dict κ ν).get? key = none := rfl

/-- A dictionary is its pairs. -/
theorem entries_injective {d d' : Dict κ ν} (h : d.entries = d'.entries) : d = d' := by
  cases d
  cases d'
  cases h
  rfl

/-! ### Writing -/

/-- The pairs after writing `key`: its value replaced where it stands, or a new last pair. -/
def put [DecidableEq κ] (key : κ) (value : ν) : List (κ × ν) → List (κ × ν)
  | [] => [(key, value)]
  | e :: es => if e.1 = key then (key, value) :: es else e :: put key value es

theorem map_fst_put [DecidableEq κ] (key : κ) (value : ν) (es : List (κ × ν)) :
    (put key value es).map Prod.fst =
      if key ∈ es.map Prod.fst then es.map Prod.fst else es.map Prod.fst ++ [key] := by
  induction es with
  | nil => simp [put]
  | cons e es ih =>
    by_cases h : e.1 = key
    · simp [put, h]
    · simp only [put, h, if_false, List.map_cons, ih, List.mem_cons, Ne.symm h, false_or]
      split <;> simp

theorem nodup_put [DecidableEq κ] {key : κ} {value : ν} {es : List (κ × ν)}
    (h : (es.map Prod.fst).Nodup) : ((put key value es).map Prod.fst).Nodup := by
  rw [map_fst_put]
  split
  · exact h
  · rename_i hk
    rw [List.nodup_append]
    exact ⟨h, by simp, by intro a ha b hb; simp at hb; rintro rfl; exact hk (hb ▸ ha)⟩

/-- The dictionary after writing `key`. -/
def insert [DecidableEq κ] (d : Dict κ ν) (key : κ) (value : ν) : Dict κ ν :=
  ⟨put key value d.entries, nodup_put d.keys_nodup⟩

/-- The dictionary after writing these pairs one after another. -/
def ofList [DecidableEq κ] (es : List (κ × ν)) : Dict κ ν :=
  es.foldl (fun d e => d.insert e.1 e.2) empty

/-- The dictionary without the keys that fail a test. -/
def filterKeys (d : Dict κ ν) (keep : κ → Bool) : Dict κ ν :=
  ⟨d.entries.filter fun e => keep e.1, (d.keys_nodup).sublist (List.filter_sublist.map _)⟩

/-- The dictionary whose values are changed, each according to its key. -/
def mapValues (d : Dict κ ν) (f : κ → ν → ν) : Dict κ ν :=
  ⟨d.entries.map fun e => (e.1, f e.1 e.2), by rw [List.map_map]; exact d.keys_nodup⟩

/-- The keys after writing one are those before, with the new one behind them. -/
theorem keys_insert [DecidableEq κ] (d : Dict κ ν) (key : κ) (value : ν) :
    (d.insert key value).keys = if key ∈ d.keys then d.keys else d.keys ++ [key] :=
  map_fst_put key value d.entries

/-- A key that is written for the first time comes last. -/
theorem entries_insert_of_not_mem [DecidableEq κ] {d : Dict κ ν} {key : κ} (h : key ∉ d.keys)
    (value : ν) : (d.insert key value).entries = d.entries ++ [(key, value)] := by
  have hput : ∀ es : List (κ × ν), key ∉ es.map Prod.fst →
      put key value es = es ++ [(key, value)] := by
    intro es hes
    induction es with
    | nil => rfl
    | cons e es ih =>
      rw [List.map_cons, List.mem_cons, not_or] at hes
      rw [put, if_neg (Ne.symm hes.1), ih hes.2, List.cons_append]
  exact hput d.entries h

/-- Writing a key does not change the pairs whose keys pass a test that it fails. -/
theorem filter_entries_insert [DecidableEq κ] (d : Dict κ ν) {key : κ} (value : ν) {p : κ → Bool}
    (h : p key = false) :
    (d.insert key value).entries.filter (fun e => p e.1) = d.entries.filter fun e => p e.1 := by
  unfold insert
  dsimp only
  induction d.entries with
  | nil => simp [put, h]
  | cons e es ih =>
    by_cases hk : e.1 = key
    · simp [put, hk, h]
    · rw [put, if_neg hk, List.filter_cons, List.filter_cons, ih]

theorem mem_keys_insert [DecidableEq κ] {d : Dict κ ν} {key other : κ} {value : ν} :
    other ∈ (d.insert key value).keys ↔ other = key ∨ other ∈ d.keys := by
  rw [keys_insert]
  split
  · rename_i h
    exact ⟨.inr, fun h' => h'.elim (fun e => e ▸ h) id⟩
  · simp [or_comm]

/-- A key that has a value is one of the keys. -/
theorem mem_keys_of_get?_eq_some [DecidableEq κ] {d : Dict κ ν} {key : κ} {value : ν}
    (h : d.get? key = some value) : key ∈ d.keys := by
  obtain ⟨e, he, -⟩ := Option.map_eq_some_iff.mp h
  have hkey : e.1 = key := by simpa using List.find?_some he
  rw [← hkey]
  exact List.mem_map_of_mem (List.mem_of_find?_eq_some he)

/-- The value of a key stands behind it. -/
theorem get?_eq_some_iff [DecidableEq κ] {d : Dict κ ν} {key : κ} {value : ν} :
    d.get? key = some value ↔ (key, value) ∈ d.entries := by
  unfold get?
  constructor
  · intro h
    obtain ⟨e, he, rfl⟩ := Option.map_eq_some_iff.mp h
    have hkey : e.1 = key := by simpa using List.find?_some he
    rw [← hkey]
    exact List.mem_of_find?_eq_some he
  · have hnodup := d.keys_nodup
    generalize d.entries = es at hnodup
    intro h
    induction es with
    | nil => cases h
    | cons e es ih =>
      rw [List.map_cons, List.nodup_cons] at hnodup
      rcases List.mem_cons.mp h with rfl | h
      · rw [List.find?_cons_of_pos (by simp)]
        rfl
      · have hne : e.1 ≠ key := fun heq => hnodup.1 (heq ▸ List.mem_map_of_mem h)
        rw [List.find?_cons_of_neg (by simp [hne])]
        exact ih hnodup.2 h

/-- What the keys have as values does not depend on their order. -/
theorem get?_eq_of_perm [DecidableEq κ] {d d' : Dict κ ν} (h : d.entries.Perm d'.entries)
    (key : κ) : d.get? key = d'.get? key := by
  apply Option.ext
  intro value
  rw [get?_eq_some_iff, get?_eq_some_iff, h.mem_iff]

theorem mem_keys_iff [DecidableEq κ] {d : Dict κ ν} {key : κ} :
    key ∈ d.keys ↔ (d.get? key).isSome := by
  rw [Option.isSome_iff_exists]
  constructor
  · intro h
    obtain ⟨e, he, rfl⟩ := List.mem_map.mp h
    exact ⟨e.2, get?_eq_some_iff.mpr he⟩
  · rintro ⟨value, h⟩
    exact mem_keys_of_get?_eq_some h

theorem mem_keys_filterKeys {d : Dict κ ν} {keep : κ → Bool} {key : κ} :
    key ∈ (d.filterKeys keep).keys ↔ key ∈ d.keys ∧ keep key := by
  simp only [keys, filterKeys, List.mem_map, List.mem_filter]
  constructor
  · rintro ⟨e, ⟨he, hk⟩, rfl⟩
    exact ⟨⟨e, he, rfl⟩, hk⟩
  · rintro ⟨⟨e, he, rfl⟩, hk⟩
    exact ⟨e, ⟨he, hk⟩, rfl⟩

/-- A key that passes the test keeps its value, and one that fails it has none. -/
theorem get?_filterKeys [DecidableEq κ] (d : Dict κ ν) (keep : κ → Bool) (key : κ) :
    (d.filterKeys keep).get? key = if keep key then d.get? key else none := by
  by_cases h : keep key
  · have he : (fun e : κ × ν => keep e.1 && decide (e.1 = key)) = fun e => decide (e.1 = key) := by
      funext e
      by_cases hk : e.1 = key <;> simp [hk, h]
    simp [get?, filterKeys, List.find?_filter, he, h]
  · have he : (fun e : κ × ν => keep e.1 && decide (e.1 = key)) = fun _ => false := by
      funext e
      by_cases hk : e.1 = key <;> simp [hk, h]
    simp [get?, filterKeys, List.find?_filter, he, h]

/-- Values are changed the same before and after keys are left out. -/
theorem filterKeys_mapValues (d : Dict κ ν) (f : κ → ν → ν) (keep : κ → Bool) :
    (d.mapValues f).filterKeys keep = (d.filterKeys keep).mapValues f := by
  have hentries : ((d.mapValues f).filterKeys keep).entries =
      ((d.filterKeys keep).mapValues f).entries := List.filter_map
  cases h : (d.mapValues f).filterKeys keep
  cases h' : (d.filterKeys keep).mapValues f
  rw [h, h'] at hentries
  cases hentries
  rfl

@[simp] theorem keys_mapValues (d : Dict κ ν) (f : κ → ν → ν) : (d.mapValues f).keys = d.keys :=
  List.map_map

/-- Each key has its changed value. -/
theorem get?_mapValues [DecidableEq κ] (d : Dict κ ν) (f : κ → ν → ν) (key : κ) :
    (d.mapValues f).get? key = (d.get? key).map (f key) := by
  unfold get? mapValues
  dsimp only
  rw [List.find?_map, Option.map_map, Option.map_map]
  cases h : d.entries.find? ((fun e => decide (e.1 = key)) ∘ fun e => (e.1, f e.1 e.2)) with
  | none =>
    rw [show d.entries.find? (fun e => decide (e.1 = key)) = none from h]
    rfl
  | some e =>
    have hkey : e.1 = key := by simpa using List.find?_some h
    rw [show d.entries.find? (fun e => decide (e.1 = key)) = some e from h, ← hkey]
    rfl

/-- Writing a key changes what is read for that key only. -/
theorem get?_insert [DecidableEq κ] (d : Dict κ ν) (key : κ) (value : ν) (other : κ) :
    (d.insert key value).get? other = if key = other then some value else d.get? other := by
  unfold get? insert
  dsimp only
  induction d.entries with
  | nil => by_cases h : key = other <;> simp [put, h]
  | cons e es ih =>
    by_cases h : e.1 = key
    · by_cases h' : key = other <;> simp_all [put]
    · by_cases h' : e.1 = other
      · have : key ≠ other := fun hk => h (h'.trans hk.symm)
        simp_all [put]
      · simp_all [put]

/-! ### Writing several pairs -/

theorem mem_entries_insert [DecidableEq κ] {d : Dict κ ν} {key : κ} {value : ν} {e : κ × ν}
    (h : e ∈ (d.insert key value).entries) : e = (key, value) ∨ e ∈ d.entries := by
  unfold insert at h
  dsimp only at h
  generalize d.entries = es at h ⊢
  induction es with
  | nil => exact .inl (List.mem_singleton.mp h)
  | cons f es ih =>
    rw [put] at h
    split at h
    · rcases List.mem_cons.mp h with h | h
      · exact .inl h
      · exact .inr (List.mem_cons_of_mem f h)
    · rcases List.mem_cons.mp h with h | h
      · exact .inr (h ▸ List.mem_cons_self)
      · rcases ih h with h | h
        · exact .inl h
        · exact .inr (List.mem_cons_of_mem f h)

theorem ofList_concat [DecidableEq κ] (es : List (κ × ν)) (e : κ × ν) :
    ofList (es ++ [e]) = (ofList es).insert e.1 e.2 := by
  rw [ofList, List.foldl_append]
  rfl

/-- The value of a key is the one that was written last. -/
theorem get?_ofList [DecidableEq κ] (es : List (κ × ν)) (key : κ) :
    (ofList es).get? key = (es.reverse.find? fun e => e.1 = key).map Prod.snd := by
  have hfold : ∀ (es : List (κ × ν)) (d : Dict κ ν),
      (es.foldl (fun d e => d.insert e.1 e.2) d).get? key =
        ((es.reverse.find? fun e => e.1 = key).map Prod.snd).or (d.get? key) := by
    intro es
    induction es with
    | nil => exact fun d => rfl
    | cons e es ih =>
      intro d
      rw [List.foldl_cons, ih, get?_insert, List.reverse_cons, List.find?_append]
      -- What is written later decides first, then the first pair, then what was there before.
      cases es.reverse.find? fun e => e.1 = key with
      | some last => rfl
      | none =>
        rw [Option.none_or, List.find?_singleton, Option.map_none, Option.none_or]
        by_cases h : e.1 = key
        · rw [if_pos h, if_pos (decide_eq_true h), Option.map_some, Option.some_or]
        · rw [if_neg h, if_neg (mt of_decide_eq_true h), Option.map_none, Option.none_or]
  rw [ofList, hfold, get?_empty, Option.or_none]

/-- Only pairs that were written are there. -/
theorem mem_of_mem_entries_ofList [DecidableEq κ] {es : List (κ × ν)} {e : κ × ν}
    (h : e ∈ (ofList es).entries) : e ∈ es := by
  have hfold : ∀ (es : List (κ × ν)) (d : Dict κ ν),
      e ∈ (es.foldl (fun d e => d.insert e.1 e.2) d).entries → e ∈ d.entries ∨ e ∈ es := by
    intro es
    induction es with
    | nil => exact fun d h => .inl h
    | cons f es ih =>
      intro d h
      rcases ih (d.insert f.1 f.2) h with h | h
      · rcases mem_entries_insert h with h | h
        · exact .inr (h ▸ List.mem_cons_self)
        · exact .inl h
      · exact .inr (List.mem_cons_of_mem f h)
  rcases hfold es empty h with h | h
  · cases h
  · exact h

/-- Pairs whose keys pass a test stay as they were written, if these keys are different. -/
theorem filter_entries_ofList [DecidableEq κ] {es : List (κ × ν)} {p : κ → Bool}
    (h : ((es.filter fun e => p e.1).map Prod.fst).Nodup) :
    (ofList es).entries.filter (fun e => p e.1) = es.filter fun e => p e.1 := by
  have hfold : ∀ (es : List (κ × ν)) (d : Dict κ ν),
      (((d.entries ++ es).filter fun e => p e.1).map Prod.fst).Nodup →
      (es.foldl (fun d e => d.insert e.1 e.2) d).entries.filter (fun e => p e.1) =
        (d.entries ++ es).filter fun e => p e.1 := by
    intro es
    induction es with
    | nil => exact fun d _ => by rw [List.foldl_nil, List.append_nil]
    | cons f es ih =>
      intro d h
      have hinsert : (d.insert f.1 f.2).entries.filter (fun e => p e.1) =
          (d.entries ++ [f]).filter fun e => p e.1 := by
        by_cases hf : p f.1 = true
        · -- A key that passes the test is new, for no other one is the same.
          have hnew : f.1 ∉ d.keys := by
            intro hmem
            obtain ⟨e, he, heq⟩ := List.mem_map.mp hmem
            rw [List.filter_append, List.filter_cons_of_pos (by exact hf), List.map_append,
              List.nodup_append] at h
            refine h.2.2 e.1 (List.mem_map_of_mem (List.mem_filter.mpr ⟨he, ?_⟩)) f.1
              List.mem_cons_self heq
            rw [heq, hf]
          rw [entries_insert_of_not_mem hnew]
        · rw [filter_entries_insert d f.2 (Bool.eq_false_iff.mpr hf), List.filter_append,
            List.filter_cons_of_neg (by exact hf), List.filter_nil, List.append_nil]
      have happend : (d.entries ++ f :: es).filter (fun e => p e.1) =
          ((d.insert f.1 f.2).entries ++ es).filter fun e => p e.1 := by
        rw [List.append_cons, List.filter_append, ← hinsert, ← List.filter_append]
      rw [List.foldl_cons, happend]
      rw [happend] at h
      exact ih (d.insert f.1 f.2) h
  exact hfold es empty h

/-- The pairs of a dictionary, written one after another, give the dictionary. -/
theorem ofList_entries [DecidableEq κ] (d : Dict κ ν) : ofList d.entries = d := by
  have hall : ∀ es : List (κ × ν), (es.filter fun _ => true) = es :=
    fun es => List.filter_eq_self.mpr fun _ _ => rfl
  have hkeys : ((d.entries.filter fun _ => true).map Prod.fst).Nodup := by
    rw [hall]
    exact d.keys_nodup
  have hd : (ofList d.entries).entries = d.entries := by
    have hfilter := filter_entries_ofList (p := fun _ => true) hkeys
    rwa [hall, hall] at hfilter
  generalize ofList d.entries = d' at hd
  cases d'
  cases d
  cases hd
  rfl

end Dict

end PreviewServer
