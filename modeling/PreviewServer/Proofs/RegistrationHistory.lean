import PreviewServer.Proofs.ConfiguredTypes

/-!
# Media types from the history of a registry

What a registry answers is decided by the calls that were made to register media types: of those
that succeeded, and the types that were there from the start, the last one for an extension counts.
`history` is the list of these and `typeByHistory` the type that it gives to an extension; neither
of them knows of a dictionary.

One call either fails and changes nothing, or writes one key
(`Registry.afterCall_of_not_isRefused`).  So the dictionary of a registry is the history written
down from front to back (`Registry.registered_after`).  What is read of it is shown by induction on
the history from its end: the last entry decides for its own key (`get?_registeredAfter_empty`), and
the keys are those of all entries (`toFinset_keys_registeredAfter`).
`Registry.lookup_and_size_after` puts this together for any calls.
-/

namespace PreviewServer.Media

open Settings (IsRefused registeredAfter register_of_isRefused register_of_not_isRefused)

variable {calls entries : List (String × String)} {key type : String}

/-! ### The history -/

/-- The types that are there from the start and those of the calls that succeed, in the order of
time. -/
def history (presets calls : List (String × String)) : List (String × String) :=
  presets ++ calls.filter fun call => ¬ IsRefused call

/-- The type of the last entry whose extension with its dot is `key`. -/
def lastType? (entries : List (String × String)) (key : String) : Option String :=
  (entries.reverse.find? fun entry => dotted entry.1 = key).map Prod.snd

/-- The type of an extension by a history: the last one for exactly this extension, else the last
one for its lower-case form, else the built-in type of that form without dots at its start. -/
def typeByHistory (entries : List (String × String)) (extension : String) : String :=
  let exact := dotted extension
  let lowered := asciiLower exact
  (((lastType? entries exact).or (lastType? entries lowered)).or
    (builtin? (Registry.withoutDots lowered))).getD fallback

/-- The last entry decides for its own key only. -/
theorem lastType?_concat (entries : List (String × String)) (entry : String × String)
    (key : String) :
    lastType? (entries ++ [entry]) key =
      if dotted entry.1 = key then some entry.2 else lastType? entries key := by
  rw [lastType?, List.reverse_append, List.reverse_singleton, List.singleton_append,
    List.find?_cons]
  by_cases h : dotted entry.1 = key
  · rw [if_pos h, decide_eq_true h]
    rfl
  · rw [if_neg h, decide_eq_false h]
    rfl

theorem exists_mem_of_lastType?_eq_some (h : lastType? entries key = some type) :
    ∃ extension, (extension, type) ∈ entries := by
  obtain ⟨entry, hfind, rfl⟩ := Option.map_eq_some_iff.mp h
  exact ⟨entry.1, List.mem_reverse.mp (List.mem_of_find?_eq_some hfind)⟩

/-! ### Writing the history down -/

theorem registeredAfter_append (d : Dict String String)
    (before after : List (String × String)) :
    registeredAfter d (before ++ after) = registeredAfter (registeredAfter d before) after :=
  List.foldl_append

/-- **The last writer wins.** -/
theorem get?_registeredAfter_empty (entries : List (String × String)) (key : String) :
    (registeredAfter Dict.empty entries).get? key = lastType? entries key := by
  -- The newest entry is looked at first, so the induction takes entries off the end.
  induction entries using List.reverseRecOn with
  | nil => rfl
  | append_singleton entries entry ih =>
    rw [lastType?_concat, ← ih, registeredAfter_append]
    exact Dict.get?_insert _ _ _ _

/-- The keys are the extensions of all entries. -/
theorem toFinset_keys_registeredAfter (entries : List (String × String)) :
    (registeredAfter Dict.empty entries).keys.toFinset =
      (entries.map fun entry => dotted entry.1).toFinset := by
  induction entries using List.reverseRecOn with
  | nil => rfl
  | append_singleton entries entry ih =>
    ext key
    rw [registeredAfter_append, List.map_append, List.toFinset_append, ← ih, Finset.mem_union,
      List.mem_toFinset, List.mem_toFinset, List.mem_toFinset, List.map_singleton,
      List.mem_singleton, or_comm]
    exact Dict.mem_keys_insert

/-- **There are as many keys as different extensions.** -/
theorem size_registeredAfter_empty (entries : List (String × String)) :
    (registeredAfter Dict.empty entries).size =
      (entries.map fun entry => dotted entry.1).toFinset.card := by
  have hnodup : (registeredAfter Dict.empty entries).keys.Nodup := Dict.keys_nodup _
  rw [← toFinset_keys_registeredAfter, List.toFinset_card_of_nodup hnodup, Dict.keys,
    List.length_map, Dict.size]

namespace Registry

/-! ### Calls -/

/-- The registry after one call.  A call that fails changes nothing. -/
def afterCall (r : Registry) (call : String × String) : Registry :=
  match r.register call.1 call.2 with
  | .ok r' => r'
  | .error _ => r

/-- The registry after some calls, one after another. -/
def after (r : Registry) (calls : List (String × String)) : Registry := calls.foldl afterCall r

/-- A registry to start from, and the types that it already has. -/
inductive IsStart : Registry → List (String × String) → Prop where
  /-- Nothing is registered yet. -/
  | builtinOnly : IsStart .builtinOnly []
  /-- WebAssembly modules have their type. -/
  | preview : IsStart .preview [(".wasm", "application/wasm")]

theorem after_concat (r : Registry) (calls : List (String × String)) (call : String × String) :
    r.after (calls ++ [call]) = (r.after calls).afterCall call :=
  List.foldl_concat afterCall r call calls

theorem afterCall_of_isRefused {r : Registry} {call : String × String} (h : IsRefused call) :
    r.afterCall call = r := by
  obtain ⟨cause, hcause⟩ := register_of_isRefused (r := r) h
  rw [afterCall, hcause]

theorem afterCall_of_not_isRefused {r : Registry} {call : String × String} (h : ¬ IsRefused call) :
    r.afterCall call = ⟨r.registered.insert (dotted call.1) call.2⟩ := by
  rw [afterCall, register_of_not_isRefused h]

/-- **When a call fails.** -/
theorem exists_register_eq_error_iff (r : Registry) (call : String × String) :
    (∃ cause, r.register call.1 call.2 = .error cause) ↔ IsRefused call := by
  constructor
  · rintro ⟨cause, hcause⟩
    by_contra h
    rw [register_of_not_isRefused h] at hcause
    cases hcause
  · exact register_of_isRefused

/-- A call is refused for its extension or for its type. -/
theorem isRefused_iff (call : String × String) :
    IsRefused call ↔ (dotted call.1).utf8ByteSize < 2 ∨ trimBlanks call.2.toList = [] := by
  rw [utf8ByteSize_dotted_lt_iff, or_assoc, IsRefused]

/-- What is registered after some calls is what was, with the calls that succeed written down. -/
theorem registered_after (r : Registry) (calls : List (String × String)) :
    (r.after calls).registered =
      registeredAfter r.registered (calls.filter fun call => ¬ IsRefused call) := by
  induction calls generalizing r with
  | nil => rfl
  | cons call calls ih =>
    rw [after, List.foldl_cons, ← after, ih]
    -- A call that fails is neither written down nor part of the history.
    by_cases h : IsRefused call
    · rw [afterCall_of_isRefused h, List.filter_cons_of_neg (by simpa using h)]
    · rw [afterCall_of_not_isRefused h, List.filter_cons_of_pos (by simpa using h)]
      rfl

theorem IsStart.registered_after {start : Registry} {presets : List (String × String)}
    (h : IsStart start presets) (calls : List (String × String)) :
    (start.after calls).registered = registeredAfter Dict.empty (history presets calls) := by
  have hstart : start.registered = registeredAfter Dict.empty presets := by
    cases h with
    | builtinOnly => rfl
    | preview => rfl
  rw [Registry.registered_after, hstart, history, registeredAfter_append]

/-! ### Types are never blank -/

/-- A built-in type has a slash in it, so it is not blank. -/
theorem not_blank_of_mem_table : ∀ row ∈ Builtin.table, trimBlanks row.1.toList ≠ [] := by
  have hslash : ∀ row ∈ Builtin.table, 0x2F ∈ Utf8.encode row.1 := by
    simp only [Builtin.table, List.forall_mem_append]
    refine ⟨⟨⟨⟨⟨⟨⟨?_, ?_⟩, ?_⟩, ?_⟩, ?_⟩, ?_⟩, ?_⟩, ?_⟩ <;> decide +kernel
  intro row hrow hblank
  have hmem : '/' ∈ row.1.toList :=
    (Utf8.mem_encode_iff (c := '/') (by decide)).mp (hslash row hrow)
  exact absurd (trimBlanks_eq_nil_iff.mp hblank '/' hmem) (by decide)

/-- No type in a history is blank. -/
theorem IsStart.not_blank_of_mem_history {start : Registry} {presets : List (String × String)}
    (h : IsStart start presets) {calls : List (String × String)} {entry : String × String}
    (hmem : entry ∈ history presets calls) : trimBlanks entry.2.toList ≠ [] := by
  rcases List.mem_append.mp hmem with hpreset | hcall
  · cases h with
    | builtinOnly => cases hpreset
    | preview =>
      rw [List.mem_singleton.mp hpreset]
      decide
  · obtain ⟨-, hkeep⟩ := List.mem_filter.mp hcall
    exact fun hblank => of_decide_eq_true hkeep (.inr (.inr hblank))

/-- **No type is blank**, whatever the history. -/
theorem IsStart.not_blank_typeByHistory {start : Registry} {presets : List (String × String)}
    (h : IsStart start presets) (calls : List (String × String)) (extension : String) :
    trimBlanks (typeByHistory (history presets calls) extension).toList ≠ [] := by
  have hlast : ∀ {key type}, lastType? (history presets calls) key = some type →
      trimBlanks type.toList ≠ [] := by
    intro key type htype
    obtain ⟨extension, hmem⟩ := exists_mem_of_lastType?_eq_some htype
    exact h.not_blank_of_mem_history hmem
  have hbuiltin : ∀ extension, trimBlanks ((builtin? extension).getD fallback).toList ≠ [] := by
    intro extension
    cases hrow : builtin? extension with
    | none => decide
    | some type =>
      obtain ⟨row, hfind, rfl⟩ := Option.map_eq_some_iff.mp hrow
      exact not_blank_of_mem_table row (List.mem_of_find?_eq_some hfind)
  unfold typeByHistory
  dsimp only
  cases hexact : lastType? (history presets calls) (dotted extension) with
  | some type =>
    rw [Option.some_or, Option.some_or, Option.getD_some]
    exact hlast hexact
  | none =>
    cases hlowered : lastType? (history presets calls) (asciiLower (dotted extension)) with
    | some type =>
      rw [Option.none_or, Option.some_or, Option.getD_some]
      exact hlast hlowered
    | none =>
      rw [Option.none_or, Option.none_or]
      exact hbuiltin _

/-! ### Looking up -/

/-- A registry that has a history written down answers by it. -/
theorem lookup_eq_typeByHistory {r : Registry} {entries : List (String × String)}
    (h : r.registered = registeredAfter Dict.empty entries) (extension : String) :
    r.lookup extension = typeByHistory entries extension := by
  unfold lookup typeByHistory
  rw [h, get?_registeredAfter_empty]
  dsimp only
  rw [get?_registeredAfter_empty]
  cases lastType? entries (dotted extension) with
  | some type => rfl
  | none =>
    cases lastType? entries (asciiLower (dotted extension)) with
    | some type => rfl
    | none => rw [Option.none_or, Option.none_or]

/-- The dot before an extension may be left out. -/
theorem lookup_dot_append (r : Registry) {extension : String}
    (h : extension.toList.head? ≠ some '.') : r.lookup ("." ++ extension) = r.lookup extension := by
  have hdot : dotted ("." ++ extension) = "." ++ extension := (dotted_eq_iff h).mpr (.inl rfl)
  have hplain : dotted extension = "." ++ extension := (dotted_eq_iff h).mpr (.inr rfl)
  rw [lookup, lookup, hdot, hplain]

/-- **A registry is its history, and the last writer wins.**  A call fails exactly if there is no
extension or the type is blank, and then it changes nothing.  There are as many registered types as
different extensions in the history, and the type of an extension is the one that the history gives
to it.  This is never blank, and the same with and without the dot before the extension. -/
theorem lookup_and_size_after {start : Registry} {presets : List (String × String)}
    (h : IsStart start presets) (calls : List (String × String)) :
    (∀ call : String × String,
      ((∃ cause, (start.after calls).register call.1 call.2 = .error cause) ↔ IsRefused call) ∧
      (IsRefused call ↔ (dotted call.1).utf8ByteSize < 2 ∨ trimBlanks call.2.toList = [])) ∧
    (∀ (call : String × String) (cause : RegisterError),
      (start.after calls).register call.1 call.2 = .error cause →
        start.after (calls ++ [call]) = start.after calls) ∧
    (start.after calls).size =
      ((history presets calls).map fun entry => dotted entry.1).toFinset.card ∧
    ∀ extension,
      (start.after calls).lookup extension = typeByHistory (history presets calls) extension ∧
      trimBlanks ((start.after calls).lookup extension).toList ≠ [] ∧
      (extension.toList.head? ≠ some '.' →
        (start.after calls).lookup extension = (start.after calls).lookup ("." ++ extension)) := by
  have hregistered := h.registered_after calls
  refine ⟨fun call => ⟨exists_register_eq_error_iff _ call, isRefused_iff call⟩, ?_, ?_, ?_⟩
  · intro call cause hcause
    rw [after_concat, afterCall, hcause]
  · rw [size, hregistered, size_registeredAfter_empty]
  · intro extension
    have hlookup := lookup_eq_typeByHistory hregistered extension
    refine ⟨hlookup, ?_, fun hdot => (lookup_dot_append _ hdot).symm⟩
    rw [hlookup]
    exact h.not_blank_typeByHistory calls extension

/-- Calls of which the second and the third fail, and the last ones are about two spellings of one
extension and about the preset. -/
def mixedCalls : List (String × String) :=
  [("DATA", "text/upper"), (".data", " "), ("", "text/none"), (".data", "text/first"),
    ("data", "text/second"), ("wasm", "application/x-module")]

/-- The spelling in upper case has its own type, any other one that of the lower case, and the
preset is replaced. -/
theorem lookup_after_mixedCalls :
    IsStart .preview [(".wasm", "application/wasm")] ∧
      (preview.after mixedCalls).size = 3 ∧
      (preview.after mixedCalls).lookup "DATA" = "text/upper" ∧
      (preview.after mixedCalls).lookup "Data" = "text/second" ∧
      (preview.after mixedCalls).lookup ".Wasm" = "application/x-module" ∧
      "Data".toList.head? ≠ some '.' ∧
      (preview.after mixedCalls).lookup "Data" = (preview.after mixedCalls).lookup ".Data" := by
  obtain ⟨-, -, hsize, hlookup⟩ := lookup_and_size_after .preview mixedCalls
  have hdot : "Data".toList.head? ≠ some '.' := by decide
  refine ⟨.preview, hsize.trans (by decide), (hlookup "DATA").1.trans (by decide),
    (hlookup "Data").1.trans (by decide), (hlookup ".Wasm").1.trans (by decide), hdot,
    (hlookup "Data").2.2 hdot⟩

end Registry

end PreviewServer.Media
