import PreviewServer.Proofs.ResponseFraming
import Mathlib.Data.Finset.Card
import Mathlib.Data.List.Induction

/-!
# Responses built in steps

A response is built in steps: header fields and the body are set, in any order and as often as one
likes, and a length is added at the end if none was set (`Response.builtBy`).  What it should
declare as its length is said by the steps alone (`DraftStep.lengthToDeclare`): the length that was
set last, in whatever letter case of the name, and that of the body if none was.

The draft after all steps has what was set last (`ResponseDraft.foldl_after`), so the fields of the
response are these and the length that is added (`Response.get?_builtBy`).  Names count there as
they are spelled.  So a response declares as many lengths as there are spellings of the name
(`Response.length_lengthFields_builtBy`), one of which is always `Content-Length`; and it declares
one length, and the right one, exactly if there is no other spelling
(`Response.exists_lengthFields_eq_iff`).
-/

namespace PreviewServer

/-! ### Steps -/

/-- Whether a field of this name declares a length: it is `Content-Length`, in any letter case. -/
def isLengthName (name : String) : Bool := sameIgnoringCase name "Content-Length"

/-- A step in building a response. -/
inductive DraftStep where
  /-- A header field is set. -/
  | header (name value : String)
  /-- The body is set. -/
  | body (bytes : Bytes)

/-- The draft after a step. -/
def ResponseDraft.after (d : ResponseDraft) : DraftStep → ResponseDraft
  | .header name value => d.withHeader name value
  | .body bytes => d.withBody bytes

/-- The response with a status that is built by some steps, one after another. -/
def Response.builtBy (status : Status) (steps : List DraftStep) : Response :=
  (steps.foldl ResponseDraft.after { status := status }).build

namespace DraftStep

/-- The field that a step sets. -/
def field? : DraftStep → Option (String × String)
  | header name value => some (name, value)
  | body _ => none

/-- The body that a step sets. -/
def body? : DraftStep → Option Bytes
  | header _ _ => none
  | body bytes => some bytes

/-- The fields that are set, in the order of time. -/
def fieldsSet (steps : List DraftStep) : List (String × String) := steps.filterMap field?

/-- The value that is set last under a name that passes a test. -/
def lastValue? (steps : List DraftStep) (p : String → Bool) : Option String :=
  ((fieldsSet steps).reverse.find? fun field => p field.1).map Prod.snd

/-- The body that is set last.  Without any it is empty. -/
def lastBody (steps : List DraftStep) : Bytes := (steps.filterMap body?).getLast?.getD []

/-- The length that a response built by these steps should declare: the one that is set last, in any
letter case of the name, or else that of the body. -/
def lengthToDeclare (steps : List DraftStep) : String :=
  (lastValue? steps isLengthName).getD (toString (lastBody steps).length)

/-- Whether the name of the length, wherever it is set, is spelled in one way. -/
def SpellsOneLength (steps : List DraftStep) : Prop :=
  ∀ field ∈ fieldsSet steps, isLengthName field.1 → field.1 = "Content-Length"

/-- The spellings of the name of the length: those that are set, and the one that is added. -/
def lengthNames (steps : List DraftStep) : Finset String :=
  (("Content-Length" :: (fieldsSet steps).map Prod.fst).filter isLengthName).toFinset

variable {steps : List DraftStep}

/-! ### What one more step sets -/

@[simp] theorem fieldsSet_concat_header (steps : List DraftStep) (name value : String) :
    fieldsSet (steps ++ [header name value]) = fieldsSet steps ++ [(name, value)] :=
  List.filterMap_append

@[simp] theorem fieldsSet_concat_body (steps : List DraftStep) (bytes : Bytes) :
    fieldsSet (steps ++ [body bytes]) = fieldsSet steps :=
  List.filterMap_append.trans (List.append_nil _)

@[simp] theorem lastBody_concat_header (steps : List DraftStep) (name value : String) :
    lastBody (steps ++ [header name value]) = lastBody steps := by
  have hbodies : (steps ++ [header name value]).filterMap body? = steps.filterMap body? :=
    List.filterMap_append.trans (List.append_nil _)
  rw [lastBody, hbodies, lastBody]

@[simp] theorem lastBody_concat_body (steps : List DraftStep) (bytes : Bytes) :
    lastBody (steps ++ [body bytes]) = bytes := by
  have hbodies : (steps ++ [body bytes]).filterMap body? = steps.filterMap body? ++ [bytes] :=
    List.filterMap_append
  rw [lastBody, hbodies, List.getLast?_concat, Option.getD_some]

/-! ### What was set -/

theorem isSome_lastValue?_iff (steps : List DraftStep) (p : String → Bool) :
    (lastValue? steps p).isSome ↔ ∃ field ∈ fieldsSet steps, p field.1 := by
  rw [lastValue?, Option.isSome_map, List.find?_isSome]
  simp only [List.mem_reverse]

/-- A value under a name was set there. -/
theorem mem_fieldsSet_of_lastValue?_eq_some {name value : String}
    (h : lastValue? steps (· = name) = some value) : (name, value) ∈ fieldsSet steps := by
  obtain ⟨field, hfind, rfl⟩ := Option.map_eq_some_iff.mp h
  have hname : field.1 = name := by simpa using List.find?_some hfind
  rw [← hname]
  exact List.mem_reverse.mp (List.mem_of_find?_eq_some hfind)

/-- The spellings of the name are the one that is added and those that are set. -/
theorem mem_lengthNames_iff {name : String} :
    name ∈ lengthNames steps ↔
      isLengthName name ∧ (name = "Content-Length" ∨ ∃ field ∈ fieldsSet steps, field.1 = name) := by
  rw [lengthNames, List.mem_toFinset, List.mem_filter, List.mem_cons, List.mem_map, and_comm]

/-- The name is spelled in one way exactly if there is no other spelling than the one added. -/
theorem spellsOneLength_iff :
    SpellsOneLength steps ↔ lengthNames steps = {"Content-Length"} := by
  constructor
  · intro h
    ext name
    rw [mem_lengthNames_iff, Finset.mem_singleton]
    constructor
    · rintro ⟨hlength, rfl | ⟨field, hfield, rfl⟩⟩
      · rfl
      · exact h field hfield hlength
    · rintro rfl
      exact ⟨sameIgnoringCase_refl _, .inl rfl⟩
  · intro h field hfield hlength
    have hmem : field.1 ∈ lengthNames steps :=
      mem_lengthNames_iff.mpr ⟨hlength, .inr ⟨field, hfield, rfl⟩⟩
    rw [h, Finset.mem_singleton] at hmem
    exact hmem

/-- With one spelling, the length that is set last is the one set last under this spelling. -/
theorem SpellsOneLength.lengthToDeclare_eq (h : SpellsOneLength steps) :
    lengthToDeclare steps =
      (lastValue? steps (· = "Content-Length")).getD (toString (lastBody steps).length) := by
  have hname : ∀ field ∈ (fieldsSet steps).reverse,
      isLengthName field.1 = decide (field.1 = "Content-Length") := by
    intro field hfield
    rw [Bool.eq_iff_iff, decide_eq_true_iff]
    constructor
    · exact h field (List.mem_reverse.mp hfield)
    · intro heq
      rw [heq]
      exact sameIgnoringCase_refl _
  rw [lengthToDeclare, lastValue?, lastValue?, ← List.head?_filter, ← List.head?_filter,
    List.filter_congr hname]

end DraftStep

open DraftStep

/-! ### The fields of a response that was built -/

/-- **The draft after some steps has what was set last.** -/
theorem ResponseDraft.foldl_after (status : Status) (steps : List DraftStep) :
    steps.foldl ResponseDraft.after { status := status } =
      { status := status, headers := Dict.ofList (fieldsSet steps), body := lastBody steps } := by
  -- The newest step decides, so the induction takes steps off the end.
  induction steps using List.reverseRecOn with
  | nil => rfl
  | append_singleton steps step ih =>
    rw [List.foldl_concat, ih]
    cases step with
    | header name value =>
      rw [fieldsSet_concat_header, lastBody_concat_header, Dict.ofList_concat]
      rfl
    | body bytes =>
      rw [fieldsSet_concat_body, lastBody_concat_body]
      rfl

/-- A finished draft has the fields that were set, and the length of its body under the one name
that was not. -/
theorem ResponseDraft.get?_build (d : ResponseDraft) (name : String) :
    d.build.headers.get? name =
      (d.headers.get? name).or
        (if name = "Content-Length" then some (toString d.body.length) else none) := by
  unfold ResponseDraft.build
  dsimp only
  cases hset : d.headers.get? "Content-Length" with
  | some value =>
    by_cases hname : name = "Content-Length"
    · rw [hname, hset]
      rfl
    · rw [if_neg hname, Option.or_none]
  | none =>
    dsimp only
    rw [Dict.get?_insert]
    by_cases hname : name = "Content-Length"
    · rw [if_pos hname.symm, if_pos hname, hname, hset]
      rfl
    · rw [if_neg (Ne.symm hname), if_neg hname, Option.or_none]

namespace Response

variable {status : Status} {steps : List DraftStep}

/-- **The fields of a response that was built**: what was set last under each name, and the length
of the body if none was set under the name spelled `Content-Length`. -/
theorem get?_builtBy (status : Status) (steps : List DraftStep) (name : String) :
    (builtBy status steps).headers.get? name =
      (lastValue? steps (· = name)).or
        (if name = "Content-Length" then some (toString (lastBody steps).length) else none) := by
  rw [builtBy, ResponseDraft.foldl_after, ResponseDraft.get?_build, Dict.get?_ofList, lastValue?]

/-- The fields of a response that was built are those that were set last, and perhaps the length of
its body. -/
theorem mem_entries_builtBy_iff {field : String × String} :
    field ∈ (builtBy status steps).headers.entries ↔
      lastValue? steps (· = field.1) = some field.2 ∨
        lastValue? steps (· = "Content-Length") = none ∧
          field = ("Content-Length", toString (lastBody steps).length) := by
  obtain ⟨name, value⟩ := field
  rw [← Dict.get?_eq_some_iff, get?_builtBy, Option.or_eq_some_iff]
  by_cases hname : name = "Content-Length"
  · subst hname
    simp [eq_comm]
  · simp [hname]

theorem mem_lengthFields_iff {r : Response} {field : String × String} :
    field ∈ r.lengthFields ↔ isLengthName field.1 ∧ r.headers.get? field.1 = some field.2 := by
  rw [lengthFields, List.mem_filter, Dict.get?_eq_some_iff, and_comm]
  rfl

/-- The lengths of a response are declared under all spellings of the name. -/
theorem toFinset_map_fst_lengthFields (status : Status) (steps : List DraftStep) :
    ((builtBy status steps).lengthFields.map Prod.fst).toFinset = lengthNames steps := by
  have hvalue : ∀ name, (∃ value, (builtBy status steps).headers.get? name = some value) ↔
      name = "Content-Length" ∨ ∃ field ∈ fieldsSet steps, field.1 = name := by
    intro name
    have hset := isSome_lastValue?_iff steps (· = name)
    simp only [decide_eq_true_eq] at hset
    rw [← Option.isSome_iff_exists, get?_builtBy, Option.isSome_or, Bool.or_eq_true, hset, or_comm]
    by_cases hname : name = "Content-Length" <;> simp [hname]
  ext name
  rw [List.mem_toFinset, List.mem_map, mem_lengthNames_iff, ← hvalue]
  constructor
  · rintro ⟨field, hfield, rfl⟩
    obtain ⟨hlength, hget⟩ := mem_lengthFields_iff.mp hfield
    exact ⟨hlength, field.2, hget⟩
  · rintro ⟨hlength, value, hget⟩
    exact ⟨(name, value), mem_lengthFields_iff.mpr ⟨hlength, hget⟩, rfl⟩

/-- **A response declares as many lengths as there are spellings of the name.** -/
theorem length_lengthFields_builtBy (status : Status) (steps : List DraftStep) :
    (builtBy status steps).lengthFields.length = (lengthNames steps).card := by
  have hnodup : ((builtBy status steps).lengthFields.map Prod.fst).Nodup :=
    (builtBy status steps).headers.keys_nodup.sublist (List.filter_sublist.map _)
  rw [← toFinset_map_fst_lengthFields status, List.toFinset_card_of_nodup hnodup,
    List.length_map]

/-- One length is declared, and the right one, exactly if its name is spelled in one way. -/
theorem exists_lengthFields_eq_iff (status : Status) (steps : List DraftStep) :
    (∃ name, (builtBy status steps).lengthFields = [(name, lengthToDeclare steps)]) ↔
      SpellsOneLength steps := by
  have hcard := length_lengthFields_builtBy status steps
  rw [spellsOneLength_iff]
  constructor
  · rintro ⟨name, hfields⟩
    rw [hfields, List.length_singleton] at hcard
    obtain ⟨spelling, hnames⟩ := Finset.card_eq_one.mp hcard.symm
    have hadded : "Content-Length" ∈ lengthNames steps :=
      mem_lengthNames_iff.mpr ⟨sameIgnoringCase_refl _, .inl rfl⟩
    rw [hnames, Finset.mem_singleton] at hadded
    rw [hnames, hadded]
  · -- The one field there is has the spelling that is added, so its value is the last one under it.
    intro hnames
    rw [hnames, Finset.card_singleton] at hcard
    obtain ⟨field, hfields⟩ := List.length_eq_one_iff.mp hcard
    have hname : field.1 = "Content-Length" := by
      have hmem := toFinset_map_fst_lengthFields status steps
      rw [hfields, hnames] at hmem
      simpa using hmem
    have hmem : field ∈ (builtBy status steps).lengthFields := by
      rw [hfields]
      exact List.mem_singleton_self field
    have hvalue : field.2 = lengthToDeclare steps := by
      have hget := (mem_lengthFields_iff.mp hmem).2
      rw [get?_builtBy, hname, if_pos rfl, Option.or_some, Option.some_inj] at hget
      rw [← hget, (spellsOneLength_iff.mpr hnames).lengthToDeclare_eq]
    exact ⟨field.1, by rw [hfields, ← hvalue]⟩

end Response

end PreviewServer
