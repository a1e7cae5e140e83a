import PreviewServer.Media.Registry
import PreviewServer.Proofs.HeaderLines

/-!
# Extensions

An extension is what follows the last dot in the name of a file, unless the name begins with that
dot (`extensionOf?_eq_some_iff`).  It is registered and looked up with its dot, which may be left
out where it is written (`dotted_eq_iff`), and contains no other one.  So a type is looked up in
three places: as the extension is written, in lower case, and among the built-in types
(`lookup_eq`).
-/

namespace PreviewServer.Media

variable {e : String}

/-! ### Extensions and their dots -/

theorem toList_dot_append (e : String) : ("." ++ e).toList = '.' :: e.toList := by
  rw [String.toList_append]
  rfl

theorem exists_dotted_eq (key : String) : ∃ e, dotted key = "." ++ e := by
  unfold dotted
  split
  · rename_i hdot
    obtain ⟨cs, hcs⟩ := List.head?_eq_some_iff.mp hdot
    refine ⟨String.ofList cs, ?_⟩
    rw [← String.toList_inj, hcs, toList_dot_append, String.toList_ofList]
  · exact ⟨key, rfl⟩

theorem dot_append_inj {a b : String} : "." ++ a = "." ++ b ↔ a = b := by
  simp only [← String.toList_inj, toList_dot_append, List.cons.injEq, true_and]

/-- The keys of an extension are the extension with its dot and without. -/
theorem dotted_eq_iff {key e : String} (he : e.toList.head? ≠ some '.') :
    dotted key = "." ++ e ↔ key = "." ++ e ∨ key = e := by
  unfold dotted
  split
  · rename_i hdot
    refine ⟨.inl, ?_⟩
    rintro (h | rfl)
    · exact h
    · exact absurd hdot he
  · rename_i hdot
    rw [dot_append_inj]
    refine ⟨.inr, ?_⟩
    rintro (rfl | h)
    · exact absurd (by rw [toList_dot_append]; rfl) hdot
    · exact h

/-- A key has no extension if it is empty or a dot alone. -/
theorem utf8ByteSize_dotted_lt_iff (key : String) :
    (dotted key).utf8ByteSize < 2 ↔ key = "" ∨ key = "." := by
  obtain ⟨e, he⟩ := exists_dotted_eq key
  have hempty : dotted key = "." ++ "" ↔ key = "." ++ "" ∨ key = "" :=
    dotted_eq_iff (by decide)
  have hsize : (dotted key).utf8ByteSize = 1 + e.utf8ByteSize := by
    rw [he, String.utf8ByteSize_append]
    rfl
  have hzero : e.utf8ByteSize = 0 ↔ e = "" := String.utf8ByteSize_eq_zero_iff
  rw [he, dot_append_inj, String.append_empty] at hempty
  rw [hsize, or_comm, ← hempty, ← hzero]
  omega

/-! ### Extensions of names -/

/-- Whether the name of a file ends in a dot and this extension, with something before the dot. -/
def IsExtension (name : Name) (e : Bytes) : Prop :=
  ∃ stem, stem ≠ [] ∧ name = stem ++ 0x2E :: e ∧ 0x2E ∉ e

/-- What follows the last dot of a name is its extension. -/
theorem extensionOf?_eq_some_iff {name : Name} {bs : Bytes} (hname : name ≠ dotDot) :
    Registry.extensionOf? name = some bs ↔ IsExtension name bs := by
  unfold Registry.extensionOf? IsExtension
  rw [if_neg hname]
  constructor
  · intro h
    split at h
    · cases h
    · rename_i extension stem hne hcut
      cases h
      obtain ⟨hsplit, hdot⟩ := eq_of_cut? hcut
      refine ⟨stem.reverse, ?_, ?_, ?_⟩
      · rw [Ne, List.reverse_eq_nil_iff]
        exact hne
      · rw [← List.reverse_reverse name, hsplit]
        simp
      · rwa [List.mem_reverse]
    · cases h
  · rintro ⟨stem, hstem, rfl, hdot⟩
    have hcut : cut? 0x2E (stem ++ 0x2E :: bs).reverse = some (bs.reverse, stem.reverse) := by
      rw [List.reverse_append, List.reverse_cons, List.append_assoc]
      exact cut?_append (by rwa [List.mem_reverse]) _
    obtain ⟨b, rest, hrest⟩ := List.exists_cons_of_ne_nil (mt List.reverse_eq_nil_iff.mp hstem)
    rw [hcut, hrest]
    dsimp only
    rw [List.reverse_reverse]

/-- Letters in lower case are no dots. -/
theorem toLower_eq_dot_iff {c : Char} : c.toLower = '.' ↔ c = '.' := by
  unfold Char.toLower
  split
  · rename_i hupper
    have hlow : 65 ≤ c.val.toNat := hupper.1
    have hhigh : c.val.toNat ≤ 90 := hupper.2
    refine iff_of_false ?_ ?_
    · intro h
      have hval : (c.val + ('a'.val - 'A'.val)).toNat = 46 := congrArg (·.val.toNat) h
      rw [UInt32.toNat_add, show ('a'.val - 'A'.val).toNat = 32 from rfl] at hval
      omega
    · rintro rfl
      exact absurd hlow (by decide)
  · exact Iff.rfl

theorem dot_mem_asciiLower_iff : '.' ∈ (asciiLower e).toList ↔ '.' ∈ e.toList := by
  rw [asciiLower, String.toList_ofList, List.mem_map]
  simp only [toLower_eq_dot_iff, exists_eq_right]

theorem asciiLower_dot_append (e : String) : asciiLower ("." ++ e) = "." ++ asciiLower e := by
  rw [asciiLower, toList_dot_append, List.map_cons, ← String.toList_inj, toList_dot_append,
    asciiLower, String.toList_ofList, String.toList_ofList]
  rfl

/-- Nothing is taken off an extension but the dot before it. -/
theorem withoutDots_dot_append (he : '.' ∉ e.toList) :
    Registry.withoutDots ("." ++ e) = e := by
  have hrest : e.toList.dropWhile (· = '.') = e.toList := by
    cases hcs : e.toList with
    | nil => rfl
    | cons c cs =>
      rw [hcs, List.mem_cons, not_or] at he
      exact List.dropWhile_cons_of_neg (by simpa using Ne.symm he.1)
  rw [Registry.withoutDots, toList_dot_append, List.dropWhile_cons_of_pos (by decide), hrest,
    String.ofList_toList]

/-- An extension is looked up in three places. -/
theorem lookup_eq (types : Registry) (he : '.' ∉ e.toList) :
    types.lookup e =
      (((types.registered.get? ("." ++ e)).or (types.registered.get? ("." ++ asciiLower e))).or
        (builtin? (asciiLower e))).getD fallback := by
  have hdotted : dotted e = "." ++ e :=
    (dotted_eq_iff fun hdot => he (List.mem_of_head? hdot)).mpr (.inr rfl)
  unfold Registry.lookup
  rw [hdotted, asciiLower_dot_append]
  dsimp only
  rw [withoutDots_dot_append (mt dot_mem_asciiLower_iff.mp he)]
  cases types.registered.get? ("." ++ e) with
  | some t => rfl
  | none =>
    cases types.registered.get? ("." ++ asciiLower e) with
    | some t => rfl
    | none => rw [Option.none_or, Option.none_or]

end PreviewServer.Media
