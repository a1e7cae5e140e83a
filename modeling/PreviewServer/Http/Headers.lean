import PreviewServer.Dict
import PreviewServer.Text.AsciiCase

/-!
# Header fields

The header fields of a message are a dictionary keyed by the names exactly as they were written,
so that they can be sent on unchanged.  The dictionary is a map and keeps no order: whenever its
fields are gone through, to find one or to write them all, they come in some order (`FieldOrder`),
which may be another one each time.

Fields are looked up without regard to ASCII case: `find?` answers with the first field, in the
order in which they come, whose name is the same up to case.
-/

namespace PreviewServer

/-- The header fields of a message, keyed by their names as written. -/
abbrev Headers := Dict String String

/-- An order in which header fields come when they are gone through. -/
structure FieldOrder where
  /-- The fields in this order. -/
  arrange : List (String × String) → List (String × String)
  /-- None is left out and none is added. -/
  arrange_perm : ∀ fields, (arrange fields).Perm fields

/-- The order in which the fields were set. -/
def FieldOrder.asSet : FieldOrder := { arrange := id, arrange_perm := fun _ => .refl _ }

theorem FieldOrder.mem_arrange {order : FieldOrder} {fields : List (String × String)}
    {field : String × String} : field ∈ order.arrange fields ↔ field ∈ fields :=
  (order.arrange_perm fields).mem_iff

namespace Headers

/-- The value of the first field with this name, in any ASCII case, when the fields come in this
order. -/
def find? (order : FieldOrder) (h : Headers) (name : String) : Option String :=
  ((order.arrange h.entries).find? fun e => sameIgnoringCase e.1 name).map Prod.snd

/-- Whether there is a field with this name, in any ASCII case. -/
def has (h : Headers) (name : String) : Bool := h.entries.any fun e => sameIgnoringCase e.1 name

/-- Whether a field is found does not depend on the order. -/
theorem isSome_find? (order : FieldOrder) (h : Headers) (name : String) :
    (h.find? order name).isSome = h.has name := by
  rw [find?, has, Option.isSome_map, Bool.eq_iff_iff, List.find?_isSome, List.any_eq_true]
  simp only [FieldOrder.mem_arrange]

end Headers

end PreviewServer
