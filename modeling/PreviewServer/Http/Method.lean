/-!
# Request methods

The methods a request line may name.  Tokens are matched exactly, so `get` names no method; only
`GET` and `HEAD` are served, the others are recognised in order to be refused politely.
-/

namespace PreviewServer

/-- A request method. -/
inductive Method where
  /-- Retrieve a resource. -/
  | get
  /-- Create or submit data. -/
  | post
  /-- Replace a resource. -/
  | put
  /-- Delete a resource. -/
  | delete
  /-- Retrieve a resource without its body. -/
  | head
  /-- Describe the communication options. -/
  | options
  /-- Modify a resource in part. -/
  | patch
  deriving DecidableEq, Repr

namespace Method

/-- Every method. -/
def all : List Method := [.get, .post, .put, .delete, .head, .options, .patch]

/-- The token that names a method on the request line. -/
def token : Method → String
  | .get => "GET"
  | .post => "POST"
  | .put => "PUT"
  | .delete => "DELETE"
  | .head => "HEAD"
  | .options => "OPTIONS"
  | .patch => "PATCH"

/-- The method that a token names. -/
def ofToken? (t : String) : Option Method := all.find? fun m => m.token = t

/-- Whether files are served in answer to the method. -/
def isServable : Method → Bool
  | .get | .head => true
  | _ => false

theorem mem_all (m : Method) : m ∈ all := by cases m <;> decide

/-- Two methods with the same token are the same. -/
theorem token_injective {m n : Method} (h : m.token = n.token) : m = n := by
  revert h; cases m <;> cases n <;> decide

/-- A token names exactly the method it belongs to. -/
theorem ofToken?_eq_some_iff {t : String} {m : Method} : ofToken? t = some m ↔ t = m.token := by
  constructor
  · intro h
    have := List.find?_some h
    simpa using (of_decide_eq_true this).symm
  · rintro rfl
    cases m <;> decide

end Method

end PreviewServer
