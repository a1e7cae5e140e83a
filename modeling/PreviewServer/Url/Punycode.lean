import PreviewServer.Text.Split

/-!
# Labels in ASCII

A label with characters outside ASCII is written with its ASCII characters first, then a hyphen,
then a number for each of the others, in the order of their code points: how far it lies behind the
one before, counted through all places where it could stand.  Numbers are written in base 36, least
digit first, with thresholds that say which digit is the last one; the thresholds adapt to the
numbers that came before.
-/

namespace PreviewServer.Url.Punycode

/-! ### Digits and thresholds -/

/-- The base of the numbers. -/
def base : Nat := 36

/-- The digit with a value: letters first. -/
def digit (n : Nat) : Char := Char.ofNat (if n < 26 then 0x61 + n else 0x16 + n)

/-- The value of a digit of either case. -/
def digitValue? (c : Char) : Option Nat :=
  let n := c.toNat
  if 0x61 ≤ n ∧ n ≤ 0x7A then some (n - 0x61)
  else if 0x41 ≤ n ∧ n ≤ 0x5A then some (n - 0x41)
  else if 0x30 ≤ n ∧ n ≤ 0x39 then some (n - 0x30 + 26)
  else none

/-- The threshold of a digit: between 1 and 26, and growing with its place, which is counted in
steps of the base. -/
def threshold (place bias : Nat) : Nat := min 26 (max 1 (place - bias))

theorem threshold_pos (place bias : Nat) : 0 < threshold place bias := by
  unfold threshold; omega

/-- Divides a number until it is small, and counts how far that is in steps of the base. -/
def scaleDown (delta steps : Nat) : Nat × Nat :=
  if 455 < delta then scaleDown (delta / 35) (steps + base) else (delta, steps)
termination_by delta
decreasing_by omega

/-- The bias after a number, when so many characters have been placed. -/
def adapt (delta placed : Nat) (first : Bool) : Nat :=
  let damped := if first then delta / 700 else delta / 2
  let (rest, steps) := scaleDown (damped + damped / placed) 0
  steps + 36 * rest / (rest + 38)

/-- The bias before the first number. -/
def initialBias : Nat := 72

/-- The first code point outside ASCII. -/
def firstCode : Nat := 0x80

/-! ### Writing -/

/-- The digits of a number, from the one at `place` on. -/
def digits (bias place n : Nat) : List Char :=
  let t := threshold place bias
  if n < t then [digit n]
  else digit (t + (n - t) % (base - t)) :: digits bias (place + base) ((n - t) / (base - t))
termination_by n
decreasing_by
  have := threshold_pos place bias
  have := Nat.div_le_self (n - threshold place bias) (base - threshold place bias)
  omega

/-- What is known in the middle of writing a label. -/
structure Writer where
  /-- What was written. -/
  written : List Char
  /-- How many places were passed since the last number. -/
  delta : Nat
  /-- The bias of the next number. -/
  bias : Nat
  /-- How many characters were placed. -/
  placed : Nat

/-- Passes a character of the label while those with this code are placed. -/
def Writer.pass (code basic : Nat) (w : Writer) (c : Char) : Writer :=
  if c.toNat < code then { w with delta := w.delta + 1 }
  else if c.toNat = code then
    { written := w.written ++ digits w.bias base w.delta
      delta := 0
      bias := adapt w.delta (w.placed + 1) (w.placed = basic)
      placed := w.placed + 1 }
  else w

/-- Places the characters with these codes, of which the first one that comes into question is
`next`. -/
def Writer.place (label : List Char) (basic next : Nat) (w : Writer) : List Nat → Writer
  | [] => w
  | code :: codes =>
    let w := { w with delta := w.delta + (code - next) * (w.placed + 1) }
    let w := label.foldl (Writer.pass code basic) w
    Writer.place label basic (code + 1) { w with delta := w.delta + 1 } codes

/-- The label in ASCII. -/
def encode (label : List Char) : List Char :=
  let basic := label.filter (·.toNat < firstCode)
  let codes := ((label.map Char.toNat).filter (firstCode ≤ ·)).mergeSort.eraseReps
  let start := if basic = [] then [] else basic ++ ['-']
  (Writer.place label basic.length firstCode
    { written := start, delta := 0, bias := initialBias, placed := basic.length } codes).written

/-! ### Reading -/

/-- Reads the digits of a number, from the one at `place` on, whose unit is worth `weight`.  Gives
the number and the rest of the text, which is shorter. -/
def readNumber? (bias place weight : Nat) :
    (text : List Char) → Option (Nat × { rest : List Char // rest.length < text.length })
  | [] => none
  | c :: cs =>
    match digitValue? c with
    | none => none
    | some d =>
      let t := threshold place bias
      if d < t then some (d * weight, ⟨cs, by simp⟩)
      else
        match readNumber? bias (place + base) (weight * (base - t)) cs with
        | none => none
        | some (n, rest) => some (d * weight + n, ⟨rest.val, by have := rest.property; simp; omega⟩)

/-- Puts the characters of the numbers in their places in `label`, of which the last one has the
code `code` and stands before `place`. -/
def readNumbers? (label : List Char) (code place bias : Nat) (text : List Char) :
    Option (List Char) :=
  match text with
  | [] => some label
  | c :: cs =>
    match readNumber? bias base 1 (c :: cs) with
    | none => none
    | some (n, rest) =>
      let placed := label.length + 1
      let code := code + (place + n) / placed
      let position := (place + n) % placed
      if code.isValidChar then
        readNumbers? (label.insertIdx position (Char.ofNat code)) code (position + 1)
          (adapt n placed (place = 0)) rest.val
      else none
termination_by text.length
decreasing_by exact rest.property

/-- The label that is written like this in ASCII. -/
def decode? (text : List Char) : Option (List Char) :=
  match cut? '-' text.reverse with
  | some (numbers, c :: basic) =>
    readNumbers? (c :: basic).reverse firstCode 0 initialBias numbers.reverse
  | _ => readNumbers? [] firstCode 0 initialBias text

end PreviewServer.Url.Punycode
