import PreviewServer.Text.Digits
import PreviewServer.Text.Split
import PreviewServer.Text.Utf8

/-!
# Addresses in URLs

A host that is written in square brackets is an IPv6 address: eight groups of hexadecimal digits,
of which one run of zero groups may be left out, and the last two may be written as an IPv4
address.  A host whose last label is a number is an IPv4 address: one to four numbers, each
decimal, octal or hexadecimal, of which the last one fills the remaining bytes.
-/

namespace PreviewServer

namespace Url

/-! ### IPv4 -/

/-- A number as it may stand in an IPv4 address: hexadecimal after `0x`, octal after another zero,
decimal otherwise. -/
def ipv4Number? : List Char → Option Nat
  | [] => none
  | '0' :: 'x' :: digits => numberInBase? 16 digits
  | '0' :: 'X' :: digits => numberInBase? 16 digits
  | '0' :: d :: digits => numberInBase? 8 (d :: digits)
  | digits => numberInBase? 10 digits

/-- The labels of a host, a single empty one at the end left out. -/
def labels (host : List Char) : List (List Char) :=
  let ls := fields '.' host
  if ls.length ≠ 1 ∧ ls.getLast? = some [] then ls.dropLast else ls

/-- Whether a host can only be meant as an IPv4 address: its last label is a number. -/
def endsInNumber (host : List Char) : Bool :=
  match (labels host).getLast? with
  | none => false
  | some l => (l ≠ [] && l.all Char.isDigit) || (ipv4Number? l).isSome

/-- Reads an IPv4 address as one number. -/
def ipv4? (host : List Char) : Option Nat :=
  let parts := labels host
  if 4 < parts.length then none
  else
    match parts.mapM ipv4Number? with
    | none => none
    | some numbers =>
      match numbers.getLast? with
      | none => none
      | some last =>
        let firsts := numbers.dropLast
        let room := Nat.pow 256 (4 - firsts.length)
        if firsts.any (255 < ·) ∨ room ≤ last then none
        else some (firsts.foldl (fun n b => n * 256 + b) 0 * room + last)

/-! ### IPv6 -/

/-- A number of the dotted part of an IPv6 address: at most 255, without needless zeros. -/
def dottedNumber? (digits : List Char) : Option Nat :=
  if digits = [] ∨ !digits.all Char.isDigit ∨ (digits.head? = some '0' ∧ digits ≠ ['0']) then none
  else
    match numberInBase? 10 digits with
    | some n => if n ≤ 255 then some n else none
    | none => none

/-- The two groups that the dotted part of an IPv6 address stands for. -/
def dottedGroups? (text : List Char) : Option (List Nat) :=
  match (fields '.' text).mapM dottedNumber? with
  | some [a, b, c, d] => some [a * 256 + b, c * 256 + d]
  | _ => none

/-- A group of one to four hexadecimal digits. -/
def group? (digits : List Char) : Option Nat :=
  if digits = [] ∨ 4 < digits.length then none else numberInBase? 16 digits

/-- Groups between single colons; the last one may be a dotted part. -/
def groups? : List (List Char) → Option (List Nat)
  | [] => some []
  | [last] => if last.contains '.' then dottedGroups? last else (group? last).map fun g => [g]
  | g :: rest =>
    match group? g, groups? rest with
    | some g, some rest => some (g :: rest)
    | _, _ => none

/-- The text before and after the first double colon. -/
def cutDoubleColon : List Char → Option (List Char × List Char)
  | [] => none
  | ':' :: ':' :: cs => some ([], cs)
  | c :: cs => (cutDoubleColon cs).map fun (a, b) => (c :: a, b)

/-- The groups of a part of an address, which may be empty beside a double colon. -/
def part? (text : List Char) : Option (List Nat) :=
  if text = [] then some [] else groups? (fields ':' text)

/-- Reads an IPv6 address as its eight groups. -/
def ipv6? (text : List Char) : Option (List Nat) :=
  match cutDoubleColon text with
  | none =>
    match groups? (fields ':' text) with
    | some gs => if gs.length = 8 then some gs else none
    | none => none
  | some (a, b) =>
    match part? a, part? b with
    | some before, some after =>
      if a.contains '.' then none
      else if before.length + after.length ≤ 7 then
        some (before ++ List.replicate (8 - before.length - after.length) 0 ++ after)
      else none
    | _, _ => none

end Url

end PreviewServer
