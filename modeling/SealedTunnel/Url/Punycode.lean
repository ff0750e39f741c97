/-!
Punycode: the characters of a label beyond ASCII, as digits behind those within. Each number tells how
far to go on from the last insertion, round after round, before the next character is put in.
-/
namespace SealedTunnel.Url.Punycode

def digitValue? (c : Char) : Option Nat :=
  if 'a' ≤ c ∧ c ≤ 'z' then some (c.toNat - 'a'.toNat)
  else if 'A' ≤ c ∧ c ≤ 'Z' then some (c.toNat - 'A'.toNat)
  else if '0' ≤ c ∧ c ≤ '9' then some (c.toNat - '0'.toNat + 26)
  else none

def threshold (place bias : Nat) : Nat := min 26 (max 1 (place - bias))

def shrink (delta place : Nat) : Nat × Nat :=
  if 455 < delta then shrink (delta / 35) (place + 36) else (delta, place)
termination_by delta
decreasing_by omega

def adapt (delta length : Nat) (isFirst : Bool) : Nat :=
  let damped := if isFirst then delta / 700 else delta / 2
  let (delta, place) := shrink (damped + damped / length) 0
  place + 36 * delta / (delta + 38)

structure Progress where
  label : List Char
  code : Nat
  position : Nat
  bias : Nat
  /-- The position before the number. -/
  start : Nat
  weight : Nat
  place : Nat

def Progress.insert (progress : Progress) (position : Nat) : Option Progress :=
  let length := progress.label.length + 1
  let code := progress.code + position / length
  if code.isValidChar then
    let index := position % length
    some {
      label := progress.label.insertIdx index (Char.ofNat code)
      code
      position := index + 1
      bias := adapt (position - progress.start) length (progress.start = 0)
      start := index + 1
      weight := 1
      place := 36 }
  else none

def decodeDigits (progress : Progress) : List Char → Option (List Char)
  | [] => if progress.place = 36 then some progress.label else none
  | c :: rest => do
    let digit ← digitValue? c
    let position := progress.position + digit * progress.weight
    let threshold := threshold progress.place progress.bias
    if digit < threshold then
      let progress ← progress.insert position
      decodeDigits progress rest
    else
      decodeDigits { progress with
        position
        weight := progress.weight * (36 - threshold)
        place := progress.place + 36 } rest

def parts (chars : List Char) : List Char × List Char :=
  let behind := (chars.reverse.takeWhile (· ≠ '-')).reverse
  let front := chars.take (chars.length - behind.length - 1)
  if front.isEmpty then ([], chars) else (front, behind)

def decode (chars : List Char) : Option (List Char) :=
  let (front, digits) := parts chars
  decodeDigits ⟨front, 128, 0, 72, 0, 1, 36⟩ digits

end SealedTunnel.Url.Punycode
