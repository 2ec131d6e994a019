import DeviceBroker.Bytes

/-!
# `Utf8` — reading bytes as text

A byte string need not be text. Reading it *lossily* gives every well-formed character as it is and
one replacement character for each **maximal ill-formed part**: a lead byte together with the
continuation bytes that could still have completed it, or a single byte that can start nothing.
Reading it *strictly* succeeds when no replacement was needed.

The ranges of the second byte rule out overlong forms, surrogates and values above U+10FFFF, so a
sequence that passes them all denotes a character.

## Contents

* `Utf8.Lead`, `Utf8.lead` — what a first byte announces.
* `Utf8.follow` — the continuation bytes after it.
* `Utf8.decodeLossy`, `Utf8.decode?` — the two readings.
-/

namespace DeviceBroker.Utf8

/-- What a first byte announces. -/
inductive Lead where
  /-- The byte is a character by itself. -/
  | single (value : Nat)
  /-- `count` continuation bytes follow, the first of them between `low` and `high`. -/
  | sequence (count : Nat) (low high : UInt8) (value : Nat)
  /-- No character starts with this byte. -/
  | none
  deriving Repr, DecidableEq

/-- The announcement of a first byte. -/
def lead (b : UInt8) : Lead :=
  if b < 0x80 then .single b.toNat
  else if b < 0xC2 then .none
  else if b < 0xE0 then .sequence 1 0x80 0xBF (b.toNat - 0xC0)
  else if b = 0xE0 then .sequence 2 0xA0 0xBF 0
  else if b = 0xED then .sequence 2 0x80 0x9F 13
  else if b < 0xF0 then .sequence 2 0x80 0xBF (b.toNat - 0xE0)
  else if b = 0xF0 then .sequence 3 0x90 0xBF 0
  else if b < 0xF4 then .sequence 3 0x80 0xBF (b.toNat - 0xF0)
  else if b = 0xF4 then .sequence 3 0x80 0x8F 4
  else .none

/-- Takes `count` continuation bytes, the first of them between `low` and `high`, and returns the
    value they complete, or nothing if one is missing, with the bytes that were not taken. -/
def follow : Nat → UInt8 → UInt8 → Nat → Bytes → Option Nat × Bytes
  | 0, _, _, value, rest => (some value, rest)
  | _ + 1, _, _, _, [] => (none, [])
  | count + 1, low, high, value, b :: rest =>
    if low ≤ b ∧ b ≤ high then follow count 0x80 0xBF (value * 64 + (b.toNat - 0x80)) rest
    else (none, b :: rest)

theorem length_follow_le (count : Nat) (low high : UInt8) (value : Nat) (rest : Bytes) :
    (follow count low high value rest).2.length ≤ rest.length := by
  fun_induction follow count low high value rest with
  | case1 => simp
  | case2 => simp
  | case3 count low high value b rest _ ih => simp; omega
  | case4 => simp

/-- The first character of a non-empty byte string, or nothing for an ill-formed part, with the bytes
    behind it. -/
def first (b : UInt8) (rest : Bytes) : Option Char × Bytes :=
  match lead b with
  | .single value => (some (Char.ofNat value), rest)
  | .none => (none, rest)
  | .sequence count low high value =>
    let (value?, rest') := follow count low high value rest
    (value?.map Char.ofNat, rest')

theorem length_first_le (b : UInt8) (rest : Bytes) : (first b rest).2.length ≤ rest.length := by
  unfold first
  split
  · simp
  · simp
  · exact length_follow_le ..

/-- The characters of a byte string, nothing standing for each maximal ill-formed part; `seen` holds
    those already read, last one first. -/
def parts (seen : List (Option Char)) : Bytes → List (Option Char)
  | [] => seen.reverse
  | b :: rest => parts ((first b rest).1 :: seen) (first b rest).2
termination_by bytes => bytes.length
decreasing_by
  have := length_first_le b rest
  simp; omega

/-- The character that stands for an ill-formed part. -/
def replacement : Char := '\uFFFD'

/-- **Lossy reading**: each maximal ill-formed part becomes one replacement character. -/
def decodeLossy (bytes : Bytes) : String :=
  String.ofList ((parts [] bytes).map (·.getD replacement))

/-- **Strict reading**: the text whose UTF-8 bytes these are, if they are those of a text. -/
def decode? (bytes : Bytes) : Option String :=
  ((parts [] bytes).mapM id).map String.ofList

end DeviceBroker.Utf8
