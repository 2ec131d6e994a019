/-!
# `Bytes` — byte strings

What clients send, what the device stores and what replies are made of. A byte string is a list of
bytes, so every law of lists is a law of byte strings. The only structure the protocol sees in one is
the newline, the carriage return, and ASCII letters up to case.

## Contents

* `Bytes.newline`, `Bytes.carriageReturn` — the two bytes of a line terminator.
* `Bytes.ofString`, `Bytes.ofString_injective` — the UTF-8 bytes of a text.
* `Bytes.lower`, `Bytes.sameLetters` — equality up to ASCII case.
* `Bytes.chunks` — a byte string cut into pieces of bounded length.
-/

namespace DeviceBroker

/-- A byte string. -/
abbrev Bytes := List UInt8

namespace Bytes

/-- The byte that ends a line. -/
def newline : UInt8 := 10

/-- The byte that may stand before a newline and then belongs to the line's terminator. -/
def carriageReturn : UInt8 := 13

/-- The UTF-8 bytes of a text, one character after the other. -/
def ofString (text : String) : Bytes :=
  text.toList.flatMap String.utf8EncodeChar

theorem ofString_append (a b : String) : ofString (a ++ b) = ofString a ++ ofString b := by
  rw [ofString, String.toList_append, List.flatMap_append]
  rfl

/-- Texts are told apart by their bytes. -/
theorem ofString_injective {a b : String} (h : ofString a = ofString b) : a = b := by
  have hbytes : a.toList.utf8Encode = b.toList.utf8Encode := congrArg List.toByteArray h
  rwa [String.utf8Encode_toList, String.utf8Encode_toList, String.toByteArray_inj] at hbytes

/-! ## ASCII case -/

/-- An upper-case ASCII letter becomes its lower-case one; every other byte stays as it is. -/
def lower (b : UInt8) : UInt8 :=
  if 65 ≤ b ∧ b ≤ 90 then b + 32 else b

/-- **Equal up to ASCII case**: same length, and each byte folds to its counterpart's fold. -/
def sameLetters (a b : Bytes) : Bool :=
  a.map lower == b.map lower

theorem sameLetters_iff {a b : Bytes} : sameLetters a b = true ↔ a.map lower = b.map lower := by
  simp [sameLetters]

/-! ## Cutting into pieces -/

/-- The byte string in pieces of `size` bytes, the last one possibly shorter. None is empty, so an empty
    byte string has no piece. -/
def chunks (size : Nat) (bytes : Bytes) (h : 0 < size) : List Bytes :=
  match bytes with
  | [] => []
  | b :: rest => (b :: rest).take size :: chunks size ((b :: rest).drop size) h
termination_by bytes.length
decreasing_by simp; omega

/-- Nothing is lost or reordered by cutting. -/
theorem flatten_chunks (size : Nat) (bytes : Bytes) (h : 0 < size) :
    (chunks size bytes h).flatten = bytes := by
  fun_induction chunks size bytes h with
  | case1 => rfl
  | case2 b rest ih => rw [List.flatten_cons, ih, List.take_append_drop]

end Bytes

end DeviceBroker
