import DeviceBroker.Text.Utf8

/-!
# `Proofs.Decoding` — reading a text back from its bytes

A text is written character by character, and the first byte of a character announces how many follow it.
Reading takes off the front exactly what was written, so a text is read back as it was. Hence the lossy
reading of a byte string gives its bytes back just if they were those of a text.

## Contents

* `Utf8.WellFormed` — the bytes of some text.
* `lead_one` … `lead_four`, `follow_continuation` — what first bytes announce, and what follows them.
* `first_utf8EncodeChar`, `parts_flatMap` — one character, and all of them.
* `decodeLossy_ofString`, `ofString_decodeLossy_iff` — **what is written is read back.**
-/

namespace DeviceBroker.Utf8

/-- **Well-formed** bytes are those of some text. -/
def WellFormed (bytes : Bytes) : Prop :=
  ∃ text, Bytes.ofString text = bytes

/-! ## The bytes of one character -/

theorem lead_one : ∀ value < 0x80, lead (UInt8.ofNat value) = .single value := by
  decide

theorem lead_two : ∀ value < 0x20, 2 ≤ value →
    lead (UInt8.ofNat (value + 0xC0)) = .sequence 1 0x80 0xBF value := by
  decide

/-- Of three bytes, the second is bounded where a shorter form or a surrogate would begin. -/
theorem lead_three : ∀ value < 0x10,
    lead (UInt8.ofNat (value + 0xE0)) = .sequence 2 (if value = 0 then 0xA0 else 0x80)
      (if value = 13 then 0x9F else 0xBF) value := by
  decide

/-- Of four bytes, the second is bounded where a shorter form would begin or the last character ends. -/
theorem lead_four : ∀ value < 5,
    lead (UInt8.ofNat (value + 0xF0)) = .sequence 3 (if value = 0 then 0x90 else 0x80)
      (if value = 4 then 0x8F else 0xBF) value := by
  decide

/-- A continuation byte that is within bounds adds its six bits. -/
theorem follow_continuation {count value bits : Nat} {low high : UInt8} {rest : Bytes} (hbits : bits < 64)
    (hlow : low.toNat ≤ bits + 128) (hhigh : bits + 128 ≤ high.toNat) :
    follow (count + 1) low high value (UInt8.ofNat (bits + 128) :: rest)
      = follow count 0x80 0xBF (value * 64 + bits) rest := by
  have hnat : (UInt8.ofNat (bits + 128)).toNat = bits + 128 :=
    UInt8.toNat_ofNat_of_lt' (by simp only [UInt8.size]; omega)
  have hwithin : low ≤ UInt8.ofNat (bits + 128) ∧ UInt8.ofNat (bits + 128) ≤ high := by
    rw [UInt8.le_iff_toNat_le, UInt8.le_iff_toNat_le, hnat]
    exact ⟨hlow, hhigh⟩
  rw [follow, if_pos hwithin, hnat, Nat.add_sub_cancel]

/-- **One character** is read off the front of its bytes. -/
theorem first_utf8EncodeChar (c : Char) (rest : Bytes) :
    ∃ b more, String.utf8EncodeChar c = b :: more ∧ first b (more ++ rest) = (some c, rest) := by
  have hchar : Char.ofNat c.val.toNat = c := Char.ofNat_toNat c
  have hvalid : c.val.toNat < 55296 ∨ 57343 < c.val.toNat ∧ c.val.toNat < 1114112 := c.valid
  unfold String.utf8EncodeChar
  generalize c.val.toNat = v at hchar hvalid
  dsimp only
  -- one case for each number of bytes; the bits of all bytes together are the number of the character
  split
  · refine ⟨_, _, rfl, ?_⟩
    rw [first, lead_one v (by omega)]
    simp only [hchar, List.nil_append]
  split
  · have hvalue : v / 64 % 32 * 64 + v % 64 = v := by omega
    refine ⟨_, _, rfl, ?_⟩
    rw [first, lead_two (v / 64 % 32) (by omega) (by omega)]
    simp only [List.cons_append, List.nil_append]
    rw [follow_continuation (by omega) (by simp) (by simp; omega), follow, hvalue, Option.map_some, hchar]
  split
  · have hvalue : (v / 4096 % 16 * 64 + v / 64 % 64) * 64 + v % 64 = v := by omega
    refine ⟨_, _, rfl, ?_⟩
    rw [first, lead_three (v / 4096 % 16) (by omega)]
    simp only [List.cons_append, List.nil_append]
    rw [follow_continuation (by omega) (by split <;> simp; omega) (by split <;> simp <;> omega),
      follow_continuation (by omega) (by simp) (by simp; omega), follow, hvalue, Option.map_some, hchar]
  · have hvalue :
        ((v / 262144 % 8 * 64 + v / 4096 % 64) * 64 + v / 64 % 64) * 64 + v % 64 = v := by omega
    refine ⟨_, _, rfl, ?_⟩
    rw [first, lead_four (v / 262144 % 8) (by omega)]
    simp only [List.cons_append, List.nil_append]
    rw [follow_continuation (by omega) (by split <;> simp; omega) (by split <;> simp <;> omega),
      follow_continuation (by omega) (by simp) (by simp; omega),
      follow_continuation (by omega) (by simp) (by simp; omega), follow, hvalue, Option.map_some, hchar]

/-! ## Whole texts -/

/-- **All characters** of a text are read off its bytes. -/
theorem parts_flatMap (seen : List (Option Char)) (text : List Char) :
    parts seen (text.flatMap String.utf8EncodeChar) = seen.reverse ++ text.map some := by
  induction text generalizing seen with
  | nil => rw [List.flatMap_nil, parts, List.map_nil, List.append_nil]
  | cons c text ih =>
    obtain ⟨b, more, hbytes, hfirst⟩ := first_utf8EncodeChar c (text.flatMap String.utf8EncodeChar)
    rw [List.flatMap_cons, hbytes, List.cons_append, parts, hfirst, ih, List.reverse_cons, List.append_assoc]
    rfl

/-- **What is written is read back.** -/
theorem decodeLossy_ofString (text : String) : decodeLossy (Bytes.ofString text) = text := by
  rw [decodeLossy, Bytes.ofString, parts_flatMap, List.reverse_nil, List.nil_append, List.map_map]
  exact (congrArg String.ofList (List.map_id _)).trans String.ofList_toList

/-- **Lossy reading loses nothing** just if the bytes are those of a text. -/
theorem ofString_decodeLossy_iff (bytes : Bytes) :
    Bytes.ofString (decodeLossy bytes) = bytes ↔ WellFormed bytes := by
  constructor
  · intro h
    exact ⟨decodeLossy bytes, h⟩
  · rintro ⟨text, rfl⟩
    rw [decodeLossy_ofString]

end DeviceBroker.Utf8
