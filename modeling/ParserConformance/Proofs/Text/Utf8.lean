import Mathlib.Data.List.Basic
import ParserConformance.Text.Utf8

/-!
# Reading back the bytes of a text

The bytes of a character are taken for one piece, whatever follows them: its first byte says how
many follow and between which bounds, and an encoding keeps to what its first byte says. So the
pieces of a text's bytes are its characters, and none of them is broken.

Main statement: `pieces_encode`.
-/

namespace ParserConformance.Text

/-! ### Bytes of a text -/

theorem toList_loop_eq (bytes : ByteArray) (i : Nat) (reversed : List UInt8) :
    ByteArray.toList.loop bytes i reversed = reversed.reverse ++ bytes.data.toList.drop i := by
  fun_induction ByteArray.toList.loop bytes i reversed with
  | case1 i reversed h ih =>
    have hi : i < bytes.data.toList.length := by simpa using h
    rw [ih, List.drop_eq_getElem_cons hi]
    simp [ByteArray.get!, h]
  | case2 i reversed h =>
    rw [List.drop_eq_nil_of_le (by simpa using Nat.le_of_not_lt h), List.append_nil]

/-- The bytes of a text are those of its characters, in order. -/
theorem encode_eq (s : String) : encode s = s.toList.flatMap String.utf8EncodeChar := by
  rw [encode, ByteArray.toList, toList_loop_eq, List.reverse_nil, List.nil_append, List.drop_zero]
  have hbytes : s.toUTF8 = s.toList.utf8Encode := String.utf8Encode_toList.symm
  rw [hbytes, List.utf8Encode, List.toList_data_toByteArray]

/-! ### Bytes of a character -/

theorem takeTail_cons {low high b : UInt8} (hl : low ≤ b) (hh : b ≤ high) (count : Nat)
    (bs : List UInt8) :
    takeTail low high (count + 1) (b :: bs) = b :: takeTail 0x80 0xBF count bs := by
  rw [takeTail, if_pos (by simp [hl, hh])]

/-- A first byte and the following ones that it asks for are one piece. -/
theorem pieces_of_takeTail {b low high : UInt8} {count : Nat} (hb : ¬b < 0x80)
    (hf : followers b = some (low, high, count)) (tail bs : List UInt8) (hl : tail.length = count)
    (ht : takeTail low high count (tail ++ bs) = tail) :
    pieces (b :: (tail ++ bs)) = .char (Char.ofNat (codePoint b count tail)) :: pieces bs := by
  rw [pieces, if_neg hb, hf]
  simp only [ht, hl, if_true]
  rw [← hl, List.drop_left]

theorem followers_of_two : ∀ i < 32, 2 ≤ i →
    followers (UInt8.ofNat (i % 32 + 192)) = some (0x80, 0xBF, 1) := by
  decide

theorem followers_of_three : ∀ i < 16, followers (UInt8.ofNat (i % 16 + 224)) =
    some (if i = 0 then 0xA0 else 0x80, if i = 13 then 0x9F else 0xBF, 2) := by
  decide

theorem followers_of_four : ∀ i < 5, followers (UInt8.ofNat (i % 8 + 240)) =
    some (if i = 0 then 0x90 else 0x80, if i = 4 then 0x8F else 0xBF, 3) := by
  decide

theorem toNat_ofNat {n : Nat} (h : n < 256) : (UInt8.ofNat n).toNat = n := by
  rw [UInt8.toNat_ofNat']
  omega

/-- A byte of an encoding lies within the bounds that are set for it. -/
theorem within {low high : UInt8} {n : Nat} (hn : n < 256) (hl : low.toNat ≤ n) (hh : n ≤ high.toNat) :
    low ≤ UInt8.ofNat n ∧ UInt8.ofNat n ≤ high := by
  rw [UInt8.le_iff_toNat_le, UInt8.le_iff_toNat_le, toNat_ofNat hn]
  exact ⟨hl, hh⟩

theorem takeTail_one {low high : UInt8} {n : Nat} (hn : n < 256) (hl : low.toNat ≤ n)
    (hh : n ≤ high.toNat) (count : Nat) (bs : List UInt8) :
    takeTail low high (count + 1) (UInt8.ofNat n :: bs) =
      UInt8.ofNat n :: takeTail 0x80 0xBF count bs := by
  obtain ⟨hlow, hhigh⟩ := within hn hl hh
  exact takeTail_cons hlow hhigh count bs

theorem takeTail_tail (v count : Nat) (bs : List UInt8) :
    takeTail 0x80 0xBF (count + 1) (UInt8.ofNat (v % 64 + 128) :: bs) =
      UInt8.ofNat (v % 64 + 128) :: takeTail 0x80 0xBF count bs :=
  takeTail_one (by omega) (Nat.le_add_left 128 _) (by have : (0xBF : UInt8).toNat = 191 := rfl; omega)
    count bs

/-- A following byte adds its six bits to the code point. -/
theorem add_tail (n v : Nat) :
    n * 64 + ((UInt8.ofNat (v % 64 + 128)).toNat - 0x80) = n * 64 + v % 64 := by
  rw [toNat_ofNat (by omega)]
  omega

theorem not_lt_of_le {n : Nat} (hn : n < 256) (hl : 128 ≤ n) : ¬UInt8.ofNat n < 0x80 := by
  rw [UInt8.lt_iff_toNat_lt, toNat_ofNat hn]
  exact Nat.not_lt.2 hl

section

variable {c : Char} (bs : List UInt8)

theorem pieces_of_two (hl : 0x7F < c.toNat) (hh : c.toNat ≤ 0x7FF) :
    pieces (UInt8.ofNat (c.toNat / 64 % 32 + 192) :: UInt8.ofNat (c.toNat % 64 + 128) :: bs) =
      .char c :: pieces bs := by
  have hcode : codePoint (UInt8.ofNat (c.toNat / 64 % 32 + 192)) 1
      [UInt8.ofNat (c.toNat % 64 + 128)] = c.toNat := by
    have hb := toNat_ofNat (show c.toNat / 64 % 32 + 192 < 256 by omega)
    simp only [codePoint, List.foldl, add_tail, hb, if_true]
    omega
  have := pieces_of_takeTail (not_lt_of_le (by omega) (by omega))
    (followers_of_two (c.toNat / 64) (by omega) (by omega)) [_] bs rfl (takeTail_tail c.toNat 0 bs)
  rwa [hcode, Char.ofNat_toNat] at this

theorem pieces_of_three (hl : 0x7FF < c.toNat) (hh : c.toNat ≤ 0xFFFF) :
    pieces (UInt8.ofNat (c.toNat / 4096 % 16 + 224) :: UInt8.ofNat (c.toNat / 64 % 64 + 128) ::
      UInt8.ofNat (c.toNat % 64 + 128) :: bs) = .char c :: pieces bs := by
  -- No character has a code point from 0xD800 to 0xDFFF.
  have hvalid : c.toNat < 0xD800 ∨ 0xDFFF < c.toNat ∧ c.toNat < 0x110000 := c.valid
  have hcode : codePoint (UInt8.ofNat (c.toNat / 4096 % 16 + 224)) 2
      [UInt8.ofNat (c.toNat / 64 % 64 + 128), UInt8.ofNat (c.toNat % 64 + 128)] = c.toNat := by
    have hb := toNat_ofNat (show c.toNat / 4096 % 16 + 224 < 256 by omega)
    simp only [codePoint, List.foldl, add_tail, hb, Nat.succ_ne_self, if_true, if_false]
    omega
  have hlow : (if c.toNat / 4096 = 0 then 0xA0 else 0x80 : UInt8).toNat ≤ c.toNat / 64 % 64 + 128 := by
    split
    · exact (show 160 ≤ _ by omega)
    · exact Nat.le_add_left _ _
  have hhigh : c.toNat / 64 % 64 + 128 ≤ (if c.toNat / 4096 = 13 then 0x9F else 0xBF : UInt8).toNat := by
    split
    · exact (show _ ≤ 159 by omega)
    · exact (show _ ≤ 191 by omega)
  have ht := takeTail_one (by omega) hlow hhigh 1 (UInt8.ofNat (c.toNat % 64 + 128) :: bs)
  rw [takeTail_tail, takeTail] at ht
  have := pieces_of_takeTail (not_lt_of_le (by omega) (by omega))
    (followers_of_three (c.toNat / 4096) (by omega)) [_, _] bs rfl ht
  rwa [hcode, Char.ofNat_toNat] at this

theorem pieces_of_four (hl : 0xFFFF < c.toNat) :
    pieces (UInt8.ofNat (c.toNat / 262144 % 8 + 240) :: UInt8.ofNat (c.toNat / 4096 % 64 + 128) ::
      UInt8.ofNat (c.toNat / 64 % 64 + 128) :: UInt8.ofNat (c.toNat % 64 + 128) :: bs) =
      .char c :: pieces bs := by
  have hvalid : c.toNat < 0xD800 ∨ 0xDFFF < c.toNat ∧ c.toNat < 0x110000 := c.valid
  have hcode : codePoint (UInt8.ofNat (c.toNat / 262144 % 8 + 240)) 3
      [UInt8.ofNat (c.toNat / 4096 % 64 + 128), UInt8.ofNat (c.toNat / 64 % 64 + 128),
        UInt8.ofNat (c.toNat % 64 + 128)] = c.toNat := by
    have hb := toNat_ofNat (show c.toNat / 262144 % 8 + 240 < 256 by omega)
    have h31 : ¬3 = 1 := by decide
    simp only [codePoint, List.foldl, add_tail, hb, h31, Nat.succ_ne_self, if_false]
    omega
  have hlow : (if c.toNat / 262144 = 0 then 0x90 else 0x80 : UInt8).toNat ≤
      c.toNat / 4096 % 64 + 128 := by
    split
    · exact (show 144 ≤ _ by omega)
    · exact Nat.le_add_left _ _
  have hhigh : c.toNat / 4096 % 64 + 128 ≤
      (if c.toNat / 262144 = 4 then 0x8F else 0xBF : UInt8).toNat := by
    split
    · exact (show _ ≤ 143 by omega)
    · exact (show _ ≤ 191 by omega)
  have ht := takeTail_one (by omega) hlow hhigh 2 (UInt8.ofNat (c.toNat / 64 % 64 + 128) ::
    UInt8.ofNat (c.toNat % 64 + 128) :: bs)
  rw [takeTail_tail, takeTail_tail, takeTail] at ht
  have := pieces_of_takeTail (not_lt_of_le (by omega) (by omega))
    (followers_of_four (c.toNat / 262144) (by omega)) [_, _, _] bs rfl ht
  rwa [hcode, Char.ofNat_toNat] at this

/-- The bytes of a character are one piece, whatever follows them. -/
theorem pieces_utf8EncodeChar (c : Char) :
    pieces (String.utf8EncodeChar c ++ bs) = .char c :: pieces bs := by
  have hv : c.val.toNat = c.toNat := rfl
  simp only [String.utf8EncodeChar, hv]
  split
  next h1 =>
    have hb : UInt8.ofNat c.toNat < 0x80 := by
      rw [UInt8.lt_iff_toNat_lt, toNat_ofNat (by omega)]
      exact Nat.lt_succ_of_le h1
    rw [List.cons_append, List.nil_append, pieces, if_pos hb, toNat_ofNat (by omega),
      Char.ofNat_toNat]
  next h1 =>
    split
    next h2 => exact pieces_of_two bs (Nat.not_le.1 h1) h2
    next h2 =>
      split
      next h3 => exact pieces_of_three bs (Nat.not_le.1 h2) h3
      next h3 => exact pieces_of_four bs (Nat.not_le.1 h3)

end

/-! ### Pieces of a text -/

/-- The pieces of a text's bytes are its characters. -/
theorem pieces_encode (s : String) : pieces (encode s) = s.toList.map .char := by
  rw [encode_eq]
  induction s.toList with
  | nil => rw [List.flatMap_nil, pieces, List.map_nil]
  | cons c cs ih => rw [List.flatMap_cons, pieces_utf8EncodeChar, ih, List.map_cons]

end ParserConformance.Text
