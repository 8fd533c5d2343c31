import Std.Data.ExtTreeMap

/-!
# The order of texts

Texts are compared character by character. Encoding keeps that order: comparing the bytes of two
texts gives the same answer.

* `bytes_lt_iff`
-/

namespace CallGraph.Text

/-- The bytes of a text in UTF-8. -/
def bytes (s : String) : List UInt8 := s.toUTF8.data.toList

theorem bytes_eq (s : String) : bytes s = s.toList.flatMap String.utf8EncodeChar := by
  obtain ⟨l, rfl⟩ := s.exists_eq_ofList
  simp [bytes, List.utf8Encode]

theorem cons_lt_of_lt {a b : Nat} (hb : b < 256) (h : a < b) (l l' : List UInt8) :
    UInt8.ofNat a :: l < UInt8.ofNat b :: l' := by
  refine List.cons_lt_cons_iff.mpr (Or.inl ?_)
  rw [UInt8.lt_iff_toNat_lt, UInt8.toNat_ofNat', UInt8.toNat_ofNat']
  omega

theorem cons_lt_of_eq {a b : Nat} (h : a = b) {l l' : List UInt8} (hl : l < l') :
    UInt8.ofNat a :: l < UInt8.ofNat b :: l' :=
  List.cons_lt_cons_iff.mpr (Or.inr ⟨by rw [h], hl⟩)

/-! ## Characters

All bytes but the first carry six bits each, the last byte the lowest six. -/

section
variable {x y : Nat}

theorem lastByte_lt (h : x % 64 < y % 64) (l l' : List UInt8) :
    UInt8.ofNat (x % 64 + 0x80) :: l < UInt8.ofNat (y % 64 + 0x80) :: l' :=
  cons_lt_of_lt (by omega) (by omega) l l'

theorem lastTwoBytes_lt (h : x % 4096 < y % 4096) (l l' : List UInt8) :
    UInt8.ofNat (x / 64 % 64 + 0x80) :: UInt8.ofNat (x % 64 + 0x80) :: l <
      UInt8.ofNat (y / 64 % 64 + 0x80) :: UInt8.ofNat (y % 64 + 0x80) :: l' := by
  rcases Nat.lt_or_ge (x / 64 % 64) (y / 64 % 64) with hd | hd
  · exact cons_lt_of_lt (by omega) (by omega) _ _
  · exact cons_lt_of_eq (by omega) (lastByte_lt (by omega) l l')

theorem lastThreeBytes_lt (h : x % 262144 < y % 262144) (l l' : List UInt8) :
    UInt8.ofNat (x / 4096 % 64 + 0x80) :: UInt8.ofNat (x / 64 % 64 + 0x80) ::
        UInt8.ofNat (x % 64 + 0x80) :: l <
      UInt8.ofNat (y / 4096 % 64 + 0x80) :: UInt8.ofNat (y / 64 % 64 + 0x80) ::
        UInt8.ofNat (y % 64 + 0x80) :: l' := by
  rcases Nat.lt_or_ge (x / 4096 % 64) (y / 4096 % 64) with hd | hd
  · exact cons_lt_of_lt (by omega) (by omega) _ _
  · exact cons_lt_of_eq (by omega) (lastTwoBytes_lt (by omega) l l')

end

/-- The first bytes in which the encodings of two characters differ are ordered as the characters
are, so what follows does not matter. -/
theorem utf8EncodeChar_lt {a b : Char} (h : a < b) (l l' : List UInt8) :
    String.utf8EncodeChar a ++ l < String.utf8EncodeChar b ++ l' := by
  have hab : a.val.toNat < b.val.toNat := h
  have hmax : b.val.toNat < 0x110000 := by
    rcases b.valid with hv | ⟨-, hv⟩
    · exact Nat.lt_trans hv (by decide)
    · exact hv
  generalize hx : a.val.toNat = x at hab
  generalize hy : b.val.toNat = y at hab hmax
  unfold String.utf8EncodeChar
  simp only [hx, hy]
  -- A longer encoding has the greater first byte; in encodings of one length, either the first
  -- bytes differ or the bits behind them do.
  split
  · split
    · exact cons_lt_of_lt (by omega) hab _ _
    · split
      · exact cons_lt_of_lt (by omega) (by omega) _ _
      · split <;> exact cons_lt_of_lt (by omega) (by omega) _ _
  · rw [if_neg (show ¬ y ≤ 0x7f by omega)]
    split
    · split
      · rcases Nat.lt_or_ge (x / 64) (y / 64) with hd | hd
        · exact cons_lt_of_lt (by omega) (by omega) _ _
        · exact cons_lt_of_eq (by omega) (lastByte_lt (by omega) l l')
      · split <;> exact cons_lt_of_lt (by omega) (by omega) _ _
    · rw [if_neg (show ¬ y ≤ 0x7ff by omega)]
      split
      · split
        · rcases Nat.lt_or_ge (x / 4096) (y / 4096) with hd | hd
          · exact cons_lt_of_lt (by omega) (by omega) _ _
          · exact cons_lt_of_eq (by omega) (lastTwoBytes_lt (by omega) l l')
        · exact cons_lt_of_lt (by omega) (by omega) _ _
      · rw [if_neg (show ¬ y ≤ 0xffff by omega)]
        rcases Nat.lt_or_ge (x / 262144) (y / 262144) with hd | hd
        · exact cons_lt_of_lt (by omega) (by omega) _ _
        · exact cons_lt_of_eq (by omega) (lastThreeBytes_lt (by omega) l l')

/-! ## Texts -/

theorem flatMap_utf8EncodeChar_lt {cs ds : List Char} (h : cs < ds) :
    cs.flatMap String.utf8EncodeChar < ds.flatMap String.utf8EncodeChar := by
  induction h with
  | @nil d ds =>
    rw [List.flatMap_nil, List.flatMap_cons]
    cases he : String.utf8EncodeChar d with
    | nil => exact absurd he String.utf8EncodeChar_ne_nil
    | cons u us => exact List.Lex.nil
  | @rel c cs d ds hcd => exact utf8EncodeChar_lt hcd _ _
  | @cons c cs ds hlt ih =>
    rw [List.flatMap_cons, List.flatMap_cons]
    exact List.append_left_lt ih

/-- **Texts are ordered as their bytes are.** -/
theorem bytes_lt_iff (s t : String) : bytes s < bytes t ↔ s < t := by
  rw [bytes_eq, bytes_eq]
  constructor
  · intro h
    rcases Std.lt_trichotomy s t with hst | rfl | hts
    · exact hst
    · exact absurd h (List.lt_irrefl _)
    · exact absurd (flatMap_utf8EncodeChar_lt hts) (List.lt_asymm h)
  · exact flatMap_utf8EncodeChar_lt

end CallGraph.Text
