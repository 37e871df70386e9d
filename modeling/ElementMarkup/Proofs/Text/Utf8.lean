import Mathlib.Tactic.Common
import ElementMarkup.Proofs.Failure
import ElementMarkup.Text.Utf8

/-!
# Decoding what was encoded

The bytes of a text are decoded to that text, and no other bytes are, so bytes that cannot be
decoded are the bytes of none.
-/

set_option autoImplicit false

namespace ElementMarkup.Text

/-- The bytes of a text. -/
def encodeUtf8 (cs : List Char) : List UInt8 := cs.flatMap String.utf8EncodeChar

theorem toNat_ofNat_byte {n : Nat} (h : n < 256) : (UInt8.ofNat n).toNat = n := by
  simp [Nat.mod_eq_of_lt h]

theorem decodeTail_cons (n length : Nat) {x : Nat} {range : UInt8 × UInt8}
    (ranges : List (UInt8 × UInt8)) (rest : List UInt8) (hx : x < 64)
    (hlow : range.1.toNat ≤ x + 128) (hhigh : x + 128 ≤ range.2.toNat) :
    decodeTail n length (range :: ranges) (UInt8.ofNat (x + 128) :: rest) =
      decodeTail (64 * n + x) (length + 1) ranges rest := by
  have hb : (UInt8.ofNat (x + 128)).toNat = x + 128 := toNat_ofNat_byte (by omega)
  have hrange : range.1 ≤ UInt8.ofNat (x + 128) ∧ UInt8.ofNat (x + 128) ≤ range.2 := by
    rw [UInt8.le_iff_toNat_le, UInt8.le_iff_toNat_le, hb]
    exact ⟨hlow, hhigh⟩
  have hvalue : (UInt8.ofNat (x + 128)).toNat - 0x80 = x := by omega
  rw [decodeTail, if_pos hrange, hvalue]

/-- The range of a byte after the first one where nothing else is said. -/
def tailRange : UInt8 × UInt8 := (0x80, 0xBF)

theorem decodeTail_tail (n length : Nat) {x : Nat} (ranges : List (UInt8 × UInt8))
    (rest : List UInt8) (hx : x < 64) :
    decodeTail n length (tailRange :: ranges) (UInt8.ofNat (x + 128) :: rest) =
      decodeTail (64 * n + x) (length + 1) ranges rest :=
  decodeTail_cons n length ranges rest hx (Nat.le_add_left 128 x)
    (by change x + 128 ≤ 191; omega)

theorem firstByte_one (x : Fin 128) : continuations? (UInt8.ofNat x) = some [] ∧
    leadBits (UInt8.ofNat x) = x := by
  revert x
  decide

theorem firstByte_two (x : Fin 32) (h : 2 ≤ x.val) :
    continuations? (UInt8.ofNat (x + 192)) = some [tailRange] ∧
      leadBits (UInt8.ofNat (x + 192)) = x := by
  revert x
  decide

/-- The range of a second byte by the bits `x` of the first: no shorter sequence has the value, and
with the greatest bits the value stays below what is cut off. -/
def secondRange (cut last x : Nat) : UInt8 × UInt8 :=
  if x = 0 then (UInt8.ofNat cut, 0xBF)
  else if x = last then (0x80, UInt8.ofNat (cut - 1))
  else tailRange

theorem secondRange_bounds (cut last x y : Nat) (hy : y < 64) (hcut : 128 < cut ∧ cut < 192)
    (hleast : x = 0 → cut ≤ y + 128) (hlast : x = last → y + 128 < cut) :
    (secondRange cut last x).1.toNat ≤ y + 128 ∧ y + 128 ≤ (secondRange cut last x).2.toNat := by
  have hlow : (UInt8.ofNat cut).toNat = cut := toNat_ofNat_byte (by omega)
  have hhigh : (UInt8.ofNat (cut - 1)).toNat = cut - 1 := toNat_ofNat_byte (by omega)
  unfold secondRange tailRange
  split
  · change (UInt8.ofNat cut).toNat ≤ y + 128 ∧ y + 128 ≤ 191
    omega
  split
  · change 128 ≤ y + 128 ∧ y + 128 ≤ (UInt8.ofNat (cut - 1)).toNat
    omega
  · change 128 ≤ y + 128 ∧ y + 128 ≤ 191
    omega

theorem firstByte_three (x : Fin 16) :
    continuations? (UInt8.ofNat (x + 224)) = some [secondRange 160 13 x, tailRange] ∧
      leadBits (UInt8.ofNat (x + 224)) = x := by
  revert x
  decide

theorem firstByte_four (x : Fin 5) :
    continuations? (UInt8.ofNat (x + 240)) = some [secondRange 144 4 x, tailRange, tailRange] ∧
      leadBits (UInt8.ofNat (x + 240)) = x := by
  revert x
  decide

theorem decodeFrom_sequence {b : UInt8} {ranges : List (UInt8 × UInt8)} {bytes rest : List UInt8}
    {c : Char} {place fuel : Nat} (hb : continuations? b = some ranges)
    (ht : decodeTail (leadBits b) 1 ranges bytes = .ok (c.toNat, rest)) :
    decodeFrom place (fuel + 1) (b :: bytes) =
      (decodeFrom (place + 1 + ranges.length) fuel rest).map (c :: ·) := by
  simp only [decodeFrom, hb, ht, Char.ofNat_toNat]

theorem decodeFrom_char (c : Char) (rest : List UInt8) (place fuel : Nat) :
    ∃ next, decodeFrom place (fuel + 1) (String.utf8EncodeChar c ++ rest) =
      (decodeFrom next fuel rest).map (c :: ·) := by
  have hv : c.val.toNat = c.toNat := rfl
  have hvalid := c.valid
  simp only [UInt32.isValidChar, Nat.isValidChar, hv] at hvalid
  unfold String.utf8EncodeChar
  simp only [hv]
  -- one case for each length; the value is put together again from its groups of six bits
  split
  · obtain ⟨hr, hl⟩ := firstByte_one ⟨c.toNat, by omega⟩
    exact ⟨_, decodeFrom_sequence hr (by rw [hl]; rfl)⟩
  split
  · obtain ⟨hr, hl⟩ := firstByte_two ⟨c.toNat / 64 % 32, by omega⟩ (by simp only; omega)
    refine ⟨_, decodeFrom_sequence hr ?_⟩
    rw [hl]
    simp only [List.append_eq, List.cons_append, List.nil_append]
    rw [decodeTail_tail _ _ _ _ (by omega), decodeTail]
    congr 2
    omega
  split
  · obtain ⟨hr, hl⟩ := firstByte_three ⟨c.toNat / 4096 % 16, by omega⟩
    refine ⟨_, decodeFrom_sequence hr ?_⟩
    rw [hl]
    simp only [List.append_eq, List.cons_append, List.nil_append]
    obtain ⟨hlow, hhigh⟩ := secondRange_bounds 160 13 (c.toNat / 4096 % 16)
      (c.toNat / 64 % 64) (by omega) (by omega) (by omega) (by omega)
    rw [decodeTail_cons _ _ _ _ (by omega) hlow hhigh,
      decodeTail_tail _ _ _ _ (by omega), decodeTail]
    congr 2
    omega
  · obtain ⟨hr, hl⟩ := firstByte_four ⟨c.toNat / 262144 % 8, by omega⟩
    refine ⟨_, decodeFrom_sequence hr ?_⟩
    rw [hl]
    simp only [List.append_eq, List.cons_append, List.nil_append]
    obtain ⟨hlow, hhigh⟩ := secondRange_bounds 144 4 (c.toNat / 262144 % 8)
      (c.toNat / 4096 % 64) (by omega) (by omega) (by omega) (by omega)
    rw [decodeTail_cons _ _ _ _ (by omega) hlow hhigh, decodeTail_tail _ _ _ _ (by omega),
      decodeTail_tail _ _ _ _ (by omega), decodeTail]
    congr 2
    omega

theorem decodeFrom_encode (cs : List Char) (place fuel : Nat) (h : (encodeUtf8 cs).length ≤ fuel) :
    decodeFrom place fuel (encodeUtf8 cs) = .ok cs := by
  induction cs generalizing place fuel with
  | nil => cases fuel <;> rfl
  | cons c cs ih =>
    rw [encodeUtf8, List.flatMap_cons, List.length_append] at h
    have hc : 0 < (String.utf8EncodeChar c).length :=
      List.length_pos_iff.2 String.utf8EncodeChar_ne_nil
    obtain ⟨fuel, rfl⟩ : ∃ n, fuel = n + 1 := ⟨fuel - 1, by omega⟩
    obtain ⟨next, hnext⟩ := decodeFrom_char c (encodeUtf8 cs) place fuel
    rw [encodeUtf8, List.flatMap_cons]
    exact hnext.trans (by rw [ih next fuel (by unfold encodeUtf8; omega)]; rfl)

theorem decodeUtf8_encodeUtf8 (cs : List Char) : decodeUtf8 (encodeUtf8 cs) = .ok cs :=
  decodeFrom_encode cs 0 _ (Nat.le_refl _)

theorem secondRange_within (cut last x : Nat) (hcut : 128 < cut ∧ cut < 192) :
    128 ≤ (secondRange cut last x).1.toNat ∧ (secondRange cut last x).2.toNat ≤ 191 := by
  have hlow : (UInt8.ofNat cut).toNat = cut := toNat_ofNat_byte (by omega)
  have hhigh : (UInt8.ofNat (cut - 1)).toNat = cut - 1 := toNat_ofNat_byte (by omega)
  unfold secondRange tailRange
  split
  · change 128 ≤ (UInt8.ofNat cut).toNat ∧ 191 ≤ 191
    omega
  split
  · change 128 ≤ 128 ∧ (UInt8.ofNat (cut - 1)).toNat ≤ 191
    omega
  · decide

theorem of_secondRange {cut last x y : Nat} (hcut : 128 < cut ∧ cut < 192) (hlast : last ≠ 0)
    (hlow : (secondRange cut last x).1.toNat ≤ y + 128)
    (hhigh : y + 128 ≤ (secondRange cut last x).2.toNat) :
    (x = 0 → cut ≤ y + 128) ∧ (x = last → y + 128 < cut) := by
  have hcutByte : (UInt8.ofNat cut).toNat = cut := toNat_ofNat_byte (by omega)
  have hlastByte : (UInt8.ofNat (cut - 1)).toNat = cut - 1 := toNat_ofNat_byte (by omega)
  unfold secondRange at hlow hhigh
  constructor
  · intro hx
    rw [if_pos hx] at hlow
    exact hcutByte ▸ hlow
  · intro hx
    rw [if_neg (by omega), if_pos hx] at hhigh
    change y + 128 ≤ (UInt8.ofNat (cut - 1)).toNat at hhigh
    omega

theorem ofNat_toNat_byte {b : UInt8} {n : Nat} (h : b.toNat = n) : b = UInt8.ofNat n := by
  rw [← h, UInt8.ofNat_toNat]

theorem decodeTail_cons_ok {n length : Nat} {range : UInt8 × UInt8} {ranges : List (UInt8 × UInt8)}
    {bytes : List UInt8} {r : Nat × List UInt8}
    (hrange : 128 ≤ range.1.toNat ∧ range.2.toNat ≤ 191)
    (h : decodeTail n length (range :: ranges) bytes = .ok r) :
    ∃ x more, x < 64 ∧ (range.1.toNat ≤ x + 128 ∧ x + 128 ≤ range.2.toNat) ∧
      bytes = UInt8.ofNat (x + 128) :: more ∧
        decodeTail (64 * n + x) (length + 1) ranges more = .ok r := by
  cases bytes with
  | nil => cases h
  | cons b more =>
    rw [decodeTail] at h
    split at h
    · next hb =>
      rw [UInt8.le_iff_toNat_le, UInt8.le_iff_toNat_le] at hb
      have hx : b.toNat - 0x80 + 128 = b.toNat := by omega
      refine ⟨b.toNat - 0x80, more, by omega, ?_, ?_, h⟩
      · rw [hx]
        exact hb
      · rw [hx, UInt8.ofNat_toNat]
    · cases h

theorem decodeTail_tail_ok {n length : Nat} {ranges : List (UInt8 × UInt8)}
    {bytes : List UInt8} {r : Nat × List UInt8}
    (h : decodeTail n length (tailRange :: ranges) bytes = .ok r) :
    ∃ x more, x < 64 ∧ bytes = UInt8.ofNat (x + 128) :: more ∧
      decodeTail (64 * n + x) (length + 1) ranges more = .ok r := by
  obtain ⟨x, more, hx, -, hbytes, hr⟩ := decodeTail_cons_ok (by decide) h
  exact ⟨x, more, hx, hbytes, hr⟩

theorem firstByte_of_continuations {b : UInt8} {ranges : List (UInt8 × UInt8)}
    (h : continuations? b = some ranges) :
    (∃ x : Fin 128, b = UInt8.ofNat x) ∨ (∃ x : Fin 32, 2 ≤ x.val ∧ b = UInt8.ofNat (x + 192)) ∨
      (∃ x : Fin 16, b = UInt8.ofNat (x + 224)) ∨ ∃ x : Fin 5, b = UInt8.ofNat (x + 240) := by
  simp only [continuations?, UInt8.lt_iff_toNat_lt, UInt8.reduceToNat] at h
  split at h
  · next hb => exact .inl ⟨⟨b.toNat, hb⟩, ofNat_toNat_byte rfl⟩
  split at h
  · cases h
  split at h
  · next hb =>
    refine .inr (.inl ⟨⟨b.toNat - 192, by omega⟩, ?_, ofNat_toNat_byte ?_⟩)
    · simp only
      omega
    · simp only
      omega
  split at h
  · next hb =>
    refine .inr (.inr (.inl ⟨⟨b.toNat - 224, by omega⟩, ofNat_toNat_byte ?_⟩))
    simp only
    omega
  split at h
  · next hb =>
    refine .inr (.inr (.inr ⟨⟨b.toNat - 240, by omega⟩, ofNat_toNat_byte ?_⟩))
    simp only
    omega
  · cases h

theorem ofNat_val {n : Nat} (hn : n.isValidChar) : (Char.ofNat n).val.toNat = n := by
  rw [Char.ofNat, dif_pos hn]
  rfl

theorem encodeChar_one {x : Nat} (hx : x < 128) :
    String.utf8EncodeChar (Char.ofNat x) = [UInt8.ofNat x] := by
  simp only [String.utf8EncodeChar, ofNat_val (show x.isValidChar from .inl (by omega))]
  rw [if_pos (by omega)]

theorem encodeChar_two {x y : Nat} (hx : 2 ≤ x ∧ x < 32) (hy : y < 64) :
    String.utf8EncodeChar (Char.ofNat (64 * x + y)) =
      [UInt8.ofNat (x + 192), UInt8.ofNat (y + 128)] := by
  have hvalid : (64 * x + y).isValidChar := .inl (by omega)
  have hlead : (64 * x + y) / 64 % 32 = x := by omega
  have hlast : (64 * x + y) % 64 = y := by omega
  simp only [String.utf8EncodeChar, ofNat_val hvalid, hlead, hlast]
  rw [if_neg (by omega), if_pos (by omega)]

theorem encodeChar_three {x y z : Nat} (hx : x < 16) (hy : y < 64) (hz : z < 64)
    (hleast : x = 0 → 160 ≤ y + 128) (hpair : x = 13 → y + 128 < 160) :
    String.utf8EncodeChar (Char.ofNat (64 * (64 * x + y) + z)) =
      [UInt8.ofNat (x + 224), UInt8.ofNat (y + 128), UInt8.ofNat (z + 128)] := by
  have hvalid : (64 * (64 * x + y) + z).isValidChar := by
    unfold Nat.isValidChar
    omega
  have hlead : (64 * (64 * x + y) + z) / 4096 % 16 = x := by omega
  have hsecond : (64 * (64 * x + y) + z) / 64 % 64 = y := by omega
  have hlast : (64 * (64 * x + y) + z) % 64 = z := by omega
  simp only [String.utf8EncodeChar, ofNat_val hvalid, hlead, hsecond, hlast]
  rw [if_neg (by omega), if_neg (by omega), if_pos (by omega)]

theorem encodeChar_four {x y z w : Nat} (hx : x < 5) (hy : y < 64) (hz : z < 64) (hw : w < 64)
    (hleast : x = 0 → 144 ≤ y + 128) (hmost : x = 4 → y + 128 < 144) :
    String.utf8EncodeChar (Char.ofNat (64 * (64 * (64 * x + y) + z) + w)) =
      [UInt8.ofNat (x + 240), UInt8.ofNat (y + 128), UInt8.ofNat (z + 128),
        UInt8.ofNat (w + 128)] := by
  have hvalid : (64 * (64 * (64 * x + y) + z) + w).isValidChar := by
    unfold Nat.isValidChar
    omega
  have hlead : (64 * (64 * (64 * x + y) + z) + w) / 262144 % 8 = x := by omega
  have hsecond : (64 * (64 * (64 * x + y) + z) + w) / 4096 % 64 = y := by omega
  have hthird : (64 * (64 * (64 * x + y) + z) + w) / 64 % 64 = z := by omega
  have hlast : (64 * (64 * (64 * x + y) + z) + w) % 64 = w := by omega
  simp only [String.utf8EncodeChar, ofNat_val hvalid, hlead, hsecond, hthird, hlast]
  rw [if_neg (by omega), if_neg (by omega), if_neg (by omega)]

theorem encodeChar_of_decodeTail {b : UInt8} {ranges : List (UInt8 × UInt8)}
    {bytes rest : List UInt8} {n : Nat} (hb : continuations? b = some ranges)
    (ht : decodeTail (leadBits b) 1 ranges bytes = .ok (n, rest)) :
    String.utf8EncodeChar (Char.ofNat n) ++ rest = b :: bytes := by
  rcases firstByte_of_continuations hb with ⟨x, rfl⟩ | ⟨x, hx, rfl⟩ | ⟨x, rfl⟩ | ⟨x, rfl⟩
  · obtain ⟨hr, hl⟩ := firstByte_one x
    obtain rfl := Option.some.inj (hb.symm.trans hr)
    rw [hl, decodeTail] at ht
    obtain ⟨rfl, rfl⟩ := Prod.mk.inj (Except.ok.inj ht)
    rw [encodeChar_one x.isLt]
    rfl
  · obtain ⟨hr, hl⟩ := firstByte_two x hx
    obtain rfl := Option.some.inj (hb.symm.trans hr)
    rw [hl] at ht
    obtain ⟨y, _, hy, rfl, hend⟩ := decodeTail_tail_ok ht
    rw [decodeTail] at hend
    obtain ⟨rfl, rfl⟩ := Prod.mk.inj (Except.ok.inj hend)
    rw [encodeChar_two ⟨hx, x.isLt⟩ hy]
    rfl
  · obtain ⟨hr, hl⟩ := firstByte_three x
    obtain rfl := Option.some.inj (hb.symm.trans hr)
    rw [hl] at ht
    obtain ⟨y, _, hy, hrange, rfl, hmore⟩ :=
      decodeTail_cons_ok (secondRange_within _ _ _ (by decide)) ht
    obtain ⟨z, _, hz, rfl, hend⟩ := decodeTail_tail_ok hmore
    rw [decodeTail] at hend
    obtain ⟨rfl, rfl⟩ := Prod.mk.inj (Except.ok.inj hend)
    obtain ⟨hleast, hpair⟩ := of_secondRange (by decide) (by decide) hrange.1 hrange.2
    rw [encodeChar_three x.isLt hy hz hleast hpair]
    rfl
  · obtain ⟨hr, hl⟩ := firstByte_four x
    obtain rfl := Option.some.inj (hb.symm.trans hr)
    rw [hl] at ht
    obtain ⟨y, _, hy, hrange, rfl, hmore⟩ :=
      decodeTail_cons_ok (secondRange_within _ _ _ (by decide)) ht
    obtain ⟨z, _, hz, rfl, hlast⟩ := decodeTail_tail_ok hmore
    obtain ⟨w, _, hw, rfl, hend⟩ := decodeTail_tail_ok hlast
    rw [decodeTail] at hend
    obtain ⟨rfl, rfl⟩ := Prod.mk.inj (Except.ok.inj hend)
    obtain ⟨hleast, hmost⟩ := of_secondRange (by decide) (by decide) hrange.1 hrange.2
    rw [encodeChar_four x.isLt hy hz hw hleast hmost]
    rfl

theorem encode_of_decodeFrom {place fuel : Nat} {bytes : List UInt8} {cs : List Char}
    (hf : bytes.length ≤ fuel) (h : decodeFrom place fuel bytes = .ok cs) :
    encodeUtf8 cs = bytes := by
  induction fuel generalizing place bytes cs with
  | zero =>
    obtain rfl := List.eq_nil_of_length_eq_zero (Nat.le_zero.1 hf)
    obtain rfl := Except.ok.inj h
    rfl
  | succ fuel ih =>
    cases bytes with
    | nil =>
      obtain rfl := Except.ok.inj h
      rfl
    | cons b bytes =>
      rw [decodeFrom] at h
      split at h
      · cases h
      next ranges hb =>
      split at h
      · cases h
      next n rest ht =>
      obtain ⟨ds, hds, rfl⟩ := map_eq_ok_iff.1 h
      have hchar := encodeChar_of_decodeTail hb ht
      have hpos : 0 < (String.utf8EncodeChar (Char.ofNat n)).length :=
        List.length_pos_iff.2 String.utf8EncodeChar_ne_nil
      have hlen := congrArg List.length hchar
      rw [List.length_append] at hlen
      rw [encodeUtf8, List.flatMap_cons, ← hchar]
      exact congrArg _ (ih (by omega) hds)

/-- Decoding succeeds on the bytes of texts and on no others. -/
theorem decodeUtf8_eq_ok_iff {bytes : List UInt8} {cs : List Char} :
    decodeUtf8 bytes = .ok cs ↔ encodeUtf8 cs = bytes := by
  constructor
  · exact encode_of_decodeFrom (Nat.le_refl _)
  · rintro rfl
    exact decodeUtf8_encodeUtf8 cs

theorem encodeUtf8_ne_of_error {bytes : List UInt8} {e : Utf8Error}
    (h : decodeUtf8 bytes = .error e) (cs : List Char) : encodeUtf8 cs ≠ bytes := by
  intro hcs
  rw [decodeUtf8_eq_ok_iff.2 hcs] at h
  cases h

end ElementMarkup.Text
