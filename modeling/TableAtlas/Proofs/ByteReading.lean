import Mathlib.Data.List.Forall2
import Mathlib.Data.List.Infix
import TableAtlas.Text.Utf8

/-!
# Texts read back from bytes

A character is written as a first byte and bytes in the ranges that belong to it, and there is one
code for all bytes of that form. So bytes are read as a text exactly if they are what the text is
written as, and bytes that cannot be read are written by no text.
-/

namespace TableAtlas.Text.Utf8

/-- Whether bytes lie in the ranges given for them. -/
def Within (ranges : List (UInt8 × UInt8)) (bytes : List UInt8) : Prop :=
  List.Forall₂ (fun range x => range.1 ≤ x ∧ x ≤ range.2) ranges bytes

/-- The code that a payload makes up with the bytes behind it. -/
def codeFrom (n : Nat) (bytes : List UInt8) : Nat :=
  bytes.foldl (fun n x => 64 * n + (x.toNat - 0x80)) n

theorem codeFrom_nil (n : Nat) : codeFrom n [] = n := rfl

theorem codeFrom_cons (n : Nat) (x : UInt8) (xs : List UInt8) :
    codeFrom n (x :: xs) = codeFrom (64 * n + (x.toNat - 0x80)) xs := List.foldl_cons ..

/-- Whether a first byte and the bytes behind it are a character with the code `n`. -/
def IsCharacter (x : UInt8) (xs : List UInt8) (n : Nat) : Prop :=
  ∃ m ranges, firstByte? x = some (m, ranges) ∧ Within ranges xs ∧ codeFrom m xs = n

/-- What a first byte says, by its number. -/
theorem firstByte?_of_toNat {x : UInt8} {k : Nat} (h : x.toNat = k) : firstByte? x =
    if k < 0x80 then some (k, [])
    else if k < 0xC2 then none
    else if k < 0xE0 then some (k - 0xC0, [(0x80, 0xBF)])
    else if k = 0xE0 then some (0x0, [(0xA0, 0xBF), (0x80, 0xBF)])
    else if k = 0xED then some (0xD, [(0x80, 0x9F), (0x80, 0xBF)])
    else if k < 0xF0 then some (k - 0xE0, [(0x80, 0xBF), (0x80, 0xBF)])
    else if k = 0xF0 then some (0x0, [(0x90, 0xBF), (0x80, 0xBF), (0x80, 0xBF)])
    else if k < 0xF4 then some (k - 0xF0, [(0x80, 0xBF), (0x80, 0xBF), (0x80, 0xBF)])
    else if k = 0xF4 then some (0x4, [(0x80, 0x8F), (0x80, 0xBF), (0x80, 0xBF)])
    else none := by
  subst h
  simp only [firstByte?, UInt8.lt_iff_toNat_lt, ← UInt8.toNat_inj, UInt8.reduceToNat]

/-- The byte of a number, between two others. -/
theorem byte_between {lo hi : UInt8} {k : Nat} (hlo : lo.toNat ≤ k) (hhi : k ≤ hi.toNat) :
    lo ≤ UInt8.ofNat k ∧ UInt8.ofNat k ≤ hi := by
  have hk : (UInt8.ofNat k).toNat = k := UInt8.toNat_ofNat_of_lt' (hhi.trans_lt hi.toNat_lt)
  simp only [UInt8.le_iff_toNat_le, hk]
  exact ⟨hlo, hhi⟩

/-- The byte with the last six bits of a code. -/
def tailByte (n : Nat) : UInt8 := UInt8.ofNat (n % 64 + 128)

theorem toNat_tailByte (n : Nat) : (tailByte n).toNat = n % 64 + 128 := by
  simp only [tailByte, UInt8.toNat_ofNat']
  omega

theorem tailByte_between (n : Nat) : (0x80 : UInt8) ≤ tailByte n ∧ tailByte n ≤ (0xBF : UInt8) :=
  byte_between (by simp) (by simp only [UInt8.reduceToNat]; omega)

theorem codeFrom_tailByte (m n : Nat) (xs : List UInt8) :
    codeFrom m (tailByte n :: xs) = codeFrom (64 * m + n % 64) xs := by
  rw [codeFrom_cons, toNat_tailByte, Nat.add_sub_cancel]

section Encoding

variable {n : Nat} {x : UInt8} {xs : List UInt8}

/-- The bytes of a code, by the number of bits in it. -/
theorem utf8EncodeChar_eq (c : Char) : String.utf8EncodeChar c =
    if c.toNat ≤ 0x7F then [UInt8.ofNat c.toNat]
    else if c.toNat ≤ 0x7FF then
      [UInt8.ofNat (c.toNat / 64 % 32 + 192), tailByte c.toNat]
    else if c.toNat ≤ 0xFFFF then
      [UInt8.ofNat (c.toNat / 4096 % 16 + 224), tailByte (c.toNat / 64), tailByte c.toNat]
    else
      [UInt8.ofNat (c.toNat / 262144 % 8 + 240), tailByte (c.toNat / 4096),
        tailByte (c.toNat / 64), tailByte c.toNat] := rfl

theorem isCharacter_one (h : n ≤ 0x7F) : IsCharacter (UInt8.ofNat n) [] n := by
  have hfirst : (UInt8.ofNat n).toNat = n := by
    simp only [UInt8.toNat_ofNat']
    omega
  refine ⟨n, [], ?_, .nil, rfl⟩
  rw [firstByte?_of_toNat hfirst, if_pos (by omega)]

theorem isCharacter_two (h : 0x7F < n) (h' : n ≤ 0x7FF) :
    IsCharacter (UInt8.ofNat (n / 64 % 32 + 192)) [tailByte n] n := by
  have hfirst : (UInt8.ofNat (n / 64 % 32 + 192)).toNat = n / 64 + 192 := by
    simp only [UInt8.toNat_ofNat']
    omega
  refine ⟨n / 64, [(0x80, 0xBF)], ?_, .cons (tailByte_between n) .nil, ?_⟩
  · rw [firstByte?_of_toNat hfirst]
    grind
  · rw [codeFrom_tailByte, codeFrom_nil]
    omega

/-- Overlong codes and surrogates are kept out by the range of the second byte. -/
theorem isCharacter_three (h : 0x7FF < n) (h' : n ≤ 0xFFFF) (hs : n < 0xD800 ∨ 0xDFFF < n) :
    IsCharacter (UInt8.ofNat (n / 4096 % 16 + 224)) [tailByte (n / 64), tailByte n] n := by
  have hfirst : (UInt8.ofNat (n / 4096 % 16 + 224)).toNat = n / 4096 + 224 := by
    simp only [UInt8.toNat_ofNat']
    omega
  have hcode : codeFrom (n / 4096) [tailByte (n / 64), tailByte n] = n := by
    rw [codeFrom_tailByte, codeFrom_tailByte, codeFrom_nil]
    omega
  have htail : Within [(0x80, 0xBF)] [tailByte n] := .cons (tailByte_between n) .nil
  have hread := firstByte?_of_toNat hfirst
  by_cases hlow : n / 4096 = 0
  · refine ⟨n / 4096, [(0xA0, 0xBF), (0x80, 0xBF)], ?_, .cons ?_ htail, hcode⟩
    · rw [hread, hlow]
      rfl
    · exact byte_between (by simp; omega) (by simp; omega)
  · by_cases hsurrogate : n / 4096 = 13
    · refine ⟨n / 4096, [(0x80, 0x9F), (0x80, 0xBF)], ?_, .cons ?_ htail, hcode⟩
      · rw [hread, hsurrogate]
        rfl
      · exact byte_between (by simp) (by simp; omega)
    · refine ⟨n / 4096, [(0x80, 0xBF), (0x80, 0xBF)], ?_, .cons (tailByte_between _) htail, hcode⟩
      rw [hread]
      grind

/-- Codes are kept above the first plane and below U+110000 by the range of the second byte. -/
theorem isCharacter_four (h : 0xFFFF < n) (h' : n < 0x110000) :
    IsCharacter (UInt8.ofNat (n / 262144 % 8 + 240))
      [tailByte (n / 4096), tailByte (n / 64), tailByte n] n := by
  have hfirst : (UInt8.ofNat (n / 262144 % 8 + 240)).toNat = n / 262144 + 240 := by
    simp only [UInt8.toNat_ofNat']
    omega
  have hcode : codeFrom (n / 262144) [tailByte (n / 4096), tailByte (n / 64), tailByte n] = n := by
    rw [codeFrom_tailByte, codeFrom_tailByte, codeFrom_tailByte, codeFrom_nil]
    omega
  have htail : Within [(0x80, 0xBF), (0x80, 0xBF)] [tailByte (n / 64), tailByte n] :=
    .cons (tailByte_between (n / 64)) (.cons (tailByte_between n) .nil)
  have hread := firstByte?_of_toNat hfirst
  by_cases hlow : n / 262144 = 0
  · refine ⟨n / 262144, [(0x90, 0xBF), (0x80, 0xBF), (0x80, 0xBF)], ?_, .cons ?_ htail, hcode⟩
    · rw [hread, hlow]
      rfl
    · exact byte_between (by simp; omega) (by simp; omega)
  · by_cases hhigh : n / 262144 = 4
    · refine ⟨n / 262144, [(0x80, 0x8F), (0x80, 0xBF), (0x80, 0xBF)], ?_, .cons ?_ htail, hcode⟩
      · rw [hread, hhigh]
        rfl
      · exact byte_between (by simp) (by simp; omega)
    · refine ⟨n / 262144, [(0x80, 0xBF), (0x80, 0xBF), (0x80, 0xBF)], ?_,
        .cons (tailByte_between _) htail, hcode⟩
      rw [hread]
      grind

theorem isCharacter_of_encode (c : Char) :
    ∃ x xs, String.utf8EncodeChar c = x :: xs ∧ IsCharacter x xs c.toNat := by
  have hvalid : c.toNat < 0xD800 ∨ 0xDFFF < c.toNat ∧ c.toNat < 0x110000 := c.valid
  rw [utf8EncodeChar_eq]
  split
  case isTrue h => exact ⟨_, _, rfl, isCharacter_one h⟩
  case isFalse h =>
    split
    case isTrue h' => exact ⟨_, _, rfl, isCharacter_two (by omega) h'⟩
    case isFalse h' =>
      split
      case isTrue h'' => exact ⟨_, _, rfl, isCharacter_three (by omega) h'' (by omega)⟩
      case isFalse h'' => exact ⟨_, _, rfl, isCharacter_four (by omega) (by omega)⟩

/-! ## One written form -/

variable {y z w : UInt8}

theorem exists_char (h : n < 0xD800 ∨ 0xDFFF < n ∧ n < 0x110000) : ∃ c : Char, c.toNat = n :=
  ⟨Char.ofNatAux n h, rfl⟩

theorem eq_ofNat {k : Nat} (h : x.toNat = k) : x = UInt8.ofNat k := by
  rw [← h, UInt8.ofNat_toNat]

theorem encode_of_one (h : x.toNat < 0x80) :
    ∃ c : Char, c.toNat = x.toNat ∧ String.utf8EncodeChar c = [x] := by
  obtain ⟨c, hc⟩ := exists_char (n := x.toNat) (by omega)
  refine ⟨c, hc, ?_⟩
  rw [utf8EncodeChar_eq, if_pos (by omega), hc, UInt8.ofNat_toNat]

theorem encode_of_two (hx : 0xC2 ≤ x.toNat ∧ x.toNat < 0xE0)
    (hy : 0x80 ≤ y.toNat ∧ y.toNat ≤ 0xBF) :
    ∃ c : Char, c.toNat = codeFrom (x.toNat - 0xC0) [y] ∧ String.utf8EncodeChar c = [x, y] := by
  obtain ⟨n, hn⟩ : ∃ n, 64 * (x.toNat - 0xC0) + (y.toNat - 0x80) = n := ⟨_, rfl⟩
  obtain ⟨c, rfl⟩ := exists_char (n := n) (by omega)
  refine ⟨c, hn.symm, ?_⟩
  rw [utf8EncodeChar_eq, if_neg (by omega), if_pos (by omega)]
  have hxn : x = UInt8.ofNat (c.toNat / 64 % 32 + 192) := eq_ofNat (by omega)
  have hyn : y = tailByte c.toNat := eq_ofNat (by omega)
  rw [hxn, hyn]

theorem encode_of_three (hx : 0xE0 ≤ x.toNat ∧ x.toNat < 0xF0)
    (hy : 0x80 ≤ y.toNat ∧ y.toNat ≤ 0xBF) (hz : 0x80 ≤ z.toNat ∧ z.toNat ≤ 0xBF)
    (hlow : x.toNat = 0xE0 → 0xA0 ≤ y.toNat) (hsurrogate : x.toNat = 0xED → y.toNat ≤ 0x9F) :
    ∃ c : Char, c.toNat = codeFrom (x.toNat - 0xE0) [y, z] ∧
      String.utf8EncodeChar c = [x, y, z] := by
  obtain ⟨n, hn⟩ :
      ∃ n, 64 * (64 * (x.toNat - 0xE0) + (y.toNat - 0x80)) + (z.toNat - 0x80) = n := ⟨_, rfl⟩
  obtain ⟨c, rfl⟩ := exists_char (n := n) (by omega)
  refine ⟨c, hn.symm, ?_⟩
  rw [utf8EncodeChar_eq, if_neg (by omega), if_neg (by omega), if_pos (by omega)]
  have hxn : x = UInt8.ofNat (c.toNat / 4096 % 16 + 224) := eq_ofNat (by omega)
  have hyn : y = tailByte (c.toNat / 64) := eq_ofNat (by omega)
  have hzn : z = tailByte c.toNat := eq_ofNat (by omega)
  rw [hxn, hyn, hzn]

theorem encode_of_four (hx : 0xF0 ≤ x.toNat ∧ x.toNat < 0xF5)
    (hy : 0x80 ≤ y.toNat ∧ y.toNat ≤ 0xBF) (hz : 0x80 ≤ z.toNat ∧ z.toNat ≤ 0xBF)
    (hw : 0x80 ≤ w.toNat ∧ w.toNat ≤ 0xBF)
    (hlow : x.toNat = 0xF0 → 0x90 ≤ y.toNat) (hhigh : x.toNat = 0xF4 → y.toNat ≤ 0x8F) :
    ∃ c : Char, c.toNat = codeFrom (x.toNat - 0xF0) [y, z, w] ∧
      String.utf8EncodeChar c = [x, y, z, w] := by
  obtain ⟨n, hn⟩ : ∃ n, 64 * (64 * (64 * (x.toNat - 0xF0) + (y.toNat - 0x80)) +
      (z.toNat - 0x80)) + (w.toNat - 0x80) = n := ⟨_, rfl⟩
  obtain ⟨c, rfl⟩ := exists_char (n := n) (by omega)
  refine ⟨c, hn.symm, ?_⟩
  rw [utf8EncodeChar_eq, if_neg (by omega), if_neg (by omega), if_neg (by omega)]
  have hxn : x = UInt8.ofNat (c.toNat / 262144 % 8 + 240) := eq_ofNat (by omega)
  have hyn : y = tailByte (c.toNat / 4096) := eq_ofNat (by omega)
  have hzn : z = tailByte (c.toNat / 64) := eq_ofNat (by omega)
  have hwn : w = tailByte c.toNat := eq_ofNat (by omega)
  rw [hxn, hyn, hzn, hwn]

/-- The forms of a character, by its first byte. The range of the second byte may be narrower than
that of the bytes behind it. -/
theorem firstByte?_cases {m : Nat} {ranges : List (UInt8 × UInt8)}
    (h : firstByte? x = some (m, ranges)) :
    (x.toNat < 0x80 ∧ m = x.toNat ∧ ranges = []) ∨
      (0xC2 ≤ x.toNat ∧ x.toNat < 0xE0) ∧ m = x.toNat - 0xC0 ∧ ranges = [(0x80, 0xBF)] ∨
      ∃ lo hi : UInt8, (0x80 ≤ lo.toNat ∧ hi.toNat ≤ 0xBF) ∧
        ((0xE0 ≤ x.toNat ∧ x.toNat < 0xF0) ∧ m = x.toNat - 0xE0 ∧
            ranges = [(lo, hi), (0x80, 0xBF)] ∧
            (x.toNat = 0xE0 → 0xA0 ≤ lo.toNat) ∧ (x.toNat = 0xED → hi.toNat ≤ 0x9F) ∨
          (0xF0 ≤ x.toNat ∧ x.toNat < 0xF5) ∧ m = x.toNat - 0xF0 ∧
            ranges = [(lo, hi), (0x80, 0xBF), (0x80, 0xBF)] ∧
            (x.toNat = 0xF0 → 0x90 ≤ lo.toNat) ∧ (x.toNat = 0xF4 → hi.toNat ≤ 0x8F)) := by
  rw [firstByte?_of_toNat rfl] at h
  have hinj : ∀ {p q : Nat × List (UInt8 × UInt8)}, some p = some q → p.1 = q.1 ∧ p.2 = q.2 := by
    rintro p q ⟨rfl⟩
    exact ⟨rfl, rfl⟩
  split_ifs at h
  · obtain ⟨rfl, rfl⟩ := hinj h
    exact .inl ⟨by omega, rfl, rfl⟩
  · obtain ⟨rfl, rfl⟩ := hinj h
    exact .inr (.inl ⟨by omega, rfl, rfl⟩)
  · obtain ⟨rfl, rfl⟩ := hinj h
    exact .inr (.inr ⟨0xA0, 0xBF, by decide, .inl ⟨by omega, by omega, rfl, by simp, by omega⟩⟩)
  · obtain ⟨rfl, rfl⟩ := hinj h
    exact .inr (.inr ⟨0x80, 0x9F, by decide, .inl ⟨by omega, by omega, rfl, by omega, by simp⟩⟩)
  · obtain ⟨rfl, rfl⟩ := hinj h
    exact .inr (.inr ⟨0x80, 0xBF, by decide, .inl ⟨by omega, rfl, rfl, by omega, by omega⟩⟩)
  · obtain ⟨rfl, rfl⟩ := hinj h
    exact .inr (.inr ⟨0x90, 0xBF, by decide, .inr ⟨by omega, by omega, rfl, by simp, by omega⟩⟩)
  · obtain ⟨rfl, rfl⟩ := hinj h
    exact .inr (.inr ⟨0x80, 0xBF, by decide, .inr ⟨by omega, rfl, rfl, by omega, by omega⟩⟩)
  · obtain ⟨rfl, rfl⟩ := hinj h
    exact .inr (.inr ⟨0x80, 0x8F, by decide, .inr ⟨by omega, by omega, rfl, by omega, by simp⟩⟩)

theorem within_cons_iff {lo hi : UInt8} {ranges : List (UInt8 × UInt8)} :
    Within ((lo, hi) :: ranges) xs ↔ ∃ y ys, xs = y :: ys ∧
      (lo.toNat ≤ y.toNat ∧ y.toNat ≤ hi.toNat) ∧ Within ranges ys := by
  rw [Within, List.forall₂_cons_left_iff]
  constructor
  · rintro ⟨y, ys, hy, hys, rfl⟩
    exact ⟨y, ys, rfl, hy, hys⟩
  · rintro ⟨y, ys, rfl, hy, hys⟩
    exact ⟨y, ys, hy, hys, rfl⟩

theorem within_nil_iff : Within [] xs ↔ xs = [] := List.forall₂_nil_left_iff

/-- What is read as a character is the code of one and its only written form. -/
theorem exists_encode_of_isCharacter (h : IsCharacter x xs n) :
    ∃ c : Char, c.toNat = n ∧ String.utf8EncodeChar c = x :: xs := by
  obtain ⟨m, ranges, hfirst, hwithin, rfl⟩ := h
  rcases firstByte?_cases hfirst with
    ⟨hx, hm, hranges⟩ | ⟨hx, hm, hranges⟩ | ⟨lo, hi, hbounds, htail⟩
  · rw [hm]
    subst hranges
    obtain rfl := within_nil_iff.1 hwithin
    exact encode_of_one hx
  · rw [hm]
    subst hranges
    obtain ⟨y, _, rfl, hy, hnil⟩ := within_cons_iff.1 hwithin
    obtain rfl := within_nil_iff.1 hnil
    exact encode_of_two hx hy
  · rcases htail with ⟨hx, hm, hranges, hlow, hhigh⟩ | ⟨hx, hm, hranges, hlow, hhigh⟩
    · rw [hm]
      subst hranges
      obtain ⟨y, _, rfl, hy, htail⟩ := within_cons_iff.1 hwithin
      obtain ⟨z, _, rfl, hz, hnil⟩ := within_cons_iff.1 htail
      obtain rfl := within_nil_iff.1 hnil
      exact encode_of_three hx (by omega) hz (by omega) (by omega)
    · rw [hm]
      subst hranges
      obtain ⟨y, _, rfl, hy, htail⟩ := within_cons_iff.1 hwithin
      obtain ⟨z, _, rfl, hz, htail⟩ := within_cons_iff.1 htail
      obtain ⟨w, _, rfl, hw, hnil⟩ := within_cons_iff.1 htail
      obtain rfl := within_nil_iff.1 hnil
      exact encode_of_four hx (by omega) hz hw (by omega) (by omega)

end Encoding

/-! ## Whole texts -/

section Decoding

variable {position n : Nat} {done t : List Char} {bytes : List UInt8}

/-- The bytes of some ranges at the front of a text, byte by byte. -/
theorem exists_within_cons_iff {P : List UInt8 → List UInt8 → Prop} {lo hi x : UInt8}
    {ranges : List (UInt8 × UInt8)} :
    (∃ xs rest, x :: bytes = xs ++ rest ∧ Within ((lo, hi) :: ranges) xs ∧ P xs rest) ↔
      (lo ≤ x ∧ x ≤ hi) ∧ ∃ xs rest, bytes = xs ++ rest ∧ Within ranges xs ∧ P (x :: xs) rest := by
  constructor
  · rintro ⟨_, rest, hbytes, hwithin, hP⟩
    cases hwithin with
    | cons hx hxs =>
      obtain ⟨rfl, rfl⟩ := List.cons.inj hbytes
      exact ⟨hx, _, rest, rfl, hxs, hP⟩
  · rintro ⟨hx, xs, rest, rfl, hxs, hP⟩
    exact ⟨x :: xs, rest, rfl, .cons hx hxs, hP⟩

theorem exists_within_nil_iff {P : List UInt8 → List UInt8 → Prop} :
    (∃ xs rest, bytes = xs ++ rest ∧ Within [] xs ∧ P xs rest) ↔ P [] bytes := by
  simp [within_nil_iff]

theorem decodeFrom_begun_cons {start read : Nat} {first lo hi x : UInt8}
    {ranges : List (UInt8 × UInt8)} :
    decodeFrom position done (some ⟨start, first, read, n, (lo, hi) :: ranges⟩) (x :: bytes) =
      if lo ≤ x ∧ x ≤ hi then
        if ranges.isEmpty then
          decodeFrom (position + 1) (Char.ofNat (codeFrom n [x]) :: done) none bytes
        else
          decodeFrom (position + 1) done
            (some ⟨start, first, read + 1, codeFrom n [x], ranges⟩) bytes
      else .error ⟨start, first, read, .invalidContinuation⟩ := rfl

/-- A character that has begun is read as far as its ranges go. -/
theorem decodeFrom_begun_iff {start read : Nat} {first lo hi : UInt8}
    {ranges : List (UInt8 × UInt8)} :
    decodeFrom position done (some ⟨start, first, read, n, (lo, hi) :: ranges⟩) bytes = .ok t ↔
      ∃ xs rest, bytes = xs ++ rest ∧ Within ((lo, hi) :: ranges) xs ∧
        decodeFrom (position + xs.length) (Char.ofNat (codeFrom n xs) :: done) none rest =
          .ok t := by
  induction ranges generalizing position read n lo hi bytes with
  | nil =>
    cases bytes with
    | nil => simp [decodeFrom, within_cons_iff]
    | cons x bytes =>
      rw [exists_within_cons_iff, exists_within_nil_iff, decodeFrom_begun_cons]
      split <;> simp [*]
  | cons range ranges ih =>
    cases bytes with
    | nil => simp [decodeFrom, within_cons_iff]
    | cons x bytes =>
      rw [exists_within_cons_iff, decodeFrom_begun_cons]
      split
      case isTrue hx =>
        have hposition : ∀ xs : List UInt8,
            position + 1 + xs.length = position + (x :: xs).length := by
          intro xs
          rw [List.length_cons]
          omega
        have hcode : ∀ xs, codeFrom (codeFrom n [x]) xs = codeFrom n (x :: xs) := by
          intro xs
          rw [codeFrom_cons, codeFrom_cons n x xs, codeFrom_nil]
        simp only [List.isEmpty_cons, Bool.false_eq_true, ↓reduceIte, ih, hposition, hcode, hx,
          and_self, true_and]
      case isFalse hx => simp [hx]

theorem decodeFrom_cons_iff {x : UInt8} :
    decodeFrom position done none (x :: bytes) = .ok t ↔
      ∃ xs rest n, bytes = xs ++ rest ∧ IsCharacter x xs n ∧
        decodeFrom (position + 1 + xs.length) (Char.ofNat n :: done) none rest = .ok t := by
  have hread : ∀ m ranges, firstByte? x = some (m, ranges) →
      ((∃ xs rest n, bytes = xs ++ rest ∧ IsCharacter x xs n ∧
        decodeFrom (position + 1 + xs.length) (Char.ofNat n :: done) none rest = .ok t) ↔
      ∃ xs rest, bytes = xs ++ rest ∧ Within ranges xs ∧
        decodeFrom (position + 1 + xs.length) (Char.ofNat (codeFrom m xs) :: done) none rest =
          .ok t) := by
    intro m ranges hfirst
    simp [IsCharacter, hfirst]
  rw [decodeFrom]
  cases hfirst : firstByte? x with
  | none => simp [IsCharacter, hfirst]
  | some r =>
    obtain ⟨m, ranges⟩ := r
    rw [hread m ranges hfirst]
    cases ranges with
    | nil => simp [exists_within_nil_iff, codeFrom]
    | cons range ranges => exact decodeFrom_begun_iff

/-- A reading goes on with the text that the remaining bytes are written by. -/
theorem decodeFrom_eq_ok_iff :
    decodeFrom position done none bytes = .ok t ↔
      ∃ s, t = done.reverse ++ s ∧ bytes = encode s := by
  induction hlength : bytes.length using Nat.strong_induction_on
    generalizing position done bytes with
  | _ k ih =>
    subst hlength
    cases bytes with
    | nil =>
      have hnil : ∀ s, [] = encode s ↔ s = [] := by
        intro s
        cases s with
        | nil => simp [encode]
        | cons c s =>
          obtain ⟨y, ys, hc, -⟩ := isCharacter_of_encode c
          simp [encode, hc]
      simp [decodeFrom, hnil, eq_comm]
    | cons x bytes =>
      have hshorter : ∀ xs rest : List UInt8, rest.length < (x :: (xs ++ rest)).length := by
        intro xs rest
        rw [List.length_cons, List.length_append]
        omega
      rw [decodeFrom_cons_iff]
      constructor
      · rintro ⟨xs, rest, n, rfl, hx, hrest⟩
        obtain ⟨s, rfl, rfl⟩ := (ih _ (hshorter xs rest) rfl).1 hrest
        obtain ⟨c, rfl, hc⟩ := exists_encode_of_isCharacter hx
        exact ⟨c :: s, by simp [Char.ofNat_toNat], by simp [encode, hc]⟩
      · rintro ⟨s, rfl, hs⟩
        cases s with
        | nil => simp [encode] at hs
        | cons c s =>
          obtain ⟨y, ys, hc, hy⟩ := isCharacter_of_encode c
          rw [encode, List.flatMap_cons, hc, List.cons_append] at hs
          obtain ⟨rfl, rfl⟩ := List.cons.inj hs
          have hlength := hshorter ys (encode s)
          refine ⟨ys, encode s, c.toNat, rfl, hy, (ih _ hlength rfl).2 ⟨s, ?_, rfl⟩⟩
          simp [Char.ofNat_toNat]

/-- Bytes are read as a text exactly if the text is written as them. -/
theorem decode_eq_ok_iff {s : List Char} : decode bytes = .ok s ↔ bytes = encode s := by
  simp [decode, decodeFrom_eq_ok_iff]

theorem decode_encode (s : List Char) : decode (encode s) = .ok s := decode_eq_ok_iff.2 rfl

end Decoding

end TableAtlas.Text.Utf8
