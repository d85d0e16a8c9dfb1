import Mathlib.Algebra.BigOperators.Group.List.Basic
import Mathlib.Algebra.GroupWithZero.Nat
import Mathlib.Algebra.Order.Group.Nat
import Mathlib.Data.Char

/-!
# Texts in 16-bit code units

A character takes one code unit, or a pair of surrogates if its number does not fit. Lists of
code units in which a surrogate stands alone are the code of no text. No character takes more
code units than it takes bytes of UTF-8.
-/

namespace Library

namespace Utf16

/-- The first half of a pair. -/
def IsLead (c : UInt16) : Prop := 0xd800 ≤ c.toNat ∧ c.toNat < 0xdc00

/-- The second half of a pair. -/
def IsTrail (c : UInt16) : Prop := 0xdc00 ≤ c.toNat ∧ c.toNat < 0xe000

instance (c : UInt16) : Decidable (IsLead c) := inferInstanceAs (Decidable (_ ∧ _))

instance (c : UInt16) : Decidable (IsTrail c) := inferInstanceAs (Decidable (_ ∧ _))

/-- The code units of a character. -/
def encodeChar (c : Char) : List UInt16 :=
  if c.toNat < 0x10000 then [UInt16.ofNat c.toNat]
  else [UInt16.ofNat (0xd800 + (c.toNat - 0x10000) / 0x400),
    UInt16.ofNat (0xdc00 + (c.toNat - 0x10000) % 0x400)]

/-- The code units of a text. -/
def encode (text : List Char) : List UInt16 := text.flatMap encodeChar

/-- The character of a pair of surrogates. -/
def pair (c d : UInt16) : Char :=
  Char.ofNat (0x10000 + (c.toNat - 0xd800) * 0x400 + (d.toNat - 0xdc00))

/-- The text of some code units, unless a surrogate stands alone. -/
def decode : List UInt16 → Option (List Char)
  | [] => some []
  | c :: rest =>
    if IsTrail c then none
    else if IsLead c then
      match rest with
      | [] => none
      | d :: rest => if IsTrail d then (decode rest).map (pair c d :: ·) else none
    else (decode rest).map (Char.ofNat c.toNat :: ·)

/-- A character is a number outside the surrogates. -/
theorem toNat_bounds (c : Char) : c.toNat < 0xd800 ∨ 0xe000 ≤ c.toNat ∧ c.toNat < 0x110000 := by
  have hvalid := c.valid
  simp only [UInt32.isValidChar, Nat.isValidChar] at hvalid
  change c.val.toNat < _ ∨ _ ≤ c.val.toNat ∧ c.val.toNat < _
  omega

/-- Numbers outside the surrogates are characters. -/
theorem toNat_ofNat {n : ℕ} (h : n < 0xd800 ∨ 0xe000 ≤ n ∧ n < 0x110000) :
    (Char.ofNat n).toNat = n := by
  have hvalid : n.isValidChar := by
    simp only [Nat.isValidChar]
    omega
  rw [Char.ofNat, dif_pos hvalid]
  rfl

/-- Characters are equal if their numbers are. -/
theorem eq_of_toNat_eq {c d : Char} (h : c.toNat = d.toNat) : c = d := by
  rw [← Char.ofNat_toNat c, h, Char.ofNat_toNat]

/-- A code unit has the number that it was made from. -/
theorem toNat_unit {n : ℕ} (h : n < 0x10000) : (UInt16.ofNat n).toNat = n :=
  UInt16.toNat_ofNat_of_lt' h

/-- A code unit that is no surrogate is a character of its own. -/
theorem decode_single {c : UInt16} (hlead : ¬ IsLead c) (htrail : ¬ IsTrail c) (rest : List UInt16) :
    decode (c :: rest) = (decode rest).map (Char.ofNat c.toNat :: ·) := by
  rw [decode.eq_def]
  simp only [if_neg htrail, if_neg hlead]

/-- Two halves are a character. -/
theorem decode_pair {c d : UInt16} (hlead : IsLead c) (htrail : IsTrail d) (rest : List UInt16) :
    decode (c :: d :: rest) = (decode rest).map (pair c d :: ·) := by
  have hfirst : ¬ IsTrail c := by
    simp only [IsLead, IsTrail] at *
    omega
  rw [decode.eq_def]
  simp only [if_neg hfirst, if_pos hlead, if_pos htrail]

/-- A half alone is no text. -/
theorem decode_cons_some {c : UInt16} {rest : List UInt16} {text : List Char}
    (h : decode (c :: rest) = some text) :
    (¬ IsLead c ∧ ¬ IsTrail c) ∨ ∃ d tail, rest = d :: tail ∧ IsLead c ∧ IsTrail d := by
  rw [decode.eq_def] at h
  by_cases htrail : IsTrail c
  · simp [htrail] at h
  by_cases hlead : IsLead c
  · cases rest with
    | nil => simp [htrail, hlead] at h
    | cons d tail =>
      by_cases hsecond : IsTrail d
      · exact Or.inr ⟨d, tail, rfl, hlead, hsecond⟩
      · simp [htrail, hlead, hsecond] at h
  · exact Or.inl ⟨hlead, htrail⟩

/-- The number of a pair is beyond the single code units. -/
theorem toNat_pair {c d : UInt16} (hlead : IsLead c) (htrail : IsTrail d) :
    (pair c d).toNat = 0x10000 + (c.toNat - 0xd800) * 0x400 + (d.toNat - 0xdc00) := by
  simp only [IsLead, IsTrail] at hlead htrail
  apply toNat_ofNat
  omega

/-- A character is read back from its code units. -/
theorem decode_encodeChar (c : Char) (rest : List UInt16) :
    decode (encodeChar c ++ rest) = (decode rest).map (c :: ·) := by
  have hbounds := toNat_bounds c
  by_cases hsmall : c.toNat < 0x10000
  · have hunit := toNat_unit hsmall
    rw [encodeChar, if_pos hsmall, List.singleton_append, decode_single, hunit, Char.ofNat_toNat]
    · rw [IsLead, hunit]
      omega
    · rw [IsTrail, hunit]
      omega
  · have hlead := toNat_unit (show 0xd800 + (c.toNat - 0x10000) / 0x400 < 0x10000 by omega)
    have htrail := toNat_unit (show 0xdc00 + (c.toNat - 0x10000) % 0x400 < 0x10000 by omega)
    rw [encodeChar, if_neg hsmall]
    generalize UInt16.ofNat (0xd800 + (c.toNat - 0x10000) / 0x400) = lead at hlead ⊢
    generalize UInt16.ofNat (0xdc00 + (c.toNat - 0x10000) % 0x400) = trail at htrail ⊢
    have hisLead : IsLead lead := by
      rw [IsLead, hlead]
      omega
    have hisTrail : IsTrail trail := by
      rw [IsTrail, htrail]
      omega
    have hpair : pair lead trail = c := by
      apply eq_of_toNat_eq
      rw [toNat_pair hisLead hisTrail, hlead, htrail]
      omega
    rw [List.cons_append, List.singleton_append, decode_pair hisLead hisTrail, hpair]

/-- The code units of a pair. -/
theorem encodeChar_pair {c d : UInt16} (hlead : IsLead c) (htrail : IsTrail d) :
    encodeChar (pair c d) = [c, d] := by
  have hnumber := toNat_pair hlead htrail
  simp only [IsLead, IsTrail] at hlead htrail
  have hfirst : UInt16.ofNat (0xd800 + ((pair c d).toNat - 0x10000) / 0x400) = c := by
    apply UInt16.toNat_inj.mp
    rw [toNat_unit (by omega)]
    omega
  have hsecond : UInt16.ofNat (0xdc00 + ((pair c d).toNat - 0x10000) % 0x400) = d := by
    apply UInt16.toNat_inj.mp
    rw [toNat_unit (by omega)]
    omega
  rw [encodeChar, if_neg (by omega), hfirst, hsecond]

/-- The code unit of a character that is no pair. -/
theorem encodeChar_single {c : UInt16} (hlead : ¬ IsLead c) (htrail : ¬ IsTrail c) :
    encodeChar (Char.ofNat c.toNat) = [c] := by
  have hlt := c.toNat_lt
  simp only [IsLead, IsTrail] at hlead htrail
  have hnumber : (Char.ofNat c.toNat).toNat = c.toNat := toNat_ofNat (by omega)
  rw [encodeChar, hnumber, if_pos (by omega), UInt16.ofNat_toNat]

/-- A text is read back from its code units. -/
theorem decode_encode (text : List Char) : decode (encode text) = some text := by
  induction text with
  | nil => rfl
  | cons c text ih =>
    rw [encode, List.flatMap_cons, ← encode, decode_encodeChar, ih]
    rfl

/-- Code units that can be read are those of the text. -/
theorem encode_decode {units : List UInt16} {text : List Char} (h : decode units = some text) :
    encode text = units := by
  induction hlength : units.length using Nat.strong_induction_on generalizing units text with
  | _ n ih =>
    cases units with
    | nil =>
      obtain rfl := Option.some.inj h
      rfl
    | cons c rest =>
      rcases decode_cons_some h with ⟨hlead, htrail⟩ | ⟨d, tail, rfl, hlead, htrail⟩
      · rw [decode_single hlead htrail] at h
        obtain ⟨text, htext, rfl⟩ := Option.map_eq_some_iff.mp h
        have hrest := ih rest.length (by rw [← hlength, List.length_cons]; omega) htext rfl
        rw [encode, List.flatMap_cons, ← encode, hrest, encodeChar_single hlead htrail,
          List.singleton_append]
      · rw [decode_pair hlead htrail] at h
        obtain ⟨text, htext, rfl⟩ := Option.map_eq_some_iff.mp h
        have hrest := ih tail.length (by rw [← hlength, List.length_cons, List.length_cons]; omega) htext rfl
        rw [encode, List.flatMap_cons, ← encode, hrest, encodeChar_pair hlead htrail]
        rfl

/-- Only the empty text has no code units. -/
theorem encode_eq_nil_iff {text : List Char} : encode text = [] ↔ text = [] := by
  constructor
  · intro hnone
    have hdecode := decode_encode text
    rw [hnone] at hdecode
    exact (Option.some.inj hdecode).symm
  · rintro rfl
    rfl

/-- A character takes no more code units than bytes. -/
theorem length_encodeChar_le (c : Char) : (encodeChar c).length ≤ c.utf8Size := by
  rw [encodeChar]
  split
  · exact Char.utf8Size_pos c
  next hlarge =>
    have hfour : c.utf8Size = 4 := by
      apply Char.utf8Size_eq_four_iff.mpr
      rw [UInt32.lt_iff_toNat_lt]
      change _ < c.toNat
      simp
      omega
    rw [hfour]
    simp

/-- The number of bytes of a text in UTF-8. -/
def utf8Size (text : List Char) : ℕ := (text.map Char.utf8Size).sum

/-- A text takes no more code units than bytes. -/
theorem length_encode_le (text : List Char) : (encode text).length ≤ utf8Size text := by
  induction text with
  | nil => exact Nat.le_refl _
  | cons c text ih =>
    have hfirst := length_encodeChar_le c
    rw [encode, List.flatMap_cons, ← encode, List.length_append]
    exact Nat.add_le_add hfirst ih

end Utf16

end Library
