import EventMonitor.Library.JavaScript

/-!
# The bytes of a string

`encodeURI` writes a character that is not ASCII as its bytes in UTF-8, three code units each.
Counted with every `%XX` as one, its result is as long as the text in UTF-8.
-/

namespace Library

namespace JavaScript

/-- A digit of a hexadecimal number. -/
def hexDigit (n : ℕ) : UInt16 := if n < 10 then UInt16.ofNat (48 + n) else UInt16.ofNat (55 + n)

/-- A byte as `%XX`. -/
def percentEncode (byte : UInt8) : JsString :=
  [37, hexDigit (byte.toNat / 16), hexDigit (byte.toNat % 16)]

/-- The characters that `encodeURI` leaves alone. -/
def isUnescaped (c : Char) : Bool :=
  c.isAlphanum || c ∈ ";/?:@&=+$,#-_.!~*'()".toList

/-- A character in the result of `encodeURI`. -/
def encodeURIChar (c : Char) : JsString :=
  if isUnescaped c then [UInt16.ofNat c.toNat] else (String.utf8EncodeChar c).flatMap percentEncode

/-- `encodeURI`. -/
def encodeURI (s : JsString) : Except URIError JsString :=
  match Utf16.decode s with
  | some text => .ok (text.flatMap encodeURIChar)
  | none => .error .malformed

/-- A code unit that `.` does not match. -/
def isLineTerminator (c : UInt16) : Bool := c.toNat ∈ [0xa, 0xd, 0x2028, 0x2029]

/-- The number of matches of `/%..|./`, which is one less than the number of parts that `split` makes
of a string. -/
def countMatches : JsString → ℕ
  | [] => 0
  | [c] => if isLineTerminator c then 0 else 1
  | [c, d] => if isLineTerminator c then countMatches [d] else countMatches [d] + 1
  | c :: d :: e :: rest =>
    if c = 37 ∧ ¬ isLineTerminator d ∧ ¬ isLineTerminator e then countMatches rest + 1
    else if isLineTerminator c then countMatches (d :: e :: rest)
    else countMatches (d :: e :: rest) + 1

/-- A code unit of ASCII that is printed is matched alone. -/
theorem countMatches_cons {c : UInt16} (hpercent : c ≠ 37) (hterminator : ¬ isLineTerminator c)
    (s : JsString) : countMatches (c :: s) = countMatches s + 1 := by
  rcases s with _ | ⟨d, _ | ⟨e, rest⟩⟩ <;> simp [countMatches, hpercent, hterminator]

/-- Digits are no line terminators. -/
theorem isLineTerminator_hexDigit {n : ℕ} (h : n < 16) : ¬ isLineTerminator (hexDigit n) := by
  have hunit : (hexDigit n).toNat = if n < 10 then 48 + n else 55 + n := by
    unfold hexDigit
    split
    · exact Utf16.toNat_unit (by omega)
    · exact Utf16.toNat_unit (by omega)
  rw [isLineTerminator, hunit]
  simp only [List.mem_cons, List.not_mem_nil, decide_eq_true_eq, or_false]
  split <;> omega

/-- A byte counts as one. -/
theorem countMatches_percentEncode (byte : UInt8) (s : JsString) :
    countMatches (percentEncode byte ++ s) = countMatches s + 1 := by
  have hlt := byte.toNat_lt
  have hfirst := isLineTerminator_hexDigit (show byte.toNat / 16 < 16 by omega)
  have hsecond := isLineTerminator_hexDigit (show byte.toNat % 16 < 16 by omega)
  rw [percentEncode, List.cons_append, List.cons_append, List.cons_append, List.nil_append,
    countMatches, if_pos ⟨rfl, hfirst, hsecond⟩]

/-- Bytes are counted. -/
theorem countMatches_bytes (bytes : List UInt8) (s : JsString) :
    countMatches (bytes.flatMap percentEncode ++ s) = countMatches s + bytes.length := by
  induction bytes with
  | nil => rfl
  | cons byte bytes ih =>
    rw [List.flatMap_cons, List.append_assoc, countMatches_percentEncode, ih, List.length_cons]
    omega

/-- The characters that `encodeURI` leaves alone are printed characters of ASCII. -/
theorem isUnescaped_bounds {c : Char} (h : isUnescaped c) :
    32 < c.toNat ∧ c.toNat < 127 ∧ c.toNat ≠ 37 := by
  rw [isUnescaped, Bool.or_eq_true] at h
  rcases h with halphanum | hmark
  · delta Char.isAlphanum Char.isAlpha Char.isUpper Char.isLower Char.isDigit at halphanum
    simp only [Bool.or_eq_true, Bool.and_eq_true, decide_eq_true_eq, ge_iff_le,
      UInt32.le_iff_toNat_le] at halphanum
    have hbounds : ((65 ≤ c.toNat ∧ c.toNat ≤ 90) ∨ (97 ≤ c.toNat ∧ c.toNat ≤ 122)) ∨
        (48 ≤ c.toNat ∧ c.toNat ≤ 57) := halphanum
    omega
  · have hall : ";/?:@&=+$,#-_.!~*'()".toList.all
        (fun d => decide (32 < d.toNat ∧ d.toNat < 127 ∧ d.toNat ≠ 37)) = true := by decide
    exact of_decide_eq_true (List.all_eq_true.mp hall c (of_decide_eq_true hmark))

/-- A character counts as its bytes. -/
theorem countMatches_encodeURIChar (c : Char) (s : JsString) :
    countMatches (encodeURIChar c ++ s) = countMatches s + c.utf8Size := by
  rw [encodeURIChar]
  split
  next hunescaped =>
    obtain ⟨hlow, hhigh, hpercent⟩ := isUnescaped_bounds hunescaped
    have hunit := Utf16.toNat_unit (show c.toNat < 0x10000 by omega)
    have hsize : c.utf8Size = 1 := by
      rw [Char.utf8Size_eq_one_iff, UInt32.le_iff_toNat_le]
      change c.toNat ≤ 127
      omega
    rw [List.singleton_append, countMatches_cons, hsize]
    · intro h
      rw [h] at hunit
      exact hpercent hunit.symm
    · rw [isLineTerminator, hunit]
      simp only [List.mem_cons, List.not_mem_nil, decide_eq_true_eq, or_false]
      omega
  next => rw [countMatches_bytes, String.length_utf8EncodeChar]

/-- The matches in an encoded text are as many as its bytes. -/
theorem countMatches_encodeURI (text : List Char) :
    countMatches (text.flatMap encodeURIChar) = Utf16.utf8Size text := by
  induction text with
  | nil => rw [List.flatMap_nil, countMatches, Utf16.utf8Size, List.map_nil, List.sum_nil]
  | cons c text ih =>
    rw [List.flatMap_cons, countMatches_encodeURIChar, ih, Nat.add_comm]
    rfl

end JavaScript

end Library
