import Mathlib.Data.Char
import Mathlib.Data.List.Lex
import Mathlib.Data.Nat.Log
import Mathlib.Order.Lattice.Nat

/-!
# Numbers in decimal text

The text of a number consists of its digits, the leading one first and no other sign but that of a
negative number. It determines the number. Read as text, the digits of two numbers compare as the
leading digits do: numbers with equally many digits compare as numbers, but a longer one comes first
when as many of its leading digits as the other has are a smaller number than the other.
-/

namespace Library

namespace DecimalText

/-- The digits determine the number. -/
theorem toDigits_injective : Function.Injective (Nat.toDigits 10) := by
  intro m n h
  have hparsed := congrArg (fun digits => Nat.ofDigitChars 10 digits 0) h
  simpa using hparsed

/-- The characters of a number are digits. -/
theorem isDigit_of_mem {n : ℕ} {c : Char} (h : c ∈ Nat.toDigits 10 n) : c.isDigit :=
  Nat.isDigit_of_mem_toDigits (by decide) (by decide) h

/-- The text of an integer. -/
theorem toList_int (n : ℤ) : (toString n).toList =
    if 0 ≤ n then Nat.toDigits 10 n.toNat else '-' :: Nat.toDigits 10 (-n).toNat := by
  cases n with
  | ofNat m => exact Nat.toList_repr
  | negSucc m =>
    change ("-" ++ Nat.repr (m + 1)).toList = _
    simp

/-- The characters of an integer are digits and the minus sign. -/
theorem notMem_int {c : Char} (hdigit : ¬ c.isDigit) (hsign : c ≠ '-') (n : ℤ) :
    c ∉ (toString n).toList := by
  rw [toList_int]
  split
  · exact fun h => hdigit (isDigit_of_mem h)
  · rw [List.mem_cons, not_or]
    exact ⟨hsign, fun h => hdigit (isDigit_of_mem h)⟩

/-- The text determines the integer. -/
theorem toString_int_injective : Function.Injective (fun n : ℤ => toString n) := by
  intro m n h
  have htext := congrArg String.toList h
  simp only [toList_int] at htext
  have hsign : ∀ k : ℕ, ∀ rest, Nat.toDigits 10 k ≠ '-' :: rest := by
    intro k rest hk
    have hdigit : '-'.isDigit := isDigit_of_mem (hk ▸ List.mem_cons_self)
    contradiction
  split at htext <;> split at htext
  · have := toDigits_injective htext
    omega
  · exact absurd htext (hsign _ _)
  · exact absurd htext.symm (hsign _ _)
  · have := toDigits_injective (List.cons.inj htext).2
    omega

section Order

/-- A difference within the first elements decides, whatever follows. -/
theorem append_lt_append {α : Type*} [LT α] {xs ys : List α} (hlength : xs.length = ys.length)
    (h : xs < ys) (as bs : List α) : xs ++ as < ys ++ bs := by
  induction xs generalizing ys with
  | nil =>
    obtain rfl := List.length_eq_zero_iff.mp hlength.symm
    exact absurd h (List.not_lt_nil _)
  | cons x xs ih =>
    cases ys with
    | nil => simp at hlength
    | cons y ys =>
      rw [List.cons_append, List.cons_append, List.cons_lt_cons_iff] at *
      rcases h with hfirst | ⟨hsame, hrest⟩
      · exact Or.inl hfirst
      · exact Or.inr ⟨hsame, ih (Nat.succ.inj hlength) hrest⟩

/-- Single digits compare as numbers. -/
theorem digitChar_lt {m n : ℕ} (h : m < n) (hn : n < 10) : m.digitChar < n.digitChar := by
  have hm : m < 10 := by omega
  rw [Char.lt_def, UInt32.lt_iff_toNat_lt]
  change m.digitChar.toNat < n.digitChar.toNat
  rw [Nat.toNat_digitChar_of_lt_ten hm, Nat.toNat_digitChar_of_lt_ten hn]
  omega

/-- How many digits a number has. -/
theorem length_toDigits (n : ℕ) : (Nat.toDigits 10 n).length = Nat.log 10 n + 1 := by
  apply Nat.le_antisymm
  · rw [Nat.length_toDigits_le_iff (by decide) (Nat.succ_pos _)]
    exact Nat.lt_pow_succ_log_self (by decide) n
  · by_contra hshort
    have hle : (Nat.toDigits 10 n).length ≤ Nat.log 10 n := by omega
    have hpos : 0 < Nat.log 10 n := Nat.lt_of_lt_of_le Nat.length_toDigits_pos hle
    rw [Nat.length_toDigits_le_iff (by decide) hpos] at hle
    have hn : n ≠ 0 := by
      intro hzero
      simp [hzero] at hpos
    exact absurd (Nat.pow_log_le_self 10 hn) (by omega)

/-- Numbers with equally many digits compare as numbers. -/
theorem toDigits_lt {m n : ℕ} (hlength : Nat.log 10 m = Nat.log 10 n) (h : m < n) :
    Nat.toDigits 10 m < Nat.toDigits 10 n := by
  induction m using Nat.strongRecOn generalizing n with
  | ind m ih =>
    by_cases hm : m < 10
    · have hn : n < 10 := by
        rw [Nat.log_of_lt hm] at hlength
        exact (Nat.log_eq_zero_iff.mp hlength.symm).resolve_right (by decide)
      rw [Nat.toDigits_of_lt_base hm, Nat.toDigits_of_lt_base hn]
      exact List.Lex.rel (digitChar_lt h hn)
    · have hm' : 10 ≤ m := by omega
      have hn' : 10 ≤ n := by omega
      rw [Nat.toDigits_of_base_le (by decide) hm', Nat.toDigits_of_base_le (by decide) hn']
      have hlog : Nat.log 10 (m / 10) = Nat.log 10 (n / 10) := by
        rw [Nat.log_div_base, Nat.log_div_base, hlength]
      rcases Nat.lt_or_ge (m / 10) (n / 10) with hlead | hlead
      · refine append_lt_append ?_ (ih (m / 10) (by omega) hlog hlead) _ _
        rw [length_toDigits, length_toDigits, hlog]
      · have hsame : m / 10 = n / 10 := by omega
        rw [hsame]
        exact List.append_left_lt (List.Lex.rel (digitChar_lt (by omega) (by omega)))

/-- The leading digits of a number are those of a quotient. -/
theorem toDigits_eq_append {m k : ℕ} (hk : k ≤ Nat.log 10 m) : ∃ rest : List Char,
    Nat.toDigits 10 m = Nat.toDigits 10 (m / 10 ^ k) ++ rest ∧ ∀ c ∈ rest, c.isDigit := by
  induction k with
  | zero => exact ⟨[], by simp, by simp⟩
  | succ k ih =>
    obtain ⟨rest, hdigits, hrest⟩ := ih (by omega)
    have hlarge : 10 ≤ m / 10 ^ k := by
      have hm : m ≠ 0 := by
        intro hzero
        simp [hzero] at hk
      rw [Nat.le_div_iff_mul_le (Nat.pow_pos (by decide)), Nat.mul_comm, ← Nat.pow_succ]
      exact Nat.pow_le_of_le_log hm hk
    refine ⟨Nat.digitChar (m / 10 ^ k % 10) :: rest, ?_, ?_⟩
    · rw [hdigits, Nat.toDigits_of_base_le (by decide) hlarge, Nat.div_div_eq_div_mul, ← Nat.pow_succ,
        List.append_assoc]
      rfl
    · intro c hmem
      rcases List.mem_cons.mp hmem with rfl | hlater
      · have hdigit : m / 10 ^ k % 10 < 10 := Nat.mod_lt _ (by decide)
        rw [Nat.isDigit_digitChar, decide_eq_true_eq]
        exact hdigit
      · exact hrest c hlater

/-- As many leading digits of the first number as the second one has. -/
def leading (m n : ℕ) : ℕ := m / 10 ^ (Nat.log 10 m - Nat.log 10 n)

/-- The leading digits are as many as the other number has. -/
theorem log_leading {m n : ℕ} (h : n ≤ m) : Nat.log 10 (leading m n) = Nat.log 10 n := by
  have hlog : Nat.log 10 n ≤ Nat.log 10 m := Nat.log_mono_right h
  rw [leading, Nat.log_div_base_pow]
  omega

/-- A text that begins below the digits, or is empty, comes before one that begins with a digit. -/
theorem lt_digits_append {digits ys : List Char} (hdigits : ∀ c ∈ digits, c.isDigit)
    (hnonempty : digits ≠ []) (hys : ∀ c ∈ ys.head?, c < '0') (xs : List Char) : ys < digits ++ xs := by
  cases digits with
  | nil => exact absurd rfl hnonempty
  | cons c digits =>
    cases ys with
    | nil => exact List.nil_lt_cons _ _
    | cons y ys =>
      have hdigit := hdigits c List.mem_cons_self
      simp only [Char.isDigit, Bool.and_eq_true, decide_eq_true_eq] at hdigit
      have hfirst : '0' ≤ c := hdigit.1
      have hbelow : y < c := lt_of_lt_of_le (hys y rfl) hfirst
      exact List.Lex.rel hbelow

/-- A larger number comes first in text, whatever follows the digits, exactly when as many of its
leading digits as the smaller one has are a smaller number than the smaller one. -/
theorem toDigits_append_lt_iff {m n : ℕ} (h : n < m) {xs ys : List Char}
    (hys : ∀ c ∈ ys.head?, c < '0') :
    Nat.toDigits 10 m ++ xs < Nat.toDigits 10 n ++ ys ↔ leading m n < n := by
  have hlog : Nat.log 10 (leading m n) = Nat.log 10 n := log_leading (Nat.le_of_lt h)
  have hlengths : (Nat.toDigits 10 (leading m n)).length = (Nat.toDigits 10 n).length := by
    rw [length_toDigits, length_toDigits, hlog]
  obtain ⟨rest, hdigits, hrest⟩ :=
    toDigits_eq_append (Nat.sub_le (Nat.log 10 m) (Nat.log 10 n))
  change Nat.toDigits 10 m = Nat.toDigits 10 (leading m n) ++ rest at hdigits
  rw [hdigits, List.append_assoc]
  constructor
  · intro htext
    by_contra hleading
    apply List.lt_asymm htext
    rcases Nat.lt_or_eq_of_le (Nat.le_of_not_lt hleading) with hlarger | hsame
    · exact append_lt_append hlengths.symm (toDigits_lt hlog.symm hlarger) _ _
    · -- The smaller number is a prefix: what follows it is below the digits that are left.
      rw [← hsame] at hdigits ⊢
      apply List.append_left_lt
      apply lt_digits_append hrest ?_ hys
      intro hnone
      rw [hnone, List.append_nil] at hdigits
      exact Nat.ne_of_gt h (toDigits_injective hdigits)
  · intro hleading
    exact append_lt_append hlengths (toDigits_lt hlog hleading) _ _

end Order

end DecimalText

end Library
