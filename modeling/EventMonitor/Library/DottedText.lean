import Mathlib.Data.String.Basic
import EventMonitor.Library.DecimalText

/-!
# Dotted numbers

Numbers printed with dots between them, as version numbers are. As numbers they are compared
component by component, the first difference decides; as text they are compared character by
character. The first differing component decides the text as well, because a dot comes before every
digit. So the two orders part only there, when the greater component has more digits but comes first
as text.
-/

namespace Library

namespace DottedText

/-- The text of numbers with dots between them. -/
def dotted (components : List ℕ) : String := ".".intercalate (components.map toString)

/-- The numbers between the dots of a text. -/
def components (text : String) : List ℕ :=
  (text.toList.splitOn '.').map fun digits => Nat.ofDigitChars 10 digits 0

/-- The text consists of one or more numbers without leading zeros. -/
def IsDotted (text : String) : Prop := ∃ numbers, numbers ≠ [] ∧ text = dotted numbers

/-- The newer numbers are greater, but their text comes first: where they first differ, as many
leading digits of the greater number as the smaller one has are a smaller number. -/
def Overtakes : List ℕ → List ℕ → Prop
  | n :: older, m :: newer =>
    if n = m then Overtakes older newer else n < m ∧ DecimalText.leading m n < n
  | _, _ => False

/-- Overtaking is decided at the first difference. -/
instance decidableOvertakes : (older newer : List ℕ) → Decidable (Overtakes older newer)
  | [], _ => isFalse (by simp [Overtakes])
  | _ :: _, [] => isFalse (by simp [Overtakes])
  | n :: older, m :: newer =>
    have := decidableOvertakes older newer
    inferInstanceAs (Decidable
      (if n = m then Overtakes older newer else n < m ∧ DecimalText.leading m n < n))

/-- Numbers do not overtake themselves. -/
theorem not_overtakes_self (numbers : List ℕ) : ¬ Overtakes numbers numbers := by
  induction numbers with
  | nil => simp [Overtakes]
  | cons n numbers ih =>
    rw [Overtakes, if_pos rfl]
    exact ih

/-- Single digits do not overtake: as text they are compared as numbers. -/
theorem not_overtakes_of_lt_ten {older newer : List ℕ} (h : ∀ n ∈ newer, n < 10) :
    ¬ Overtakes older newer := by
  induction older generalizing newer with
  | nil => simp [Overtakes]
  | cons n older ih =>
    cases newer with
    | nil => simp [Overtakes]
    | cons m newer =>
      rw [Overtakes]
      split
      · exact ih fun k hk => h k (List.mem_cons_of_mem _ hk)
      · have hm : m < 10 := h m List.mem_cons_self
        rw [DecimalText.leading, Nat.log_of_lt hm, Nat.zero_sub, Nat.pow_zero, Nat.div_one]
        omega

/-- The characters of dotted numbers. -/
theorem toList_dotted (numbers : List ℕ) :
    (dotted numbers).toList = ['.'].intercalate (numbers.map (Nat.toDigits 10)) := by
  rw [dotted, String.toList_intercalate, List.map_map]
  congr 1
  apply List.map_congr_left
  intro n _
  exact Nat.toList_repr

/-- The numbers are read from their text. -/
theorem components_dotted {numbers : List ℕ} (h : numbers ≠ []) :
    components (dotted numbers) = numbers := by
  have hdots : ∀ digits ∈ numbers.map (Nat.toDigits 10), '.' ∉ digits := by
    intro digits hmem hdot
    obtain ⟨n, -, rfl⟩ := List.mem_map.mp hmem
    have hdigit : '.'.isDigit := DecimalText.isDigit_of_mem hdot
    contradiction
  rw [components, toList_dotted, List.splitOn_intercalate '.' hdots (by simpa using h), List.map_map]
  conv_rhs => rw [← List.map_id numbers]
  apply List.map_congr_left
  intro n _
  exact Nat.ofDigitChars_ten_toDigits

/-- Dotted text is the text of the numbers read from it. -/
theorem isDotted_iff {text : String} : IsDotted text ↔ dotted (components text) = text := by
  constructor
  · intro h
    obtain ⟨numbers, hnumbers, rfl⟩ := h
    rw [components_dotted hnumbers]
  · intro h
    refine ⟨components text, ?_, h.symm⟩
    rw [components, Ne, List.map_eq_nil_iff]
    exact List.splitOn_ne_nil _ _

/-- Whether a text is dotted can be decided by printing what is read. -/
instance (text : String) : Decidable (IsDotted text) := decidable_of_iff _ isDotted_iff.symm

/-- Dotted texts with the same numbers are equal. -/
theorem IsDotted.eq_of_components {text text' : String} (h : IsDotted text) (h' : IsDotted text')
    (hsame : components text = components text') : text = text' := by
  rw [← isDotted_iff.mp h, ← isDotted_iff.mp h', hsame]

section Order

/-- A common beginning does not decide. -/
theorem append_lt_append_left_iff (xs ys zs : List Char) : xs ++ ys < xs ++ zs ↔ ys < zs := by
  induction xs with
  | nil => rfl
  | cons x xs ih => rw [List.cons_append, List.cons_append, List.cons_lt_cons_self, ih]

/-- Numbers, each behind a dot. -/
def tailText (numbers : List ℕ) : List Char := numbers.flatMap fun n => '.' :: Nat.toDigits 10 n

/-- Dotted numbers are such numbers without the first dot. -/
theorem dot_cons_dotted {numbers : List ℕ} (h : numbers ≠ []) :
    '.' :: (dotted numbers).toList = tailText numbers := by
  rw [toList_dotted]
  induction numbers with
  | nil => contradiction
  | cons n numbers ih =>
    cases numbers with
    | nil => simp [tailText]
    | cons m numbers =>
      have htail := ih (by simp)
      rw [List.map_cons, List.map_cons, List.intercalate_cons_cons]
      rw [List.map_cons] at htail
      change _ = '.' :: (Nat.toDigits 10 n ++ tailText (m :: numbers))
      rw [← htail]
      simp

/-- What follows a number begins below the digits. -/
theorem head_tailText {numbers : List ℕ} : ∀ c ∈ (tailText numbers).head?, c < '0' := by
  cases numbers with
  | nil => simp [tailText]
  | cons n numbers =>
    intro c hc
    obtain rfl : '.' = c := Option.some.inj hc
    decide

/-- Greater numbers come first in text exactly when they overtake. -/
theorem tailText_lt_iff {older newer : List ℕ} (h : older < newer) :
    tailText newer < tailText older ↔ Overtakes older newer := by
  induction older generalizing newer with
  | nil => simp [tailText, Overtakes]
  | cons n older ih =>
    cases newer with
    | nil => exact absurd h (List.not_lt_nil _)
    | cons m newer =>
      change '.' :: (Nat.toDigits 10 m ++ tailText newer) <
        '.' :: (Nat.toDigits 10 n ++ tailText older) ↔ _
      rw [List.cons_lt_cons_self, Overtakes]
      rcases List.cons_lt_cons_iff.mp h with hfirst | ⟨rfl, hrest⟩
      · rw [DecimalText.toDigits_append_lt_iff hfirst head_tailText, if_neg (Nat.ne_of_lt hfirst),
          and_iff_right hfirst]
      · rw [append_lt_append_left_iff, if_pos rfl]
        exact ih hrest

/-- Greater dotted numbers come first as text exactly when they overtake. -/
theorem dotted_lt_iff {older newer : List ℕ} (holder : older ≠ []) (hnewer : newer ≠ [])
    (h : older < newer) : dotted newer < dotted older ↔ Overtakes older newer := by
  rw [String.lt_iff_toList_lt, ← tailText_lt_iff h, ← dot_cons_dotted hnewer, ← dot_cons_dotted holder,
    List.cons_lt_cons_self]

/-- Of two dotted texts the one with the greater numbers comes first exactly when they overtake. -/
theorem IsDotted.lt_iff {older newer : String} (holder : IsDotted older) (hnewer : IsDotted newer)
    (h : components older < components newer) :
    newer < older ↔ Overtakes (components older) (components newer) := by
  obtain ⟨numbers, hnumbers, rfl⟩ := holder
  obtain ⟨numbers', hnumbers', rfl⟩ := hnewer
  rw [components_dotted hnumbers, components_dotted hnumbers'] at *
  exact dotted_lt_iff hnumbers hnumbers' h

end Order

end DottedText

end Library
