import EventMonitor.Library.DecimalText
import EventMonitor.Library.Utf16
import Mathlib.Data.List.DropRight
import Mathlib.Data.String.Basic

/-!
# Strings and objects of JavaScript

A string is a list of 16-bit code units; it need not be the code of a text. The functions of
the standard library that are used on strings, with their behaviour outside the ordinary range
of their arguments, and objects as far as they are used as dictionaries of strings.
-/

namespace Library

namespace JavaScript

/-- A string. -/
abbrev JsString := List UInt16

instance : LawfulBEq JsString := inferInstance

/-- A string literal. -/
def literal (text : String) : JsString := Utf16.encode text.toList

/-- An exception of `encodeURI`. -/
inductive URIError
  | malformed
  deriving DecidableEq, Repr

/-! ## Parts of a string -/

/-- An index as `substring` takes it; `none` stands for `NaN`. -/
def clamp (s : JsString) : Option ℤ → ℕ
  | none => 0
  | some n => min n.toNat s.length

/-- `substring`. -/
def substring (s : JsString) (start stop : Option ℤ) : JsString :=
  (s.take (max (clamp s start) (clamp s stop))).drop (min (clamp s start) (clamp s stop))

/-- `indexOf` a code unit. -/
def indexOf (c : UInt16) (s : JsString) : ℤ :=
  match s.idxOf? c with
  | some i => i
  | none => -1

/-- The first place at which a code unit stands twice in a row. -/
def findDouble (c : UInt16) : JsString → Option ℕ
  | a :: b :: rest => if a = c ∧ b = c then some 0 else (findDouble c (b :: rest)).map (· + 1)
  | _ => none

/-- `search` for a code unit that stands twice in a row. -/
def searchDouble (c : UInt16) (s : JsString) : ℤ :=
  match findDouble c s with
  | some i => i
  | none => -1

/-- `join`. -/
def join (separator : UInt16) (lines : List JsString) : JsString := [separator].intercalate lines

/-- The class `\s` of regular expressions. -/
def isSpace (c : UInt16) : Bool :=
  c.toNat ∈ [0x9, 0xa, 0xb, 0xc, 0xd, 0x20, 0xa0, 0x1680, 0x2028, 0x2029, 0x202f, 0x205f, 0x3000, 0xfeff]
    || (0x2000 ≤ c.toNat && c.toNat ≤ 0x200a)

/-- `replace(/^\s+|\s+$/g, '')`. -/
def trim (s : JsString) : JsString := (s.dropWhile isSpace).rdropWhile isSpace

/-- Taking a prefix. -/
theorem substring_prefix (s t : JsString) : substring (s ++ t) (some 0) (some s.length) = s := by
  simp [substring, clamp]

/-- Taking a part in the middle, or the rest if the part is not there as a whole. -/
theorem substring_behind (s t : JsString) (n : ℕ) :
    substring (s ++ t) (some s.length) (some (s.length + n)) = t.take n := by
  have hstart : clamp (s ++ t) (some s.length) = s.length := by
    simp only [clamp, List.length_append, Int.toNat_natCast]
    omega
  have hstop : clamp (s ++ t) (some (s.length + n)) = min (s.length + n) (s.length + t.length) := by
    simp only [clamp, List.length_append]
    omega
  rw [substring, hstart, hstop, Nat.max_eq_right (by omega), Nat.min_eq_left (by omega),
    List.take_append, List.drop_append]
  have hwhole : s.take (min (s.length + n) (s.length + t.length)) = s :=
    List.take_of_length_le (by omega)
  rw [hwhole, List.drop_length, Nat.sub_self, List.drop_zero, List.nil_append]
  have hpart : min (s.length + n) (s.length + t.length) - s.length = min n t.length := by omega
  rw [hpart, ← List.take_eq_take_min]

/-- The first occurrence of a code unit. -/
theorem indexOf_append_cons {c : UInt16} {s : JsString} (h : c ∉ s) (t : JsString) :
    indexOf c (s ++ c :: t) = s.length := by
  have hfound : (s ++ c :: t).idxOf? c = some s.length := by
    induction s with
    | nil => simp [List.idxOf?_cons]
    | cons a s ih =>
      rw [List.mem_cons, not_or] at h
      rw [List.cons_append, List.idxOf?_cons, ih h.2]
      simp [Ne.symm h.1]
  rw [indexOf, hfound]

/-- A line break that does not come twice is passed over. -/
theorem findDouble_append_cons {c a : UInt16} {s : JsString} (h : c ∉ s) (ha : a ≠ c) (t : JsString) :
    findDouble c (s ++ c :: a :: t) = (findDouble c (a :: t)).map (· + (s.length + 1)) := by
  induction s with
  | nil => simp [findDouble, ha]
  | cons b s ih =>
    rw [List.mem_cons, not_or] at h
    have htail := ih h.2
    have hskip : findDouble c ((b :: s) ++ c :: a :: t) =
        (findDouble c (s ++ c :: a :: t)).map (· + 1) := by
      cases s <;> simp [findDouble, Ne.symm h.1]
    rw [hskip, htail, Option.map_map]
    rfl

/-- A line break that comes twice is found. -/
theorem findDouble_append_cons_cons {c : UInt16} {s : JsString} (h : c ∉ s) (t : JsString) :
    findDouble c (s ++ c :: c :: t) = some s.length := by
  induction s with
  | nil => simp [findDouble]
  | cons b s ih =>
    rw [List.mem_cons, not_or] at h
    have htail := ih h.2
    have hskip : findDouble c ((b :: s) ++ c :: c :: t) =
        (findDouble c (s ++ c :: c :: t)).map (· + 1) := by
      cases s <;> simp [findDouble, Ne.symm h.1]
    rw [hskip, htail]
    rfl

/-- Joining one more line. -/
theorem join_cons_cons (c : UInt16) (line next : JsString) (lines : List JsString) :
    join c (line :: next :: lines) = line ++ c :: join c (next :: lines) := by
  rw [join, List.intercalate_cons_cons, List.append_assoc]
  rfl

/-- Joined lines begin with the first line. -/
theorem join_cons (c : UInt16) (line : JsString) (lines : List JsString) :
    ∃ rest, join c (line :: lines) = line ++ rest := by
  cases lines with
  | nil => exact ⟨[], by rw [join, List.intercalate_singleton, List.append_nil]⟩
  | cons next lines => exact ⟨_, join_cons_cons c line next lines⟩

/-- Joining adds nothing but the separator. -/
theorem notMem_join {c separator : UInt16} (h : c ≠ separator) {lines : List JsString}
    (hlines : ∀ line ∈ lines, c ∉ line) : c ∉ join separator lines := by
  induction lines with
  | nil => simp [join]
  | cons line lines ih =>
    have hline := hlines line List.mem_cons_self
    have htail := ih fun l hl => hlines l (List.mem_cons_of_mem _ hl)
    cases lines with
    | nil =>
      rw [join, List.intercalate_singleton]
      exact hline
    | cons next lines =>
      rw [join_cons_cons, List.mem_append, List.mem_cons, not_or, not_or]
      exact ⟨hline, h, htail⟩

/-- The first empty line is the one behind the joined lines, if none of them but the first is
empty. -/
theorem findDouble_join {c : UInt16} {line : JsString} {lines : List JsString}
    (hline : c ∉ line) (hlines : ∀ l ∈ lines, c ∉ l ∧ l ≠ []) (t : JsString) :
    findDouble c (join c (line :: lines) ++ c :: c :: t) = some (join c (line :: lines)).length := by
  induction lines generalizing line with
  | nil =>
    rw [join, List.intercalate_singleton]
    exact findDouble_append_cons_cons hline t
  | cons next lines ih =>
    obtain ⟨hnext, hnonempty⟩ := hlines next List.mem_cons_self
    obtain ⟨a, tail, rfl⟩ := List.exists_cons_of_ne_nil hnonempty
    have htail := ih hnext fun l hl => hlines l (List.mem_cons_of_mem _ hl)
    have ha : a ≠ c := fun h => hnext (h ▸ List.mem_cons_self)
    rw [join_cons_cons, List.append_assoc, List.cons_append, List.length_append, List.length_cons]
    obtain ⟨rest, hrest⟩ := join_cons c (a :: tail) lines
    rw [hrest] at htail ⊢
    simp only [List.cons_append] at htail ⊢
    rw [findDouble_append_cons hline ha, htail, Option.map_some]
    congr 1
    omega

/-! ## Numbers -/

/-- The values that a subtraction is given. -/
inductive Value
  | undefined
  | function
  | number (n : ℤ)
  deriving DecidableEq, Repr

/-- `Number(value)`; `none` stands for `NaN`, which is also what becomes of the text of a function. -/
def Value.toNumber : Value → Option ℤ
  | .undefined | .function => none
  | .number n => some n

/-- `a - b`. -/
def Value.minus (a b : Value) : Option ℤ := a.toNumber.bind fun m => b.toNumber.map fun n => m - n

/-- What is subtracted from a function is not subtracted from a number. -/
@[simp] theorem Value.minus_function (b : Value) : Value.minus .function b = none := rfl

/-- The value of a digit. -/
def digitValue (c : UInt16) : ℕ :=
  let n := c.toNat
  if 48 ≤ n ∧ n ≤ 57 then n - 48
  else if 65 ≤ n ∧ n ≤ 90 then n - 55
  else if 97 ≤ n ∧ n ≤ 122 then n - 87
  else 36

/-- The leading digits of a string, as a number; `none` stands for `NaN`. -/
def parseDigits (radix : ℕ) (s : JsString) : Option ℤ :=
  match s.takeWhile (digitValue · < radix) with
  | [] => none
  | digits => some ((digits.foldl (fun n c => radix * n + digitValue c) 0 : ℕ) : ℤ)

/-- The digits of a string, hexadecimal ones behind `0x`. -/
def parseUnsigned : JsString → Option ℤ
  | 48 :: 120 :: digits => parseDigits 16 digits
  | 48 :: 88 :: digits => parseDigits 16 digits
  | digits => parseDigits 10 digits

/-- `parseInt`, with the value that the digits have before it is rounded; `none` stands for
`NaN`. -/
def parseInt (s : JsString) : Option ℤ :=
  match s.dropWhile isSpace with
  | 43 :: digits => parseUnsigned digits
  | 45 :: digits => (parseUnsigned digits).map (- ·)
  | digits => parseUnsigned digits

/-- A natural number as a string. -/
def ofNat (n : ℕ) : JsString := (Nat.toDigits 10 n).map fun c => UInt16.ofNat c.toNat

/-- The code unit of a digit. -/
theorem toNat_digit {c : Char} (h : c.isDigit) : (UInt16.ofNat c.toNat).toNat = c.toNat ∧
    48 ≤ c.toNat ∧ c.toNat ≤ 57 := by
  simp only [Char.isDigit, Bool.and_eq_true, decide_eq_true_eq, UInt32.le_iff_toNat_le] at h
  have hbounds : 48 ≤ c.toNat ∧ c.toNat ≤ 57 := h
  exact ⟨Utf16.toNat_unit (by omega), hbounds⟩

/-- A string of decimal digits. -/
def IsDecimal (s : JsString) : Prop := ∀ c ∈ s, 48 ≤ c.toNat ∧ c.toNat ≤ 57

/-- The string of a number consists of digits. -/
theorem isDecimal_ofNat (n : ℕ) : IsDecimal (ofNat n) := by
  intro c hmem
  obtain ⟨digit, hdigit, rfl⟩ := List.mem_map.mp hmem
  obtain ⟨hunit, hbounds⟩ := toNat_digit (DecimalText.isDigit_of_mem hdigit)
  rw [hunit]
  exact hbounds

/-- The string of a number is not empty. -/
theorem ofNat_ne_nil (n : ℕ) : ofNat n ≠ [] := by
  have hpos : 0 < (Nat.toDigits 10 n).length := Nat.length_toDigits_pos
  intro hnone
  rw [List.map_eq_nil_iff.mp hnone] at hpos
  exact Nat.lt_irrefl _ hpos

/-- Digits are no white space. -/
theorem isSpace_of_isDecimal {s : JsString} (h : IsDecimal s) : ∀ c ∈ s, ¬ isSpace c := by
  intro c hmem
  have hc := h c hmem
  simp only [isSpace, List.mem_cons, List.not_mem_nil, or_false, Bool.or_eq_true,
    decide_eq_true_eq, Bool.and_eq_true]
  omega

/-- Without white space there is nothing to trim. -/
theorem trim_of_notSpace {s : JsString} (h : ∀ c ∈ s, ¬ isSpace c) : trim s = s := by
  have hfront : s.dropWhile isSpace = s :=
    List.dropWhile_eq_self_iff.mpr fun hl => h _ (List.get_mem _ _)
  rw [trim, hfront]
  exact List.rdropWhile_eq_self_iff.mpr fun hl => h _ (List.getLast_mem hl)

/-- Digits are not trimmed. -/
theorem trim_of_isDecimal {s : JsString} (h : IsDecimal s) : trim s = s :=
  trim_of_notSpace (isSpace_of_isDecimal h)

/-- Digits are not taken for a hexadecimal number. -/
theorem parseUnsigned_of_isDecimal {s : JsString} (h : IsDecimal s) :
    parseUnsigned s = parseDigits 10 s := by
  unfold parseUnsigned
  split
  · have hsecond := h 120 (by simp)
    simp at hsecond
  · have hsecond := h 88 (by simp)
    simp at hsecond
  · rfl

/-- Digits are not taken for a sign, or for white space. -/
theorem parseInt_of_isDecimal {s : JsString} (h : IsDecimal s) : parseInt s = parseDigits 10 s := by
  have hspace : s.dropWhile isSpace = s :=
    List.dropWhile_eq_self_iff.mpr fun hl => isSpace_of_isDecimal h _ (List.get_mem _ _)
  unfold parseInt
  rw [hspace]
  split
  · have hsign := h 43 (by simp)
    simp at hsign
  · have hsign := h 45 (by simp)
    simp at hsign
  · exact parseUnsigned_of_isDecimal h

/-- A number is read back from its string. -/
theorem parseInt_ofNat (n : ℕ) : parseInt (ofNat n) = some (n : ℤ) := by
  have hdecimal := isDecimal_ofNat n
  have hall : (ofNat n).takeWhile (digitValue · < 10) = ofNat n := by
    apply List.takeWhile_eq_self_iff.mpr
    intro c hmem
    have hc := hdecimal c hmem
    rw [decide_eq_true_eq, digitValue, if_pos hc]
    omega
  have hvalue : (ofNat n).foldl (fun n c => 10 * n + digitValue c) 0 = n := by
    rw [ofNat, List.foldl_map]
    have hparsed : Nat.ofDigitChars 10 (Nat.toDigits 10 n) 0 = n := by simp
    conv_rhs => rw [← hparsed]
    rw [Nat.ofDigitChars]
    apply List.foldl_ext
    intro m digit hmem
    obtain ⟨hunit, hbounds⟩ := toNat_digit (DecimalText.isDigit_of_mem hmem)
    rw [digitValue, hunit, if_pos hbounds]
    rfl
  rw [parseInt_of_isDecimal hdecimal, parseDigits, hall]
  split
  next hnone => exact absurd hnone (ofNat_ne_nil n)
  next => rw [hvalue]

/-! ## Objects -/

/-- An object used as a dictionary of strings: its own properties, in the order in which a script
enumerates them. -/
structure JsObject where
  properties : List (JsString × JsString)
  distinct : (properties.map Prod.fst).Nodup
  deriving DecidableEq, Repr

namespace JsObject

/-- `{}`. -/
def empty : JsObject := ⟨[], List.nodup_nil⟩

/-- Looking a name up in a list of properties. -/
def find (properties : List (JsString × JsString)) (name : JsString) : Option JsString :=
  properties.lookup name

/-- Reading a property. -/
def get (o : JsObject) (name : JsString) : Option JsString := find o.properties name

/-- Replacing the value of a property that is there. -/
def replace (name value : JsString) (properties : List (JsString × JsString)) :
    List (JsString × JsString) :=
  properties.map fun property => if property.1 = name then (name, value) else property

/-- Replacing a value keeps the names. -/
theorem names_replace (name value : JsString) (properties : List (JsString × JsString)) :
    (replace name value properties).map Prod.fst = properties.map Prod.fst := by
  rw [replace, List.map_map]
  apply List.map_congr_left
  intro property _
  simp only [Function.comp_apply]
  split
  next hsame => exact hsame.symm
  next => rfl

/-- Looking a name up in a list that begins with a property. -/
theorem find_cons (properties : List (JsString × JsString)) (p : JsString × JsString)
    (name : JsString) :
    find (p :: properties) name = if name = p.1 then some p.2 else find properties name := by
  rw [find, List.lookup_cons]
  by_cases hsame : name = p.1
  · simp [hsame]
  · rw [if_neg hsame, beq_eq_false_iff_ne.mpr hsame]
    rfl

/-- A name is found exactly when it is one of the names. -/
theorem find_eq_none_iff {properties : List (JsString × JsString)} {name : JsString} :
    find properties name = none ↔ name ∉ properties.map Prod.fst := by
  induction properties with
  | nil => simp [find]
  | cons p properties ih =>
    rw [find_cons, List.map_cons, List.mem_cons, not_or, ← ih]
    by_cases hsame : name = p.1 <;> simp [hsame]

/-- The index of an array that a name stands for, if it does. -/
def arrayIndex (name : JsString) : Option ℕ :=
  match parseDigits 10 name with
  | some n => if ofNat n.toNat = name ∧ n < 4294967295 then some n.toNat else none
  | none => none

/-- The properties that are enumerated before a new one: all of them, or for an index the smaller
indices. -/
def precedes (name : JsString) (property : JsString × JsString) : Bool :=
  match arrayIndex name with
  | some n => (arrayIndex property.1).any (· < n)
  | none => true

/-- A property that is not there is added. -/
def insert (name value : JsString) (properties : List (JsString × JsString)) :
    List (JsString × JsString) :=
  properties.takeWhile (precedes name) ++ (name, value) :: properties.dropWhile (precedes name)

/-- A property is added to those that are there. -/
theorem perm_insert (name value : JsString) (properties : List (JsString × JsString)) :
    (insert name value properties).Perm ((name, value) :: properties) := by
  have hmiddle : (insert name value properties).Perm ((name, value) ::
      (properties.takeWhile (precedes name) ++ properties.dropWhile (precedes name))) := List.perm_middle
  rwa [List.takeWhile_append_dropWhile] at hmiddle

/-- Assigning a string to a property; one that is assigned to `__proto__` is ignored. -/
def set (o : JsObject) (name value : JsString) : JsObject :=
  if name = literal "__proto__" then o
  else if hthere : name ∈ o.properties.map Prod.fst then
    ⟨replace name value o.properties, names_replace name value o.properties ▸ o.distinct⟩
  else ⟨insert name value o.properties,
    ((perm_insert name value o.properties).map Prod.fst).nodup_iff.mpr
      (List.nodup_cons.mpr ⟨hthere, o.distinct⟩)⟩

/-- Replacing a value changes no other property. -/
theorem find_replace (properties : List (JsString × JsString)) (name value other : JsString) :
    find (replace name value properties) other =
      if other = name then (find properties name).map fun _ => value else find properties other := by
  induction properties with
  | nil => simp [replace, find]
  | cons p properties ih =>
    have hreplace : replace name value (p :: properties) =
        (if p.1 = name then (name, value) else p) :: replace name value properties := rfl
    rw [hreplace, find_cons, ih, find_cons, find_cons]
    by_cases hkey : p.1 = name
    · rw [if_pos hkey, hkey]
      by_cases hother : other = name
      · simp [hother]
      · simp [hother]
    · rw [if_neg hkey]
      by_cases hother : other = name
      · rw [hother, if_neg (Ne.symm hkey), if_pos rfl, if_pos rfl, if_neg (Ne.symm hkey)]
      · rw [if_neg hother, if_neg hother]

/-- Adding a property changes no other one. -/
theorem find_insert {properties : List (JsString × JsString)} {name : JsString}
    (hmissing : name ∉ properties.map Prod.fst) (value other : JsString) :
    find (insert name value properties) other =
      if other = name then some value else find properties other := by
  have happend : find (insert name value properties) other =
      (find (properties.takeWhile (precedes name)) other).or
        (find ((name, value) :: properties.dropWhile (precedes name)) other) := List.lookup_append
  have hsplit : find properties other = (find (properties.takeWhile (precedes name)) other).or
      (find (properties.dropWhile (precedes name)) other) := by
    conv_lhs => rw [← List.takeWhile_append_dropWhile (p := precedes name) (l := properties)]
    exact List.lookup_append
  rw [happend, find_cons]
  by_cases hother : other = name
  · have hfront : find (properties.takeWhile (precedes name)) other = none := by
      rw [find_eq_none_iff, hother]
      exact fun hmem => hmissing (((List.takeWhile_prefix _).sublist.map Prod.fst).subset hmem)
    rw [if_pos hother, if_pos hother, hfront, Option.none_or]
  · rw [if_neg hother, if_neg hother, hsplit]

/-- What is read after an assignment. -/
theorem get_set (o : JsObject) {name : JsString} (hname : name ≠ literal "__proto__")
    (value other : JsString) :
    (o.set name value).get other = if other = name then some value else o.get other := by
  rw [set, if_neg hname]
  split
  next hthere =>
    obtain ⟨old, hold⟩ := Option.ne_none_iff_exists'.mp
      (fun hnone => find_eq_none_iff.mp hnone hthere)
    rw [get, find_replace, hold]
    rfl
  next hmissing => exact find_insert hmissing value other

example : (((empty.set (literal "b") []).set (literal "10") []).set (literal "9") []).properties.map Prod.fst =
    [literal "9", literal "10", literal "b"] := by decide

/-- The properties after an assignment. -/
theorem mem_set {o : JsObject} {name value : JsString} {property : JsString × JsString}
    (h : property ∈ (o.set name value).properties) : property ∈ o.properties ∨ property = (name, value) := by
  rw [set] at h
  split at h
  · exact .inl h
  split at h
  · obtain ⟨old, hold, hnew⟩ := List.mem_map.mp h
    split at hnew
    · exact .inr hnew.symm
    · exact .inl (hnew ▸ hold)
  · rcases List.mem_cons.mp ((perm_insert name value o.properties).mem_iff.mp h) with hnew | hold
    · exact .inr hnew
    · exact .inl hold

/-- Assigned in the reverse order, the first one of several values of a property stays. -/
theorem get_foldr_set (properties : List (JsString × JsString))
    (hproperties : ∀ p ∈ properties, p.1 ≠ literal "__proto__") (name : JsString) :
    (properties.foldr (fun p o => set o p.1 p.2) empty).get name = find properties name := by
  induction properties with
  | nil => rfl
  | cons p properties ih =>
    have htail := ih fun q hq => hproperties q (List.mem_cons_of_mem _ hq)
    rw [List.foldr_cons, get_set _ (hproperties p List.mem_cons_self), htail, find_cons]

end JsObject

end JavaScript

end Library
