import EventMonitor.Library.JavaScript

/-!
# Strings in JSON

A string literal spells each code unit as itself, by a short escape, or as `\uXXXX`; which of
these is used makes no difference to the string that is read. So code units may be escaped
afterwards, as long as the characters of the escapes themselves are left alone. The reader of
literals and of arrays of strings follows the grammar of JSON.
-/

namespace Library

namespace JsonText

open JavaScript

/-- The code unit that a short escape stands for. -/
def unescape (e : UInt16) : Option UInt16 :=
  if e = 34 ∨ e = 92 ∨ e = 47 then some e
  else if e = 98 then some 8
  else if e = 102 then some 12
  else if e = 110 then some 10
  else if e = 114 then some 13
  else if e = 116 then some 9
  else none

/-- The value of a hexadecimal digit. -/
def hexValue (c : UInt16) : Option ℕ := if digitValue c < 16 then some (digitValue c) else none

/-- The code unit of four hexadecimal digits. -/
def hexUnit (a b c d : UInt16) : Option UInt16 := do
  let a ← hexValue a
  let b ← hexValue b
  let c ← hexValue c
  let d ← hexValue d
  return UInt16.ofNat (((a * 16 + b) * 16 + c) * 16 + d)

/-- The ways to spell a code unit. -/
inductive Token : UInt16 → JsString → Prop
  | plain {c : UInt16} (hcontrol : 32 ≤ c.toNat) (hquote : c ≠ 34) (hbackslash : c ≠ 92) : Token c [c]
  | short {c e : UInt16} (h : unescape e = some c) : Token c [92, e]
  | unicode {c w x y z : UInt16} (h : hexUnit w x y z = some c) : Token c [92, 117, w, x, y, z]

/-- The ways to spell the content of a string literal. -/
inductive Spelling : JsString → JsString → Prop
  | nil : Spelling [] []
  | cons {c : UInt16} {token s t : JsString} : Token c token → Spelling s t →
      Spelling (c :: s) (token ++ t)

/-- Read an escape behind its backslash. -/
def readEscape : JsString → Option (UInt16 × JsString)
  | [] => none
  | e :: rest =>
    if e = 117 then
      match rest with
      | w :: x :: y :: z :: rest => (hexUnit w x y z).map (·, rest)
      | _ => none
    else (unescape e).map (·, rest)

/-- Read a code unit of the content of a string literal. -/
def readUnit : JsString → Option (UInt16 × JsString)
  | [] => none
  | c :: rest =>
    if c = 92 then readEscape rest
    else if c.toNat < 32 ∨ c = 34 then none
    else some (c, rest)

/-- A code unit is read as it is spelled. -/
theorem readUnit_token {c : UInt16} {token : JsString} (h : Token c token) (rest : JsString) :
    readUnit (token ++ rest) = some (c, rest) := by
  cases h with
  | plain hcontrol hquote hbackslash =>
    have hplain : ¬ (c.toNat < 32 ∨ c = 34) := not_or.mpr ⟨Nat.not_lt_of_le hcontrol, hquote⟩
    rw [List.singleton_append, readUnit, if_neg hbackslash, if_neg hplain]
  | @short e h =>
    have he : e ≠ 117 := by
      rintro rfl
      simp [unescape] at h
    rw [List.cons_append, List.singleton_append, readUnit, if_pos rfl, readEscape.eq_def]
    simp only [if_neg he, h, Option.map_some]
  | unicode h =>
    rw [List.cons_append, readUnit, if_pos rfl, readEscape.eq_def]
    simp only [List.cons_append, List.nil_append, if_true, h, Option.map_some]

/-- What is read is spelled by what has been taken away. -/
theorem token_of_readUnit {text rest : JsString} {c : UInt16} (h : readUnit text = some (c, rest)) :
    ∃ token, Token c token ∧ text = token ++ rest ∧ token.head? ≠ some 34 := by
  rcases text with _ | ⟨u, text⟩
  · simp [readUnit] at h
  rw [readUnit] at h
  split at h
  next hbackslash =>
    subst hbackslash
    rcases text with _ | ⟨e, text⟩
    · simp [readEscape] at h
    rw [readEscape.eq_def] at h
    simp only at h
    split at h
    next hunicode =>
      subst hunicode
      rcases text with _ | ⟨w, _ | ⟨x, _ | ⟨y, _ | ⟨z, text⟩⟩⟩⟩
      · simp at h
      · simp at h
      · simp at h
      · simp at h
      · obtain ⟨v, hv, hpair⟩ := Option.map_eq_some_iff.mp h
        obtain ⟨rfl, rfl⟩ := Prod.mk.inj hpair
        exact ⟨_, .unicode hv, rfl, by simp⟩
    next =>
      obtain ⟨v, hv, hpair⟩ := Option.map_eq_some_iff.mp h
      obtain ⟨rfl, rfl⟩ := Prod.mk.inj hpair
      exact ⟨_, .short hv, rfl, by simp⟩
  next hbackslash =>
    split at h
    · contradiction
    next hplain =>
      rw [not_or] at hplain
      obtain ⟨rfl, rfl⟩ := Prod.mk.inj (Option.some.inj h)
      exact ⟨_, .plain (Nat.le_of_not_lt hplain.1) hplain.2 hbackslash, rfl, by simpa using hplain.2⟩

/-- A code unit that has been read is gone. -/
theorem length_readUnit_lt {text rest : JsString} {c : UInt16} (h : readUnit text = some (c, rest)) :
    rest.length < text.length := by
  obtain ⟨token, htoken, rfl, -⟩ := token_of_readUnit h
  rw [List.length_append]
  cases htoken <;> simp

/-- Read a string literal behind its opening quote; what is left stands behind the closing one. -/
def parseString (text : JsString) : Option (JsString × JsString) :=
  if text.head? = some 34 then some ([], text.tail)
  else
    match _hread : readUnit text with
    | none => none
    | some (c, rest) => (parseString rest).map fun p => (c :: p.1, p.2)
termination_by text.length
decreasing_by exact length_readUnit_lt _hread

/-- A token does not begin with a quote. -/
theorem Token.head {c : UInt16} {token : JsString} (h : Token c token) (rest : JsString) :
    (token ++ rest).head? ≠ some 34 := by
  cases h with
  | plain hcontrol hquote hbackslash => simpa using hquote
  | short | unicode => simp

/-- A literal is read as the string that it spells. -/
theorem parseString_of_spelling {s t : JsString} (h : Spelling s t) (rest : JsString) :
    parseString (t ++ 34 :: rest) = some (s, rest) := by
  induction h with
  | nil =>
    have hquote : (([] : JsString) ++ 34 :: rest).head? = some 34 := rfl
    rw [parseString, if_pos hquote]
    rfl
  | cons htoken _ ih =>
    rw [List.append_assoc, parseString, if_neg (htoken.head _)]
    split
    next hnone => rw [readUnit_token htoken] at hnone; contradiction
    next c' rest' hread =>
      rw [readUnit_token htoken] at hread
      obtain ⟨rfl, rfl⟩ := Prod.mk.inj (Option.some.inj hread)
      rw [ih]
      rfl

/-- What is read is spelled by what stands before the closing quote. -/
theorem spelling_of_parseString {text s rest : JsString} (h : parseString text = some (s, rest)) :
    ∃ t, Spelling s t ∧ text = t ++ 34 :: rest := by
  induction hlength : text.length using Nat.strong_induction_on generalizing text s rest with
  | _ n ih =>
    rw [parseString] at h
    split at h
    next hquote =>
      obtain ⟨rfl, rfl⟩ := Prod.mk.inj (Option.some.inj h)
      rcases text with _ | ⟨c, text⟩
      · simp at hquote
      · obtain rfl : c = 34 := by simpa using hquote
        exact ⟨[], .nil, rfl⟩
    next =>
      split at h
      · contradiction
      next c tail hread =>
        obtain ⟨⟨s', rest'⟩, hrest, hpair⟩ := Option.map_eq_some_iff.mp h
        obtain ⟨rfl, rfl⟩ := Prod.mk.inj hpair
        obtain ⟨t, hspelling, htext⟩ := ih tail.length (hlength ▸ length_readUnit_lt hread) hrest rfl
        obtain ⟨token, htoken, rfl, -⟩ := token_of_readUnit hread
        refine ⟨token ++ t, .cons htoken hspelling, ?_⟩
        rw [htext, List.append_assoc]

/-- Escape the code units of a class. -/
def escapeClass (escape : UInt16 → Option JsString) (t : JsString) : JsString :=
  t.flatMap fun c => (escape c).getD [c]

/-- A printed character of ASCII. -/
def IsAscii (c : UInt16) : Prop := 32 ≤ c.toNat ∧ c.toNat < 127

instance (c : UInt16) : Decidable (IsAscii c) := inferInstanceAs (Decidable (_ ∧ _))

/-- Short escapes are written in ASCII. -/
theorem isAscii_of_unescape {c e : UInt16} (h : unescape e = some c) : IsAscii e := by
  have hall : ([34, 92, 47, 98, 102, 110, 114, 116] : List UInt16).all (fun e => decide (IsAscii e)) =
      true := by decide
  have hmem : e ∈ ([34, 92, 47, 98, 102, 110, 114, 116] : List UInt16) := by
    by_contra hmem
    simp only [List.mem_cons, List.not_mem_nil, or_false, not_or] at hmem
    simp [unescape, hmem] at h
  exact of_decide_eq_true (List.all_eq_true.mp hall e hmem)

/-- Hexadecimal digits are written in ASCII. -/
theorem isAscii_of_hexValue {c : UInt16} {n : ℕ} (h : hexValue c = some n) : IsAscii c := by
  rw [hexValue] at h
  split at h
  next hdigit =>
    simp only [digitValue] at hdigit
    rw [IsAscii]
    split at hdigit
    · omega
    · split at hdigit
      · omega
      · split at hdigit <;> omega
  next => contradiction

/-- A code unit that is escaped is spelled in ASCII. -/
theorem Token.isAscii {c : UInt16} {token : JsString} (h : Token c token) (hne : token ≠ [c]) :
    ∀ u ∈ token, IsAscii u := by
  have hbackslash : IsAscii 92 ∧ IsAscii 117 := by decide
  cases h with
  | plain => exact absurd rfl hne
  | short h =>
    intro u hu
    rcases List.mem_pair.mp hu with rfl | rfl
    · exact hbackslash.1
    · exact isAscii_of_unescape h
  | @unicode w x y z h =>
    simp only [hexUnit, Option.bind_eq_bind, Option.bind_eq_some_iff] at h
    obtain ⟨_, hw, _, hx, _, hy, _, hz, -⟩ := h
    intro u hu
    simp only [List.mem_cons, List.not_mem_nil, or_false] at hu
    rcases hu with rfl | rfl | rfl | rfl | rfl | rfl
    · exact hbackslash.1
    · exact hbackslash.2
    · exact isAscii_of_hexValue hw
    · exact isAscii_of_hexValue hx
    · exact isAscii_of_hexValue hy
    · exact isAscii_of_hexValue hz

/-- Nothing is escaped in ASCII. -/
theorem escapeClass_of_isAscii {escape : UInt16 → Option JsString}
    (hascii : ∀ c, IsAscii c → escape c = none) {t : JsString} (ht : ∀ c ∈ t, IsAscii c) :
    escapeClass escape t = t := by
  induction t with
  | nil => rfl
  | cons c t ih =>
    have htail := ih fun u hu => ht u (List.mem_cons_of_mem _ hu)
    rw [escapeClass, List.flatMap_cons, ← escapeClass, htail, hascii c (ht c List.mem_cons_self)]
    rfl

/-- Escaping the code units that stand for themselves does not change what is spelled. -/
theorem spelling_escapeClass {escape : UInt16 → Option JsString} {s t : JsString}
    (hascii : ∀ c, IsAscii c → escape c = none)
    (hescape : ∀ c token, escape c = some token → Token c token) (h : Spelling s t) :
    Spelling s (escapeClass escape t) := by
  induction h with
  | nil => exact .nil
  | @cons c token s t htoken _ ih =>
    have happend : escapeClass escape (token ++ t) = escapeClass escape token ++ escapeClass escape t :=
      List.flatMap_append
    rw [happend]
    by_cases hplain : token = [c]
    · rw [hplain, escapeClass, List.flatMap_cons, List.flatMap_nil, List.append_nil]
      rcases hc : escape c with _ | escaped
      · exact .cons (hplain ▸ htoken) ih
      · exact .cons (hescape c escaped hc) ih
    · rw [escapeClass_of_isAscii hascii (htoken.isAscii hplain)]
      exact .cons htoken ih

/-- Escaping whatever cannot stand for itself spells the string. -/
theorem spelling_escapeClass_self {escape : UInt16 → Option JsString}
    (hescape : ∀ c, Token c ((escape c).getD [c])) (s : JsString) :
    Spelling s (escapeClass escape s) := by
  induction s with
  | nil => exact .nil
  | cons c s ih => exact .cons (hescape c) ih

/-- A code unit as `\uXXXX`, in small letters. -/
def unicodeEscape (c : UInt16) : JsString :=
  let digit : ℕ → UInt16 := fun n => if n < 10 then UInt16.ofNat (48 + n) else UInt16.ofNat (87 + n)
  [92, 117, digit (c.toNat / 4096), digit (c.toNat / 256 % 16), digit (c.toNat / 16 % 16),
    digit (c.toNat % 16)]

/-- A unicode escape spells its code unit. -/
theorem token_unicodeEscape (c : UInt16) : Token c (unicodeEscape c) := by
  have hvalue : ∀ n, n < 16 →
      hexValue (if n < 10 then UInt16.ofNat (48 + n) else UInt16.ofNat (87 + n)) = some n := by decide
  have hlt := c.toNat_lt
  apply Token.unicode
  rw [hexUnit, hvalue _ (by omega), hvalue _ (by omega), hvalue _ (by omega), hvalue _ (by omega)]
  apply congrArg some
  apply UInt16.toNat_inj.mp
  rw [Utf16.toNat_unit (by omega)]
  omega

/-- What has been escaped as far as possible contains nothing that is still to be escaped. -/
theorem escape_eq_none_of_mem {escape : UInt16 → Option JsString}
    (hascii : ∀ c, IsAscii c → escape c = none)
    (hescape : ∀ c token, escape c = some token → ∀ u ∈ token, IsAscii u) {t : JsString} :
    ∀ u ∈ escapeClass escape t, escape u = none := by
  intro u hu
  obtain ⟨c, -, hc⟩ := List.mem_flatMap.mp hu
  rcases hescaped : escape c with _ | token
  · rw [hescaped, Option.getD_none, List.mem_singleton] at hc
    exact hc ▸ hescaped
  · rw [hescaped, Option.getD_some] at hc
    exact hascii u (hescape c token hescaped u hc)

/-! ## What a script writes -/

/-- A code unit in the result of `JSON.stringify`. -/
def stringifyUnit (c : UInt16) : JsString :=
  if c = 34 ∨ c = 92 then [92, c]
  else if c = 8 then [92, 98]
  else if c = 9 then [92, 116]
  else if c = 10 then [92, 110]
  else if c = 12 then [92, 102]
  else if c = 13 then [92, 114]
  else if c.toNat < 32 then unicodeEscape c
  else [c]

/-- The content of the literal that `JSON.stringify` makes of a string; a surrogate that stands alone
is escaped. -/
def stringify : JsString → JsString
  | [] => []
  | [c] => if Utf16.IsLead c ∨ Utf16.IsTrail c then unicodeEscape c else stringifyUnit c
  | c :: d :: rest =>
    if Utf16.IsLead c ∧ Utf16.IsTrail d then c :: d :: stringify rest
    else if Utf16.IsLead c ∨ Utf16.IsTrail c then unicodeEscape c ++ stringify (d :: rest)
    else stringifyUnit c ++ stringify (d :: rest)

/-- A code unit is spelled. -/
theorem token_stringifyUnit (c : UInt16) : Token c (stringifyUnit c) := by
  unfold stringifyUnit
  split
  next h => exact .short (by rcases h with rfl | rfl <;> rfl)
  split
  next h => exact .short (h ▸ rfl)
  split
  next h => exact .short (h ▸ rfl)
  split
  next h => exact .short (h ▸ rfl)
  split
  next h => exact .short (h ▸ rfl)
  split
  next h => exact .short (h ▸ rfl)
  split
  next => exact token_unicodeEscape c
  next hmarks _ _ _ _ _ hcontrol =>
    rw [not_or] at hmarks
    exact .plain (Nat.le_of_not_lt hcontrol) hmarks.1 hmarks.2

/-- A surrogate may stand for itself. -/
theorem token_surrogate {c : UInt16} (h : Utf16.IsLead c ∨ Utf16.IsTrail c) : Token c [c] := by
  simp only [Utf16.IsLead, Utf16.IsTrail] at h
  have hmarks : c ≠ 34 ∧ c ≠ 92 := by
    constructor
    · rintro rfl
      simp at h
    · rintro rfl
      simp at h
  exact .plain (by omega) hmarks.1 hmarks.2

/-- `JSON.stringify` spells the string. -/
theorem spelling_stringify (s : JsString) : Spelling s (stringify s) := by
  fun_induction stringify s with
  | case1 => exact .nil
  | case2 c h =>
    have hspelled := Spelling.cons (token_unicodeEscape c) .nil
    rwa [List.append_nil] at hspelled
  | case3 c h =>
    have hspelled := Spelling.cons (token_stringifyUnit c) .nil
    rwa [List.append_nil] at hspelled
  | case4 c d rest h ih =>
    exact .cons (token_surrogate (Or.inl h.1)) (.cons (token_surrogate (Or.inr h.2)) ih)
  | case5 c d rest h h' ih => exact .cons (token_unicodeEscape c) ih
  | case6 c d rest h h' ih => exact .cons (token_stringifyUnit c) ih

/-! ## Arrays of strings -/

/-- White space between the parts of a JSON text. -/
def isBlank (c : UInt16) : Bool := c = 32 || c = 9 || c = 10 || c = 13

/-- A string literal with its quotes, and the white space behind it. -/
def parseLiteral (text : JsString) : Option (JsString × JsString) :=
  match text with
  | c :: rest =>
    if c = 34 then (parseString rest).map fun p => (p.1, p.2.dropWhile isBlank) else none
  | [] => none

/-- What is left behind a literal is shorter. -/
theorem length_parseLiteral_lt {text s rest : JsString} (h : parseLiteral text = some (s, rest)) :
    rest.length < text.length := by
  rcases text with _ | ⟨c, text⟩
  · simp [parseLiteral] at h
  rw [parseLiteral] at h
  split at h
  · obtain ⟨⟨s', tail⟩, hparse, hpair⟩ := Option.map_eq_some_iff.mp h
    obtain ⟨rfl, rfl⟩ := Prod.mk.inj hpair
    obtain ⟨t, -, rfl⟩ := spelling_of_parseString hparse
    have hblank := (List.dropWhile_sublist isBlank (l := tail)).length_le
    simp only [List.length_cons, List.length_append]
    omega
  · contradiction

/-- The elements of an array from its first one on, up to the end of the text. -/
def parseElements (text : JsString) : Option (List JsString) :=
  match _hliteral : parseLiteral text with
  | none => none
  | some (s, rest) =>
    match rest with
    | [] => none
    | c :: rest =>
      if c = 93 then if rest.dropWhile isBlank = [] then some [s] else none
      else if c = 44 then (parseElements (rest.dropWhile isBlank)).map (s :: ·)
      else none
termination_by text.length
decreasing_by
  have hliteral := length_parseLiteral_lt _hliteral
  have hblank := (List.dropWhile_sublist isBlank (l := rest)).length_le
  simp only [List.length_cons] at hliteral
  omega

/-- `JSON.parse` of an array of strings. -/
def parseArray (text : JsString) : Option (List JsString) :=
  match text.dropWhile isBlank with
  | [] => none
  | c :: rest =>
    if c = 91 then
      match rest.dropWhile isBlank with
      | [] => none
      | d :: tail =>
        if d = 93 then if tail.dropWhile isBlank = [] then some [] else none
        else parseElements (d :: tail)
    else none

/-- A string literal. -/
def literalText (content : JsString) : JsString := 34 :: content ++ [34]

/-- An array of string literals. -/
def arrayText (literals : List JsString) : JsString := 91 :: join 44 literals ++ [93]

/-- A literal is read. -/
theorem parseLiteral_literalText {s t : JsString} (h : Spelling s t) {rest : JsString}
    (hrest : ∀ c ∈ rest.head?, ¬ isBlank c) :
    parseLiteral (literalText t ++ rest) = some (s, rest) := by
  have hblank : rest.dropWhile isBlank = rest := by
    cases rest with
    | nil => rfl
    | cons c rest => exact List.dropWhile_cons_of_neg (hrest c rfl)
  have htext : literalText t ++ rest = 34 :: (t ++ 34 :: rest) := by simp [literalText]
  rw [htext, parseLiteral, if_pos rfl, parseString_of_spelling h, Option.map_some, hblank]

/-- One more element of an array. -/
theorem parseElements_literalText {s t : JsString} (h : Spelling s t) (c : UInt16) (hc : ¬ isBlank c)
    (rest : JsString) :
    parseElements (literalText t ++ c :: rest) =
      if c = 93 then if rest.dropWhile isBlank = [] then some [s] else none
      else if c = 44 then (parseElements (rest.dropWhile isBlank)).map (s :: ·)
      else none := by
  have hhead : ∀ u ∈ (c :: rest).head?, ¬ isBlank u := by simpa using hc
  have hread := parseLiteral_literalText h hhead
  rw [parseElements]
  split
  next hnone => rw [hread] at hnone; contradiction
  next s' rest' hsome =>
    rw [hread] at hsome
    obtain ⟨rfl, rfl⟩ := Prod.mk.inj (Option.some.inj hsome)
    rfl

/-- A literal begins with a quote. -/
theorem dropWhile_literalText (t rest : JsString) :
    (literalText t ++ rest).dropWhile isBlank = literalText t ++ rest := by
  have hblank : ¬ isBlank 34 := by decide
  rw [literalText, List.cons_append, List.cons_append, List.dropWhile_cons_of_neg hblank]

/-- The elements of an array are read as the strings that they spell. -/
theorem parseElements_join {s t : JsString} {strings contents : List JsString} (hfirst : Spelling s t)
    (h : List.Forall₂ Spelling strings contents) :
    parseElements (join 44 ((t :: contents).map literalText) ++ [93]) = some (s :: strings) := by
  have hmarks : ¬ isBlank 93 ∧ ¬ isBlank 44 := by decide
  induction h generalizing s t with
  | nil =>
    rw [List.map_singleton, join, List.intercalate_singleton,
      parseElements_literalText hfirst 93 hmarks.1]
    rfl
  | @cons s' t' strings contents hnext _ ih =>
    have htail := ih hnext
    obtain ⟨rest, hrest⟩ := join_cons 44 (literalText t') (contents.map literalText)
    rw [List.map_cons] at htail
    rw [List.map_cons, List.map_cons, join_cons_cons, List.append_assoc, List.cons_append,
      parseElements_literalText hfirst 44 hmarks.2, if_neg (by decide), if_pos rfl]
    rw [hrest, List.append_assoc] at htail ⊢
    rw [dropWhile_literalText, htail]
    rfl

/-- An array of literals is read as the strings that they spell. -/
theorem parseArray_arrayText {strings contents : List JsString}
    (h : List.Forall₂ Spelling strings contents) :
    parseArray (arrayText (contents.map literalText)) = some strings := by
  have hbracket : ¬ isBlank 91 ∧ ¬ isBlank 93 := by decide
  rw [parseArray, arrayText, List.cons_append, List.dropWhile_cons_of_neg hbracket.1]
  simp only [if_true]
  cases h with
  | nil => rfl
  | @cons s t strings contents hfirst hrest =>
    have hread := parseElements_join hfirst hrest
    rw [List.map_cons] at hread ⊢
    obtain ⟨rest, hjoin⟩ := join_cons 44 (literalText t) (contents.map literalText)
    rw [hjoin, List.append_assoc, dropWhile_literalText]
    rw [hjoin, List.append_assoc] at hread
    have hquote : literalText t ++ (rest ++ [93]) = 34 :: (t ++ [34] ++ (rest ++ [93])) := rfl
    rw [hquote] at hread ⊢
    exact hread

end JsonText

end Library
