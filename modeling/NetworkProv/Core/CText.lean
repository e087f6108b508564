import Mathlib.Algebra.Group.Nat.Defs
import Mathlib.Data.List.Basic
import Mathlib.Data.List.DropRight
import Mathlib.Data.List.TakeWhile

/-!
# C text: `strstr`, `strtoul`, decimal numbers

Text is a list of bytes, without the NUL that ends it in memory. `strtoul` is
the one of base 10, for an `unsigned long` of any number of bits: it skips
blanks, takes a sign, and reads as many digits as there are.

* `strstr_eq_some`, `strstr_eq_none`: `strstr` finds the first occurrence.
* `numeral`: what `strtoul` reads digits from; a decimal number is read whole
  (`numeral_decimal`).
* `strtoul_leading`: the number that is read; `strtoul_rest_nil`: when nothing is left over.
* `snprintf_fits`, `snprintf_long`: whether the output was cut.
* `trim`, `field?`: the parts of a list of `name=value` pairs.
-/
namespace NetworkProv.Core.CText

abbrev Text := List UInt8

/-- Text from character literals. -/
def ofChars (cs : List Char) : Text := cs.map Char.toUInt8

/-- Text from a string literal. -/
def lit (s : String) : Text := ofChars s.toList

/-! ## `strstr` -/

/-- `s` from the first occurrence of `needle` on. -/
def strstr (needle : Text) : Text → Option Text
  | [] => if needle = [] then some [] else none
  | c :: cs => if needle.isPrefixOf (c :: cs) then some (c :: cs) else strstr needle cs

theorem strstr_eq_none {needle : Text} (hn : needle ≠ []) :
    ∀ {s : Text}, strstr needle s = none ↔ ¬ needle <:+: s
  | [] => by simp [strstr, hn]
  | c :: cs => by
    rw [List.infix_cons_iff, strstr]
    by_cases h : needle <+: c :: cs
    · simp [h]
    · simp [h, strstr_eq_none hn]

/-- What is found is a suffix that begins with `needle`, and no occurrence is earlier. -/
theorem strstr_eq_some {needle : Text} (hn : needle ≠ []) :
    ∀ {s p : Text}, strstr needle s = some p →
      ∃ pre post, s = pre ++ p ∧ p = needle ++ post ∧
        ∀ a b, s = a ++ needle ++ b → pre.length ≤ a.length
  | [], p, h => by simp [strstr, hn] at h
  | c :: cs, p, h => by
    rw [strstr] at h
    split at h
    · rename_i hp
      obtain ⟨post, hpost⟩ := List.isPrefixOf_iff_prefix.mp hp
      simp only [Option.some.injEq] at h
      subst h
      exact ⟨[], post, rfl, hpost.symm, fun _ _ _ => Nat.zero_le _⟩
    · rename_i hp
      obtain ⟨pre, post, hs, hpost, hmin⟩ := strstr_eq_some hn h
      refine ⟨c :: pre, post, by rw [hs]; rfl, hpost, fun a b hab => ?_⟩
      cases a with
      | nil =>
        refine absurd ?_ hp
        rw [List.isPrefixOf_iff_prefix]
        exact ⟨b, by rw [hab]; rfl⟩
      | cons x a =>
        have hcs : cs = a ++ needle ++ b := by
          rw [List.cons_append, List.cons_append] at hab
          exact (List.cons.inj hab).2
        have := hmin a b hcs
        simp only [List.length_cons]
        omega

/-! ## Decimal numbers -/

def isSpace (c : UInt8) : Bool := c == 0x20 || (0x09 ≤ c && c ≤ 0x0d)

def isDigit (c : UInt8) : Bool := 0x30 ≤ c && c ≤ 0x39

theorem not_isSpace_of_isDigit {c : UInt8} (h : isDigit c = true) : isSpace c = false := by
  simp only [isDigit, Bool.and_eq_true, decide_eq_true_eq, UInt8.le_iff_toNat_le] at h
  simp only [isSpace, Bool.or_eq_false_iff, Bool.and_eq_false_iff, decide_eq_false_iff_not, beq_eq_false_iff_ne,
    UInt8.le_iff_toNat_le, ne_eq, ← UInt8.toNat_inj]
  have h1 : (0x30 : UInt8).toNat = 48 := rfl
  have h2 : (0x20 : UInt8).toNat = 32 := rfl
  have h3 : (0x0d : UInt8).toNat = 13 := rfl
  omega

def digitsValue (ds : Text) : Nat := ds.foldl (fun n d => 10 * n + (d.toNat - 0x30)) 0

/-- The number that a non-empty string of decimal digits denotes. -/
def decimal? (s : Text) : Option Nat :=
  if s ≠ [] ∧ s.all isDigit then some (digitsValue s) else none

theorem decimal?_eq_some {s : Text} {n : Nat} :
    decimal? s = some n ↔ s ≠ [] ∧ s.all isDigit = true ∧ digitsValue s = n := by
  unfold decimal?
  split
  · rename_i h
    simp [h]
  · rename_i h
    simp only [reduceCtorEq, false_iff]
    exact fun hs => h ⟨hs.1, hs.2.1⟩

theorem decimal?_eq_none {s : Text} : decimal? s = none ↔ (s ≠ [] → ¬ s.all isDigit = true) := by
  unfold decimal?
  split
  · rename_i h
    simpa using h
  · rename_i h
    simpa using h

/-- `"%u"` -/
def printDecimal (n : Nat) : Text := ofChars (Nat.toDigits 10 n)

theorem digitsValue_ofChars {cs : List Char} (h : ∀ c ∈ cs, c.isDigit = true) :
    (ofChars cs).all isDigit = true ∧ digitsValue (ofChars cs) = Nat.ofDigitChars 10 cs 0 := by
  have hc : ∀ c ∈ cs, c.toNat = c.toUInt8.toNat ∧ isDigit c.toUInt8 = true := by
    intro c hm
    have hd := h c hm
    simp only [Char.isDigit, Bool.and_eq_true, decide_eq_true_eq, ge_iff_le, UInt32.le_iff_toNat_le] at hd
    have hv : c.toUInt8.toNat = c.toNat % 256 := rfl
    have h0 : (0x30 : UInt8).toNat = 48 := rfl
    have h9 : (0x39 : UInt8).toNat = 57 := rfl
    have hlo : 48 ≤ c.toNat := hd.1
    have hhi : c.toNat ≤ 57 := hd.2
    simp only [isDigit, Bool.and_eq_true, decide_eq_true_eq, UInt8.le_iff_toNat_le]
    omega
  refine ⟨by simpa [ofChars] using fun c hm => (hc c hm).2, ?_⟩
  unfold digitsValue ofChars
  rw [Nat.ofDigitChars_eq_foldl, List.foldl_map]
  refine List.foldl_ext _ _ _ fun n c hm => ?_
  rw [← (hc c hm).1]
  rfl

/-- What `printf` prints denotes the number. -/
theorem decimal?_printDecimal (n : Nat) : decimal? (printDecimal n) = some n := by
  have hdigits : ∀ c ∈ Nat.toDigits 10 n, c.isDigit = true :=
    fun _ hc => Nat.isDigit_of_mem_toDigits (by decide) (by decide) hc
  obtain ⟨hall, hv⟩ := digitsValue_ofChars hdigits
  refine decimal?_eq_some.mpr ⟨by simp [printDecimal, ofChars, Nat.toDigits_ne_nil], hall, ?_⟩
  rw [printDecimal, hv, Nat.ofDigitChars_ten_toDigits]

/-! ## `strtoul` -/

/-- A sign, if there is one, and the rest; `true` is minus. -/
def signed : Text → Bool × Text
  | [] => (false, [])
  | c :: cs => if c = 0x2b then (false, cs) else if c = 0x2d then (true, cs) else (false, c :: cs)

/-- What the digits are read from, after blanks and a sign. -/
def numeral (s : Text) : Bool × Text := signed (s.dropWhile isSpace)

structure Strtoul where
  value : Nat
  rest : Text
  erange : Bool
  deriving DecidableEq

/-- `strtoul (s, &rest, 10)` with an `unsigned long` of so many bits. -/
def strtoul (bits : Nat) (s : Text) : Strtoul :=
  match numeral s with
  | (minus, t) =>
    let ds := t.takeWhile isDigit
    let n := digitsValue ds
    if ds = [] then ⟨0, s, false⟩
    else if 2 ^ bits ≤ n then ⟨2 ^ bits - 1, t.dropWhile isDigit, true⟩
    else ⟨if minus then (2 ^ bits - n) % 2 ^ bits else n, t.dropWhile isDigit, false⟩

/-- Text that begins with a digit has neither blanks nor a sign in front. -/
theorem numeral_digit {c : UInt8} (h : isDigit c = true) (cs : Text) :
    numeral (c :: cs) = (false, c :: cs) := by
  have hp : c ≠ 0x2b := by rintro rfl; cases h
  have hm : c ≠ 0x2d := by rintro rfl; cases h
  rw [numeral, List.dropWhile_cons, not_isSpace_of_isDigit h]
  simp [signed, hp, hm]

theorem numeral_decimal {s : Text} {n : Nat} (h : decimal? s = some n) : numeral s = (false, s) := by
  obtain ⟨hne, hall, -⟩ := decimal?_eq_some.mp h
  cases s with
  | nil => exact absurd rfl hne
  | cons c cs => exact numeral_digit (by simp_all) cs

/-- A sign is never left in place. -/
theorem numeral_eq_self {s : Text} (h : (numeral s).2 = s) : (numeral s).1 = false := by
  have hlen : (signed (s.dropWhile isSpace)).2.length = s.length := congrArg List.length h
  have hle : (s.dropWhile isSpace).length ≤ s.length := (List.dropWhile_suffix _).length_le
  unfold numeral
  generalize s.dropWhile isSpace = t at hlen hle
  unfold signed at hlen ⊢
  split at hlen
  · rfl
  · split at hlen
    · simp_all
    split at hlen
    · simp only [List.length_cons] at hle
      dsimp only at hlen
      omega
    · simp_all

/-- Nothing is left over just where the numeral is a decimal number. -/
theorem strtoul_rest_nil {bits : Nat} {s : Text} (hs : s ≠ []) :
    (strtoul bits s).rest = [] ↔ (decimal? (numeral s).2).isSome := by
  unfold strtoul
  generalize numeral s = q
  obtain ⟨minus, t⟩ := q
  dsimp only
  have hiff : t.takeWhile isDigit ≠ [] → (t.dropWhile isDigit = [] ↔ (decimal? t).isSome) := by
    intro hd
    rw [List.dropWhile_eq_nil_iff, decimal?]
    have ht : t ≠ [] := by rintro rfl; exact hd rfl
    simp [ht]
  split
  · rename_i hd
    simp only [hs, false_iff, Bool.not_eq_true, Option.isSome_eq_false_iff, Option.isNone_iff_eq_none,
      decimal?_eq_none]
    intro ht
    rw [← Bool.not_eq_true]
    exact fun hall => ht ((List.takeWhile_eq_self_iff.mpr (List.all_eq_true.mp hall)).symm.trans hd)
  · rename_i hd
    split <;> exact hiff hd

/-- How a numeral with nothing after it is read. -/
theorem strtoul_decimal {bits n : Nat} {s : Text} (h : decimal? (numeral s).2 = some n) :
    strtoul bits s =
      if 2 ^ bits ≤ n then ⟨2 ^ bits - 1, [], true⟩
      else ⟨if (numeral s).1 then (2 ^ bits - n) % 2 ^ bits else n, [], false⟩ := by
  obtain ⟨hne, hall, hv⟩ := decimal?_eq_some.mp h
  unfold strtoul
  generalize numeral s = q at hne hall hv
  obtain ⟨minus, t⟩ := q
  dsimp only at hne hall hv ⊢
  rw [List.takeWhile_eq_self_iff.mpr (List.all_eq_true.mp hall),
    List.dropWhile_eq_nil_iff.mpr (List.all_eq_true.mp hall), hv, if_neg hne]

theorem span_digits {ds post : Text} (hds : ds.all isDigit = true)
    (hpost : ∀ c ∈ post.head?, isDigit c = false) :
    (ds ++ post).takeWhile isDigit = ds ∧ (ds ++ post).dropWhile isDigit = post := by
  have hall := List.all_eq_true.mp hds
  rw [List.takeWhile_append_of_pos hall, List.dropWhile_append_of_pos hall]
  cases post with
  | nil => simp
  | cons c cs => simp [hpost c (by simp)]

/-- The number that the text begins with, after blanks and a sign; `true`: a minus. -/
def leading? (s : Text) : Option (Bool × Nat) :=
  (decimal? ((numeral s).2.takeWhile isDigit)).map fun n => ((numeral s).1, n)

/-- What a number is in an `unsigned long` of so many bits: the largest one if it does not fit, else
modulo its range. -/
def cValue (bits : Nat) (minus : Bool) (n : Nat) : Nat :=
  if 2 ^ bits ≤ n then 2 ^ bits - 1 else if minus then (2 ^ bits - n) % 2 ^ bits else n

theorem numeral_length_le (s : Text) : (numeral s).2.length ≤ s.length := by
  have hle : (s.dropWhile isSpace).length ≤ s.length := (List.dropWhile_suffix _).length_le
  unfold numeral
  generalize s.dropWhile isSpace = t at hle
  unfold signed
  split
  · exact hle
  · rw [List.length_cons] at hle
    split
    · dsimp only
      omega
    split
    · dsimp only
      omega
    · exact hle

/-- The number at the start is what is read, and nothing is read without one. -/
theorem strtoul_leading (bits v : Nat) (s : Text) :
    ((strtoul bits s).rest ≠ s ∧ (strtoul bits s).value = v) ↔
      ∃ minus n, leading? s = some (minus, n) ∧ cValue bits minus n = v := by
  have hlen := numeral_length_le s
  have hall : ((numeral s).2.takeWhile isDigit).all isDigit = true := List.all_takeWhile
  unfold strtoul leading? cValue
  generalize numeral s = q at hlen hall
  obtain ⟨minus, t⟩ := q
  dsimp only at hlen hall ⊢
  by_cases hd : t.takeWhile isDigit = []
  · simp [hd, decimal?]
  have hrest : t.dropWhile isDigit ≠ s := by
    intro heq
    have hsplit := congrArg List.length (List.takeWhile_append_dropWhile (p := isDigit) (l := t))
    rw [List.length_append, heq] at hsplit
    have hpos : 0 < (t.takeWhile isDigit).length := List.length_pos_of_ne_nil hd
    omega
  have hn : decimal? (t.takeWhile isDigit) = some (digitsValue (t.takeWhile isDigit)) :=
    decimal?_eq_some.mpr ⟨hd, hall, rfl⟩
  rw [if_neg hd, hn]
  split <;> simp [*]

/-- Digits without blanks or a sign, up to the first character that is none. -/
theorem leading?_digits {n : Nat} {ds post : Text} (h : decimal? ds = some n)
    (hpost : ∀ c ∈ post.head?, isDigit c = false) : leading? (ds ++ post) = some (false, n) := by
  obtain ⟨hne, hall, -⟩ := decimal?_eq_some.mp h
  have hnum : numeral (ds ++ post) = (false, ds ++ post) := by
    cases ds with
    | nil => exact absurd rfl hne
    | cons c cs => exact numeral_digit (List.all_eq_true.mp hall c (by simp)) (cs ++ post)
  rw [leading?, hnum, (span_digits hall hpost).1, h]
  rfl

/-! ## `snprintf` -/

abbrev INT_MAX := 2147483647

/-- `snprintf` of `s` to a buffer of `size` bytes: what it returns, and the string it leaves
there. An output longer than an `int` counts is an error. -/
def snprintf (size : Nat) (s : Text) : Int × Text :=
  (if s.length ≤ INT_MAX then (s.length : Int) else -1, s.take (size - 1))

theorem snprintf_fits {size : Nat} {s : Text} (h : s.length < size) (hsize : size ≤ INT_MAX) :
    snprintf size s = ((s.length : Int), s) := by
  rw [snprintf, if_pos (by omega), List.take_of_length_le (by omega)]

/-- What does not fit is seen from the return value. -/
theorem snprintf_long {size : Nat} {s : Text} (h : size ≤ s.length) :
    (snprintf size s).1 < 0 ∨ size ≤ (snprintf size s).1.toNat := by
  unfold snprintf
  dsimp only
  split <;> omega

/-! ## Lists of `name=value` pairs -/

def isBlank (c : UInt8) : Bool := c == 0x20

def trimEnd (s : Text) : Text := s.rdropWhile isBlank

def trim (s : Text) : Text := trimEnd (s.dropWhile isBlank)

/-- What stands before and after the first `=`. -/
def field? (s : Text) : Option (Text × Text) :=
  match s.dropWhile (· != 0x3d) with
  | [] => none
  | _ :: value => some (s.takeWhile (· != 0x3d), value)

theorem field?_eq_some {s name value : Text} (h : field? s = some (name, value)) :
    s = name ++ 0x3d :: value := by
  have hs := List.takeWhile_append_dropWhile (p := (· != 0x3d)) (l := s)
  unfold field? at h
  split at h
  · cases h
  · rename_i c value' hd
    have hc : c = 0x3d := by
      have := List.head_dropWhile_not (l := s) (· != 0x3d) (by rw [hd]; simp)
      simpa [hd] using this
    cases h
    rw [hd, hc] at hs
    exact hs.symm

theorem field?_append {name : Text} (hn : (0x3d : UInt8) ∉ name) (value : Text) :
    field? (name ++ 0x3d :: value) = some (name, value) := by
  have hp : ∀ c ∈ name, (c != 0x3d) = true := by
    intro c hc
    simpa using fun he : c = 0x3d => hn (he ▸ hc)
  unfold field?
  rw [List.dropWhile_append_of_pos hp, List.takeWhile_append_of_pos hp]
  simp

theorem trim_infix (s : Text) : trim s <:+: s :=
  (List.rdropWhile_prefix _ _).isInfix.trans (List.dropWhile_suffix _).isInfix

/-- Only the end of what follows a character that is no blank is trimmed. -/
theorem trimEnd_append {c : UInt8} (hc : isBlank c = false) (s t : Text) :
    trimEnd (s ++ c :: t) = s ++ c :: trimEnd t := by
  simp only [trimEnd, List.rdropWhile, List.reverse_append, List.reverse_cons, List.append_assoc]
  rw [List.dropWhile_append]
  split
  · rename_i he
    rw [List.isEmpty_iff] at he
    rw [he]
    simp [hc]
  · simp

theorem trimEnd_rest (s : Text) : ∃ blanks, s = trimEnd s ++ blanks ∧ ∀ c ∈ blanks, isBlank c = true :=
  ⟨s.rtakeWhile isBlank, (List.rdropWhile_append_rtakeWhile ..).symm, fun _ h => List.mem_rtakeWhile_imp h⟩

/-- Blanks in front of a text that begins with none. -/
theorem trim_blanks {blanks : Text} (hb : ∀ c ∈ blanks, isBlank c = true) {c : UInt8}
    (hc : isBlank c = false) (s : Text) : trim (blanks ++ c :: s) = c :: trimEnd s := by
  rw [trim, List.dropWhile_append_of_pos hb, List.dropWhile_cons_of_neg (by simp [hc])]
  exact trimEnd_append hc [] s

theorem infix_of_mem_splitOn {a : UInt8} : ∀ {s t : Text}, t ∈ s.splitOn a → t <:+: s
  | [], t, h => by
    obtain rfl : t = [] := by simpa using h
    exact List.infix_rfl
  | c :: cs, t, h => by
    have hpre : ∀ u, (cs.splitOn a).head? = some u → u <+: cs := by
      intro u hu
      have hi : [a].intercalate (cs.splitOn a) = cs := List.intercalate_splitOn a
      cases hsp : cs.splitOn a with
      | nil => rw [hsp] at hu; cases hu
      | cons v vs =>
        rw [hsp] at hu hi
        obtain rfl : v = u := by simpa using hu
        cases vs with
        | nil => exact ⟨[], by simpa using hi⟩
        | cons x xs => exact ⟨_, by rw [List.intercalate_cons_cons] at hi; simpa using hi⟩
    rw [List.splitOn_cons_eq_if_modifyHead] at h
    split at h
    · rcases List.mem_cons.mp h with rfl | h
      · exact List.nil_infix
      · exact List.infix_cons (infix_of_mem_splitOn h)
    · cases hsp : cs.splitOn a with
      | nil => exact absurd hsp (List.splitOn_ne_nil a cs)
      | cons v vs =>
        rw [hsp] at h
        rcases List.mem_cons.mp h with rfl | h
        · exact (List.cons_prefix_cons.mpr ⟨rfl, hpre v (by simp [hsp])⟩).isInfix
        · exact List.infix_cons (infix_of_mem_splitOn (by rw [hsp]; exact List.mem_cons_of_mem _ h))

/-- The first piece of a text that is split. -/
theorem splitOn_eq_cons (a : UInt8) (s : Text) : ∃ pieces, s.splitOn a = s.takeWhile (· != a) :: pieces := by
  have hs := List.takeWhile_append_dropWhile (p := (· != a)) (l := s)
  have hnot : a ∉ s.takeWhile (· != a) := fun hm => by simpa using List.mem_takeWhile_imp hm
  cases hd : s.dropWhile (· != a) with
  | nil =>
    rw [hd, List.append_nil] at hs
    refine ⟨[], ?_⟩
    rw [hs] at hnot ⊢
    exact List.splitOn_eq_singleton hnot
  | cons c cs =>
    have hc : c = a := by
      have := List.head_dropWhile_not (l := s) (· != a) (by rw [hd]; simp)
      simpa [hd] using this
    rw [hd, hc] at hs
    refine ⟨cs.splitOn a, ?_⟩
    conv_lhs => rw [← hs]
    exact List.splitOn_append_cons_self_of_not_mem hnot cs

end NetworkProv.Core.CText
