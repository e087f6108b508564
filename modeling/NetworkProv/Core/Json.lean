import Mathlib.Data.List.Forall2
import NetworkProv.Core.CText

/-!
# JSON texts

A reader for objects, arrays, strings and natural numbers over bytes, with blanks
wherever JSON has them; members keep the order of the text. Of the rest of JSON,
signs, fractions, exponents, `\u` escapes and the three literal names are not read.

`Renders s v`: `s` is read as `v` wherever a value may stand.

* `renders_str`, `renders_num`, `renders_arr`, `renders_obj`: how texts are put together.
* `parse_renders`: a text that renders a value is read as that value, whole.
-/
namespace NetworkProv.Core

open CText

inductive Json
  | str (s : Text)
  | num (n : Nat)
  | arr (elems : List Json)
  | obj (members : List (Text × Json))

namespace Json

variable {β : Type}

/-! ## The reader -/

/-- Blank, tab, line feed, carriage return. -/
def isWs (c : UInt8) : Bool := c == 0x20 || c == 0x09 || c == 0x0a || c == 0x0d

def skipWs (s : Text) : Text := s.dropWhile isWs

/-- What the character after a backslash stands for. -/
def escape? (c : UInt8) : Option UInt8 :=
  if c = 0x22 ∨ c = 0x5c ∨ c = 0x2f then some c
  else if c = 0x62 then some 0x08
  else if c = 0x66 then some 0x0c
  else if c = 0x6e then some 0x0a
  else if c = 0x72 then some 0x0d
  else if c = 0x74 then some 0x09
  else none

/-- The rest of a string, after its opening quote. -/
def readString : Text → Option (Text × Text)
  | [] => none
  | [c] => if c = 0x22 then some ([], []) else none
  | c :: d :: cs =>
    if c = 0x22 then some ([], d :: cs)
    else if c = 0x5c then
      (escape? d).bind fun b => (readString cs).map fun r => (b :: r.1, r.2)
    else if c < 0x20 then none
    else (readString (d :: cs)).map fun r => (c :: r.1, r.2)

/-- A number has no leading zeros. -/
def readNum (s : Text) : Option (Nat × Text) :=
  let ds := s.takeWhile isDigit
  if 1 < ds.length ∧ ds.head? = some 0x30 then none
  else (decimal? ds).map fun n => (n, s.dropWhile isDigit)

/-- After an item: the closing bracket, or a comma and more items. -/
def readMore (item : Text → Option (β × Text)) (close : UInt8) : Nat → Text → Option (List β × Text)
  | 0, _ => none
  | n + 1, s =>
    match skipWs s with
    | [] => none
    | c :: cs =>
      if c = close then some ([], cs)
      else if c = 0x2c then
        (item cs).bind fun r => (readMore item close n r.2).map fun q => (r.1 :: q.1, q.2)
      else none

/-- After an opening bracket. -/
def readSeq (item : Text → Option (β × Text)) (close : UInt8) (n : Nat) (s : Text) :
    Option (List β × Text) :=
  match skipWs s with
  | [] => none
  | c :: cs =>
    if c = close then some ([], cs)
    else (item s).bind fun r => (readMore item close n r.2).map fun q => (r.1 :: q.1, q.2)

def readMember (value : Text → Option (β × Text)) (s : Text) : Option ((Text × β) × Text) :=
  match skipWs s with
  | [] => none
  | c :: cs =>
    if c = 0x22 then
      (readString cs).bind fun k =>
        match skipWs k.2 with
        | [] => none
        | d :: ds => if d = 0x3a then (value ds).map fun r => ((k.1, r.1), r.2) else none
    else none

/-- A value, nested at most so deep, with no more items than that in a row. -/
def readValue : Nat → Text → Option (Json × Text)
  | 0, _ => none
  | n + 1, s =>
    match skipWs s with
    | [] => none
    | c :: cs =>
      if c = 0x22 then (readString cs).map fun r => (.str r.1, r.2)
      else if c = 0x5b then (readSeq (readValue n) 0x5d n cs).map fun r => (.arr r.1, r.2)
      else if c = 0x7b then
        (readSeq (readMember (readValue n)) 0x7d n cs).map fun r => (.obj r.1, r.2)
      else (readNum (c :: cs)).map fun r => (.num r.1, r.2)

/-- The text is one value. Neither its depth nor its items outnumber its characters. -/
def parse (s : Text) : Option Json :=
  (readValue s.length s).bind fun r => if skipWs r.2 = [] then some r.1 else none

/-! ## Writing -/

/-- No character of `s` needs an escape. -/
def Plain (s : Text) : Prop := ∀ c ∈ s, ¬ c < 0x20 ∧ c ≠ 0x22 ∧ c ≠ 0x5c

def quote (s : Text) : Text := 0x22 :: (s ++ [0x22])

def commaSep : List Text → Text
  | [] => []
  | t :: ts => t ++ ts.flatMap (0x2c :: ·)

def array (ts : List Text) : Text := 0x5b :: (commaSep ts ++ [0x5d])

def object (ts : List Text) : Text := 0x7b :: (commaSep ts ++ [0x7d])

def member (key value : Text) : Text := quote key ++ 0x3a :: value

/-- A number that ends before `s` goes no further. -/
def Stops (s : Text) : Prop := ∀ c ∈ s.head?, isDigit c = false

/-- `item` reads `s` as `x`, and leaves what follows. -/
def Reads (item : Text → Option (β × Text)) (s : Text) (x : β) : Prop :=
  ∀ rest, Stops rest → item (s ++ rest) = some (x, rest)

def Renders (s : Text) (v : Json) : Prop := ∀ n, s.length ≤ n → Reads (readValue n) s v

/-- The text of a member: a plain key, and a text that renders the value. -/
def RendersMember (s : Text) (m : Text × Json) : Prop :=
  ∃ t, Plain m.1 ∧ Renders t m.2 ∧ s = member m.1 t

theorem stops_nil : Stops [] := by simp [Stops]

theorem stops_cons {c : UInt8} (h : isDigit c = false) (s : Text) : Stops (c :: s) := by
  simpa [Stops] using h

theorem skipWs_cons {c : UInt8} (h : isWs c = false) (s : Text) : skipWs (c :: s) = c :: s := by
  rw [skipWs, List.dropWhile_cons_of_neg (by simp [h])]

theorem length_quote (s : Text) : (quote s).length = s.length + 2 := by simp [quote]

/-! ## Strings and numbers -/

theorem readString_quote {s : Text} (h : Plain s) (rest : Text) :
    readString (s ++ 0x22 :: rest) = some (s, rest) := by
  induction s with
  | nil => cases rest <;> simp [readString]
  | cons c s ih =>
    obtain ⟨h1, h2, h3⟩ := h c (by simp)
    have htail := ih fun d hd => h d (List.mem_cons_of_mem c hd)
    obtain ⟨d, cs, hcs⟩ : ∃ d cs, s ++ 0x22 :: rest = d :: cs := by
      cases s <;> simp
    rw [List.cons_append, hcs]
    rw [hcs] at htail
    simp [readString, h1, h2, h3, htail]

theorem renders_str {s : Text} (h : Plain s) : Renders (quote s) (.str s) := by
  intro n hn rest _
  obtain ⟨n, rfl⟩ : ∃ m, n = m + 1 := ⟨n - 1, by rw [length_quote] at hn; omega⟩
  have hq : quote s ++ rest = 0x22 :: (s ++ 0x22 :: rest) := by simp [quote]
  rw [hq, readValue, skipWs_cons (by decide)]
  simp [readString_quote h]

/-- A digit begins neither a blank, a string, an array nor an object. -/
theorem isDigit_ne {c : UInt8} (h : isDigit c = true) {d : UInt8} (hd : isDigit d = false) : c ≠ d := by
  intro he
  rw [he, hd] at h
  cases h

theorem not_isWs_of_isDigit {c : UInt8} (h : isDigit c = true) : isWs c = false := by
  have hne : ∀ d, isDigit d = false → c ≠ d := fun d => isDigit_ne h
  simp [isWs, hne 0x20 (by decide), hne 0x09 (by decide), hne 0x0a (by decide), hne 0x0d (by decide)]

theorem renders_num {ds : Text} {n : Nat} (h : decimal? ds = some n)
    (hz : ¬ (1 < ds.length ∧ ds.head? = some 0x30)) : Renders ds (.num n) := by
  obtain ⟨hne, hall, -⟩ := decimal?_eq_some.mp h
  intro m hm rest hrest
  obtain ⟨htake, hdrop⟩ := span_digits hall hrest
  have hnum : readNum (ds ++ rest) = some (n, rest) := by
    rw [readNum, htake, hdrop, if_neg hz, h]
    rfl
  cases ds with
  | nil => exact absurd rfl hne
  | cons c cs =>
    obtain ⟨m, rfl⟩ : ∃ k, m = k + 1 := ⟨m - 1, by simp at hm; omega⟩
    have hc : isDigit c = true := List.all_eq_true.mp hall c (by simp)
    rw [List.cons_append] at hnum ⊢
    rw [readValue, skipWs_cons (not_isWs_of_isDigit hc)]
    dsimp only
    rw [if_neg (isDigit_ne hc (by decide)), if_neg (isDigit_ne hc (by decide)),
      if_neg (isDigit_ne hc (by decide)), hnum]
    rfl

/-! ## Sequences -/

/-- What begins an item is not `close`. -/
def Opens (item : Text → Option (β × Text)) (close : UInt8) : Prop :=
  ∀ s x, item s = some x → ∃ c cs, skipWs s = c :: cs ∧ c ≠ close

theorem opens_value (n : Nat) {close : UInt8} (hc : close = 0x5d ∨ close = 0x7d) :
    Opens (readValue n) close := by
  intro s x h
  cases n with
  | zero => cases h
  | succ n =>
    rw [readValue] at h
    split at h
    · cases h
    · rename_i c cs hs
      refine ⟨c, cs, hs, ?_⟩
      intro he
      have hd : isDigit close = false := by
        rcases hc with rfl | rfl <;> decide
      rw [he] at h
      have hnum : readNum (close :: cs) = none := by
        simp [readNum, hd, decimal?]
      rcases hc with rfl | rfl <;> simp [hnum] at h

theorem opens_member (value : Text → Option (β × Text)) : Opens (readMember value) 0x7d := by
  intro s x h
  rw [readMember] at h
  split at h
  · cases h
  · rename_i c cs hs
    refine ⟨c, cs, hs, ?_⟩
    intro he
    rw [he] at h
    simp at h

theorem commaSep_cons (t : Text) (ts : List Text) : commaSep (t :: ts) = t ++ ts.flatMap (0x2c :: ·) := rfl

section Seq

variable {item : Text → Option (β × Text)} {close : UInt8}

theorem readMore_reads (hw : isWs close = false) (hd : isDigit close = false) (hcomma : close ≠ 0x2c) :
    ∀ {ts : List Text} {xs : List β}, List.Forall₂ (Reads item) ts xs → ∀ n, ts.length < n → ∀ rest,
      readMore item close n (ts.flatMap (0x2c :: ·) ++ close :: rest) = some (xs, rest) := by
  intro ts xs h
  induction h with
  | nil =>
    intro n hn rest
    obtain ⟨n, rfl⟩ : ∃ m, n = m + 1 := ⟨n - 1, by omega⟩
    rw [List.flatMap_nil, List.nil_append, readMore, skipWs_cons hw]
    simp
  | @cons t x ts xs ht _ ih =>
    intro n hn rest
    obtain ⟨n, rfl⟩ : ∃ m, n = m + 1 := ⟨n - 1, by omega⟩
    have hstop : Stops (ts.flatMap (0x2c :: ·) ++ close :: rest) := by
      cases ts with
      | nil => exact stops_cons hd rest
      | cons u us => exact stops_cons (by decide) _
    have hmore := ih n (by simpa using hn) rest
    rw [List.flatMap_cons, List.append_assoc, List.cons_append, readMore, skipWs_cons (by decide)]
    dsimp only
    rw [if_neg (Ne.symm hcomma), if_pos rfl, ht _ hstop, Option.bind_some, hmore]
    rfl

theorem readSeq_reads (close : UInt8) (hw : isWs close = false) (hd : isDigit close = false) (hcomma : close ≠ 0x2c)
    (hopen : Opens item close) {ts : List Text} {xs : List β} (h : List.Forall₂ (Reads item) ts xs)
    {n : Nat} (hn : ts.length ≤ n) (rest : Text) :
    readSeq item close n (commaSep ts ++ close :: rest) = some (xs, rest) := by
  cases h with
  | nil =>
    rw [commaSep, List.nil_append, readSeq, skipWs_cons hw]
    simp
  | @cons t x ts xs ht hts =>
    have hmore := readMore_reads hw hd hcomma hts n (by simp at hn; omega) rest
    have hstop : Stops (ts.flatMap (0x2c :: ·) ++ close :: rest) := by
      cases ts with
      | nil => exact stops_cons hd rest
      | cons u us => exact stops_cons (by decide) _
    rw [commaSep_cons, List.append_assoc]
    have hitem := ht _ hstop
    obtain ⟨c, cs, hs, hne⟩ := hopen _ _ hitem
    rw [readSeq, hs]
    dsimp only
    rw [if_neg hne, hitem, Option.bind_some, hmore]
    rfl

end Seq

/-! ## Arrays and objects -/

theorem length_le_commaSep {t : Text} {ts : List Text} (h : t ∈ ts) : t.length ≤ (commaSep ts).length := by
  cases ts with
  | nil => cases h
  | cons u us =>
    rw [commaSep_cons, List.length_append]
    rcases List.mem_cons.mp h with rfl | hm
    · omega
    · have hsub : (0x2c :: t).length ≤ (us.flatMap (0x2c :: ·)).length :=
        (List.sublist_flatten_of_mem (List.mem_map_of_mem (f := (0x2c :: ·)) hm)).length_le
      simp only [List.length_cons] at hsub
      omega

/-- With a comma before each item but the first. -/
theorem items_le_commaSep (ts : List Text) : ts.length ≤ (commaSep ts).length + 1 := by
  have hle : ∀ us : List Text, us.length ≤ (us.flatMap (0x2c :: ·)).length := by
    intro us
    induction us with
    | nil => simp
    | cons u us ih =>
      simp only [List.flatMap_cons, List.length_cons, List.length_append]
      omega
  cases ts with
  | nil => simp
  | cons t ts =>
    have := hle ts
    rw [commaSep_cons, List.length_append, List.length_cons]
    omega

theorem renders_arr {ts : List Text} {vs : List Json} (h : List.Forall₂ Renders ts vs) :
    Renders (array ts) (.arr vs) := by
  intro n hn rest _
  have hlen : (array ts).length = (commaSep ts).length + 2 := by simp [array]
  obtain ⟨n, rfl⟩ : ∃ m, n = m + 1 := ⟨n - 1, by omega⟩
  have hitems : List.Forall₂ (Reads (readValue n)) ts vs := by
    have hmem : ∀ t ∈ ts, t.length ≤ n := by
      intro t ht
      have := length_le_commaSep ht
      omega
    exact ((List.forall₂_and_left _ _).mpr ⟨hmem, h⟩).imp fun t v ht => ht.2 n ht.1
  have hcount := items_le_commaSep ts
  have hseq := readSeq_reads 0x5d (by decide) (by decide) (by decide)
    (opens_value n (.inl rfl)) hitems (n := n) (by omega) rest
  have htext : array ts ++ rest = 0x5b :: (commaSep ts ++ 0x5d :: rest) := by simp [array]
  rw [htext, readValue, skipWs_cons (by decide)]
  simp [hseq]

theorem reads_member {s : Text} {m : Text × Json} (h : RendersMember s m) {n : Nat} (hn : s.length ≤ n) :
    Reads (readMember (readValue n)) s m := by
  obtain ⟨t, hplain, ht, rfl⟩ := h
  intro rest hrest
  have hlen : t.length ≤ n := by
    simp [member, quote] at hn
    omega
  have htext : member m.1 t ++ rest = 0x22 :: (m.1 ++ 0x22 :: 0x3a :: (t ++ rest)) := by
    simp [member, quote]
  rw [htext, readMember, skipWs_cons (by decide)]
  dsimp only
  rw [if_pos rfl, readString_quote hplain, Option.bind_some]
  dsimp only
  rw [skipWs_cons (by decide)]
  simp [ht n hlen rest hrest]

theorem renders_obj {ts : List Text} {ms : List (Text × Json)} (h : List.Forall₂ RendersMember ts ms) :
    Renders (object ts) (.obj ms) := by
  intro n hn rest _
  have hlen : (object ts).length = (commaSep ts).length + 2 := by simp [object]
  obtain ⟨n, rfl⟩ : ∃ m, n = m + 1 := ⟨n - 1, by omega⟩
  have hitems : List.Forall₂ (Reads (readMember (readValue n))) ts ms := by
    have hmem : ∀ t ∈ ts, t.length ≤ n := by
      intro t ht
      have := length_le_commaSep ht
      omega
    exact ((List.forall₂_and_left _ _).mpr ⟨hmem, h⟩).imp fun t m ht => reads_member ht.2 ht.1
  have hcount := items_le_commaSep ts
  have hseq := readSeq_reads 0x7d (by decide) (by decide) (by decide)
    (opens_member _) hitems (n := n) (by omega) rest
  have htext : object ts ++ rest = 0x7b :: (commaSep ts ++ 0x7d :: rest) := by simp [object]
  rw [htext, readValue, skipWs_cons (by decide)]
  simp [hseq]

theorem parse_renders {s : Text} {v : Json} (h : Renders s v) : parse s = some v := by
  have hread := h s.length (Nat.le_refl _) [] stops_nil
  rw [List.append_nil] at hread
  rw [parse, hread]
  rfl

end Json

end NetworkProv.Core
