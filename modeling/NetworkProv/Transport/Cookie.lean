import NetworkProv.Transport.Http

/-!
# The session cookie, by its grammar

`cookieSession` reads a Cookie header as a list of `name=value` pairs between
semicolons and spaces; `get_cookie_session` searches it for `session=` and takes
the number that `strtoul` finds there. The two differ where the search ends
inside another pair, and where `strtoul` takes what is no plain number: blanks,
a sign, trailing text and, where `unsigned long` has 32 bits, any number above
the largest. They differ, too, where the server captured a session's cookie but
had to drop another header: then the code reads none.

* `CookieReads`: what a header must look like for the two to agree.
* `getCookieSession_iff`: they agree just on those.
-/
namespace NetworkProv.Http
open Core.CText

/-! ## The grammar -/

def sessionName : Bytes := ofChars ['s', 'e', 's', 's', 'i', 'o', 'n']

/-- The value of the first header named `Cookie`, in upper or lower case. -/
def cookieHeader (headers : List HttpHeader) : Option Bytes :=
  headers.findSome? fun h =>
    match h.name, h.value with
    | some name, some value =>
      if name.chars.map lowerAscii = cookieName.map lowerAscii then some value.chars else none
    | _, _ => none

def cookiePairs (value : Bytes) : List (Bytes × Bytes) :=
  (value.splitOn 0x3b).filterMap fun s => field? (trim s)

/-- A non-empty string of digits that denotes a number of 32 bits. -/
def validId (s : Bytes) : Option UInt32 :=
  (decimal? s).bind fun n => if n ≤ UINT32_MAX then some (UInt32.ofNat n) else none

/-- The id that the first pair named `session` gives. -/
def cookieSession (value : Bytes) : Option UInt32 :=
  ((cookiePairs value).find? fun p => p.1 = sessionName).bind fun p => validId p.2

/-- What `get_cookie_session` is to return for these captured headers. -/
def ownSession (headers : List HttpHeader) : Option UInt32 := (cookieHeader headers).bind cookieSession

/-! ## Where the code agrees -/

/-- Only spaces since the last semicolon. -/
def BeginsPair (before : Bytes) : Prop :=
  ∀ c ∈ (before.rdropWhile isBlank).getLast?, c = 0x3b

instance (before : Bytes) : Decidable (BeginsPair before) :=
  Option.decidableForallMem (before.rdropWhile isBlank).getLast?

theorem beginsPair_nil : BeginsPair [] := fun _ h => by cases h

/-- The value that begins here. -/
def pairValue (rest : Bytes) : Bytes := trimEnd (rest.takeWhile (· != 0x3b))

/-- The text begins with a number, after blanks and a sign, that is this id in C. -/
def Leads (w : ULong) (s : Bytes) (id : UInt32) : Prop :=
  ∃ minus n, leading? s = some (minus, n) ∧ cValue w.bits minus n = id.toNat

/-- `session=` does not occur; or it first occurs as the name of a pair, whose value is a number
that fits, or does not begin with one that does; or it first occurs inside other text, and no number
that fits follows and the header gives no id, or by chance the number of the id it gives. -/
def CookieReads (w : ULong) (value : Bytes) : Prop :=
  match strstr sessionEq value with
  | none => True
  | some p =>
    let rest := p.drop sessionEq.length
    if BeginsPair (value.take (value.length - p.length)) then
      match decimal? (pairValue rest) with
      | some n => n ≤ UINT32_MAX ∨ w = .bits64
      | none => ∀ id, ¬ Leads w rest id
    else
      match cookieSession value with
      | some id => Leads w rest id
      | none => ∀ id, ¬ Leads w rest id

theorem toNat_le_max (id : UInt32) : id.toNat ≤ UINT32_MAX := Nat.le_of_lt_succ id.toNat_lt

theorem toNat_ofNat_max {n : Nat} (h : n ≤ UINT32_MAX) : (UInt32.ofNat n).toNat = n :=
  UInt32.toNat_ofNat_of_lt' (Nat.lt_succ_of_le h)

theorem ofNat_eq_iff {n : Nat} (h : n ≤ UINT32_MAX) (id : UInt32) : UInt32.ofNat n = id ↔ n = id.toNat := by
  constructor
  · rintro rfl
    exact (toNat_ofNat_max h).symm
  · rintro rfl
    exact UInt32.ofNat_toNat

theorem scanId_eq_some {w : ULong} {s : Bytes} {id : UInt32} : scanId w s = some id ↔ Leads w s id := by
  have hid := toNat_le_max id
  unfold scanId Leads
  rw [← strtoul_leading]
  dsimp only
  split
  · rename_i h
    simp only [reduceCtorEq, false_iff, not_and]
    intro hne he
    rcases h with h | h
    · exact hne h
    · rw [he] at h
      exact absurd hid (Nat.not_le_of_lt h)
  · rename_i h
    rw [not_or, Nat.not_lt] at h
    rw [Option.some.injEq, ofNat_eq_iff h.2]
    simp [h.1]

theorem validId_eq_some {s : Bytes} {id : UInt32} : validId s = some id ↔ decimal? s = some id.toNat := by
  unfold validId
  rw [Option.bind_eq_some_iff]
  constructor
  · rintro ⟨n, hn, h⟩
    split at h
    · rename_i hle
      rw [Option.some.injEq, ofNat_eq_iff hle] at h
      rw [hn, h]
    · cases h
  · intro h
    exact ⟨_, h, by rw [if_pos (toNat_le_max id), UInt32.ofNat_toNat]⟩

/-! ## The pairs of a header -/

theorem sessionEq_eq : sessionEq = sessionName ++ [0x3d] := by decide

/-- Text without `session=` in it has no pair of that name. -/
theorem find_session_eq_none {pieces : List Bytes} (h : ∀ s ∈ pieces, ¬ sessionEq <:+: s) :
    (pieces.filterMap fun s => field? (trim s)).find? (fun p => p.1 = sessionName) = none := by
  rw [List.find?_eq_none]
  intro p hp
  rw [List.mem_filterMap] at hp
  obtain ⟨s, hs, hf⟩ := hp
  simp only [decide_eq_true_eq]
  intro hn
  refine h s hs (List.IsInfix.trans ⟨[], p.2, ?_⟩ ( trim_infix s))
  have hsplit : trim s = p.1 ++ 0x3d :: p.2 := field?_eq_some hf
  rw [hsplit, hn, sessionEq_eq]
  simp

theorem cookieSession_eq_none {v : Bytes} (h : strstr sessionEq v = none) : cookieSession v = none := by
  rw [strstr_eq_none (by decide)] at h
  unfold cookieSession cookiePairs
  rw [find_session_eq_none fun s hs hi => h (hi.trans (infix_of_mem_splitOn hs)), Option.bind_none]

/-- A pair named `session`, up to the next `;`. -/
theorem takeWhile_session {blanks : Bytes} (hblanks : ∀ c ∈ blanks, isBlank c = true) (rest : Bytes) :
    (blanks ++ (sessionEq ++ rest)).takeWhile (· != 0x3b) =
      blanks ++ (sessionEq ++ rest.takeWhile (· != 0x3b)) := by
  rw [List.takeWhile_append_of_pos, List.takeWhile_append_of_pos]
  · exact List.all_eq_true.mp (by decide)
  · intro c hc
    have := hblanks c hc
    simp only [isBlank, beq_iff_eq] at this
    rw [this]
    decide

theorem trim_session {blanks : Bytes} (hblanks : ∀ c ∈ blanks, isBlank c = true) (rest : Bytes) :
    trim (blanks ++ (sessionEq ++ rest.takeWhile (· != 0x3b))) = sessionName ++ 0x3d :: pairValue rest := by
  have htail : trimEnd (sessionEq.tail ++ rest.takeWhile (· != 0x3b)) =
      sessionName.tail ++ 0x3d :: pairValue rest := by
    rw [show sessionEq.tail = sessionName.tail ++ [0x3d] by decide, List.append_assoc]
    exact trimEnd_append (by decide) _ _
  exact (trim_blanks hblanks (c := 0x73) (by decide) _).trans (congrArg (0x73 :: ·) htail)

/-- The pieces of a header in which a pair named `session` begins after `a`: those before it
are parts of `a`. -/
theorem splitOn_session {a blanks : Bytes} (ha : ∀ c ∈ a.getLast?, c = 0x3b)
    (hblanks : ∀ c ∈ blanks, isBlank c = true) (rest : Bytes) :
    ∃ front pieces, (a ++ (blanks ++ (sessionEq ++ rest))).splitOn 0x3b =
        front ++ (blanks ++ (sessionEq ++ rest.takeWhile (· != 0x3b))) :: pieces ∧
      ∀ s ∈ front, s <:+: a := by
  obtain ⟨pieces, hpieces⟩ := splitOn_eq_cons 0x3b (blanks ++ (sessionEq ++ rest))
  rw [takeWhile_session hblanks] at hpieces
  rcases List.eq_nil_or_concat a with rfl | ⟨a', c, rfl⟩
  · exact ⟨[], pieces, hpieces, fun s hs => by cases hs⟩
  · obtain rfl : c = 0x3b := ha c (by simp)
    rw [List.concat_eq_append]
    refine ⟨a'.splitOn 0x3b, pieces, ?_, fun s hs => ?_⟩
    · rw [List.append_assoc, List.singleton_append, List.splitOn_append_cons_self, hpieces]
    · exact (infix_of_mem_splitOn hs).trans (List.prefix_append _ _).isInfix

/-- Where `session=` first occurs as the name of a pair, the value of that pair counts. -/
theorem cookieSession_pair {before rest : Bytes} (hb : BeginsPair before)
    (hfirst : ∀ a b, before ++ sessionEq ++ rest = a ++ sessionEq ++ b → before.length ≤ a.length) :
    cookieSession (before ++ sessionEq ++ rest) = validId (pairValue rest) := by
  obtain ⟨a, blanks, hbefore, hblanks, ha⟩ : ∃ a blanks, before = a ++ blanks ∧
      (∀ c ∈ blanks, isBlank c = true) ∧ ∀ c ∈ a.getLast?, c = 0x3b :=
    ⟨_, _, (List.rdropWhile_append_rtakeWhile ..).symm, fun _ h => List.mem_rtakeWhile_imp h, hb⟩
  obtain ⟨front, pieces, hsplit, hfront⟩ := splitOn_session ha hblanks rest
  have hnone : ∀ s ∈ front, ¬ sessionEq <:+: s := by
    intro s hs hi
    obtain ⟨x, y, hxy⟩ := hi.trans (hfront s hs)
    have hle := hfirst x (y ++ blanks ++ sessionEq ++ rest) (by rw [hbefore, ← hxy]; simp)
    have hlen : a.length ≤ before.length := by rw [hbefore]; simp
    have hxlen : a.length = x.length + sessionEq.length + y.length := by rw [← hxy]; simp; omega
    have : sessionEq.length = 8 := by decide
    omega
  have hv : before ++ sessionEq ++ rest = a ++ (blanks ++ (sessionEq ++ rest)) := by
    rw [hbefore]
    simp only [List.append_assoc]
  unfold cookieSession cookiePairs
  rw [hv, hsplit, List.filterMap_append, List.find?_append, find_session_eq_none hnone, List.filterMap_cons,
    trim_session hblanks, field?_append (by decide)]
  simp

/-! ## Code and grammar -/

/-- A value of digits is the number at the start, up to the end of the pair. -/
theorem leads_digits {w : ULong} {rest : Bytes} {n : Nat} (h : decimal? (pairValue rest) = some n)
    (id : UInt32) :
    Leads w rest id ↔ (if 2 ^ w.bits ≤ n then 2 ^ w.bits - 1 else n) = id.toNat := by
  obtain ⟨blanks, hvalue, hblanks⟩ := trimEnd_rest (rest.takeWhile (· != 0x3b))
  have hrest : rest = pairValue rest ++ (blanks ++ rest.dropWhile (· != 0x3b)) := by
    rw [← List.append_assoc, pairValue, ← hvalue, List.takeWhile_append_dropWhile]
  have hpost : ∀ c ∈ (blanks ++ rest.dropWhile (· != 0x3b)).head?, isDigit c = false := by
    intro c hc
    cases blanks with
    | nil =>
      have := List.head?_dropWhile_not (· != 0x3b) rest
      rw [List.nil_append] at hc
      rw [hc] at this
      obtain rfl : c = 0x3b := by simpa using this
      decide
    | cons b bs =>
      obtain rfl : b = c := by simpa using hc
      have := hblanks b (by simp)
      simp only [isBlank, beq_iff_eq] at this
      rw [this]
      decide
  have hlead : leading? (pairValue rest ++ (blanks ++ rest.dropWhile (· != 0x3b))) = some (false, n) :=
    leading?_digits h hpost
  rw [← hrest] at hlead
  unfold Leads
  simp [hlead, cValue]

theorem pow_bits (w : ULong) : UINT32_MAX < 2 ^ w.bits := by cases w <;> decide

/-- A value of digits is read as the number it is, unless it is too large for 32 bits and
`unsigned long` has no more. -/
theorem leads_value {w : ULong} {rest : Bytes} {n : Nat} (h : decimal? (pairValue rest) = some n) :
    (∀ id, Leads w rest id ↔ validId (pairValue rest) = some id) ↔ n ≤ UINT32_MAX ∨ w = .bits64 := by
  simp only [leads_digits h, validId_eq_some, h, Option.some.injEq]
  have hpow := pow_bits w
  constructor
  · intro hall
    refine Classical.or_iff_not_imp_left.mpr fun hn => ?_
    cases w with
    | bits64 => rfl
    | bits32 =>
      have hle : 2 ^ ULong.bits32.bits ≤ n := Nat.lt_of_not_le hn
      have hmax := (hall (UInt32.ofNat UINT32_MAX)).mp (by rw [if_pos hle]; decide)
      rw [hmax] at hn
      exact absurd (toNat_le_max _) hn
  · rintro (hn | rfl) id
    · rw [if_neg (Nat.not_le_of_lt (Nat.lt_of_le_of_lt hn hpow))]
    · split
      · rename_i hle
        have h1 := toNat_le_max id
        have h2 : 2 ^ ULong.bits64.bits = 18446744073709551616 := rfl
        have h3 : UINT32_MAX = 4294967295 := rfl
        omega
      · exact Iff.rfl

/-- A text begins with one number at most. -/
theorem leads_unique {w : ULong} {s : Bytes} (own : UInt32) :
    (∀ id, Leads w s id ↔ some own = some id) ↔ Leads w s own := by
  constructor
  · exact fun h => (h own).mpr rfl
  · intro h id
    constructor
    · intro h'
      rw [← scanId_eq_some] at h h'
      exact h.symm.trans h'
    · intro heq
      rwa [← Option.some.inj heq]

/-- What `strstr` finds, cut into what stands before, `session=` and the rest. -/
theorem strstr_session {v p : Bytes} (h : strstr sessionEq v = some p) :
    ∃ before rest, v = before ++ sessionEq ++ rest ∧ v.take (v.length - p.length) = before ∧
      p.drop sessionEq.length = rest ∧
      ∀ a b, v = a ++ sessionEq ++ b → before.length ≤ a.length := by
  obtain ⟨before, rest, hv, rfl, hfirst⟩ := strstr_eq_some (by decide) h
  refine ⟨before, rest, by rw [hv, List.append_assoc], ?_, by simp, hfirst⟩
  rw [hv]
  simp

theorem readCookie_iff (w : ULong) (v : Bytes) :
    (∀ id, readCookie w v = some id ↔ cookieSession v = some id) ↔ CookieReads w v := by
  unfold readCookie CookieReads
  cases h : strstr sessionEq v with
  | none => simp [cookieSession_eq_none h]
  | some p =>
    obtain ⟨before, rest, hv, hbefore, hrest, hfirst⟩ := strstr_session h
    dsimp only
    rw [hbefore, hrest]
    simp only [scanId_eq_some]
    by_cases hb : BeginsPair before
    · have hpair : cookieSession v = validId (pairValue rest) := by
        rw [hv]
        exact cookieSession_pair hb fun a b hab => hfirst a b (hv.trans hab)
      rw [if_pos hb, hpair]
      cases hd : decimal? (pairValue rest) with
      | some n => exact leads_value hd
      | none =>
        have hnone : validId (pairValue rest) = none := by simp [validId, hd]
        simp [hnone]
    · rw [if_neg hb]
      cases hs : cookieSession v with
      | none => simp
      | some own => exact leads_unique own

theorem strIeq_iff : ∀ a b : Bytes, strIeq a b = true ↔ a.map lowerAscii = b.map lowerAscii
  | [], [] => by simp [strIeq]
  | [], _ :: _ => by simp [strIeq]
  | _ :: _, [] => by simp [strIeq]
  | a :: as, b :: bs => by
    by_cases h : lowerAscii a = lowerAscii b
    · simp [strIeq, h, strIeq_iff as bs]
    · simp [strIeq, h]

theorem findCookie_eq (w : ULong) (headers : List HttpHeader) :
    findCookie w headers = (cookieHeader headers).bind (readCookie w) := by
  unfold cookieHeader
  induction headers with
  | nil => rfl
  | cons h hs ih =>
    obtain ⟨name, value⟩ := h
    rw [findCookie, List.findSome?_cons]
    cases name with
    | none => exact ih
    | some name =>
      cases value with
      | none => exact ih
      | some value =>
        dsimp only
        by_cases hn : strIeq name.chars cookieName = true
        · rw [if_pos ((strIeq_iff _ _).mp hn)]
          simp [hn]
        · rw [if_neg fun he => hn ((strIeq_iff _ _).mpr he)]
          simpa [hn] using ih

/-- **Which cookies are read by their grammar.** For every list of captured headers, with an
`unsigned long` of 32 or of 64 bits: `get_cookie_session` returns true with an id just where the
first pair named `session` of the first Cookie header gives that id, if and only if the header
is one of those that `CookieReads` describes; or, where the headers were not all captured, it
gives no id. -/
theorem getCookieSession_iff (w : ULong) (ctx : HttpRequestCtx) :
    (∀ id, getCookieSession w ctx = some id ↔ ownSession ctx.headers = some id) ↔
      ∀ v, cookieHeader ctx.headers = some v →
        if ctx.headersStatus = .ok then CookieReads w v else cookieSession v = none := by
  unfold getCookieSession ownSession
  rw [findCookie_eq]
  by_cases hstatus : ctx.headersStatus = .ok
  · simp only [hstatus, ne_eq, not_true_eq_false, if_false, if_true]
    cases cookieHeader ctx.headers with
    | none => simp
    | some v => simpa using readCookie_iff w v
  · simp only [hstatus, ne_eq, not_false_eq_true, if_true, if_false]
    cases cookieHeader ctx.headers with
    | none => simp
    | some v =>
      simp only [reduceCtorEq, false_iff, Option.bind_some, Option.some.injEq, forall_eq']
      exact Option.eq_none_iff_forall_ne_some.symm

def cookieCtx (value : CStr) : HttpRequestCtx := ⟨[], .ok, [⟨some ⟨cookieName, by decide⟩, some value⟩]⟩

/-- A value with text after the number names the session all the same. -/
theorem trailing_text_read :
    ¬ ∀ w ctx id, getCookieSession w ctx = some id ↔ ownSession ctx.headers = some id := by
  intro h
  have h7 := (h .bits32 (cookieCtx ⟨setCookie 7 ++ [0x78], by decide⟩) 7).mp (by decide)
  exact absurd h7 (by decide)

/-- So do a sign, a blank and a longer name; and where `unsigned long` has 32 bits, numbers that
are too large name the largest id. -/
example :
    (∀ v ∈ [setCookie 7 ++ [0x78], sessionEq ++ ofChars ['+', '7'], sessionEq ++ ofChars [' ', '7'],
      [0x78] ++ setCookie 7], readCookie .bits32 v = some 7 ∧ cookieSession v = none) ∧
    readCookie .bits32 (sessionEq ++ ofChars ['4', '2', '9', '4', '9', '6', '7', '2', '9', '6']) =
      some 4294967295 := by decide

/-- A cookie captured next to a header that was dropped names nobody. -/
example : getCookieSession .bits32 { cookieCtx ⟨setCookie 7, by decide⟩ with headersStatus := .dropped } =
    none := by decide

/-- A number ends neither a pair nor at a blank. -/
theorem pairValue_decimal {ds : Bytes} {n : Nat} (h : decimal? ds = some n) : pairValue ds = ds := by
  have hdigit : ∀ c ∈ ds, isDigit c = true := List.all_eq_true.mp (decimal?_eq_some.mp h).2.1
  have hsemi : ds.takeWhile (· != 0x3b) = ds := by
    rw [List.takeWhile_eq_self_iff]
    intro c hc
    have := hdigit c hc
    simp only [bne_iff_ne, ne_eq]
    rintro rfl
    cases this
  rw [pairValue, hsemi, trimEnd, List.rdropWhile_eq_self_iff]
  intro hne hb
  have := hdigit _ (List.getLast_mem hne)
  simp only [isBlank, beq_iff_eq] at hb
  rw [hb] at this
  cases this

theorem cookieSession_setCookie (id : UInt32) : cookieSession (setCookie id) = some id := by
  have hd := decimal?_printDecimal id.toNat
  have hpair : cookieSession ([] ++ sessionEq ++ printDecimal id.toNat) =
      validId (pairValue (printDecimal id.toNat)) :=
    cookieSession_pair beginsPair_nil fun a b _ => Nat.zero_le a.length
  rw [pairValue_decimal hd] at hpair
  rw [setCookie, show sessionEq = [] ++ sessionEq from rfl, hpair, validId_eq_some]
  exact hd

/-- The cookie that the transport sets is read back. -/
theorem setCookie_read (w : ULong) (id : UInt32) :
    readCookie w (setCookie id) = some id ∧ cookieSession (setCookie id) = some id := by
  have hd := decimal?_printDecimal id.toNat
  have hspec := cookieSession_setCookie id
  have hp : strstr sessionEq (setCookie id) = some (setCookie id) := by
    have hpre : sessionEq.isPrefixOf (setCookie id) = true := by
      rw [List.isPrefixOf_iff_prefix]
      exact ⟨_, rfl⟩
    exact if_pos hpre
  have hrest : (setCookie id).drop sessionEq.length = printDecimal id.toNat := by simp [setCookie]
  have hreads : CookieReads w (setCookie id) := by
    unfold CookieReads
    rw [hp]
    dsimp only
    rw [hrest, pairValue_decimal hd, hd, Nat.sub_self, List.take_zero, if_pos beginsPair_nil]
    exact .inl (toNat_le_max id)
  exact ⟨((readCookie_iff w _).mpr hreads id).mpr hspec, hspec⟩

end NetworkProv.Http
