import NetworkProv.Transport.Http
import NetworkProv.Transport.Schemes

/-!
# The console transport (`src/protocomm_console.c`)

`net_prov <endpoint> <session_id> <hex>`: a change of the session number opens
a fresh protocomm session. The platform's hex conversions are a `HexUtil`.

* `sessionOf_eq`: which tokens are accepted as a session number.
* `Disguised`: the accepted tokens that are no decimal number.
* `cmdNetProv_iff`: the command keeps to decimal numbers just where the token is
  none of those.
-/
namespace NetworkProv.Console
open Core.CText Protocomm Http

variable {σ C W : Type}

/-- Zephyr's conversions: the bytes that `hex2bin` has converted, none if it
refuses the text, and what `bin2hex` writes. -/
structure HexUtil where
  hex2bin : Bytes → Bytes
  bin2hex : Bytes → Bytes

def isHexDigit (c : UInt8) : Bool := isDigit c || (0x41 ≤ c && c ≤ 0x46) || (0x61 ≤ c && c ≤ 0x66)

/-- `hex2bin` converts nothing if there is anything but a hex digit. -/
def HexUtil.Strict (u : HexUtil) : Prop := ∀ s, ¬ s.all isHexDigit = true → u.hex2bin s = []

/-- The transport's variables and the instance it serves. -/
structure ConsoleDev (σ C W : Type) where
  con : Transport.Console
  sess : Session σ C W

structure ConsoleEnv where
  inAlloc : Bool
  hexAlloc : Bool
  openSession : Env
  req : ReqEnv

structure ConsoleCmd where
  ep : CStr
  sessionId : CStr
  hex : CStr
  env : ConsoleEnv

/-- A line printed: a message, with its arguments, or a response. -/
inductive ShellLine
  | notStarted
  | badSessionId (token : CStr)
  | oddHex
  | outOfMemory
  | badHex
  | endpointFailed (ep : CStr) (ret : Int)
  | response (hex : Bytes)
  deriving DecidableEq

/-- A call of `protocomm_req_handle`, with the session number it was made for. -/
structure ConsoleCall where
  session : Nat
  ep : CStr
  inbuf : Bytes
  reply : Reply
  deriving DecidableEq

structure CmdOut where
  ret : Int
  line : ShellLine
  call : Option ConsoleCall
  deriving DecidableEq

def CmdOut.refused (ret : Int) (line : ShellLine) : CmdOut := ⟨ret, line, none⟩

/-- mirrors src/protocomm_console.c:85-97 -/
def sessionOf (w : ULong) (token : Bytes) : Option Nat :=
  let parsed := strtoul w.bits token
  if token = [] ∨ parsed.rest ≠ [] ∨ parsed.erange = true ∨ parsed.value > UINT32_MAX then none
  else some parsed.value

/-- mirrors src/protocomm_console.c:122-126 -/
def useSession (e : Env) (session : Nat) (c : ConsoleDev σ C W) : ConsoleDev σ C W :=
  if !c.con.haveSession ∨ session ≠ c.con.curSession then
    ⟨{ c.con with curSession := session, haveSession := true }, protocommOpenSession e c.sess⟩
  else c

/-- mirrors src/protocomm_console.c:128-152 -/
def runCmd (u : HexUtil) (a : ConsoleCmd) (session : Nat) (inbuf : Bytes) (c : ConsoleDev σ C W) :
    ConsoleDev σ C W × CmdOut :=
  match protocommReqHandle a.env.req c.sess (some a.ep) inbuf with
  | (s, r) =>
    let c := { c with sess := s }
    let call := some ⟨session, a.ep, inbuf, r⟩
    if r.ret ≠ 0 then (c, ⟨-ENOEXEC, .endpointFailed a.ep r.ret, call⟩)
    else if !a.env.hexAlloc then (c, ⟨-ENOMEM, .outOfMemory, call⟩)
    else (c, ⟨0, .response (u.bin2hex r.out), call⟩)

/-- mirrors src/protocomm_console.c:73-153 -/
def cmdNetProv (u : HexUtil) (w : ULong) (a : ConsoleCmd) (c : ConsoleDev σ C W) :
    ConsoleDev σ C W × CmdOut :=
  if c.con.gPc = none then (c, .refused (-ENOEXEC) .notStarted)
  else match sessionOf w a.sessionId.chars with
  | none => (c, .refused (-EINVAL) (.badSessionId a.sessionId))
  | some session =>
    let hexlen := a.hex.chars.length
    if hexlen % 2 ≠ 0 then (c, .refused (-EINVAL) .oddHex)
    else
      let inlen := hexlen / 2
      if !a.env.inAlloc then (c, .refused (-ENOMEM) .outOfMemory)
      else if inlen > 0 ∧ (u.hex2bin a.hex.chars).length ≠ inlen then (c, .refused (-EINVAL) .badHex)
      else
        let inbuf := if inlen > 0 then u.hex2bin a.hex.chars else []
        runCmd u a session inbuf (useSession a.env.openSession session c)

/-! ## The tokens accepted -/

/-- The number, with the sign of the numeral, is one of 32 bits to `strtoul`. -/
def Fits (w : ULong) (minus : Bool) (n : Nat) : Prop :=
  n < 2 ^ w.bits ∧ (if minus then (2 ^ w.bits - n) % 2 ^ w.bits else n) ≤ UINT32_MAX

instance (w : ULong) (minus : Bool) (n : Nat) : Decidable (Fits w minus n) :=
  inferInstanceAs (Decidable (_ ∧ _))

/-- Blanks or a sign in front of digits whose number fits. -/
def Disguised (w : ULong) (token : Bytes) : Prop :=
  (numeral token).2 ≠ token ∧ ∃ n, decimal? (numeral token).2 = some n ∧ Fits w (numeral token).1 n

/-- A token is accepted as what `strtoul` makes of it, if that is all of it and fits. -/
theorem sessionOf_eq (w : ULong) (token : Bytes) (v : Nat) :
    sessionOf w token = some v ↔ ∃ n, decimal? (numeral token).2 = some n ∧ Fits w (numeral token).1 n ∧
      v = if (numeral token).1 then (2 ^ w.bits - n) % 2 ^ w.bits else n := by
  by_cases ht : token = []
  · subst ht
    simp [sessionOf, numeral, signed, decimal?]
  cases hd : decimal? (numeral token).2 with
  | none =>
    have hrest : (strtoul w.bits token).rest ≠ [] := by
      rw [ne_eq, strtoul_rest_nil ht, hd]
      simp
    simp [sessionOf, hrest]
  | some n =>
    unfold sessionOf Fits
    rw [strtoul_decimal hd]
    simp only [Option.some.injEq]
    by_cases hn : 2 ^ w.bits ≤ n
    · rw [if_pos hn]
      simp only [ht, ne_eq, not_true_eq_false, true_or, or_true, if_true, reduceCtorEq, false_iff]
      rintro ⟨m, rfl, ⟨hlt, -⟩, -⟩
      omega
    · rw [if_neg hn]
      by_cases hmax : (if (numeral token).1 then (2 ^ w.bits - n) % 2 ^ w.bits else n) ≤ UINT32_MAX
      · rw [if_neg (by simp [ht, hmax])]
        constructor
        · intro h
          exact ⟨n, rfl, ⟨Nat.lt_of_not_le hn, hmax⟩, (Option.some.inj h).symm⟩
        · rintro ⟨m, rfl, -, rfl⟩
          rfl
      · rw [if_pos (.inr (.inr (.inr (Nat.lt_of_not_le hmax))))]
        simp only [reduceCtorEq, false_iff]
        rintro ⟨m, rfl, ⟨-, hle⟩, -⟩
        exact hmax hle

/-- The token is read as the decimal number of 32 bits that it is, or refused. -/
def TokenExact (w : ULong) (token : Bytes) : Prop :=
  ∀ v, sessionOf w token = some v ↔ decimal? token = some v ∧ v ≤ UINT32_MAX

theorem tokenExact_iff (w : ULong) (token : Bytes) : TokenExact w token ↔ ¬ Disguised w token := by
  unfold TokenExact Disguised
  simp only [sessionOf_eq]
  by_cases hself : (numeral token).2 = token
  · -- neither blanks nor a sign
    have hpow : UINT32_MAX < 2 ^ w.bits := by cases w <;> decide
    rw [hself, numeral_eq_self hself]
    simp only [Fits, ne_eq, not_true_eq_false, false_and, not_false_eq_true, iff_true]
    intro v
    constructor
    · rintro ⟨n, hn, ⟨-, hmax⟩, rfl⟩
      exact ⟨hn, hmax⟩
    · rintro ⟨hv, hmax⟩
      exact ⟨v, hv, ⟨Nat.lt_of_le_of_lt hmax hpow, hmax⟩, rfl⟩
  · have hnone (v : Nat) : decimal? token ≠ some v := fun h => hself (by rw [numeral_decimal h])
    constructor
    · rintro h ⟨-, n, hn, hfits⟩
      exact hnone _ ((h _).mp ⟨n, hn, hfits, rfl⟩).1
    · rintro h v
      constructor
      · rintro ⟨n, hn, hfits, -⟩
        exact absurd ⟨hself, n, hn, hfits⟩ h
      · rintro ⟨hv, -⟩
        exact absurd hv (hnone v)

/-! ## The command -/

/-- The data can be converted. -/
def HexOk (u : HexUtil) (hex : Bytes) : Prop :=
  hex.length % 2 = 0 ∧ (hex = [] ∨ (u.hex2bin hex).length = hex.length / 2)

theorem cmdNetProv_cases (u : HexUtil) (w : ULong) (a : ConsoleCmd) (c : ConsoleDev σ C W) :
    (c.con.gPc = none ∧ cmdNetProv u w a c = (c, .refused (-ENOEXEC) .notStarted)) ∨
    (c.con.gPc ≠ none ∧ sessionOf w a.sessionId.chars = none ∧
      cmdNetProv u w a c = (c, .refused (-EINVAL) (.badSessionId a.sessionId))) ∨
    (c.con.gPc ≠ none ∧ (sessionOf w a.sessionId.chars).isSome ∧ ∃ ret line,
      line ≠ .badSessionId a.sessionId ∧ cmdNetProv u w a c = (c, .refused ret line)) ∨
    (c.con.gPc ≠ none ∧ HexOk u a.hex.chars ∧ ∃ session inbuf, sessionOf w a.sessionId.chars = some session ∧
      cmdNetProv u w a c = runCmd u a session inbuf (useSession a.env.openSession session c)) := by
  unfold cmdNetProv
  split
  · rename_i hs
    exact .inl ⟨hs, rfl⟩
  rename_i hs
  cases hid : sessionOf w a.sessionId.chars with
  | none => exact .inr (.inl ⟨hs, rfl, rfl⟩)
  | some session =>
    dsimp only
    split
    · exact .inr (.inr (.inl ⟨hs, rfl, _, _, by simp, rfl⟩))
    rename_i heven
    split
    · exact .inr (.inr (.inl ⟨hs, rfl, _, _, by simp, rfl⟩))
    split
    · exact .inr (.inr (.inl ⟨hs, rfl, _, _, by simp, rfl⟩))
    rename_i hhex
    refine .inr (.inr (.inr ⟨hs, ⟨by omega, ?_⟩, session, _, rfl, rfl⟩))
    by_cases hlen : a.hex.chars.length / 2 > 0
    · exact .inr (not_not.mp fun h => hhex ⟨hlen, h⟩)
    · refine .inl (List.eq_nil_of_length_eq_zero ?_)
      omega

/-- What a request of the command comes to. -/
theorem runCmd_cases (u : HexUtil) (a : ConsoleCmd) (session : Nat) (inbuf : Bytes) (c : ConsoleDev σ C W) :
    ∃ s' r ret line, protocommReqHandle a.env.req c.sess (some a.ep) inbuf = (s', r) ∧
      (∀ tok, line ≠ .badSessionId tok) ∧ line ≠ .oddHex ∧ line ≠ .badHex ∧
      runCmd u a session inbuf c = (⟨c.con, s'⟩, ⟨ret, line, some ⟨session, a.ep, inbuf, r⟩⟩) := by
  generalize hr : protocommReqHandle a.env.req c.sess (some a.ep) inbuf = q
  obtain ⟨s', r⟩ := q
  unfold runCmd
  rw [hr]
  dsimp only
  split
  · exact ⟨s', r, _, _, rfl, by simp, by simp, by simp, rfl⟩
  split <;> exact ⟨s', r, _, _, rfl, by simp, by simp, by simp, rfl⟩

/-- The session of the transport's number if it is `n`, else a fresh one. -/
def sessionFor (e : Env) (n : Nat) (c : ConsoleDev σ C W) : Session σ C W :=
  if c.con.haveSession = true ∧ c.con.curSession = n then c.sess else protocommOpenSession e c.sess

theorem useSession_eq (e : Env) (n : Nat) (c : ConsoleDev σ C W) :
    useSession e n c = ⟨{ c.con with curSession := n, haveSession := true }, sessionFor e n c⟩ := by
  unfold useSession sessionFor
  by_cases h : c.con.haveSession = true ∧ c.con.curSession = n
  · rw [if_pos h, if_neg (by simp [h.1, h.2])]
    obtain ⟨⟨g, n', b⟩, s⟩ := c
    obtain ⟨rfl, rfl⟩ := h
    rfl
  · rw [if_neg h, if_pos]
    by_cases hb : c.con.haveSession = true
    · exact .inr fun he => h ⟨hb, he.symm⟩
    · exact .inl (by simpa using hb)

/-- What is claimed of one command. -/
structure CommandExact (w : ULong) (a : ConsoleCmd) (c c' : ConsoleDev σ C W) (o : CmdOut) : Prop where
  /-- The token is refused unless it is a decimal number of 32 bits. -/
  token : c.con.gPc ≠ none → (o.line = .badSessionId a.sessionId ↔
    ¬ ∃ n, decimal? a.sessionId.chars = some n ∧ n ≤ UINT32_MAX)
  /-- A request runs in the session of that number. -/
  session : ∀ q, o.call = some q → decimal? a.sessionId.chars = some q.session ∧
    c'.con = { c.con with curSession := q.session, haveSession := true } ∧
    protocommReqHandle a.env.req (sessionFor a.env.openSession q.session c) (some q.ep) q.inbuf =
      (c'.sess, q.reply)
  /-- A command refused for its token or its data changes nothing. -/
  refused : o.line = .badSessionId a.sessionId ∨ o.line = .oddHex ∨ o.line = .badHex → c' = c
  /-- Data that are no pairs of hex digits are refused. -/
  data : a.hex.chars.length % 2 ≠ 0 ∨ ¬ a.hex.chars.all isHexDigit = true → o.call = none ∧ c' = c

theorem hexOk_strict {u : HexUtil} (hu : u.Strict) {hex : Bytes} (h : HexOk u hex) :
    hex.length % 2 = 0 ∧ hex.all isHexDigit = true := by
  refine ⟨h.1, ?_⟩
  by_contra hnot
  rcases h.2 with rfl | hlen
  · exact hnot rfl
  · rw [hu hex hnot] at hlen
    have hne : hex ≠ [] := by rintro rfl; exact hnot rfl
    have := List.length_pos_iff.mpr hne
    have := h.1
    simp only [List.length_nil] at hlen
    omega

/-- Once started, the token is refused just if it gives no session. -/
theorem badSessionId_iff (u : HexUtil) (w : ULong) (a : ConsoleCmd) (c : ConsoleDev σ C W)
    (hs : c.con.gPc ≠ none) :
    (cmdNetProv u w a c).2.line = .badSessionId a.sessionId ↔ sessionOf w a.sessionId.chars = none := by
  rcases cmdNetProv_cases u w a c with ⟨h, -⟩ | ⟨-, hnone, heq⟩ | ⟨-, hsome, ret, line, hline, heq⟩ |
      ⟨-, -, session, inbuf, hsome, heq⟩
  · exact absurd h hs
  · simp [heq, hnone, CmdOut.refused]
  · rw [heq]
    simp only [CmdOut.refused, hline, false_iff]
    rintro h
    rw [h] at hsome
    cases hsome
  · obtain ⟨s', r, ret, line, -, hline, -, -, hrun⟩ :=
      runCmd_cases u a session inbuf (useSession a.env.openSession session c)
    rw [heq, hrun, hsome]
    simpa using hline a.sessionId

theorem tokenExact_none {w : ULong} {token : Bytes} (h : TokenExact w token) :
    sessionOf w token = none ↔ ¬ ∃ n, decimal? token = some n ∧ n ≤ UINT32_MAX := by
  rw [Option.eq_none_iff_forall_ne_some]
  constructor
  · rintro hnone ⟨n, hn⟩
    exact hnone n ((h n).mpr hn)
  · rintro hnot v hv
    exact hnot ⟨v, (h v).mp hv⟩

theorem commandExact_of_tokenExact {u : HexUtil} (hu : u.Strict) {w : ULong} {a : ConsoleCmd}
    {c : ConsoleDev σ C W} (h : TokenExact w a.sessionId.chars) :
    CommandExact w a c (cmdNetProv u w a c).1 (cmdNetProv u w a c).2 := by
  have htoken (hs : c.con.gPc ≠ none) : (cmdNetProv u w a c).2.line = .badSessionId a.sessionId ↔
      ¬ ∃ n, decimal? a.sessionId.chars = some n ∧ n ≤ UINT32_MAX :=
    (badSessionId_iff u w a c hs).trans (tokenExact_none h)
  rcases cmdNetProv_cases u w a c with ⟨-, heq⟩ | ⟨-, -, heq⟩ | ⟨-, -, ret, line, -, heq⟩ |
      ⟨-, hhex, session, inbuf, hsome, heq⟩
  · exact ⟨htoken, by simp [heq, CmdOut.refused], by simp [heq], by simp [heq, CmdOut.refused]⟩
  · exact ⟨htoken, by simp [heq, CmdOut.refused], by simp [heq], by simp [heq, CmdOut.refused]⟩
  · exact ⟨htoken, by simp [heq, CmdOut.refused], by simp [heq], by simp [heq, CmdOut.refused]⟩
  · obtain ⟨s', r, ret, line, hreq, hline, hodd, hbad, hrun⟩ :=
      runCmd_cases u a session inbuf (useSession a.env.openSession session c)
    rw [useSession_eq] at hreq hrun
    rw [heq, useSession_eq, hrun] at htoken ⊢
    refine ⟨htoken, ?_, ?_, ?_⟩
    · rintro q hq
      cases hq
      exact ⟨((h session).mp hsome).1, rfl, hreq⟩
    · rintro (hl | hl | hl)
      · exact absurd hl (hline _)
      · exact absurd hl hodd
      · exact absurd hl hbad
    · obtain ⟨heven, hall⟩ := hexOk_strict hu hhex
      rintro (hl | hl)
      · exact absurd heven hl
      · exact absurd hall hl

/-- **Which commands keep to the number of their token.** For every command line, every state of
the transport, with an `unsigned long` of 32 or of 64 bits, and a `hex2bin` that refuses what is no
hex digit: the token is accepted exactly as the decimal number of 32 bits that it is, the request
runs in the session of that number, and a command refused for its token or its data changes
nothing, if and only if the transport is not started or the token is not a number in disguise. -/
theorem cmdNetProv_iff (u : HexUtil) (hu : u.Strict) (w : ULong) (a : ConsoleCmd) (c : ConsoleDev σ C W) :
    CommandExact w a c (cmdNetProv u w a c).1 (cmdNetProv u w a c).2 ↔
      c.con.gPc = none ∨ ¬ Disguised w a.sessionId.chars := by
  constructor
  · intro h
    refine Classical.or_iff_not_imp_left.mpr fun hs hd => ?_
    obtain ⟨hself, n, hn, hfits⟩ := hd
    -- it is accepted, so it would have to be a number
    have hsome : sessionOf w a.sessionId.chars ≠ none := by
      rw [(sessionOf_eq w _ _).mpr ⟨n, hn, hfits, rfl⟩]
      simp
    have hline := mt (badSessionId_iff u w a c hs).mp hsome
    rw [h.token hs, not_not] at hline
    obtain ⟨m, hm, -⟩ := hline
    exact hself (by rw [numeral_decimal hm])
  · rintro (hs | hd)
    · rcases cmdNetProv_cases u w a c with ⟨-, heq⟩ | ⟨hne, -⟩ | ⟨hne, -⟩ | ⟨hne, -⟩
      · exact ⟨fun hne => absurd hs hne, by simp [heq, CmdOut.refused], by simp [heq],
          by simp [heq, CmdOut.refused]⟩
      all_goals exact absurd hs hne
    · exact commandExact_of_tokenExact hu ((tokenExact_iff w _).mpr hd)

/-- Two tokens that are no numbers in disguise share a session only if they are the same number. -/
theorem session_shared {w : ULong} {token token' : Bytes} {n : Nat} (h : ¬ Disguised w token)
    (h' : ¬ Disguised w token') (hn : sessionOf w token = some n) (hn' : sessionOf w token' = some n) :
    decimal? token = some n ∧ decimal? token' = some n :=
  ⟨(((tokenExact_iff w token).mpr h n).mp hn).1, (((tokenExact_iff w token').mpr h' n).mp hn').1⟩

/-! ## A console -/

def hexValue (c : UInt8) : UInt8 := if isDigit c then c - 0x30 else if 0x61 ≤ c then c - 0x57 else c - 0x37

def hexPairs : Bytes → Bytes
  | a :: b :: s => (hexValue a * 16 + hexValue b) :: hexPairs s
  | _ => []

def hexChar (n : UInt8) : UInt8 := if n < 10 then n + 0x30 else n + 0x57

def testHex : HexUtil where
  hex2bin s := if s.all isHexDigit then hexPairs (if s.length % 2 = 0 then s else 0x30 :: s) else []
  bin2hex b := b.flatMap fun c => [hexChar (c / 16), hexChar (c % 16)]

theorem testHex_strict : testHex.Strict := fun _ h => if_neg h

def testConsole : ConsoleDev Unit Unit Unit := ⟨⟨some 0, 0, false⟩, versionDevice⟩

/-- `net_prov proto-ver <token> 01ff` -/
def testCmd (token : CStr) : ConsoleCmd :=
  ⟨versionEp, token, ⟨ofChars ['0', '1', 'f', 'f'], by decide⟩,
    true, true, .good [] (Buf.zero 16), .good (.good [] (Buf.zero 16))⟩

theorem cmdNetProv_iff_test :
    (cmdNetProv testHex .bits64 (testCmd ⟨ofChars ['7'], by decide⟩) testConsole).2.call.map
      (fun q => (q.session, q.inbuf)) = some (7, [0x01, 0xff]) ∧
    CommandExact .bits64 (testCmd ⟨ofChars ['7'], by decide⟩) testConsole
      (cmdNetProv testHex .bits64 (testCmd ⟨ofChars ['7'], by decide⟩) testConsole).1
      (cmdNetProv testHex .bits64 (testCmd ⟨ofChars ['7'], by decide⟩) testConsole).2 :=
  ⟨by decide, (cmdNetProv_iff testHex testHex_strict .bits64 _ testConsole).mpr
    (.inr fun h => h.1 (by decide))⟩

/-- `+7` is session 7. -/
theorem signed_token_accepted :
    ¬ CommandExact .bits64 (testCmd ⟨ofChars ['+', '7'], by decide⟩) testConsole
      (cmdNetProv testHex .bits64 (testCmd ⟨ofChars ['+', '7'], by decide⟩) testConsole).1
      (cmdNetProv testHex .bits64 (testCmd ⟨ofChars ['+', '7'], by decide⟩) testConsole).2 := by
  intro h
  have hnot := (h.token (by decide)).not.mp (by decide)
  exact hnot fun hn => by
    obtain ⟨n, hn, -⟩ := hn
    exact absurd hn (by simp [testCmd, show decimal? (ofChars ['+', '7']) = none by decide])

/-- So is a blank and 7; and where `unsigned long` has 32 bits, `-1` is the largest session. -/
example : sessionOf .bits64 (ofChars [' ', '7']) = some 7 ∧
    sessionOf .bits32 (ofChars ['-', '1']) = some 4294967295 ∧
    sessionOf .bits32 (ofChars ['4', '2', '9', '4', '9', '6', '7', '2', '9', '6']) = none := by decide

end NetworkProv.Console
