import NetworkProv.Security.Seen
import NetworkProv.Transport.Console

/-!
# What the commands of a console come to

* `console_refines`: a sequence of commands is a run of protocomm, one request for each
  command that is not refused.
* `console_verified`: with security 1, bytes reach a handler only under the number of a
  session in which a Command1 was verified, under the same number.
-/
namespace NetworkProv.Console
open NetworkProv.Core Core.CText Core.Machine Protocomm Security1 Session Http Transport

variable {σ C W : Type} {u : HexUtil} {w : ULong}

inductive ConsoleOp
  | cmd (a : ConsoleCmd)
  | stop

def consoleStart (pc : Nat) (s : Protocomm.Session σ C W) (c : Transport.Console) : ConsoleDev σ C W :=
  ⟨(networkProvConsoleStart pc c).2, s⟩

/-- mirrors src/protocomm_console.c:50-57 -/
def consoleStop (c : ConsoleDev σ C W) : ConsoleDev σ C W :=
  ⟨networkProvConsoleStop c.con, if c.con.gPc = none then c.sess else protocommCloseSession c.sess⟩

def ConsoleDev.step (u : HexUtil) (w : ULong) (c : ConsoleDev σ C W) :
    ConsoleOp → Option (ConsoleDev σ C W × Option CmdOut)
  | .cmd a =>
    match cmdNetProv u w a c with
    | (c, o) => some (c, some o)
  | .stop => some (consoleStop c, none)

def consoleMachine (u : HexUtil) (w : ULong) : Machine (ConsoleDev σ C W) ConsoleOp (Option CmdOut) :=
  ⟨ConsoleDev.step u w⟩

abbrev ConsoleEntry (σ C W : Type) := Entry (ConsoleDev σ C W) ConsoleOp (Option CmdOut)

/-- The number of the open session. -/
def ConsoleDev.number (c : ConsoleDev σ C W) : Option Nat :=
  if c.con.haveSession then some c.con.curSession else none

/-- The session a command opens. -/
def opening (a : ConsoleCmd) (n : Nat) (c : ConsoleDev σ C W) : Option Env :=
  if c.number = some n then none else some a.env.openSession

/-- What is printed of a response. -/
def cmdAnswer (u : HexUtil) (a : ConsoleCmd) (r : Reply) : Int × ShellLine :=
  if r.ret ≠ 0 then (-ENOEXEC, .endpointFailed a.ep r.ret)
  else if !a.env.hexAlloc then (-ENOMEM, .outOfMemory)
  else (0, .response (u.bin2hex r.out))

/-- A command that makes its request. -/
structure CmdAsks (u : HexUtil) (w : ULong) (a : ConsoleCmd) (c c' : ConsoleDev σ C W) (o : CmdOut)
    (q : ConsoleCall) : Prop where
  started : c.con.gPc ≠ none
  token : sessionOf w a.sessionId.chars = some q.session
  ep : q.ep = a.ep
  data : HexOk u a.hex.chars ∧ q.inbuf = if a.hex.chars = [] then [] else u.hex2bin a.hex.chars
  asked : ask (opening a q.session c) a.env.req q.ep q.inbuf c.sess = (c'.sess, q.reply)
  number : c'.number = some q.session
  answer : o = ⟨(cmdAnswer u a q.reply).1, (cmdAnswer u a q.reply).2, some q⟩

theorem sessionFor_eq (a : ConsoleCmd) (n : Nat) (c : ConsoleDev σ C W) :
    sessionFor a.env.openSession n c = openIf (opening a n c) c.sess := by
  unfold sessionFor opening ConsoleDev.number
  by_cases h : c.con.haveSession = true
  · by_cases hn : c.con.curSession = n
    · simp [h, hn, openIf]
    · simp [h, hn, openIf]
  · simp [h, openIf]

theorem runCmd_eq (a : ConsoleCmd) (n : Nat) (inbuf : Bytes) (c : ConsoleDev σ C W) :
    runCmd u a n inbuf c =
      (⟨c.con, (protocommReqHandle a.env.req c.sess (some a.ep) inbuf).1⟩,
        ⟨(cmdAnswer u a (protocommReqHandle a.env.req c.sess (some a.ep) inbuf).2).1,
          (cmdAnswer u a (protocommReqHandle a.env.req c.sess (some a.ep) inbuf).2).2,
          some ⟨n, a.ep, inbuf, (protocommReqHandle a.env.req c.sess (some a.ep) inbuf).2⟩⟩) := by
  unfold runCmd cmdAnswer
  generalize protocommReqHandle a.env.req c.sess (some a.ep) inbuf = q
  obtain ⟨s', r⟩ := q
  dsimp only
  split
  · rfl
  · split <;> rfl

theorem cmd_cases (u : HexUtil) (w : ULong) (a : ConsoleCmd) (c : ConsoleDev σ C W) :
    (∃ ret line, cmdNetProv u w a c = (c, .refused ret line)) ∨
    ∃ q, CmdAsks u w a c (cmdNetProv u w a c).1 (cmdNetProv u w a c).2 q := by
  unfold cmdNetProv
  split
  · exact .inl ⟨_, _, rfl⟩
  rename_i hs
  cases hid : sessionOf w a.sessionId.chars with
  | none => exact .inl ⟨_, _, rfl⟩
  | some session =>
    dsimp only
    split
    · exact .inl ⟨_, _, rfl⟩
    rename_i heven
    split
    · exact .inl ⟨_, _, rfl⟩
    split
    · exact .inl ⟨_, _, rfl⟩
    rename_i hhex
    right
    rw [runCmd_eq, useSession_eq, sessionFor_eq]
    generalize hin : (if a.hex.chars.length / 2 > 0 then u.hex2bin a.hex.chars else []) = inbuf
    refine ⟨⟨session, a.ep, inbuf,
      (protocommReqHandle a.env.req (openIf (opening a session c) c.sess) (some a.ep) inbuf).2⟩,
      hs, hid, rfl, ⟨⟨by omega, ?_⟩, ?_⟩, rfl, rfl, rfl⟩
    · by_cases hlen : a.hex.chars.length / 2 > 0
      · exact .inr (not_not.mp fun h => hhex ⟨hlen, h⟩)
      · refine .inl (List.eq_nil_of_length_eq_zero ?_)
        omega
    · -- an even length is positive just if its half is
      dsimp only
      rw [← hin]
      by_cases hnil : a.hex.chars = []
      · simp [hnil]
      · have := List.length_pos_iff.mpr hnil
        rw [if_pos (by omega), if_neg hnil]

/-- What a step comes to on the instance: nothing for a command that is refused, and its request, of
the data converted, for one that is not. -/
def ConsoleCarries (u : HexUtil) (w : ULong) (x : ConsoleEntry σ C W) (v : List (PcEntry σ C W)) : Prop :=
  match x.lbl, x.out with
  | .stop, _ => v.map (·.lbl) = if x.pre.con.gPc = none then [] else [.closeSession]
  | .cmd a, some o =>
    (o.call = none ∧ v = []) ∨
    ∃ n r, sessionOf w a.sessionId.chars = some n ∧ HexOk u a.hex.chars ∧
      v.map (·.lbl) = askOps (opening a n x.pre) a.env.req a.ep
        (if a.hex.chars = [] then [] else u.hex2bin a.hex.chars) ∧
      v.getLast?.map (·.out) = some r ∧ (o.ret, o.line) = cmdAnswer u a r
  | .cmd _, none => False

theorem stop_steps (c : ConsoleDev σ C W) : ∃ v, Protocomm.machine.Run c.sess v (consoleStop c).sess ∧
    v.map (·.lbl) = if c.con.gPc = none then [] else [.closeSession] := by
  unfold consoleStop
  by_cases h : c.con.gPc = none
  · simp only [h, if_true]
    exact ⟨[], .nil, rfl⟩
  · simp only [h, if_false]
    have hclose : Protocomm.machine.Ok
        (⟨c.sess, .closeSession, .fail 0, protocommCloseSession c.sess⟩ : PcEntry σ C W) := rfl
    exact ⟨_, .one hclose, rfl⟩

theorem console_step {x : ConsoleEntry σ C W} (hx : (consoleMachine u w).Ok x) :
    ∃ v, Protocomm.machine.Run x.pre.sess v x.post.sess ∧ ConsoleCarries u w x v := by
  obtain ⟨c, l, o, c'⟩ := x
  change c.step u w l = some (c', o) at hx
  cases l with
  | stop =>
    cases hx
    exact stop_steps c
  | cmd a =>
    simp only [ConsoleDev.step, Option.some.injEq, Prod.mk.injEq] at hx
    obtain ⟨rfl, rfl⟩ := hx
    rcases cmd_cases u w a c with ⟨ret, line, heq⟩ | ⟨q, hq⟩
    · rw [heq]
      exact ⟨[], .nil, .inl ⟨rfl, rfl⟩⟩
    · obtain ⟨v, hrun, hops, hlast⟩ := ask_run hq.asked
      rw [hq.ep, hq.data.2] at hops
      refine ⟨v, hrun, .inr ⟨q.session, q.reply, hq.token, hq.data.1, hops, hlast, ?_⟩⟩
      rw [hq.answer]

/-- **The console makes the requests of its commands and no others.** Whatever the command lines
from the start on, and at the stop, the instance goes through a run of protocomm: a command is
refused and does nothing, or it is one request to the endpoint it names, of the bytes it gives
in hex, in a session opened for it if its number is not that of the open one; and what it
prints is what came of the request. -/
theorem console_refines (u : HexUtil) (w : ULong) (pc : Nat) (s₀ : Protocomm.Session σ C W) (c₀ : Transport.Console)
    {t : List (ConsoleEntry σ C W)} {c : ConsoleDev σ C W} (hr : (consoleMachine u w).Run (consoleStart pc s₀ c₀) t c) :
    ∃ ts, Protocomm.machine.Run s₀ ts.flatten c.sess ∧ List.Forall₂ (ConsoleCarries u w) t ts :=
  (hr.expand (f := (·.sess)) (I := fun _ => True) (C := fun _ => True)
    (fun _ hx _ _ => ⟨trivial, console_step hx⟩) trivial fun _ _ => trivial).2

/-! ## Security 1 -/

abbrev ConsoleSec1Entry (σ : Type) := ConsoleEntry σ Sec1Ctx KeyStore

/-- The transport, with the number of the open session as its key. -/
def consoleConduit : Conduit σ (ConsoleDev σ Sec1Ctx KeyStore) ConsoleOp (Option CmdOut) Nat where
  sess := (·.sess)
  key := ConsoleDev.number
  act x :=
    match x.lbl with
    | .stop => if x.pre.con.gPc = none then .idle else .closed
    | .cmd a =>
      match x.out.bind (·.call) with
      | none => .idle
      | some q => .asked (opening a q.session x.pre) a.env.req q.ep q.inbuf q.reply

theorem act_cmd {x : ConsoleSec1Entry σ} {a : ConsoleCmd} {o : CmdOut} {q : ConsoleCall} (hl : x.lbl = .cmd a)
    (ho : x.out = some o) (hq : o.call = some q) :
    consoleConduit.act x = .asked (opening a q.session x.pre) a.env.req q.ep q.inbuf q.reply := by
  unfold consoleConduit
  dsimp only
  rw [hl, ho]
  dsimp only
  rw [Option.bind_some, hq]

theorem number_of_opening {a : ConsoleCmd} {n : Nat} {c : ConsoleDev σ C W} (h : opening a n c = none) :
    c.number = some n := by
  unfold opening at h
  split at h
  · assumption
  · cases h

theorem console_keeps {x : ConsoleSec1Entry σ} (hs : x.lbl ≠ .stop) (hx : (consoleMachine u w).Ok x) :
    consoleConduit.Keeps x := by
  obtain ⟨c, l, o, c'⟩ := x
  change c.step u w l = some (c', o) at hx
  cases l with
  | stop => exact absurd rfl hs
  | cmd a =>
    simp only [ConsoleDev.step, Option.some.injEq, Prod.mk.injEq] at hx
    obtain ⟨rfl, rfl⟩ := hx
    rcases cmd_cases u w a c with ⟨ret, line, heq⟩ | ⟨q, hq⟩
    · rw [heq]
      exact ⟨rfl, fun _ => rfl, False.elim⟩
    · have hact := act_cmd (x := ⟨c, .cmd a, some (cmdNetProv u w a c).2, (cmdNetProv u w a c).1⟩) rfl rfl
        (show (cmdNetProv u w a c).2.call = some q by rw [hq.answer])
      refine ⟨?_, fun hquiet => ?_, fun _ => ?_⟩
      · rw [hact]
        exact hq.asked
      · rw [hact] at hquiet
        cases ho : opening a q.session c with
        | none => exact hq.number.trans (number_of_opening ho).symm
        | some e =>
          rw [ho] at hquiet
          exact hquiet.elim
      · rw [show consoleConduit.key _ = _ from hq.number]
        rfl

/-- Bytes of a command get to a handler only under the number of a verified session. -/
def NumberChecked (P : Psa) (pb : Nanopb) (w : ULong) (t : List (ConsoleSec1Entry σ)) (x : ConsoleSec1Entry σ) :
    Prop :=
  ∀ a o q call, x.lbl = .cmd a → x.out = some o → o.call = some q → q.inbuf ≠ [] → q.reply.call = some call →
    sessionOf w a.sessionId.chars = some q.session ∧ x.pre.number = some q.session ∧
      consoleConduit.VerifiedAs P pb q.session t

theorem token_of_call {a : ConsoleCmd} {c : ConsoleDev σ C W} {q : ConsoleCall}
    (h : (cmdNetProv u w a c).2.call = some q) : sessionOf w a.sessionId.chars = some q.session := by
  rcases cmd_cases u w a c with ⟨ret, line, heq⟩ | ⟨q', hq'⟩
  · rw [heq] at h
    cases h
  · rw [hq'.answer] at h
    cases h
    exact hq'.token

/-- **On the console bytes are for the number of a verified session.** From a start with security 1 up
to the stop, whatever the command lines: the bytes of a command reach the handler of an endpoint
only if its number is that of the open session, and a Command1, given under the same number, was
verified since that session was opened. -/
theorem console_verified {P : Psa} {pb : Nanopb} (u : HexUtil) (w : ULong) (pc : Nat) {s₀ : PcSession σ}
    (c₀ : Transport.Console) (hsec : s₀.pc.sec = some (networkProvSecurity1 P pb)) (hc : s₀.pc.secCtx = none)
    {t : List (ConsoleSec1Entry σ)} {c : ConsoleDev σ Sec1Ctx KeyStore}
    (hr : (consoleMachine u w).Run (consoleStart pc s₀ c₀) t c) (hs : ∀ x ∈ t, x.lbl ≠ .stop) :
    Always (NumberChecked P pb w) t := by
  have hall : Always (consoleConduit.Checked P pb) t := by
    refine Conduit.carried_verified ?_ ?_ hr fun x hx => console_keeps (hs x hx) (hr.ok_of_mem hx)
    · exact hsec
    · exact hc
  rintro t₁ x t₂ rfl a o q call hl ho hq hne hcall
  have hok : x.pre.step u w x.lbl = some (x.post, x.out) := (hr.at).2.1
  rw [hl, ho] at hok
  simp only [ConsoleDev.step, Option.some.injEq, Prod.mk.injEq] at hok
  obtain ⟨hopen, n, hk, hv⟩ := hall t₁ x t₂ rfl _ _ _ _ _ call (act_cmd hl ho hq) hne hcall
  have hn := number_of_opening hopen
  obtain rfl : n = q.session := Option.some.inj (hk.symm.trans hn)
  refine ⟨token_of_call (u := u) (c := x.pre) ?_, hn, hv⟩
  rw [hok.2]
  exact hq

/-! ## A handshake on the command line -/

/-- The bytes, as they are typed. -/
def typed (b : Bytes) : CStr := ⟨(testHex.bin2hex b).filter (· ≠ 0), by simp⟩

def sec1Cmd (ep : CStr) (token : CStr) (data : Bytes) : ConsoleOp :=
  .cmd ⟨ep, token, typed data, true, true, .good Security1.devicePriv Security1.deviceRandom, goodReq⟩

def session7 : CStr := ⟨ofChars ['7'], by decide⟩

def session8 : CStr := ⟨ofChars ['8'], by decide⟩

/-- A handshake and one request, then one under another number. -/
def sec1Cmds : List ConsoleOp :=
  [sec1Cmd sessionEp session7 (cmd0Head ++ clientPub),
    sec1Cmd sessionEp session7 (cmd1Head ++ xorFrom testKs 0 devicePub),
    sec1Cmd dataEp session7 (xorFrom testKs 64 (bytesOf 5 0x68656c6c6f)),
    sec1Cmd dataEp session8 (xorFrom testKs 80 (bytesOf 5 0x68656c6c6f))]

def sec1Console : ConsoleDev Unit Sec1Ctx KeyStore :=
  consoleStart 1 (testDevice vectors wirePb (some pop)) ⟨none, 0, false⟩

/-- The run of these. -/
def sec1Run : List (ConsoleSec1Entry Unit) × ConsoleDev Unit Sec1Ctx KeyStore :=
  ((consoleMachine testHex .bits32).exec sec1Console sec1Cmds).get (by decide +kernel)

theorem sec1_run : (consoleMachine testHex .bits32).Run sec1Console sec1Run.1 sec1Run.2 :=
  (consoleMachine testHex .bits32).run_get sec1Console sec1Cmds (by decide +kernel)

theorem sec1_cmds : ∀ x ∈ sec1Run.1, x.lbl ≠ .stop := by
  intro x hx
  have hl : x.lbl ∈ sec1Cmds := List.mem_map_of_mem (f := (·.lbl)) hx
  unfold sec1Cmds sec1Cmd at hl
  simp only [List.mem_cons, List.not_mem_nil, or_false] at hl
  rcases hl with h | h | h | h <;> (rw [h]; exact fun hn => by cases hn)

theorem console_refines_test :
    ∃ ts, Protocomm.machine.Run (testDevice vectors wirePb (some pop)) ts.flatten sec1Run.2.sess ∧
      List.Forall₂ (ConsoleCarries testHex .bits32) sec1Run.1 ts :=
  console_refines testHex .bits32 1 _ ⟨none, 0, false⟩ sec1_run

theorem console_verified_test :
    sec1Run.1.map (fun x => (x.out.bind (·.call)).bind fun q => q.reply.call.map (·.arg)) =
      [none, none, some (bytesOf 5 0x68656c6c6f), none] ∧
    Always (NumberChecked vectors wirePb .bits32) sec1Run.1 :=
  ⟨by decide +kernel, console_verified testHex .bits32 1 ⟨none, 0, false⟩ rfl rfl sec1_run sec1_cmds⟩

end NetworkProv.Console
