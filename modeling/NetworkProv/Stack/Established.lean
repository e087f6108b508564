import NetworkProv.Security.Pop
import NetworkProv.Stack.Thread
import NetworkProv.Stack.Wifi

/-!
# From a start to the requests of a client

A start with security 1, a session, a client that has the device's proof of
possession, and what it asks for then. nanopb is a parameter on both sides, of which
`Codec` and `PayloadCodec` say what is relied on.

Limitations: no allocation and no PSA call under the handshake and the requests fails
(`Orderly`), and no one else uses the session. A call that fails can take the two ends
out of step (`Security.Lockstep`).

* `established`: the handshake leaves a stack that serves.
* `wifi_refines`, `thread_refines`: all that the requests and events of such a
  session come to is a run of the network type's machine.
-/
namespace NetworkProv.Stack
open NetworkProv.Core Protocomm Security1 Session Endpoints

variable {N I O E H X : Type}

/-- A device that has been started with security 1, and a client that has its proof of
possession; of a longer one the device keeps 63 characters. -/
structure Provisioned (B : Backend N I O E) (P : Psa) (pb : Nanopb) (r : Draws)
    (s : PcSession (EpApp (App N E) H X)) (clientPop : Option CStr) (shared : Bytes) : Prop where
  started : StartedWith B P pb s.pc
  ready : B.Ready s.app.app.net
  keys : PopSetting P r.devicePriv r.clientPriv shared (r.reqRandom 0) []
  pop : (charsOf s.pc.pop).take 63 = charsOf clientPop

/-- The client and the device after the handshake of a fresh session. -/
def freshStack (P : Psa) (pb : Nanopb) (r : Draws) (s : PcSession (EpApp (App N E) H X))
    (clientPop : Option CStr) : StackState N E H X :=
  ⟨(freshHandshake P pb r s clientPop).2.1, (freshHandshake P pb r s clientPop).2.2.2.dev⟩

theorem sessionEp_eq : sessionEp = EP_SESSION := by decide

/-- The two ends of a fresh handshake under one string are in step, and the
application is as it was. -/
theorem fresh_inStep {σ : Type} {P : Psa} {pb : Nanopb} {r : Draws} {s : PcSession σ} {clientPop : Option CStr}
    {shared : Bytes} (hpb : Codec pb) (hsec : s.pc.sec = some (networkProvSecurity1 P pb))
    (hep : SecurityEp s.pc sessionEp) (hset : PopSetting P r.devicePriv r.clientPriv shared (r.reqRandom 0) [])
    (hpop : (charsOf s.pc.pop).take 63 = charsOf clientPop) :
    ∃ c' w' d', freshHandshake P pb r s clientPop = (0, c', w', d') ∧ SameConfig s d'.dev ∧
      d'.dev.app = s.app ∧ ∃ st, InStep P c' d'.dev st := by
  obtain ⟨ctx, hpc, hkept, hdpk, hfind⟩ := openSession_good r.openRandom hsec hset.devicePub
  have happ₁ := openSession_app (.good r.devicePriv r.openRandom) s
  unfold freshHandshake
  generalize protocommOpenSession (.good r.devicePriv r.openRandom) s = s₁ at hpc hfind happ₁
  have hctx : s₁.pc.secCtx = some ctx := by rw [hpc]
  have hsec₁ : s₁.pc.sec = some (networkProvSecurity1 P pb) := by rw [hpc]; exact hsec
  have hep₁ : SecurityEp s₁.pc sessionEp := by rw [hpc]; exact hep
  have hcfg₁ : SameConfig s s₁ := by unfold SameConfig; rw [hpc]
  have hkeys : popKey P shared (charsOf clientPop) = popKey P shared ctx.pop := by
    rw [hkept, copyPop_eq, hpop]
  have hgood : ∃ c' w' d', provClientHandshake P pb pcXport (.good r.clientPriv r.clientRandom) r.clientKeys
      provClientInit ⟨s₁, fun n => .good (.good (r.reqPriv n) (r.reqRandom n))⟩ clientPop = (0, c', w', d') :=
    handshake_good hpb hsec₁ hep₁ rfl rfl hctx hfind hdpk hset.clientPub hset.deviceSecret hset.clientSecret
      hset.length hkeys
  obtain ⟨c', w', d', hh⟩ := hgood
  obtain ⟨ctx₀, ctx', kd, kc, hctx₀, hctx', hcfg, happ, hdone, -, ⟨shd, hra, hmix⟩, priv, shc, hpriv, hcpk,
    hrc, hcmix⟩ := handshake_completed hpb hsec₁ hep₁ hh
  obtain rfl : ctx = ctx₀ := Option.some.inj (hctx.symm.trans hctx₀)
  cases hpriv
  rw [show ((fun n => ReqEnv.good (.good (r.reqPriv n) (r.reqRandom n))) 0).handshake =
    .good (r.reqPriv 0) (r.reqRandom 0) from rfl, rawKeyAgreement_good hfind, hcpk, hset.deviceSecret] at hra
  cases hra
  rw [hdpk, hset.clientSecret] at hrc
  cases hrc
  have hk : kc = kd := (clientMixPop_some hcmix).trans (hkeys.trans (mixPop_some hmix).symm)
  refine ⟨c', w', d', hh, hcfg₁.trans hcfg, happ.trans happ₁, _, handshake_inStep hdone hctx' ?_⟩
  rw [hdone.client, hdone.device, hk]

/-- The handshake of such a client completes, and leaves a stack that serves. -/
theorem established {B : Backend N I O E} {P : Psa} {pb : Nanopb} (hpb : Codec pb) {r : Draws}
    {s : PcSession (EpApp (App N E) H X)} {clientPop : Option CStr} {shared : Bytes}
    (h : Provisioned B P pb r s clientPop shared) :
    (freshHandshake P pb r s clientPop).1 = 0 ∧ StackInv B P pb (freshStack P pb r s clientPop) ∧
      net (freshStack P pb r s clientPop) = s.app.app.net := by
  obtain ⟨hserv, hep, hsec, -⟩ := h.started.table
  obtain ⟨c', w', d', hh, hcfg, happ, st, hst⟩ :=
    fresh_inStep hpb hsec (by rw [sessionEp_eq]; exact hep) h.keys h.pop
  unfold freshStack net
  rw [hh]
  dsimp only
  rw [happ]
  refine ⟨rfl, ⟨⟨?_, .refl _, st, hst⟩, serving_congr (by rw [hcfg]) hserv, ?_⟩, rfl⟩
  · rw [hcfg]
    exact hsec
  · unfold net
    rw [happ]
    exact h.ready

/-- What a session of such a client comes to is a run of the network type's machine. -/
theorem session_refines {B : Backend N I O E} (hB : B.Lawful) {P : Psa} {pb : Nanopb} (hpb : Codec pb)
    {r : Draws} {s : PcSession (EpApp (App N E) H X)} {clientPop : Option CStr} {shared : Bytes}
    (h : Provisioned B P pb r s clientPop shared) {t : List (StackEntry N I O E H X)} {s' : StackState N E H X}
    (hr : (stack B P).Run (freshStack P pb r s clientPop) t s') (hc : ∀ x ∈ t, Orderly B x) :
    (freshHandshake P pb r s clientPop).1 = 0 ∧ ∃ ts, B.machine.Run s.app.app.net ts.flatten (net s') ∧
      List.Forall₂ (Carries B) t ts := by
  obtain ⟨h0, hinv, hnet⟩ := established hpb h
  obtain ⟨-, ts, hrun, hts⟩ := stack_refines hB hinv hr hc
  rw [hnet] at hrun
  exact ⟨h0, ts, hrun, hts⟩

/-! ## Over Wi-Fi -/

section OverWifi
open OnWifi Manager Wifi Proto

abbrev WifiApp := App Net (ReqCalls NetCalls NetInput)

/-- **A session with a Wi-Fi device.** For a client that has the device's proof of
possession the handshake completes. Whatever it then asks of the three endpoints, as
long as the calls under its requests succeed, and whatever happens in between, the Wi-Fi
side goes through a run of its machine: an event is one step; a request reaches its
handler as nanopb decodes what the client wrote, and the client reads the handler's one
answer, error or message, as the handler gave it. -/
theorem wifi_session_refines {P : Psa} {pb : Nanopb} (hpb : Codec pb) (maxEntries : Nat)
    {dpb : PayloadPb} (hdpb : PayloadCodec dpb)
    {r : Draws} {s : PcSession (EpApp WifiApp H X)} {clientPop : Option CStr} {shared : Bytes}
    (h : Provisioned (wifiKind maxEntries dpb).backend P pb r s clientPop shared)
    {t : List (StackEntry Net NetInput NetOutput (ReqCalls NetCalls NetInput) H X)}
    {s' : StackState Net (ReqCalls NetCalls NetInput) H X}
    (hr : (stack (wifiKind maxEntries dpb).backend P).Run (freshStack P pb r s clientPop) t s')
    (hc : ∀ x ∈ t, Orderly (wifiKind maxEntries dpb).backend x) :
    (freshHandshake P pb r s clientPop).1 = 0 ∧
      ∃ ts, (inputMachine maxEntries).Run s.app.app.net ts.flatten (net s') ∧
        List.Forall₂ (Carries (wifiKind maxEntries dpb).backend) t ts :=
  session_refines (wifiKind_lawful maxEntries hdpb).backend hpb h hr hc

def demoBackend : Backend Net NetInput NetOutput (ReqCalls NetCalls NetInput) := (wifiKind 16 protoPayload).backend

def demoService : Service WifiApp Sec1Ctx KeyStore Unit Unit :=
  demoBackend.service (fun _ _ a _ => (a, 0, [])) (networkProvSecurity1 vectors wirePb)
    (networkProvSecurity1 vectors (protoPb wirePb))

/-- A Wi-Fi device that has been started; every call succeeds. -/
def demoDevice : PcSession (EpApp WifiApp Unit Unit) where
  pc := ⟨endpointsOf demoService [], some demoService.security1, some Security1.pop, none, some .empty⟩
  ext := .empty
  app := ⟨[], ⟨(Net.boot .empty).started 0, fun _ => ⟨⟨okEnv, ⟨true, 0, 0⟩⟩, [], false⟩⟩⟩

theorem demo_provisioned : Provisioned demoBackend vectors (protoPb wirePb) testDraws demoDevice
    (some Security1.pop) sharedSecret where
  started := ⟨_, _, some Security1.pop, ⟨true, .empty, 0, 0, 0⟩, [], rfl⟩
  ready := ⟨⟨rfl, rfl⟩, rfl⟩
  keys := vectors_setting (by simp) (by simp) (by simp)
  pop := by decide +kernel

/-- The client sends a message. -/
def send {I : Type} (ep : CStr) (p : Payload) : StackInput I := .request ⟨goodReq, ep, (protoPayload.encode p).getD []⟩

/-- The type of the message that the client reads. -/
def readType {O : Type} : StackOut O → Option Nat
  | .exchange o => (o.plain.bind protoPayload.readConfig).map (·.msg)
  | .event _ => none

/-- Set and Apply of "home", its connect result, and a poll. -/
def demoInputs : List (StackInput NetInput) :=
  [send EP_CONFIG (.config ⟨typeCmdSetWifiConfig, some (.cmdSetWifiConfig ⟨homeSsid.chars, passphrase.chars, [], 0⟩)⟩),
   send EP_CONFIG (.config ⟨typeCmdApplyWifiConfig, some .cmdApplyWifiConfig⟩),
   .event (.wifi (.connectResult ⟨0, 0⟩ 0)),
   send EP_CONFIG (.config ⟨typeCmdGetWifiStatus, some .cmdGetWifiStatus⟩)]

theorem wifi_session_refines_test : ∃ t s',
    (stack demoBackend vectors).Run (freshStack vectors (protoPb wirePb) testDraws demoDevice (some Security1.pop)) t s' ∧
    t.map (·.lbl) = demoInputs ∧
    t.map (readType ·.out) =
      [some typeRespSetWifiConfig, some typeRespApplyWifiConfig, none, some typeRespGetWifiStatus] ∧
    (freshHandshake vectors (protoPb wirePb) testDraws demoDevice (some Security1.pop)).1 = 0 ∧
    ∃ ts, (inputMachine 16).Run demoDevice.app.app.net ts.flatten (net s') ∧
      List.Forall₂ (Carries demoBackend) t ts := by
  have hr := (stack demoBackend vectors).run_get
    (freshStack vectors (protoPb wirePb) testDraws demoDevice (some Security1.pop)) demoInputs (by decide +kernel)
  refine ⟨_, _, hr, by rfl, by decide +kernel, wifi_session_refines (protoPb_codec wirePb) 16
    protoPayload_codec demo_provisioned hr fun x hx q hq => ?_⟩
  have hl : x.lbl ∈ demoInputs := List.mem_map_of_mem (f := (·.lbl)) hx
  rw [hq] at hl
  simp only [demoInputs, send, List.mem_cons, StackInput.request.injEq, reduceCtorEq, List.not_mem_nil,
    or_false, false_or] at hl
  rcases hl with rfl | rfl | rfl <;> exact ⟨⟨_, rfl⟩, rfl⟩

end OverWifi

/-! ## Over Thread -/

section OverThread
open OnThread Thread Proto

abbrev ThreadApp := App Net (ReqCalls NetCalls NetInput)

/-- **A session with a Thread device**, likewise. -/
theorem thread_session_refines {P : Psa} {pb : Nanopb} (hpb : Codec pb) (maxEntries : Nat)
    {dpb : PayloadPb} (hdpb : PayloadCodec dpb)
    {r : Draws} {s : PcSession (EpApp ThreadApp H X)} {clientPop : Option CStr} {shared : Bytes}
    (h : Provisioned (threadKind maxEntries dpb).backend P pb r s clientPop shared)
    {t : List (StackEntry Net NetInput NetOutput (ReqCalls NetCalls NetInput) H X)}
    {s' : StackState Net (ReqCalls NetCalls NetInput) H X}
    (hr : (stack (threadKind maxEntries dpb).backend P).Run (freshStack P pb r s clientPop) t s')
    (hc : ∀ x ∈ t, Orderly (threadKind maxEntries dpb).backend x) :
    (freshHandshake P pb r s clientPop).1 = 0 ∧
      ∃ ts, (inputMachine maxEntries).Run s.app.app.net ts.flatten (net s') ∧
        List.Forall₂ (Carries (threadKind maxEntries dpb).backend) t ts :=
  session_refines (threadKind_lawful maxEntries hdpb).backend hpb h hr hc

def threadBackend : Backend Net NetInput NetOutput (ReqCalls NetCalls NetInput) :=
  (threadKind 16 protoPayload).backend

def threadService : Service ThreadApp Sec1Ctx KeyStore Unit Unit :=
  threadBackend.service (fun _ _ a _ => (a, 0, [])) (networkProvSecurity1 vectors wirePb)
    (networkProvSecurity1 vectors (protoPb wirePb))

/-- A Thread device that has been started; every call succeeds. -/
def threadDemo : PcSession (EpApp ThreadApp Unit Unit) where
  pc := ⟨endpointsOf threadService [], some threadService.security1, some Security1.pop, none, some .empty⟩
  ext := .empty
  app := ⟨[], ⟨(Net.boot none).started, fun _ => ⟨⟨okEnv, ⟨0x07fff800, fun _ => 0, 0⟩⟩, [], false⟩⟩⟩

theorem threadDemo_provisioned : Provisioned threadBackend vectors (protoPb wirePb) testDraws threadDemo
    (some Security1.pop) sharedSecret where
  started := ⟨_, _, some Security1.pop, ⟨true, .empty, 0, 0, 0⟩, [], rfl⟩
  ready := ⟨rfl, rfl⟩
  keys := vectors_setting (by simp) (by simp) (by simp)
  pop := by decide +kernel

/-- Set and Apply of a dataset, the node attaches, and a poll. -/
def threadInputs : List (StackInput NetInput) :=
  [send EP_CONFIG (.config ⟨typeCmdSetThreadConfig, some (.cmdSetThreadConfig [0x00, 0x03, 0x00, 0x00, 0x0f])⟩),
   send EP_CONFIG (.config ⟨typeCmdApplyThreadConfig, some .cmdApplyThreadConfig⟩),
   .event (.thread (.stateChanged true .child)),
   send EP_CONFIG (.config ⟨typeCmdGetThreadStatus, some .cmdGetThreadStatus⟩)]

theorem thread_session_refines_test : ∃ t s',
    (stack threadBackend vectors).Run
      (freshStack vectors (protoPb wirePb) testDraws threadDemo (some Security1.pop)) t s' ∧
    t.map (·.lbl) = threadInputs ∧
    t.map (readType ·.out) =
      [some typeRespSetThreadConfig, some typeRespApplyThreadConfig, none, some typeRespGetThreadStatus] ∧
    (freshHandshake vectors (protoPb wirePb) testDraws threadDemo (some Security1.pop)).1 = 0 ∧
    ∃ ts, (inputMachine 16).Run threadDemo.app.app.net ts.flatten (net s') ∧
      List.Forall₂ (Carries threadBackend) t ts := by
  have hr := (stack threadBackend vectors).run_get
    (freshStack vectors (protoPb wirePb) testDraws threadDemo (some Security1.pop)) threadInputs (by decide +kernel)
  refine ⟨_, _, hr, by rfl, by decide +kernel, thread_session_refines (protoPb_codec wirePb) 16
    protoPayload_codec threadDemo_provisioned hr fun x hx q hq => ?_⟩
  have hl : x.lbl ∈ threadInputs := List.mem_map_of_mem (f := (·.lbl)) hx
  rw [hq] at hl
  simp only [threadInputs, send, List.mem_cons, StackInput.request.injEq, reduceCtorEq, List.not_mem_nil,
    or_false, false_or] at hl
  rcases hl with rfl | rfl | rfl <;> exact ⟨⟨_, rfl⟩, rfl⟩

end OverThread

end NetworkProv.Stack
