import NetworkProv.Security.Security0
import NetworkProv.Stack.Established

/-!
# The same device without encryption

A start chooses the security scheme. Two devices of the same service and with the
same application endpoints, one started with security 1 and one with security 0,
and each with its session established: a client that ciphers and deciphers with
the first gets from it what another, that does neither, gets from the second.

Limitation: the allocations and PSA calls under the requests succeed (`Servable`). Where
one fails, security 1 can lose the keystream and security 0 has none to lose.

* `registerEndpoints_scheme`: the endpoints of a start do not depend on the scheme.
* `encryption_transparent`: requests and events show the same, step by step.
-/
namespace NetworkProv.Stack
open NetworkProv.Core Protocomm Security0 Security1 Session Endpoints

variable {N I O E H X : Type}

/-- What the client gets of a request, and the handler call it led to; or an event. -/
inductive Shown (O : Type)
  | answer (ret : Int) (call : Option Call) (plain : Option Bytes)
  | event (o : O)

def shown : StackOut O → Shown O
  | .exchange o => .answer o.reply.ret o.reply.call o.plain
  | .event o => .event o

def secureStack (B : Backend N I O E) (P : Psa) : Machine (StackState N E H X) (StackInput I) (Shown O) :=
  ⟨fun s l => (stackStep B P s l).map fun r => (r.1, shown r.2)⟩

abbrev PlainDevice (N E H X : Type) := PcSession (EpApp (App N E) H X)

/-- The request is sent as it is, and so is the answer taken. -/
def plainStep (B : Backend N I O E) (d : PlainDevice N E H X) :
    StackInput I → Option (PlainDevice N E H X × Shown O)
  | .request q =>
    match protocommReqHandle q.env d (some q.ep) q.msg with
    | (d, r) => some (d, .answer r.ret r.call (if r.ret = 0 then some r.out else none))
  | .event i =>
    if B.isEvent i then
      (B.machine.step d.app.app.net i).map fun r =>
        ({ d with app := { d.app with app := { d.app.app with net := r.1 } } }, .event r.2)
    else none

def plainStack (B : Backend N I O E) : Machine (PlainDevice N E H X) (StackInput I) (Shown O) :=
  ⟨plainStep B⟩

/-! ## Step by step -/

/-- The request is for an endpoint of the table with a handler, and the calls under it succeed. -/
def Servable (eps : List (ProtocommEp (EpApp (App N E) H X))) (l : StackInput I) : Prop :=
  ∀ q, l = .request q → (∃ e, q.env = .good e) ∧
    ∃ hd, eps.find? (fun ep => ep.name = q.ep) = some ⟨q.ep, .data hd⟩

/-- Between two steps: the sessions are established, and the application is in one state. -/
structure Alike (P : Psa) (pb : Nanopb) (sentinel : Sec1Ctx) (eps : List (ProtocommEp (EpApp (App N E) H X)))
    (s : StackState N E H X) (d : PlainDevice N E H X) : Prop where
  inStep : ∃ st, InStep P s.client s.dev st
  sec1 : s.dev.pc.sec = some (networkProvSecurity1 P pb)
  table1 : s.dev.pc.endpoints = eps
  sec0 : d.pc.sec = some (networkProvSecurity0 pb sentinel)
  isOpen : d.pc.secCtx.isSome
  table0 : d.pc.endpoints = eps
  app : s.dev.app = d.app

theorem exchange_plain {σ : Type} {P : Psa} {s s' : Channel σ} {q : ChanReq} {o : ChanOut}
    (h : exchange P s q = (s', o)) (hr : o.reply.ret ≠ 0) : o.plain = none := by
  unfold exchange at h
  split at h
  · cases h
    rfl
  · generalize protocommReqHandle q.env s.dev (some q.ep) _ = d at h
    obtain ⟨dev, r⟩ := d
    dsimp only at h
    split at h
    · cases h
      rfl
    · rename_i h0
      split at h <;> cases h <;> exact absurd hr h0

/-- An exchange, as the client sees it. -/
theorem exchange_shown {σ : Type} {P : Psa} {pb : Nanopb} {s s' : Channel σ} {q : ChanReq} {o : ChanOut}
    {e : Env} {hd : ReqHandler σ} {st : End} (hx : exchange P s q = (s', o))
    (hsec : s.dev.pc.sec = some (networkProvSecurity1 P pb)) (he : q.env = .good e)
    (hep : DataEp s.dev.pc q.ep hd) (hst : InStep P s.client s.dev st) :
    SameConfig s.dev s'.dev ∧ (∃ st', InStep P s'.client s'.dev st') ∧
      ∃ ret out, hd s.dev.app q.msg = (s'.dev.app, ret, out) ∧ o.reply.ret = ret ∧
        o.reply.call = some ⟨q.ep, q.msg, ret, out⟩ ∧ o.plain = if ret = 0 then some out else none := by
  have hok : (channel P).Ok ⟨s, q, o, s'⟩ := congrArg some hx
  obtain ⟨hrt, hcfg, hst'⟩ := exchange_inStep hok hsec he hep hst
  obtain ⟨ret, out, ha, hret, hplain⟩ := hrt.post_app hok hep
  obtain ⟨hd', ret', out', app, hep', ha', hcall, hret', -⟩ := hrt
  dsimp only at ha hret hplain hep' ha' hcall hret'
  have heq : hd' = hd := by
    unfold DataEp at hep hep'
    rw [hep'] at hep
    simpa using hep
  rw [heq, ha] at ha'
  cases ha'
  refine ⟨hcfg, hst', ret, out, ha, hret, hcall, ?_⟩
  by_cases h0 : ret = 0
  · rw [hplain h0, if_pos h0]
  · rw [exchange_plain hx (by rw [hret]; exact h0), if_neg h0]

theorem alike_request {P : Psa} {pb : Nanopb} {sentinel : Sec1Ctx}
    {eps : List (ProtocommEp (EpApp (App N E) H X))} {s : StackState N E H X} {d : PlainDevice N E H X}
    {q : ChanReq} (hq : (∃ e, q.env = .good e) ∧ ∃ hd, eps.find? (fun ep => ep.name = q.ep) = some ⟨q.ep, .data hd⟩)
    (h : Alike P pb sentinel eps s d) {s' : StackState N E H X} {o : ChanOut} (hx : exchange P s q = (s', o))
    {d' : PlainDevice N E H X} {r : Reply} (hy : protocommReqHandle q.env d (some q.ep) q.msg = (d', r)) :
    shown (O := O) (.exchange o) = .answer r.ret r.call (if r.ret = 0 then some r.out else none) ∧
      Alike P pb sentinel eps s' d' := by
  obtain ⟨⟨e, he⟩, hd, hf⟩ := hq
  obtain ⟨st, hst⟩ := h.inStep
  have hep₁ : DataEp s.dev.pc q.ep hd := by
    unfold DataEp findEp
    rw [h.table1, hf]
  have hep₀ : DataEp d.pc q.ep hd := by
    unfold DataEp findEp
    rw [h.table0, hf]
  obtain ⟨hcfg, hst', ret, out, ha, hret, hcall, hplain⟩ := exchange_shown hx h.sec1 he hep₁ hst
  rw [he, reqHandle_plain e h.sec0 h.isOpen hep₀, ← h.app, ha] at hy
  cases hy
  refine ⟨?_, ⟨hst', ?_, ?_, h.sec0, h.isOpen, h.table0, rfl⟩⟩
  · change Shown.answer o.reply.ret o.reply.call o.plain = _
    rw [hret, hcall, hplain]
    dsimp only
    split <;> rfl
  · rw [hcfg]
    exact h.sec1
  · rw [hcfg]
    exact h.table1

/-- One step of each, from alike states. -/
theorem alike_step {B : Backend N I O E} {P : Psa} {pb : Nanopb} {sentinel : Sec1Ctx}
    {eps : List (ProtocommEp (EpApp (App N E) H X))} {s : StackState N E H X} {d : PlainDevice N E H X}
    {l : StackInput I} (hl : Servable eps l) (h : Alike P pb sentinel eps s d) :
    Option.Rel (fun p q => p.2 = q.2 ∧ Alike P pb sentinel eps p.1 q.1)
      ((secureStack B P).step s l) ((plainStack B).step d l) := by
  cases l with
  | request q =>
    generalize hx : exchange P s q = x
    generalize hy : protocommReqHandle q.env d (some q.ep) q.msg = y
    obtain ⟨s', o⟩ := x
    obtain ⟨d', r⟩ := y
    have h₁ : (secureStack B P).step s (.request q) = some (s', shown (.exchange o)) := by
      simp only [secureStack, stackStep, hx]
      rfl
    have h₀ : (plainStack B).step d (.request q) =
        some (d', .answer r.ret r.call (if r.ret = 0 then some r.out else none)) := by
      simp only [plainStack, plainStep, hy]
    rw [h₁, h₀]
    exact .some (alike_request (hl q rfl) h hx hy)
  | event i =>
    have happ : net s = d.app.app.net := congrArg (·.app.net) h.app
    unfold secureStack plainStack stackStep plainStep
    dsimp only
    split
    · rw [happ]
      cases hm : B.machine.step d.app.app.net i with
      | none => exact .none
      | some r =>
        refine .some ⟨rfl, ⟨h.inStep, h.sec1, h.table1, h.sec0, h.isOpen, h.table0, ?_⟩⟩
        change { s.dev.app with app := { s.dev.app.app with net := r.1 } } = _
        rw [h.app]
    · exact .none

/-- **Encryption is transparent.** Start a service twice, with security 1 and with
security 0, for the same application. Complete the handshake with the first, whose
proof of possession the client has, and open a session on the second. Then the same
requests to endpoints with handlers, in the plain and through the cipher, under calls
that succeed, and the same events in between, show the same: return values, handler
calls, what the client reads in the end, and the state of the application after every
step. -/
theorem encryption_transparent {P : Psa} {pb : Nanopb} (hpb : Codec pb) (B : Backend N I O E)
    {invoke : H → Option X → ReqHandler (App N E)} {sentinel : Sec1Ctx} {pop : Option CStr}
    {custom : List (CustomEp H X)} {e₀ e₁ : StartEnv} {s₀ s₁ : PlainDevice N E H X}
    (h₀ : registerEndpoints (B.service invoke (networkProvSecurity0 pb sentinel) (networkProvSecurity1 P pb))
      false pop e₀ custom = .ok s₀.pc)
    (h₁ : registerEndpoints (B.service invoke (networkProvSecurity0 pb sentinel) (networkProvSecurity1 P pb))
      true pop e₁ custom = .ok s₁.pc)
    (happ : s₁.app = s₀.app) {r : Draws} {shared : Bytes} {clientPop : Option CStr}
    (hkeys : PopSetting P r.devicePriv r.clientPriv shared (r.reqRandom 0) [])
    (hpop : (charsOf pop).take 63 = charsOf clientPop) (e : Env) (ls : List (StackInput I))
    (hls : ∀ l ∈ ls, Servable s₀.pc.endpoints l) :
    (secureStack B P).observe (·.dev.app) (freshStack P pb r s₁ clientPop) ls =
      (plainStack B).observe (·.app) (protocommOpenSession e s₀) ls := by
  have hpc₀ := registerEndpoints_eq h₀
  have hpc₁ := registerEndpoints_eq h₁
  have hsec₀ : s₀.pc.sec = some (networkProvSecurity0 pb sentinel) := congrArg (·.sec) hpc₀
  have hsec₁ : s₁.pc.sec = some (networkProvSecurity1 P pb) := congrArg (·.sec) hpc₁
  have hep : SecurityEp s₁.pc EP_SESSION := findEp_append (congrArg (·.endpoints) hpc₁) rfl
  have heps : s₁.pc.endpoints = s₀.pc.endpoints := by rw [hpc₀, hpc₁]
  have hpop₁ : (charsOf s₁.pc.pop).take 63 = charsOf clientPop := by rw [hpc₁]; exact hpop
  obtain ⟨c', w', d', hh, hcfg, hd', hst⟩ :=
    fresh_inStep hpb hsec₁ (by rw [sessionEp_eq]; exact hep) hkeys hpop₁
  have hcfg₀ : SameConfig s₀ (protocommOpenSession e s₀) := openSession_config e s₀
  have h0 : Alike P pb sentinel s₀.pc.endpoints (freshStack P pb r s₁ clientPop) (protocommOpenSession e s₀) := by
    unfold freshStack
    rw [hh]
    refine ⟨hst, ?_, ?_, ?_, ?_, ?_, ?_⟩
    · rw [hcfg]
      exact hsec₁
    · rw [hcfg]
      exact heps
    · rw [hcfg₀]
      exact hsec₀
    · rw [openSession_plain hsec₀ e]
      rfl
    · rw [hcfg₀]
    · rw [openSession_app, ← happ]
      exact hd'
  exact Machine.observe_alike (fun _ _ h => h.app) (fun _ _ _ hl h => alike_step hl h) ls hls h0

/-- What the context of security 0 points to. -/
def demoSentinel : Sec1Ctx := ⟨.init, [], 0, .zero _, .zero _, .zero _, 0, .init⟩

/-- The Wi-Fi device, started without encryption. -/
def plainDemo : PlainDevice Manager.Net (ReqCalls OnWifi.NetCalls Manager.NetInput) Unit Unit :=
  { demoDevice with pc := { demoDevice.pc with
      sec := some (networkProvSecurity0 (Proto.protoPb wirePb) demoSentinel), pop := none } }

/-- The service of the demonstration, with both schemes. -/
def demoSchemes : Service WifiApp Sec1Ctx KeyStore Unit Unit :=
  demoBackend.service (fun _ _ a _ => (a, 0, [])) (networkProvSecurity0 (Proto.protoPb wirePb) demoSentinel)
    (networkProvSecurity1 vectors (Proto.protoPb wirePb))

theorem encryption_transparent_test :
    (secureStack demoBackend vectors).observe (·.dev.app)
        (freshStack vectors (Proto.protoPb wirePb) testDraws demoDevice (some Security1.pop)) demoInputs =
      (plainStack demoBackend).observe (·.app) (protocommOpenSession (.good [] deviceRandom) plainDemo) demoInputs := by
  have h₀ : registerEndpoints demoSchemes false (some Security1.pop) ⟨true, .empty, 0, 0, 0⟩ [] =
    .ok plainDemo.pc := rfl
  have h₁ : registerEndpoints demoSchemes true (some Security1.pop) ⟨true, .empty, 0, 0, 0⟩ [] =
    .ok demoDevice.pc := rfl
  refine encryption_transparent (Proto.protoPb_codec wirePb) demoBackend h₀ h₁ rfl demo_provisioned.keys
    demo_provisioned.pop _ _ fun l hl q hq => ?_
  rw [hq] at hl
  simp only [demoInputs, send, List.mem_cons, StackInput.request.injEq, reduceCtorEq, List.not_mem_nil,
    or_false, false_or] at hl
  rcases hl with rfl | rfl | rfl <;> exact ⟨⟨_, rfl⟩, _, rfl⟩

end NetworkProv.Stack
