import NetworkProv.Manager.EndpointTable
import NetworkProv.Security.Channel

/-!
# The protocol stack of a device

From the client's messages down to the handlers of a network type: the secure
channel, protocomm with the table that a start fills, and handlers that take
and answer bytes. Between the requests the network side goes through its own
events. The network side is a parameter, a `Backend`: its state machine, and
for every handler which run of that machine a request comes to.

* `StartedWith.table`: a start makes a table that serves the three endpoints.
* `stack_refines`: a run of the stack over an established channel is a run of
  the machine. What the client sends and gets is what its requests bring there.
-/
namespace NetworkProv.Stack
open NetworkProv.Core Protocomm Security1 Endpoints

/-- The network side under the handlers, and what is answered to the calls of the
requests to come. -/
structure App (N E : Type) where
  net : N
  env : Nat → E

/-- After one more request. -/
def App.next {N E : Type} (a : App N E) (net : N) : App N E := ⟨net, fun n => a.env (n + 1)⟩

/-- `Answers ep inbuf t ret out`: the run `t` is what a request `inbuf` to `ep` that is
answered with `ret` and `out` comes to. -/
structure Backend (N I O E : Type) where
  machine : Machine N I O
  /-- not a request -/
  isEvent : I → Bool
  scan : ReqHandler (App N E)
  config : ReqHandler (App N E)
  ctrl : ReqHandler (App N E)
  /-- between two requests of a started service -/
  Ready : N → Prop
  Answers : CStr → Bytes → List (Entry N I O) → Int → Bytes → Prop

variable {N I O E H X : Type}

namespace Backend

def handler (B : Backend N I O E) (ep : CStr) : Option (ReqHandler (App N E)) :=
  if ep = EP_SCAN then some B.scan
  else if ep = EP_CONFIG then some B.config
  else if ep = EP_CTRL then some B.ctrl
  else none

def service {C W : Type} (B : Backend N I O E) (invoke : H → Option X → ReqHandler (App N E))
    (security0 security1 : ProtocommSecurity C W) : Service (App N E) C W H X :=
  ⟨B.scan, B.config, B.ctrl, invoke, security0, security1⟩

/-- The table has the handlers. -/
def Serving {C W : Type} (B : Backend N I O E) (pc : Pc (App N E) C W H X) : Prop :=
  ∀ ep h, B.handler ep = some h → DataEp pc ep (onApp h)

/-- What the handlers do is what the machine does. -/
structure Lawful (B : Backend N I O E) : Prop where
  serves : ∀ ep h, B.handler ep = some h → ∀ a inbuf, B.Ready a.net →
    ∃ t, B.machine.Run a.net t (h a inbuf).1.net ∧ B.Ready (h a inbuf).1.net ∧
      B.Answers ep inbuf t (h a inbuf).2.1 (h a inbuf).2.2
  events : ∀ n n' i o, B.machine.step n i = some (n', o) → B.isEvent i = true → B.Ready n → B.Ready n'

end Backend

/-! ## The table of a start -/

theorem findEp_append {σ C W : Type} {pc : Protocomm σ C W} {name : CStr} {ep : ProtocommEp σ}
    {eps l : List (ProtocommEp σ)} (he : pc.endpoints = eps ++ l)
    (h : eps.find? (fun ep => ep.name = name) = some ep) : pc.findEp name = some ep := by
  unfold findEp
  rw [he, List.find?_append, h]
  rfl

/-- What a start adds for the custom endpoints from the `i`th slot on. -/
def addedEps {A C W : Type} (S : Service A C W H X) : Nat → List (CustomEp H X) → List (ProtocommEp (EpApp A H X))
  | _, [] => []
  | i, ep :: eps =>
    if !ep.created then addedEps S (i + 1) eps
    else ⟨ep.name, .data (customTrampoline S i)⟩ :: addedEps S (i + 1) eps

theorem addCustomEndpoints_eq {A C W : Type} {S : Service A C W H X} :
    ∀ (eps : List (CustomEp H X)) (i : Nat) {pc pc' : Pc A C W H X},
      addCustomEndpoints S i eps pc = .ok pc' → pc' = { pc with endpoints := pc.endpoints ++ addedEps S i eps }
  | [], _, pc, pc', h => by
    cases h
    simp [addedEps]
  | ep :: eps, i, pc, pc', h => by
    unfold addCustomEndpoints at h
    unfold addedEps
    split at h
    · rename_i hc
      rw [if_pos hc]
      exact addCustomEndpoints_eq eps (i + 1) h
    · rename_i hc
      rw [if_neg hc]
      generalize ha : protocommAddEndpoint pc (some ep.name) (customTrampoline S i) = r at h
      cases r with
      | error ret => cases h
      | ok pc₁ =>
        rw [addCustomEndpoints_eq eps (i + 1) (show _ = Except.ok pc' from h)]
        unfold protocommAddEndpoint addEp at ha
        dsimp only at ha
        split at ha
        · cases ha
        split at ha
        · cases ha
        split at ha
        · cases ha
        · cases ha
          simp

/-- The table of a start. The scheme is the only difference between two starts of a service. -/
theorem registerEndpoints_eq {A C W : Type} {S : Service A C W H X} {security1 : Bool} {pop : Option CStr}
    {e : StartEnv} {custom : List (CustomEp H X)} {pc : Pc A C W H X}
    (h : registerEndpoints S security1 pop e custom = .ok pc) :
    pc = ⟨builtinEps S ++ addedEps S 0 custom, some (if security1 then S.security1 else S.security0),
      if security1 then pop else none, none, some e.versionJson⟩ := by
  obtain ⟨hs, hc⟩ := inits_of_ok h
  rw [builtins_ok security1 pop hs hc] at h
  exact addCustomEndpoints_eq custom 0 h

/-- The table is that of a start with security 1. -/
def StartedWith (B : Backend N I O E) (P : Psa) (pb : Session.Nanopb)
    (pc : Pc (App N E) Sec1Ctx KeyStore H X) : Prop :=
  ∃ invoke security0 pop e custom,
    registerEndpoints (B.service invoke security0 (networkProvSecurity1 P pb)) true pop e custom = .ok pc

/-- Such a table has the handlers of the network type, whatever the application's endpoints are. -/
theorem StartedWith.table {B : Backend N I O E} {P : Psa} {pb : Session.Nanopb}
    {pc : Pc (App N E) Sec1Ctx KeyStore H X} (h : StartedWith B P pb pc) :
    B.Serving pc ∧ SecurityEp pc EP_SESSION ∧ pc.sec = some (networkProvSecurity1 P pb) ∧ pc.secCtx = none := by
  obtain ⟨invoke, security0, pop, e, custom, h⟩ := h
  have hpc := registerEndpoints_eq h
  have hl : pc.endpoints = builtinEps _ ++ addedEps _ 0 custom := congrArg (·.endpoints) hpc
  refine ⟨fun ep hd hep => ?_, findEp_append hl rfl, congrArg (·.sec) hpc,
    congrArg (·.secCtx) hpc⟩
  unfold Backend.handler at hep
  split at hep
  · rename_i he
    cases hep
    rw [he]
    exact findEp_append hl rfl
  split at hep
  · rename_i he
    cases hep
    rw [he]
    exact findEp_append hl rfl
  split at hep
  · rename_i he
    cases hep
    rw [he]
    exact findEp_append hl rfl
  · cases hep

/-! ## The stack -/

inductive StackInput (I : Type)
  | request (q : ChanReq)
  | event (i : I)

inductive StackOut (O : Type)
  | exchange (o : ChanOut)
  | event (o : O)

abbrev StackState (N E H X : Type) := Channel (EpApp (App N E) H X)

def net (s : StackState N E H X) : N := s.dev.app.app.net

def withNet (s : StackState N E H X) (n : N) : StackState N E H X :=
  { s with dev := { s.dev with app := { s.dev.app with app := { s.dev.app.app with net := n } } } }

def stackStep (B : Backend N I O E) (P : Psa) (s : StackState N E H X) :
    StackInput I → Option (StackState N E H X × StackOut O)
  | .request q =>
    match exchange P s q with
    | (s, o) => some (s, .exchange o)
  | .event i =>
    if B.isEvent i then (B.machine.step (net s) i).map fun r => (withNet s r.1, .event r.2) else none

def stack (B : Backend N I O E) (P : Psa) : Machine (StackState N E H X) (StackInput I) (StackOut O) :=
  ⟨stackStep B P⟩

abbrev StackEntry (N I O E H X : Type) := Entry (StackState N E H X) (StackInput I) (StackOut O)

/-- The step is a request to an endpoint of the network type, and the calls under it succeed. -/
def Orderly (B : Backend N I O E) (x : StackEntry N I O E H X) : Prop :=
  ∀ q, x.lbl = .request q → (∃ e, q.env = .good e) ∧ (B.handler q.ep).isSome

/-- What a step of the stack shows is what the run `t` of the machine shows. -/
def Carries (B : Backend N I O E) (x : StackEntry N I O E H X) (t : List (Entry N I O)) : Prop :=
  match x.lbl, x.out with
  | .request q, .exchange o =>
    ∃ out, B.Answers q.ep q.msg t o.reply.ret out ∧ (o.reply.ret = 0 → o.plain = some out)
  | .event i, .event o => t = [⟨net x.pre, i, o, net x.post⟩]
  | _, _ => False

/-- What every run of the stack keeps. -/
structure StackInv (B : Backend N I O E) (P : Psa) (pb : Session.Nanopb) (s : StackState N E H X) : Prop where
  channel : ChannelInv P pb s.dev s
  serving : B.Serving s.dev.pc
  ready : B.Ready (net s)

theorem serving_congr {C W : Type} {B : Backend N I O E} {pc pc' : Pc (App N E) C W H X}
    (he : pc'.endpoints = pc.endpoints) (h : B.Serving pc) : B.Serving pc' := by
  intro ep hd hep
  have := h ep hd hep
  unfold DataEp findEp at this ⊢
  rwa [he]

theorem stack_request {B : Backend N I O E} (hB : B.Lawful) {P : Psa} {pb : Session.Nanopb}
    {s s' : StackState N E H X} {q : ChanReq} {o : ChanOut} (hx : exchange P s q = (s', o))
    (hq : (∃ e, q.env = .good e) ∧ (B.handler q.ep).isSome) (h : StackInv B P pb s) :
    StackInv B P pb s' ∧ ∃ t out, B.machine.Run (net s) t (net s') ∧
      B.Answers q.ep q.msg t o.reply.ret out ∧ (o.reply.ret = 0 → o.plain = some out) := by
  obtain ⟨⟨e, he⟩, hh⟩ := hq
  obtain ⟨hd, hhd⟩ := Option.isSome_iff_exists.1 hh
  have hep := h.serving q.ep hd hhd
  have hok : (channel P).Ok ⟨s, q, o, s'⟩ := congrArg some hx
  obtain ⟨hinv, hrt⟩ := channelInv_step hok ⟨e, _, he, hep⟩ h.channel
  obtain ⟨ret, out, ha, hret, hplain⟩ := hrt.post_app hok hep
  obtain ⟨t, hrun, hready, hans⟩ := hB.serves q.ep hd hhd s.dev.app.app q.msg h.ready
  have happ : s'.dev.app = { s.dev.app with app := (hd s.dev.app.app q.msg).1 } ∧
      (hd s.dev.app.app q.msg).2 = (ret, out) := by
    simp only [onApp, Prod.mk.injEq] at ha
    exact ⟨ha.1.symm, ha.2⟩
  have hnet : net s' = (hd s.dev.app.app q.msg).1.net := by
    unfold net
    rw [happ.1]
  have hcfg : SameConfig s.dev s'.dev := hinv.config
  refine ⟨⟨⟨hinv.sec, .refl _, hinv.inStep⟩, ?_, ?_⟩, t, out, ?_, ?_, ?_⟩
  · refine serving_congr ?_ h.serving
    rw [hcfg]
  · rw [hnet]
    exact hready
  · rw [hnet]
    exact hrun
  · rw [happ.2] at hans
    rw [show o.reply.ret = ret from hret]
    exact hans
  · intro h0
    exact hplain (hret.symm.trans h0)

theorem stack_step {B : Backend N I O E} (hB : B.Lawful) {P : Psa} {pb : Session.Nanopb}
    {x : StackEntry N I O E H X} (hx : (stack B P).Ok x) (hc : Orderly B x) (h : StackInv B P pb x.pre) :
    StackInv B P pb x.post ∧ ∃ t, B.machine.Run (net x.pre) t (net x.post) ∧ Carries B x t := by
  obtain ⟨s, l, o, s'⟩ := x
  change stackStep B P s l = some (s', o) at hx
  cases l with
  | request q =>
    unfold stackStep at hx
    cases hx
    obtain ⟨hinv, t, out, hrun, hans, hplain⟩ := stack_request hB rfl (hc q rfl) h
    exact ⟨hinv, t, hrun, out, hans, hplain⟩
  | event i =>
    unfold stackStep at hx
    dsimp only at hx
    split at hx
    · rename_i hi
      obtain ⟨⟨n, o⟩, hr, heq⟩ := Option.map_eq_some_iff.1 hx
      cases heq
      refine ⟨⟨⟨h.channel.sec, .refl _, h.channel.inStep⟩, h.serving, hB.events _ _ i o hr hi h.ready⟩,
        [⟨net s, i, o, n⟩], .one (e := ⟨net s, i, o, n⟩) hr, rfl⟩
    · cases hx

/-- **The stack is transparent.** Take an established channel to a device that serves
its endpoints. In every run of requests to these and of events of the network side,
the network side goes through a run of its machine, made up of one run for each step;
of an event that is its own step, of a request what the handler of its endpoint does with
the client's message, and the client gets the answer as it was given. -/
theorem stack_refines {B : Backend N I O E} (hB : B.Lawful) {P : Psa} {pb : Session.Nanopb}
    {s₀ s : StackState N E H X} {t : List (StackEntry N I O E H X)} (h0 : StackInv B P pb s₀)
    (hr : (stack B P).Run s₀ t s) (hc : ∀ x ∈ t, Orderly B x) :
    StackInv B P pb s ∧ ∃ ts, B.machine.Run (net s₀) ts.flatten (net s) ∧ List.Forall₂ (Carries B) t ts :=
  hr.expand (fun _ hx hc h => stack_step hB hx hc h) h0 hc

end NetworkProv.Stack
