import NetworkProv.Stack.Established

/-!
# Before the proof of possession

What a client gets and does at a device that runs security 1 as long as its
session has no verified Command1. `gated_iff` leaves it one way to a handler,
the empty request. An empty message is one of type 0, and what that is differs
between the network types.

* `unheard_run`: a client without the proof gets no byte from a data endpoint, one of
  the application's or not, and only empty requests reach a handler.
* `wifi_unverified`: on Wi-Fi, at the service's own endpoints, these start a scan and do
  nothing else.
* `thread_unverified`: on Thread they do nothing.

Limitation: what the application's handler does when it is called with nothing is its
own, so the network side is compared over steps that call none of its handlers.
-/
namespace NetworkProv.Stack
open NetworkProv.Core Protocomm Security1 Session Endpoints

variable {N I O E H X : Type}

/-! ## A device and whoever talks to it -/

abbrev Dev (N E H X : Type) := PcSession (EpApp (App N E) H X)

def devNet (s : Dev N E H X) : N := s.app.app.net

inductive DevInput (I : Type)
  /-- a session is opened or closed, or a request comes in -/
  | op (l : PcOp)
  | event (i : I)

inductive DevOut (O : Type)
  | reply (r : Reply)
  | event (o : O)

def deviceStep (B : Backend N I O E) (s : Dev N E H X) : DevInput I → Option (Dev N E H X × DevOut O)
  | .op l => (s.step l).map fun r => (r.1, .reply r.2)
  | .event i =>
    if B.isEvent i then
      (B.machine.step (devNet s) i).map fun r =>
        ({ s with app := { s.app with app := { s.app.app with net := r.1 } } }, .event r.2)
    else none

def device (B : Backend N I O E) : Machine (Dev N E H X) (DevInput I) (DevOut O) := ⟨deviceStep B⟩

abbrev DevEntry (N I O E H X : Type) := Entry (Dev N E H X) (DevInput I) (DevOut O)

theorem op_step {B : Backend N I O E} {s s' : Dev N E H X} {l : PcOp} {o : DevOut O}
    (h : (device B).Ok ⟨s, .op l, o, s'⟩) : ∃ r, s.step l = some (s', r) ∧ o = .reply r := by
  obtain ⟨⟨s₁, r⟩, hs, he⟩ := Option.map_eq_some_iff.1 (show (s.step l).map _ = some (s', o) from h)
  cases he
  exact ⟨r, hs, rfl⟩

/-- The step as one of protocomm, if it is. -/
def pcEntry (x : DevEntry N I O E H X) : Option (Sec1PcEntry (EpApp (App N E) H X)) :=
  match x.lbl, x.out with
  | .op l, .reply r => some ⟨x.pre, l, r, x.post⟩
  | _, _ => none

theorem pcEntry_ok {B : Backend N I O E} {x : DevEntry N I O E H X} (hx : (device B).Ok x)
    {y : Sec1PcEntry (EpApp (App N E) H X)} (hy : pcEntry x = some y) :
    Protocomm.machine.Ok y ∧ y.pre = x.pre ∧ y.post = x.post ∧ x.lbl = .op y.lbl ∧ x.out = .reply y.out := by
  obtain ⟨s, l, o, s'⟩ := x
  unfold pcEntry at hy
  cases l with
  | event i => cases hy
  | op l =>
    obtain ⟨r, hs, rfl⟩ := op_step hx
    cases hy
    exact ⟨hs, rfl, rfl, rfl, rfl⟩

/-- An event changes nothing but the network side. -/
theorem event_pc {B : Backend N I O E} {x : DevEntry N I O E H X} (hx : (device B).Ok x)
    (hy : pcEntry x = none) : x.post.pc = x.pre.pc := by
  obtain ⟨s, l, o, s'⟩ := x
  cases l with
  | op l =>
    obtain ⟨r, -, rfl⟩ := op_step hx
    cases hy
  | event i =>
    change deviceStep B s (.event i) = some (s', o) at hx
    unfold deviceStep at hx
    dsimp only at hx
    split at hx
    · obtain ⟨r, -, he⟩ := Option.map_eq_some_iff.1 hx
      cases he
      rfl
    · cases hx

/-- What every run keeps: a session in SEC1_DONE was verified, and the table has the
service's handlers. -/
structure DevInv (B : Backend N I O E) (P : Psa) (pb : Nanopb) (t : List (DevEntry N I O E H X))
    (s : Dev N E H X) : Prop where
  session : SessionInv P pb (t.filterMap pcEntry) s
  serving : B.Serving s.pc

theorem devInv_step {B : Backend N I O E} {P : Psa} {pb : Nanopb} {t : List (DevEntry N I O E H X)}
    {x : DevEntry N I O E H X} (hx : (device B).Ok x) (h : DevInv B P pb t x.pre) :
    DevInv B P pb (t ++ [x]) x.post := by
  cases hy : pcEntry x with
  | none =>
    have hpc := event_pc hx hy
    refine ⟨?_, by rw [hpc]; exact h.serving⟩
    rw [List.filterMap_append, List.filterMap_cons_none hy, List.filterMap_nil, List.append_nil]
    obtain ⟨h1, h2, h3⟩ := h.session
    exact ⟨by rw [hpc]; exact h1, by rw [hpc]; exact h2, by rw [hpc]; exact h3⟩
  | some y =>
    obtain ⟨hok, hpre, hpost, -, -⟩ := pcEntry_ok hx hy
    have hstep := sessionInv_step hok (by rw [hpre]; exact h.session)
    have hcfg : SameConfig y.pre y.post := Session.step_config hok
    rw [hpre, hpost] at hcfg
    rw [hpost] at hstep
    refine ⟨?_, serving_congr (by rw [hcfg]) h.serving⟩
    rw [List.filterMap_append, List.filterMap_cons_some hy]
    exact hstep

theorem devInv_run {B : Backend N I O E} {P : Psa} {pb : Nanopb} {s₀ s : Dev N E H X}
    {t : List (DevEntry N I O E H X)} (hsec : s₀.pc.sec = some (networkProvSecurity1 P pb))
    (hc : s₀.pc.secCtx = none) (hserv : B.Serving s₀.pc) (hr : (device B).Run s₀ t s) :
    DevInv B P pb t s := by
  refine hr.history (P := DevInv B P pb) ⟨⟨hsec, fun ctx h => ?_, fun ctx h => ?_⟩, hserv⟩
    fun t x _ hx ih => devInv_step hx ih
  all_goals rw [hc] at h; cases h

/-! ## One request -/

theorem runHandler_unverified {σ : Type} {P : Psa} {pb : Nanopb} {e : ReqEnv} {s s' : PcSession σ} {name : CStr}
    {hd : ReqHandler σ} {plain : Bytes} {r : Reply} {ctx : Sec1Ctx} (hc : s.pc.secCtx = some ctx)
    (hnd : ctx.state ≠ .done)
    (h : runHandler (networkProvSecurity1 P pb) e s name hd plain = (s', r)) : r.out = [] := by
  unfold runHandler at h
  dsimp only at h
  split at h
  · cases h; rfl
  split at h
  · cases h; rfl
  split at h
  · cases h; rfl
  split at h
  · cases h; rfl
  · rename_i enc c henc
    rw [show ({ s with app := (hd s.app plain).1 } : PcSession σ).pc.secCtx = some ctx from hc] at henc
    rcases sec1Encrypt_cases henc with ⟨-, h, -⟩ | ⟨hd, -⟩ | ⟨hd, -⟩
    · cases h
    · exact absurd hd hnd
    · exact absurd hd hnd

/-- A data request to a session that is not in SEC1_DONE: no byte comes back, and the
handler is called with nothing or not at all. -/
theorem dataReq_unverified {σ : Type} {P : Psa} {pb : Nanopb} {e : ReqEnv} {s s' : PcSession σ} {name : CStr}
    {hd : ReqHandler σ} {inbuf : Bytes} {r : Reply} (hsec : s.pc.sec = some (networkProvSecurity1 P pb))
    (hep : DataEp s.pc name hd) (hnd : ∀ ctx, s.pc.secCtx = some ctx → ctx.state ≠ .done)
    (h : protocommReqHandle e s (some name) inbuf = (s', r)) :
    r.out = [] ∧ (s'.app = s.app ∨ inbuf = [] ∧ s'.app = (hd s.app []).1) := by
  unfold DataEp at hep
  cases hc : s.pc.secCtx with
  | none =>
    have hf : protocommReqHandle e s (some name) inbuf = (s, .fail (-EACCES)) := by
      simp [protocommReqHandle, hep, hsec, hc]
    rw [hf] at h
    cases h
    exact ⟨rfl, .inl rfl⟩
  | some ctx =>
    have hdata : handleData (networkProvSecurity1 P pb) e s name hd inbuf = (s', r) := by
      simpa [protocommReqHandle, hep, hsec, hc] using h
    rcases handleData_cases hdata with ⟨-, -, rfl, rfl⟩ | ⟨-, -, ret, c, -, rfl, rfl⟩ | ⟨plain, s₁, hde, hr⟩
    · exact ⟨rfl, .inl rfl⟩
    · exact ⟨rfl, .inl rfl⟩
    · cases hde with
      | empty h0 => exact ⟨runHandler_unverified hc (hnd ctx hc) hr, .inr ⟨h0, runHandler_app hr⟩⟩
      | decrypt _ _ hdec =>
        rw [hc] at hdec
        rcases sec1Encrypt_cases hdec with ⟨-, h, -⟩ | ⟨hd, -⟩ | ⟨hd, -⟩
        · cases h
        · exact absurd hd (hnd ctx hc)
        · exact absurd hd (hnd ctx hc)

/-- A Command1 of the session that is open has been verified. -/
def Verified (P : Psa) (pb : Nanopb) (t : List (DevEntry N I O E H X)) : Prop :=
  VerifiedSinceOpen P pb (t.filterMap pcEntry)

/-- What a client gets and does in a step while it is not verified: no byte comes back from a
data endpoint, the application's included, and no byte of a request reaches a handler. -/
structure Unheard (x : DevEntry N I O E H X) : Prop where
  silent : ∀ e ep hd inbuf r, x.lbl = .op (.req e (some ep) inbuf) → DataEp x.pre.pc ep hd →
    x.out = .reply r → r.out = []
  unread : ∀ l, x.lbl = .op l → x.post.app = x.pre.app ∨
    ∃ e ep hd, l = .req e (some ep) [] ∧ DataEp x.pre.pc ep hd ∧ x.post.app = (hd x.pre.app []).1

theorem unheard_request {B : Backend N I O E} {P : Psa} {pb : Nanopb} {t : List (DevEntry N I O E H X)}
    {x : DevEntry N I O E H X} (hx : (device B).Ok x) (hinv : DevInv B P pb t x.pre)
    (hnv : ¬ Verified P pb t) : Unheard x := by
  obtain ⟨s, l, o, s'⟩ := x
  have hnd : ∀ ctx, s.pc.secCtx = some ctx → ctx.state ≠ .done :=
    fun ctx hc hd => hnv (hinv.session.verified ctx hc hd)
  constructor
  · intro e ep hd inbuf r hl hep hr
    cases hl
    cases hr
    obtain ⟨r₁, hs, he⟩ := op_step hx
    cases he
    exact (dataReq_unverified hinv.session.sec hep hnd (Option.some.inj hs)).1
  · intro l hl
    cases hl
    obtain ⟨r, hs, -⟩ := op_step hx
    cases l with
    | openSession e =>
      cases hs
      exact .inl (openSession_app e s)
    | closeSession =>
      cases hs
      exact .inl (closeSession_app s)
    | req e epName inbuf =>
      simp only [Session.step, Option.some.injEq] at hs
      rcases reqHandle_call hs with ⟨-, happ⟩ | ⟨ep, hd, plain, app, ret, out, rfl, hep, -, -, -⟩
      · exact .inl happ
      · rcases (dataReq_unverified hinv.session.sec hep hnd hs).2 with happ | ⟨rfl, happ⟩
        · exact .inl happ
        · exact .inr ⟨e, ep, hd, rfl, hep, happ⟩

/-- The step is a client's, and no request to an endpoint of the application. What the
handler of such an endpoint does when it is called, be it with nothing, is up to the application. -/
def OwnOp (B : Backend N I O E) (x : DevEntry N I O E H X) : Prop :=
  ∃ l, x.lbl = .op l ∧ ∀ e ep inbuf hd, l = .req e (some ep) inbuf → DataEp x.pre.pc ep hd →
    (B.handler ep).isSome

/-- What such a step does is what the service's handlers do with empty requests. -/
theorem Unheard.own {B : Backend N I O E} {x : DevEntry N I O E H X} (h : Unheard x)
    (hserv : B.Serving x.pre.pc) (hown : OwnOp B x) :
    devNet x.post = devNet x.pre ∨ ∃ e ep hd, x.lbl = .op (.req e (some ep) []) ∧ B.handler ep = some hd ∧
      devNet x.post = (hd x.pre.app.app []).1.net := by
  obtain ⟨l, hl, hown⟩ := hown
  unfold devNet
  rcases h.unread l hl with happ | ⟨e, ep, hd, rfl, hep, happ⟩
  · exact .inl (by rw [happ])
  · obtain ⟨hd', hh⟩ := Option.isSome_iff_exists.1 (hown e ep [] hd rfl hep)
    have heq : hd = onApp hd' := by
      have hep' := hserv ep hd' hh
      unfold DataEp at hep hep'
      rw [hep] at hep'
      simpa using hep'
    refine .inr ⟨e, ep, hd', hl, hh, ?_⟩
    rw [happ, heq]
    rfl

/-- After any run of a device from its start. -/
theorem unheard_run {B : Backend N I O E} {P : Psa} {pb : Nanopb} {s₀ : Dev N E H X}
    {t : List (DevEntry N I O E H X)} {x : DevEntry N I O E H X} (hst : StartedWith B P pb s₀.pc)
    (hr : (device B).Run s₀ t x.pre) (hx : (device B).Ok x) (hnv : ¬ Verified P pb t) :
    Unheard x ∧ B.Serving x.pre.pc := by
  obtain ⟨hserv, -, hsec, hc⟩ := hst.table
  have hinv := devInv_run hsec hc hserv hr
  exact ⟨unheard_request hx hinv hnv, hinv.serving⟩

/-- A request that is answered at once. -/
theorem Kind.serve_net {Q R : Type} {K : Kind N I O E Q R} {ep : CStr} {a : App N (ReqCalls E I)}
    {inbuf : Bytes} {q : Q} {r : Int × Option R} {n : N} (hq : K.decode ep inbuf = q)
    (h : K.handle (a.env 0).calls q a.net = (some r, n)) : (K.serve ep a inbuf).1.net = n := by
  unfold Kind.serve
  dsimp only
  rw [hq, h]
  rfl

/-! ## Over Wi-Fi -/

section OverWifi
open OnWifi Manager Wifi Proto

/-- An empty message is a start of a scan that does not wait, a poll of the status, and nothing. -/
theorem wifi_decode_empty (maxEntries : Nat) {dpb : PayloadPb} (hdpb : EmptyRead dpb) :
    (wifiKind maxEntries dpb).decode EP_SCAN [] = .scan (some (.cmdScanWifiStart false)) ∧
    (wifiKind maxEntries dpb).decode EP_CONFIG [] = .config (some .cmdGetWifiStatus) ∧
    (wifiKind maxEntries dpb).decode EP_CTRL [] = .ctrl (some .other) := by
  obtain ⟨c, hconfig, hcmsg⟩ := hdpb.config
  obtain ⟨r, hscan, hrmsg, hwhich⟩ := hdpb.scan
  refine ⟨?_, ?_, ?_⟩
  · change netDecode dpb EP_SCAN [] = _
    rw [netDecode, if_pos rfl, decodeScan, hscan, Option.map_some, NetworkScanReq.ofRead, hrmsg, hwhich]
    rfl
  · change netDecode dpb EP_CONFIG [] = _
    rw [netDecode, if_neg (by decide), if_pos rfl, decodeConfig, hconfig, Option.map_some,
      NetworkConfigReq.ofRead, hcmsg]
    rfl
  · change netDecode dpb EP_CTRL [] = _
    rw [netDecode, if_neg (by decide), if_neg (by decide), decodeCtrl, hdpb.ctrl]
    rfl

theorem finish_begin (w : World) : w.finish w.begin = w := by
  simp [World.finish, World.begin]

/-- An empty request starts a scan at the scan endpoint, and does nothing at the others. -/
theorem wifi_empty (maxEntries : Nat) {dpb : PayloadPb} (hdpb : EmptyRead dpb) {ep : CStr} {hd : ReqHandler WifiApp}
    (h : (wifiKind maxEntries dpb).backend.handler ep = some hd) (a : WifiApp) :
    (hd a []).1.net.w = a.net.w ∧ (ep ≠ EP_SCAN → (hd a []).1.net = a.net) := by
  obtain ⟨hscan, hconfig, hctrl⟩ := wifi_decode_empty maxEntries hdpb
  unfold Backend.handler at h
  split at h
  · rename_i he
    cases h
    have hnow : ∃ r, netHandle (a.env 0).calls (.scan (some (.cmdScanWifiStart false))) a.net =
        (some r, scanned (a.env 0).calls.scan (some (.cmdScanWifiStart false)) a.net
          (networkProvWifiScanHandler (a.env 0).calls.scan (some (.cmdScanWifiStart false)) a.net.sc).2) := by
      simp [netHandle, networkProvWifiScanHandler]
    obtain ⟨r, hr⟩ := hnow
    have hs := Kind.serve_net (a := a) hscan hr
    exact ⟨(congrArg Net.w hs).trans rfl, fun hne => absurd he hne⟩
  split at h
  · cases h
    have hsame := (Kind.serve_net (a := a) hconfig rfl).trans
      (show { a.net with w := a.net.w.finish a.net.w.begin } = a.net by rw [finish_begin])
    exact ⟨congrArg Net.w hsame, fun _ => hsame⟩
  split at h
  · cases h
    have hsame := (Kind.serve_net (a := a) hctrl rfl).trans
      (show { a.net with w := a.net.w.finish a.net.w.begin } = a.net by rw [finish_begin])
    exact ⟨congrArg Net.w hsame, fun _ => hsame⟩
  · cases h

/-- **A Wi-Fi device before the proof.** In any run from a start, of sessions opened and
closed, requests of any bytes under any failures, and whatever happens on the Wi-Fi side: as
long as the session that is open has no verified Command1, a client gets no byte from any data
endpoint, the application's own included, and no byte of its requests reaches a handler. Where
it does not call a handler of the application, it leaves the credentials, the store and the
connect requests as they are, and all that it can do to the Wi-Fi side is start a scan, with an
empty request. -/
theorem wifi_unverified {P : Psa} {pb : Nanopb} (maxEntries : Nat) {dpb : PayloadPb} (hdpb : EmptyRead dpb)
    {s₀ : Dev Net (ReqCalls NetCalls NetInput) H X}
    {t : List (DevEntry Net NetInput NetOutput (ReqCalls NetCalls NetInput) H X)}
    {x : DevEntry Net NetInput NetOutput (ReqCalls NetCalls NetInput) H X}
    (hst : StartedWith (wifiKind maxEntries dpb).backend P pb s₀.pc)
    (hr : (device (wifiKind maxEntries dpb).backend).Run s₀ t x.pre)
    (hx : (device (wifiKind maxEntries dpb).backend).Ok x) (hnv : ¬ Verified P pb t) :
    Unheard x ∧ (OwnOp (wifiKind maxEntries dpb).backend x →
      (devNet x.post).w = (devNet x.pre).w ∧
        (devNet x.post = devNet x.pre ∨ ∃ e, x.lbl = .op (.req e (some EP_SCAN) []))) := by
  obtain ⟨hun, hserv⟩ := unheard_run hst hr hx hnv
  refine ⟨hun, fun hown => ?_⟩
  rcases hun.own hserv hown with hnet | ⟨e, ep, hd, hl, hh, hnet⟩
  · exact ⟨by rw [hnet], .inl hnet⟩
  · obtain ⟨hw, hsame⟩ := wifi_empty maxEntries hdpb hh x.pre.app.app
    refine ⟨by rw [hnet, hw]; rfl, ?_⟩
    by_cases he : ep = EP_SCAN
    · subst he
      exact .inr ⟨e, hl⟩
    · exact .inl (hnet.trans (hsame he))

/-- A session is opened and an empty request sent. -/
def openThenEmpty {I : Type} (ep : CStr) : List (DevInput I) :=
  [.op (.openSession (.good devicePriv deviceRandom)), .op (.req goodReq (some ep) [])]

/-- One step, the opening of a session, verifies nothing. -/
theorem unverified_opened {P : Psa} {pb : Nanopb} {t : List (DevEntry N I O E H X)} (h : t.length = 1) :
    ¬ Verified P pb t := by
  rintro ⟨t₁, o, t₂, v, t₃, ht, -⟩
  have hlen := congrArg List.length ht
  have hle := List.length_filterMap_le pcEntry t
  simp only [List.length_append, List.length_cons] at hlen
  omega

theorem wifi_unverified_test : ∃ t x, (device demoBackend).Run demoDevice t x.pre ∧ (device demoBackend).Ok x ∧
    x.lbl = .op (.req goodReq (some EP_SCAN) []) ∧ OwnOp demoBackend x ∧
    (devNet x.pre).scans = 0 ∧ (devNet x.post).scans = 1 ∧
    (Unheard x ∧ (OwnOp demoBackend x → (devNet x.post).w = (devNet x.pre).w ∧
      (devNet x.post = devNet x.pre ∨ ∃ e, x.lbl = .op (.req e (some EP_SCAN) [])))) := by
  obtain ⟨hr, hx⟩ := ((device demoBackend).run_get demoDevice (openThenEmpty EP_SCAN) (by decide +kernel)).last rfl
  exact ⟨_, _, hr, hx, by rfl, ⟨_, rfl, fun e ep inbuf hd hl _ => by cases hl; rfl⟩, by decide +kernel,
    by decide +kernel,
    wifi_unverified 16 protoPayload_empty demo_provisioned.started hr hx (unverified_opened (by rfl))⟩

end OverWifi

/-! ## Over Thread -/

section OverThread
open OnThread Thread Proto

theorem thread_decode_empty (maxEntries : Nat) {dpb : PayloadPb} (hdpb : EmptyRead dpb) :
    (threadKind maxEntries dpb).decode EP_SCAN [] = .scan (some .other) ∧
    (threadKind maxEntries dpb).decode EP_CONFIG [] = .config (some .other) ∧
    (threadKind maxEntries dpb).decode EP_CTRL [] = .ctrl (some .other) := by
  obtain ⟨c, hconfig, hcmsg⟩ := hdpb.config
  obtain ⟨r, hscan, hrmsg, -⟩ := hdpb.scan
  refine ⟨?_, ?_, ?_⟩
  · change netDecode dpb EP_SCAN [] = _
    rw [netDecode, if_pos rfl, decodeScan, hscan, Option.map_some, NetworkScanReq.ofRead, hrmsg]
    rfl
  · change netDecode dpb EP_CONFIG [] = _
    rw [netDecode, if_neg (by decide), if_pos rfl, decodeConfig, hconfig, Option.map_some,
      NetworkConfigReq.ofRead, hcmsg]
    rfl
  · change netDecode dpb EP_CTRL [] = _
    rw [netDecode, if_neg (by decide), if_neg (by decide), decodeCtrl, hdpb.ctrl]
    rfl

/-- Type 0 is a Wi-Fi message at every endpoint. -/
theorem thread_empty (maxEntries : Nat) {dpb : PayloadPb} (hdpb : EmptyRead dpb) {ep : CStr} {hd : ReqHandler ThreadApp}
    (h : (threadKind maxEntries dpb).backend.handler ep = some hd) (a : ThreadApp) :
    (hd a []).1.net = a.net := by
  obtain ⟨hscan, hconfig, hctrl⟩ := thread_decode_empty maxEntries hdpb
  unfold Backend.handler at h
  split at h
  · cases h
    exact (Kind.serve_net (a := a) hscan rfl).trans rfl
  split at h
  · cases h
    exact (Kind.serve_net (a := a) hconfig rfl).trans rfl
  split at h
  · cases h
    exact (Kind.serve_net (a := a) hctrl rfl).trans rfl
  · cases h

/-- **A Thread device before the proof**, likewise: where it does not call a handler of the
application, such a client does nothing to the Thread side, not even with empty requests. -/
theorem thread_unverified {P : Psa} {pb : Nanopb} (maxEntries : Nat) {dpb : PayloadPb} (hdpb : EmptyRead dpb)
    {s₀ : Dev Net (ReqCalls NetCalls NetInput) H X}
    {t : List (DevEntry Net NetInput NetOutput (ReqCalls NetCalls NetInput) H X)}
    {x : DevEntry Net NetInput NetOutput (ReqCalls NetCalls NetInput) H X}
    (hst : StartedWith (threadKind maxEntries dpb).backend P pb s₀.pc)
    (hr : (device (threadKind maxEntries dpb).backend).Run s₀ t x.pre)
    (hx : (device (threadKind maxEntries dpb).backend).Ok x) (hnv : ¬ Verified P pb t) :
    Unheard x ∧ (OwnOp (threadKind maxEntries dpb).backend x → devNet x.post = devNet x.pre) := by
  obtain ⟨hun, hserv⟩ := unheard_run hst hr hx hnv
  refine ⟨hun, fun hown => ?_⟩
  rcases hun.own hserv hown with hnet | ⟨e, ep, hd, -, hh, hnet⟩
  · exact hnet
  · exact hnet.trans (thread_empty maxEntries hdpb hh x.pre.app.app)

theorem thread_unverified_test : ∃ t x, (device threadBackend).Run threadDemo t x.pre ∧
    (device threadBackend).Ok x ∧ x.lbl = .op (.req goodReq (some EP_SCAN) []) ∧ OwnOp threadBackend x ∧
    (Unheard x ∧ (OwnOp threadBackend x → devNet x.post = devNet x.pre)) := by
  obtain ⟨hr, hx⟩ := ((device threadBackend).run_get threadDemo (openThenEmpty EP_SCAN) (by decide +kernel)).last rfl
  exact ⟨_, _, hr, hx, by rfl, ⟨_, rfl, fun e ep inbuf hd hl _ => by cases hl; rfl⟩,
    thread_unverified 16 protoPayload_empty threadDemo_provisioned.started hr hx (unverified_opened (by rfl))⟩

end OverThread

end NetworkProv.Stack
