import NetworkProv.Security.Seen
import NetworkProv.Transport.HttpIsolation

/-!
# What the clients get over HTTP

* `http_refines`: the callbacks of any number of clients come to a run of protocomm, one
  request for each request of a client that is taken whole.
* `http_verified`: with security 1, bytes reach a handler only under the cookie of a session
  in which a Command1 was verified, under the same cookie.
-/
namespace NetworkProv.Http
open NetworkProv.Core Core.Machine Protocomm Security1 Session

variable {κ σ C W : Type} {w : ULong}

/-! ## What a callback asks for -/

/-- What a callback asks of protocomm, and what it answers. -/
structure Asks (x : HttpEntry κ σ C W) (q : HttpCall) : Prop where
  status : x.lbl.status = .final
  ret : x.out.ret = 0
  ep : q.ep = epName x.lbl.userData x.lbl.url
  asked : ask (x.out.opened.map fun _ => x.lbl.env.openSession) x.lbl.env.req q.ep q.inbuf x.pre.sess =
    (x.post.sess, q.reply)
  resp : x.out.resp = some (respond x.post.http.sessionId q.reply)
  valid : x.post.http.sessionValid = true
  id : ∀ id, x.out.opened = some id → x.post.http.sessionId = id

/-- A request that is run in the open session has its cookie. -/
structure Continues (w : ULong) (x : HttpEntry κ σ C W) : Prop where
  valid : x.pre.http.sessionValid = true
  id : x.post.http.sessionId = x.pre.http.sessionId
  admits : x.pre.http.Admits x.lbl.client
  cookie : (x.pre.http.take w x.lbl.client x.lbl.ctx).cookie = some x.pre.http.sessionId

/-- A callback that asks for nothing. -/
structure Idles (x : HttpEntry κ σ C W) : Prop where
  call : x.out.call = none
  opened : x.out.opened = none
  resp : x.out.resp = none
  status : x.lbl.status = .final → x.out.ret ≠ 0
  sess : x.post.sess = x.pre.sess
  valid : x.post.http.sessionValid = x.pre.http.sessionValid
  id : x.post.http.sessionId = x.pre.http.sessionId

theorem http_cases [DecidableEq κ] {x : HttpEntry κ σ C W} (hx : (httpMachine w).Ok x) :
    Idles x ∨ ∃ q, x.out.call = some q ∧ Asks x q ∧ (x.out.opened = none → Continues w x) := by
  obtain ⟨n, a, o, n'⟩ := x
  change HttpNet.step w n a = some (n', o) at hx
  unfold HttpNet.step at hx
  split at hx
  · cases hx
  by_cases hp : a.IsPart
  · by_cases hadm : n.http.Admits a.client
    · by_cases hfit : n.http.reqBuf.length + a.ctx.data.length ≤ REQ_BUF_LEN
      · rcases hp with hm | hf
        · simp only [handler_more _ hm hadm hfit, Option.some.injEq, Prod.mk.injEq] at hx
          obtain ⟨rfl, rfl⟩ := hx
          refine .inl ⟨rfl, rfl, rfl, fun hf => ?_, rfl, take_sessionValid .., take_sessionId ..⟩
          rw [show a.status = _ from hf] at hm
          cases hm
        · simp only [handler_final _ hf hadm hfit] at hx
          rcases dispatch_cases a.env (epName a.userData a.url) (n.http.take w a.client a.ctx) n.sess with
            ⟨hvalid, hck, s', r, hreq, heq⟩ | ⟨-, s', r, hreq, heq⟩
          · rw [heq] at hx
            cases hx
            rw [take_sessionId] at hck
            exact .inr ⟨_, rfl, ⟨hf, rfl, rfl, hreq, rfl, hvalid, fun id h => by cases h⟩,
              fun _ => ⟨(take_sessionValid w a.client a.ctx n.http).symm.trans hvalid, take_sessionId .., hadm, hck⟩⟩
          · rw [heq] at hx
            cases hx
            exact .inr ⟨_, rfl, ⟨hf, rfl, rfl, hreq, rfl, rfl, fun id h => Option.some.inj h⟩,
              fun h => by cases h⟩
      · simp only [handler_long _ hp hadm (Nat.lt_of_not_le hfit), Option.some.injEq, Prod.mk.injEq] at hx
        obtain ⟨rfl, rfl⟩ := hx
        exact .inl ⟨rfl, rfl, rfl, fun _ => (by decide : -ENOMEM ≠ 0), rfl, take_sessionValid .., take_sessionId ..⟩
    · simp only [handler_busy _ hp hadm, Option.some.injEq, Prod.mk.injEq] at hx
      obtain ⟨rfl, rfl⟩ := hx
      exact .inl ⟨rfl, rfl, rfl, fun _ => (by decide : -EBUSY ≠ 0), rfl, rfl, rfl⟩
  · have hnf : a.status ≠ .final := fun hf => hp (.inr hf)
    simp only [handler_over _ hp, Option.some.injEq, Prod.mk.injEq] at hx
    obtain ⟨rfl, rfl⟩ := hx
    dsimp only
    refine .inl ⟨rfl, rfl, rfl, fun hf => absurd hf hnf, rfl, ?_, ?_⟩ <;> (dsimp only; split <;> rfl)

/-! ## Runs -/

theorem httpInv_run [DecidableEq κ] {h₀ : SoftapHttp κ} {s₀ : Session σ C W} {t : List (HttpEntry κ σ C W)} {n : HttpNet κ σ C W}
    (hr : (httpMachine w).Run (HttpNet.boot h₀ s₀) t n) : HttpInv w n ∧ IdKept t n := by
  refine hr.history (P := fun t n => HttpInv w n ∧ IdKept t n)
    ⟨httpInv_boot w h₀ s₀, fun h => by cases h⟩ fun t x _ hx hp => ?_
  obtain ⟨hinv, hkept, -⟩ := http_step hx hp.1 hp.2
  exact ⟨hinv, hkept⟩

theorem isolated_mem [DecidableEq κ] {h₀ : SoftapHttp κ} {s₀ : Session σ C W} {t : List (HttpEntry κ σ C W)} {n : HttpNet κ σ C W}
    (hr : (httpMachine w).Run (HttpNet.boot h₀ s₀) t n) {x : HttpEntry κ σ C W} (hx : x ∈ t) :
    ∃ t₁, Isolated w t₁ x := by
  obtain ⟨t₁, t₂, rfl⟩ := List.append_of_mem hx
  obtain ⟨h₁, hok, -⟩ := hr.at
  obtain ⟨hinv, hkept⟩ := httpInv_run h₁
  exact ⟨t₁, (http_step hok hinv hkept).2.2⟩

/-- What a callback comes to on the instance: nothing, or the request of which it brings the last part. -/
def HttpCarries (x : HttpEntry κ σ C W) (u : List (PcEntry σ C W)) : Prop :=
  (x.out.call = none ∧ u = [] ∧ x.out.resp = none ∧ (x.lbl.status = .final → x.out.ret ≠ 0)) ∨
  ∃ r, x.lbl.status = .final ∧ x.out.ret = 0 ∧
    u.map (·.lbl) = askOps (x.out.opened.map fun _ => x.lbl.env.openSession) x.lbl.env.req
      (epName x.lbl.userData x.lbl.url) (bodyOf (partsOf x)) ∧
    u.getLast?.map (·.out) = some r ∧ ∃ id, x.out.resp = some (respond id r)

/-- **The transport makes the requests of its clients and no others.** Whatever the callbacks of any
number of clients, the instance goes through a run of protocomm: the last part of a request that is
taken is that request, whole, under the endpoint's name, in a session opened for it or in the
open one, and is answered with what came of it; nothing else does anything. -/
theorem http_refines [DecidableEq κ] (w : ULong) (h₀ : SoftapHttp κ) (s₀ : Session σ C W) {t : List (HttpEntry κ σ C W)}
    {n : HttpNet κ σ C W} (hr : (httpMachine w).Run (HttpNet.boot h₀ s₀) t n) :
    ∃ ts, Protocomm.machine.Run s₀ ts.flatten n.sess ∧ List.Forall₂ HttpCarries t ts := by
  refine (hr.expand (f := (·.sess)) (I := fun _ => True) (Q := HttpCarries)
    (C := fun x => ∃ t₁, Isolated w t₁ x) (fun x hx hc _ => ⟨trivial, ?_⟩) trivial
    fun x hx => isolated_mem hr hx).2
  rcases http_cases hx with hi | ⟨q, hq, ha, -⟩
  · refine ⟨[], ?_, .inl ⟨hi.call, rfl, hi.resp, hi.status⟩⟩
    rw [hi.sess]
    exact .nil
  · obtain ⟨u, hrun, hops, hlast⟩ := ask_run ha.asked
    obtain ⟨t₁, hiso⟩ := hc
    rw [ha.ep, (hiso q hq).1] at hops
    exact ⟨u, hrun, .inr ⟨q.reply, ha.status, ha.ret, hops, hlast, _, ha.resp⟩⟩

/-! ## Security 1 -/

/-- The transport, with the id of the open session as its key. -/
def httpConduit : Conduit σ (HttpNet κ σ Sec1Ctx KeyStore) (HttpCallback κ) HttpOut UInt32 where
  sess := (·.sess)
  key n := if n.http.sessionValid then some n.http.sessionId else none
  act x :=
    match x.out.call with
    | none => .idle
    | some q => .asked (x.out.opened.map fun _ => x.lbl.env.openSession) x.lbl.env.req q.ep q.inbuf q.reply

abbrev HttpSec1Entry (κ σ : Type) := HttpEntry κ σ Sec1Ctx KeyStore

theorem act_idle {x : HttpSec1Entry κ σ} (h : Idles x) : httpConduit.act x = .idle := by
  unfold httpConduit
  dsimp only
  rw [h.call]

theorem act_asked {x : HttpSec1Entry κ σ} {q : HttpCall} (h : x.out.call = some q) : httpConduit.act x =
    .asked (x.out.opened.map fun _ => x.lbl.env.openSession) x.lbl.env.req q.ep q.inbuf q.reply := by
  unfold httpConduit
  dsimp only
  rw [h]

theorem key_valid {n : HttpNet κ σ Sec1Ctx KeyStore} (h : n.http.sessionValid = true) :
    httpConduit.key n = some n.http.sessionId := if_pos h

theorem http_keeps [DecidableEq κ] {x : HttpSec1Entry κ σ} (hx : (httpMachine w).Ok x) : httpConduit.Keeps x := by
  rcases http_cases hx with hi | ⟨q, hq, ha, hc⟩
  · have hact := act_idle hi
    refine ⟨?_, fun _ => ?_, fun ho => ?_⟩
    · rw [hact]
      exact hi.sess
    · unfold httpConduit
      dsimp only
      rw [hi.valid, hi.id]
    · rw [hact] at ho
      exact ho.elim
  · have hact := act_asked hq
    refine ⟨?_, fun hquiet => ?_, fun _ => ?_⟩
    · rw [hact]
      exact ha.asked
    · rw [hact] at hquiet
      cases ho : x.out.opened with
      | none => rw [key_valid ha.valid, key_valid (hc ho).valid, (hc ho).id]
      | some id =>
        rw [ho] at hquiet
        exact hquiet.elim
    · rw [key_valid ha.valid]
      rfl

/-- The request is run in the open session, and its own cookie is the id. -/
def UnderCookie (w : ULong) (id : UInt32) (x : HttpSec1Entry κ σ) : Prop :=
  x.out.opened = none ∧ ownCookie w (partsOf x) = some id

/-- The request is a Command1 that verifies. -/
def IsVerified (P : Psa) (pb : Nanopb) (x : HttpSec1Entry κ σ) : Prop :=
  ∃ q, x.out.call = some q ∧ VerifiesOpen P pb (reqEntry x.lbl.env.req q.ep q.inbuf x.pre.sess)

/-- A session was opened under the id and is still open, and a Command1 with this id as its cookie
was verified in it. -/
def CookieVerified (P : Psa) (pb : Nanopb) (w : ULong) (id : UInt32) (t : List (HttpSec1Entry κ σ)) : Prop :=
  SinceThen (fun x => x.out.opened = some id) (fun x => UnderCookie w id x ∧ IsVerified P pb x)
    (fun x => x.out.opened = none) t

/-- Bytes of a request get to a handler only under the cookie of a verified session. -/
def CookieChecked (P : Psa) (pb : Nanopb) (w : ULong) (t : List (HttpSec1Entry κ σ)) (x : HttpSec1Entry κ σ) : Prop :=
  ∀ q call, x.out.call = some q → q.inbuf ≠ [] → q.reply.call = some call →
    ∃ id, UnderCookie w id x ∧ CookieVerified P pb w id t

/-- The id under which a request is run in the open session is its own cookie. -/
theorem underCookie_of_key [DecidableEq κ] {x : HttpSec1Entry κ σ} (hx : (httpMachine w).Ok x) (hi : HttpInv w x.pre)
    {q : HttpCall} (hq : x.out.call = some q) (ho : x.out.opened = none) {id : UInt32}
    (hk : httpConduit.key x.pre = some id) : UnderCookie w id x := by
  rcases http_cases hx with hidle | ⟨q', -, -, hc⟩
  · rw [hidle.call] at hq
    cases hq
  obtain ⟨hvalid, -, hadm, hck⟩ := hc ho
  rw [key_valid hvalid] at hk
  cases hk
  exact ⟨ho, (hi.take hadm).2.symm.trans hck⟩

theorem opened_of_opens [DecidableEq κ] {x : HttpSec1Entry κ σ} (hx : (httpMachine w).Ok x) {id : UInt32}
    (h : httpConduit.OpensAs id x) : x.out.opened = some id := by
  obtain ⟨hopen, hk⟩ := h
  rcases http_cases hx with hidle | ⟨q, hq, ha, -⟩
  · rw [act_idle hidle] at hopen
    exact hopen.elim
  · rw [act_asked hq] at hopen
    cases ho : x.out.opened with
    | none =>
      rw [ho] at hopen
      exact hopen.elim
    | some id' =>
      rw [key_valid ha.valid, ha.id id' ho] at hk
      exact hk

theorem opened_of_quiet [DecidableEq κ] {x : HttpSec1Entry κ σ} (hx : (httpMachine w).Ok x)
    (h : (httpConduit.act x).Quiet) : x.out.opened = none := by
  rcases http_cases hx with hidle | ⟨q, hq, -⟩
  · exact hidle.opened
  · rw [act_asked hq] at h
    cases ho : x.out.opened with
    | none => rfl
    | some id =>
      rw [ho] at h
      exact h.elim

theorem asked_none {x : HttpSec1Entry κ σ} {e : ReqEnv} {ep : CStr} {inbuf : Bytes} {r : Reply}
    (h : httpConduit.act x = .asked none e ep inbuf r) :
    x.out.opened = none ∧ e = x.lbl.env.req ∧ x.out.call = some ⟨ep, inbuf, r⟩ := by
  cases hq : x.out.call with
  | none =>
    unfold httpConduit at h
    dsimp only at h
    rw [hq] at h
    cases h
  | some q =>
    rw [act_asked hq] at h
    injection h with ho he hep hin hr
    subst hep hin hr
    exact ⟨Option.map_eq_none_iff.1 ho, he.symm, rfl⟩

/-- **Over HTTP bytes are for the holder of the cookie.** In every run of callbacks of any number of
clients on a device with security 1, whatever their headers and bodies: bytes of a request reach
the handler of an endpoint only if the request's own cookie is the id under which the open session
was opened, and a Command1, made under the same cookie, was verified in that session. -/
theorem http_verified [DecidableEq κ] {P : Psa} {pb : Nanopb} (w : ULong) (h₀ : SoftapHttp κ) {s₀ : PcSession σ}
    (hsec : s₀.pc.sec = some (networkProvSecurity1 P pb)) (hc : s₀.pc.secCtx = none)
    {t : List (HttpSec1Entry κ σ)} {n : HttpNet κ σ Sec1Ctx KeyStore}
    (hr : (httpMachine w).Run (HttpNet.boot h₀ s₀) t n) : Always (CookieChecked P pb w) t := by
  have hall : Always (httpConduit.Checked P pb) t := by
    refine Conduit.carried_verified ?_ ?_ hr fun x hx => http_keeps (hr.ok_of_mem hx)
    · exact hsec
    · exact hc
  rintro t₁ x t₂ rfl q call hq hne hcall
  obtain ⟨h₁, hok, -⟩ := hr.at
  obtain ⟨ho, id, hk, hv⟩ := hall t₁ x t₂ rfl _ _ _ _ _ call (act_asked hq) hne hcall
  refine ⟨id, underCookie_of_key hok (httpInv_run h₁).1 hq (Option.map_eq_none_iff.1 ho) hk, ?_⟩
  refine hv.imp (fun y hy => opened_of_opens (h₁.ok_of_mem hy)) (fun y hy hver => ?_)
    fun y hy => opened_of_quiet (h₁.ok_of_mem hy)
  obtain ⟨hky, e, ep, inbuf, r, hact, hver⟩ := hver
  obtain ⟨hoy, rfl, hcy⟩ := asked_none hact
  obtain ⟨t₃, t₄, rfl⟩ := List.append_of_mem hy
  exact ⟨underCookie_of_key (h₁.ok_of_mem hy) (httpInv_run h₁.at.1).1 hcy hoy hky, _, hcy, hver⟩

/-! ## A client with its cookie -/

/-- The whole body at once, with the cookie of session 7 or without. -/
def sec1Part (ep : CStr) (data : Bytes) (headers : List HttpHeader) : HttpCallback Nat :=
  ⟨1, .empty, .final, ⟨data, .ok, headers⟩, some ep,
    ⟨.good Security1.devicePriv Security1.deviceRandom, 7, goodReq⟩⟩

/-- A handshake and one request; then one from a client that has no cookie. -/
def sec1Parts : List (HttpCallback Nat) :=
  [sec1Part sessionEp (cmd0Head ++ clientPub) [],
    sec1Part sessionEp (cmd1Head ++ xorFrom testKs 0 devicePub) cookie7,
    sec1Part dataEp (xorFrom testKs 64 (bytesOf 5 0x68656c6c6f)) cookie7,
    sec1Part dataEp (xorFrom testKs 80 (bytesOf 5 0x68656c6c6f)) []]

def sec1Net : HttpNet Nat Unit Sec1Ctx KeyStore := HttpNet.boot testHttp (testDevice vectors wirePb (some pop))

/-- The run of these. -/
def sec1Run : List (HttpEntry Nat Unit Sec1Ctx KeyStore) × HttpNet Nat Unit Sec1Ctx KeyStore :=
  ((httpMachine .bits32).exec sec1Net sec1Parts).get (by decide +kernel)

theorem sec1_run : (httpMachine .bits32).Run sec1Net sec1Run.1 sec1Run.2 :=
  (httpMachine .bits32).run_get sec1Net sec1Parts (by decide +kernel)

theorem http_refines_test : ∃ ts, Protocomm.machine.Run (testDevice vectors wirePb (some pop)) ts.flatten sec1Run.2.sess ∧
    List.Forall₂ HttpCarries sec1Run.1 ts := http_refines .bits32 testHttp _ sec1_run

theorem http_verified_test :
    sec1Run.1.map (fun x => x.out.call.bind fun q => q.reply.call.map (·.arg)) =
      [none, none, some (bytesOf 5 0x68656c6c6f), none] ∧
    Always (CookieChecked vectors wirePb .bits32) sec1Run.1 :=
  ⟨by decide +kernel, http_verified .bits32 testHttp rfl rfl sec1_run⟩

end NetworkProv.Http
