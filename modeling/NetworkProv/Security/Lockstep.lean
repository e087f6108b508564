import NetworkProv.Security.Channel
import NetworkProv.Transport.Ble
import NetworkProv.Transport.HttpIsolation

/-!
# The keystream over the transports

A client that sends a request of `n` bytes and gets `m` bytes back has moved
`n + m` along the keystream. The device moves by what it decrypts and encrypts,
and some of the failures of a request come before the one or after the other.

* `request_position`: where a request leaves the device's end.
* `lockstep_iff`: the requests, over BLE or HTTP, that move the device as they
  move the client.
-/
namespace NetworkProv.Security1
open NetworkProv.Core Session Protocomm

variable {σ : Type}

/-! ## Where a request leaves the device -/

/-- The device's end is at one place. -/
theorem DeviceAt.unique {P : Psa} {dev : PcSession σ} {st st' : End} (h : DeviceAt P dev st)
    (h' : DeviceAt P dev st') : st = st' := by
  obtain ⟨ctx, hc, -, hs⟩ := h
  obtain ⟨ctx', hc', -, hs'⟩ := h'
  rw [hc] at hc'
  cases hc'
  rw [hs] at hs'
  exact Option.some.inj hs'

theorem advance_inj {st : End} {m n : Nat} (h : st.advance m = st.advance n) : m = n := by
  have : st.pos + m = st.pos + n := congrArg End.pos h
  omega

/-- The device has no place in a keystream any more. -/
def Dead (P : Psa) (dev : PcSession σ) : Prop := ∀ st, ¬ DeviceAt P dev st

/-- A cipher update that fails ends the session's keystream. -/
theorem DeviceAt.encrypt_fails {P : Psa} (pb : Nanopb) {dev : PcSession σ} {st : End}
    (h : DeviceAt P dev st) (inp : Bytes) :
    ∃ c, (networkProvSecurity1 P pb).encrypt false dev.pc.secCtx inp = (.error (- EIO), c) ∧
      Dead P (dev.setCtx c) := by
  obtain ⟨ctx, hc, hd, hs⟩ := h
  rw [hc]
  refine ⟨some { ctx with cipher := .init }, ?_, ?_⟩
  · change sec1Encrypt P false (some ctx) inp = _
    simp [sec1Encrypt, hd, ctrXform, psaCipherUpdate, hs]
  · rintro st' ⟨ctx', hc', -, hs'⟩
    cases hc'
    cases hs'

/-- The request reaches the handler: there is nothing to decrypt, or it is decrypted. -/
def Reaches (e : ReqEnv) (enc : Bytes) : Prop := enc = [] ∨ e.plainAlloc = true ∧ e.decrypt = true

/-- Nothing is encrypted of what the handler answered. -/
def Silent (e : ReqEnv) (ret : Int) (raw : Bytes) : Prop := ret ≠ 0 ∨ raw = [] ∨ e.encAlloc = false

/-- Where a request leaves the device: the handler was not reached; or it was, and of its answer
nothing was encrypted, the encryption failed, or all was encrypted. -/
inductive Position (P : Psa) (e : ReqEnv) (st : End) (enc : Bytes) (ret : Int) (raw : Bytes)
    (dev' : PcSession σ) (r : Reply) : Prop
  | unread : ¬ Reaches e enc → r.ret ≠ 0 → DeviceAt P dev' st ∨ Dead P dev' → Position P e st enc ret raw dev' r
  | silent : Reaches e enc → Silent e ret raw → r.out = [] → DeviceAt P dev' (st.advance enc.length) →
      Position P e st enc ret raw dev' r
  | broken : Reaches e enc → ¬ Silent e ret raw → e.encrypt = false → r.ret ≠ 0 → Dead P dev' →
      Position P e st enc ret raw dev' r
  | answered : Reaches e enc → ¬ Silent e ret raw → e.encrypt = true → r.ret = 0 →
      r.out.length = raw.length → DeviceAt P dev' (st.advance (enc.length + raw.length)) →
      Position P e st enc ret raw dev' r

theorem runHandler_position {P : Psa} (pb : Nanopb) {e : ReqEnv} {dev : PcSession σ} {st : End}
    {enc : Bytes} (hreach : Reaches e enc) (name : CStr) (handler : ReqHandler σ) (plain : Bytes)
    (h : DeviceAt P dev (st.advance enc.length)) :
    Position P e st enc (handler dev.app plain).2.1 (handler dev.app plain).2.2
      (runHandler (networkProvSecurity1 P pb) e dev name handler plain).1
      (runHandler (networkProvSecurity1 P pb) e dev name handler plain).2 := by
  generalize ha : handler dev.app plain = a
  obtain ⟨app, ret, raw⟩ := a
  have h' : DeviceAt P { dev with app := app } (st.advance enc.length) := h
  unfold runHandler
  rw [ha]
  dsimp only
  by_cases hr : ret = 0
  · by_cases hl : raw = []
    · rw [if_neg (not_not.mpr hr), if_pos (by simp [hl])]
      exact .silent hreach (.inr (.inl hl)) rfl h'
    rw [if_neg (not_not.mpr hr), if_neg (by simpa using hl)]
    cases ha : e.encAlloc with
    | false => exact .silent hreach (.inr (.inr ha)) rfl h'
    | true =>
      have hnot : ¬ Silent e ret raw := by
        rintro (hs | hs | hs)
        · exact hs hr
        · exact hl hs
        · rw [ha] at hs
          cases hs
      rw [if_neg (by simp)]
      cases henc : e.encrypt with
      | false =>
        obtain ⟨c, hx, hdead⟩ := h'.encrypt_fails pb raw
        rw [hx]
        exact .broken hreach hnot henc (by decide : (- EIO : Int) ≠ 0) hdead
      | true =>
        obtain ⟨c, hx, hat⟩ := h'.encrypt pb raw
        rw [hx]
        rw [End.advance_advance] at hat
        exact .answered hreach hnot henc rfl (End.length_xform _ _) hat
  · rw [if_pos hr]
    exact .silent hreach (.inl hr) rfl h'

theorem request_position {P : Psa} {pb : Nanopb} {dev : PcSession σ} {st : End} {name : CStr}
    {handler : ReqHandler σ} (hsec : dev.pc.sec = some (networkProvSecurity1 P pb))
    (hep : DataEp dev.pc name handler) (h : DeviceAt P dev st) (e : ReqEnv) (enc : Bytes) :
    Position P e st enc (handler dev.app (st.xform enc)).2.1 (handler dev.app (st.xform enc)).2.2
      (protocommReqHandle e dev (some name) enc).1 (protocommReqHandle e dev (some name) enc).2 := by
  have hreq : protocommReqHandle e dev (some name) enc =
      handleData (networkProvSecurity1 P pb) e dev name handler enc := by
    obtain ⟨ctx, hc, -⟩ := h
    unfold DataEp at hep
    simp [protocommReqHandle, hep, hsec, hc]
  rw [hreq]
  by_cases hl : enc = []
  · subst hl
    exact runHandler_position pb (.inl rfl) name handler [] (by simpa using h)
  unfold handleData
  rw [if_pos (List.length_pos_iff.mpr hl)]
  cases ha : e.plainAlloc with
  | false =>
    refine .unread ?_ (by decide : (-ENOMEM : Int) ≠ 0) (.inl h)
    rintro (hn | ⟨hp, -⟩)
    · exact hl hn
    · rw [ha] at hp
      cases hp
  | true =>
    rw [if_neg (by simp)]
    cases hd : e.decrypt with
    | false =>
      obtain ⟨c, hx, hdead⟩ := h.encrypt_fails pb enc
      have hdec : (networkProvSecurity1 P pb).decrypt false dev.pc.secCtx enc = (.error (- EIO), c) := hx
      rw [hdec]
      refine .unread ?_ (by decide : (- EIO : Int) ≠ 0) (.inr hdead)
      rintro (hn | ⟨-, hp⟩)
      · exact hl hn
      · rw [hd] at hp
        cases hp
    | true =>
      obtain ⟨c, hx, hat⟩ := h.encrypt pb enc
      have hdec : (networkProvSecurity1 P pb).decrypt true dev.pc.secCtx enc = (.ok (st.xform enc), c) := hx
      rw [hdec]
      exact runHandler_position pb (.inr ⟨ha, hd⟩) name handler (st.xform enc) hat

/-- The device has moved by the request and what is delivered of the response, just where the
handler was reached and its answer was encrypted and delivered, or not at all. -/
theorem Position.in_step_iff {P : Psa} {e : ReqEnv} {st : End} {enc : Bytes} {ret : Int} {raw : Bytes}
    {dev' : PcSession σ} {r : Reply} (h : Position P e st enc ret raw dev' r) (limit : Nat) :
    DeviceAt P dev' (st.advance (enc.length + (r.delivered limit).length)) ↔
      Reaches e enc ∧ (Silent e ret raw ∨ e.encrypt = true ∧ raw.length ≤ limit) := by
  cases h with
  | unread hn hr hpos =>
    have hnil : r.delivered limit = [] := if_pos (.inl hr)
    rw [hnil]
    refine iff_of_false (fun hat => ?_) fun h => hn h.1
    rcases hpos with hpos | hdead
    · have := advance_inj (hat.unique (by simpa using hpos) : st.advance _ = st.advance 0)
      exact hn (.inl (List.eq_nil_of_length_eq_zero (by simpa using this)))
    · exact hdead _ hat
  | silent hreach hs hout hat =>
    have hnil : r.delivered limit = [] := by
      unfold Reply.delivered
      rw [hout]
      split <;> rfl
    rw [hnil]
    exact iff_of_true (by simpa using hat) ⟨hreach, .inl hs⟩
  | broken _ hs henc _ hdead =>
    refine iff_of_false (hdead _) ?_
    rintro ⟨-, h | ⟨h, -⟩⟩
    · exact hs h
    · rw [henc] at h
      cases h
  | answered hreach hs henc hr hlen hat =>
    by_cases hfit : raw.length ≤ limit
    · have hdel : r.delivered limit = r.out := by
        unfold Reply.delivered
        rw [hlen]
        exact if_neg (by simp [hr, hfit])
      rw [hdel, hlen]
      exact iff_of_true hat ⟨hreach, .inr ⟨henc, hfit⟩⟩
    · have hnil : r.delivered limit = [] := if_pos (.inr (by rw [hlen]; exact Nat.lt_of_not_le hfit))
      rw [hnil]
      refine iff_of_false (fun hat' => ?_) ?_
      · have := advance_inj (hat'.unique hat)
        simp only [List.length_nil] at this
        omega
      · rintro ⟨-, h | ⟨-, h⟩⟩
        · exact hs h
        · exact hfit h

/-! ## Over BLE and HTTP -/

/-- A request on its way: a write to a characteristic, or a request in parts from an HTTP
client. -/
inductive Carrier (κ : Type)
  | ble (maxResp : Nat) (a : Ble.BleWrite) (io : Ble.EpIo)
  | http (w : Http.ULong) (a : Http.HttpCallback κ) (parts : List Http.HttpRequestCtx)
    (h : Http.SoftapHttp κ)

namespace Carrier

variable {κ : Type}

def request : Carrier κ → Bytes
  | ble _ a _ => a.buf
  | http _ _ parts _ => Http.bodyOf parts

def env : Carrier κ → ReqEnv
  | ble _ a _ => a.req
  | http _ a _ _ => a.env.req

/-- The longest response that is delivered. -/
def limit : Carrier κ → Nat
  | ble maxResp _ _ => maxResp
  | http _ _ _ _ => Http.RESP_BUF_LEN

/-- The request is one for the endpoint, made in the open session: over HTTP one that begins
here, with the cookie of that session. -/
def Carries (name : CStr) : Carrier κ → Prop
  | ble _ a io => a.prepare = false ∧ io.name = name
  | http w a parts h => parts ≠ [] ∧ Http.epName a.userData a.url = name ∧
    (h.Admits a.client → h.reqBuf = [] ∧ h.cookie = none) ∧ h.sessionValid = true ∧
    Http.ownCookie w parts = some h.sessionId

/-- The transport takes the request. -/
def Takes : Carrier κ → Prop
  | ble _ a _ => a.offset = 0
  | http _ a parts h => h.Admits a.client ∧ (Http.bodyOf parts).length ≤ Http.REQ_BUF_LEN

/-- The device after the request, and the response as the client gets it. -/
def run [DecidableEq κ] (c : Carrier κ) (s : PcSession σ) : PcSession σ × Bytes :=
  match c with
  | ble maxResp a io => Ble.transact maxResp a io s
  | http w a parts h =>
    match Http.post w a parts h s with
    | (_, s, o) =>
      match o.resp with
      | some (.ok _ body) => (s, body)
      | _ => (s, [])

theorem run_taken [DecidableEq κ] {c : Carrier κ} {name : CStr} (hc : c.Carries name) (ht : c.Takes)
    (s : PcSession σ) : c.run s = ((protocommReqHandle c.env s (some name) c.request).1,
      (protocommReqHandle c.env s (some name) c.request).2.delivered c.limit) := by
  cases c with
  | ble maxResp a io =>
    obtain ⟨hp, rfl⟩ := hc
    exact Ble.transact_taken io s hp ht
  | http w a parts h =>
    obtain ⟨hne, rfl, hready, hvalid, hcookie⟩ := hc
    obtain ⟨hadm, hfit⟩ := ht
    obtain ⟨hbuf, hnone⟩ := hready hadm
    have hpost := Http.post_fits (a := a) (w := w) s hne hadm (by rw [hbuf]; simpa using hfit)
    obtain ⟨hv, hi⟩ := Http.takeAll_session w a.client parts h
    have hck : (h.takeAll w a.client parts).cookie = some h.sessionId := by
      rw [Http.takeAll_cookie, hnone]
      exact hcookie
    have hb : (h.takeAll w a.client parts).reqBuf = Http.bodyOf parts := by
      rw [Http.takeAll_reqBuf, hbuf, List.nil_append]
    unfold run
    dsimp only
    rw [hpost]
    rcases Http.dispatch_cases a.env (Http.epName a.userData a.url) (h.takeAll w a.client parts) s with
      ⟨-, -, s', r, hreq, heq⟩ | ⟨hn, -⟩
    · rw [hb] at hreq
      rw [heq]
      simp only [request, env, limit, hreq, Http.respond, Reply.delivered]
      by_cases hr : r.ret = 0
      · by_cases hl : r.out.length > Http.RESP_BUF_LEN <;> simp [hr, hl]
      · simp [hr]
    · exact absurd ⟨hv.trans hvalid, by rw [hck, hi]⟩ hn

theorem run_refused [DecidableEq κ] {c : Carrier κ} {name : CStr} (hc : c.Carries name) (ht : ¬ c.Takes)
    (s : PcSession σ) : c.run s = (s, []) := by
  cases c with
  | ble maxResp a io => exact Ble.transact_refused io s hc.1 ht
  | http w a parts h =>
    unfold run
    dsimp only
    by_cases hadm : h.Admits a.client
    · obtain ⟨hbuf, -⟩ := hc.2.2.1 hadm
      have hlong : Http.REQ_BUF_LEN < (Http.bodyOf parts).length := Nat.lt_of_not_le fun hfit => ht ⟨hadm, hfit⟩
      have hover : Http.REQ_BUF_LEN < h.reqBuf.length + (Http.bodyOf parts).length := by simpa [hbuf] using hlong
      obtain ⟨h', heq⟩ := Http.post_long (a := a) (w := w) s hadm (by simp [hbuf]) hover
      rw [heq]
      rfl
    · rw [Http.post_busy s hadm hc.1]
      rfl

/-- The request moves the device along with the client: it is taken, reaches the handler, and the
answer is encrypted and delivered, or not encrypted; or it is not taken, and is empty. `ret` and
`raw` are what the handler answers. -/
def InStepWith (c : Carrier κ) (ret : Int) (raw : Bytes) : Prop :=
  (c.Takes ∧ Reaches c.env c.request ∧
    (Silent c.env ret raw ∨ c.env.encrypt = true ∧ raw.length ≤ c.limit)) ∨
  (¬ c.Takes ∧ c.request = [])

end Carrier

/-- A client whose next part begins a request finds the buffers empty, if it is admitted. -/
theorem ready_of_inv {κ C W : Type} {w : Http.ULong} {n : Http.HttpNet κ σ C W} {c : κ}
    (h : Http.HttpInv w n) (hc : n.inFlight c = []) (ha : n.http.Admits c) :
    n.http.reqBuf = [] ∧ n.http.cookie = none := by
  have hown := h.owned_eq ha
  rw [h.buf, h.cookie, hown, hc]
  exact ⟨rfl, rfl⟩

/-- **When the device keeps in step with its client.** For a device in a session that is
established, a registered endpoint with any handler, and a request of any length over BLE or
HTTP, whatever the calls made on the way answer: the device's place in the keystream moves by the
length of the request and of the response delivered, if and only if the request is as
`InStepWith` says. -/
theorem lockstep_iff {κ : Type} [DecidableEq κ] (P : Psa) (pb : Nanopb) (dev : PcSession σ) (st : End)
    (name : CStr) (handler : ReqHandler σ) (hsec : dev.pc.sec = some (networkProvSecurity1 P pb))
    (hep : DataEp dev.pc name handler) (h : DeviceAt P dev st) (c : Carrier κ) (hc : c.Carries name) :
    DeviceAt P (c.run dev).1 (st.advance (c.request.length + (c.run dev).2.length)) ↔
      c.InStepWith (handler dev.app (st.xform c.request)).2.1 (handler dev.app (st.xform c.request)).2.2 := by
  unfold Carrier.InStepWith
  by_cases ht : c.Takes
  · rw [c.run_taken hc ht, (request_position hsec hep h c.env c.request).in_step_iff]
    simp [ht]
  · rw [c.run_refused hc ht]
    simp only [ht, false_and, not_false_eq_true, true_and, false_or, List.length_nil, Nat.add_zero]
    constructor
    · intro hat
      have := advance_inj (hat.unique (by simpa using h) : st.advance _ = st.advance 0)
      exact List.eq_nil_of_length_eq_zero this
    · intro hnil
      simpa [hnil] using h

/-! ## The test device over BLE -/

/-- The test device, its handshake done. -/
def testDev : PcSession Unit := testHandshake.2.2.2.dev

theorem testDev_ready : testDev.pc.sec = some (networkProvSecurity1 vectors wirePb) ∧
    ∃ st, DeviceAt vectors testDev st := by
  obtain ⟨ctx, ctx', kd, kc, -, hctx', hcfg, -, hdone, -⟩ :=
    handshake_completed wirePb_codec (by rfl) (by rfl) testHandshake_ok
  refine ⟨by rw [testDev, hcfg]; rfl, ⟨vectors.ctr kd ctx'.deviceRandom.val, 64⟩, ctx', hctx', hdone.state, ?_⟩
  rw [hdone.device]
  rfl

/-- A request of five bytes to the echo endpoint. -/
def testCarrier (maxResp : Nat) (e : ReqEnv) : Carrier Unit :=
  .ble maxResp ⟨[1, 2, 3, 4, 5], 0, false, e⟩ ⟨dataEp, []⟩

theorem lockstep_iff_test : ∃ st, DeviceAt vectors testDev st ∧
    ((testCarrier 512 goodReq).run testDev).2.length = 10 ∧
    DeviceAt vectors ((testCarrier 512 goodReq).run testDev).1 (st.advance (5 + 10)) := by
  obtain ⟨hsec, st, hst⟩ := testDev_ready
  have hlen : ((testCarrier 512 goodReq).run testDev).2.length = 10 := by decide +kernel
  have hstep : (testCarrier 512 goodReq).InStepWith 0 (bytesOf 5 0x6563686f3a ++ st.xform [1, 2, 3, 4, 5]) :=
    .inl ⟨rfl, .inr ⟨rfl, rfl⟩, .inr ⟨rfl, by simp [Carrier.limit, testCarrier]⟩⟩
  have h := (lockstep_iff vectors wirePb testDev st dataEp echoHandler hsec testHandshake_dataEp hst
    (testCarrier 512 goodReq) ⟨rfl, rfl⟩).mpr hstep
  rw [hlen] at h
  exact ⟨st, hst, hlen, h⟩

/-- A request for which there is no memory. -/
def starvedCarrier : Carrier Unit := testCarrier 512 { goodReq with plainAlloc := false }

/-- With no memory for the plaintext the client moves on alone. -/
theorem plain_alloc_desyncs : ∃ st, DeviceAt vectors testDev st ∧
    ¬ DeviceAt vectors (starvedCarrier.run testDev).1
      (st.advance (starvedCarrier.request.length + (starvedCarrier.run testDev).2.length)) := by
  obtain ⟨hsec, st, hst⟩ := testDev_ready
  have hcarries : starvedCarrier.Carries dataEp := ⟨rfl, rfl⟩
  have htakes : starvedCarrier.Takes := rfl
  refine ⟨st, hst, ?_⟩
  rw [Carrier.run_taken hcarries htakes, (request_position hsec testHandshake_dataEp hst _ _).in_step_iff]
  rintro ⟨hreach | hreach, -⟩
  · cases hreach
  · cases hreach.1

end NetworkProv.Security1
