import NetworkProv.Security.Xport
import NetworkProv.Transport.Console
import NetworkProv.Transport.Cookie
import NetworkProv.Transport.Fallback
import NetworkProv.Transport.GattRuns

/-!
# A client on each transport

The adapters that put `prov_client` on a transport, as in the tests: over BLE it
finds the characteristic by its user description, writes and reads; over HTTP it
posts to the endpoint's URL and keeps the cookie; on the console it types
`net_prov` with a session number of its own and reads the line. Together with the
device's side of the transport each of them is an `Xport`.

Limitations: no one else uses the transport meanwhile; memory does not run out.

* `ble_next`, `http_first`, `http_next`, `console_step`: one request on each of them.
* `way_alike`: each answers as protocomm itself does, in one session, from the first request on.
-/
namespace NetworkProv

/-- The characters up to a NUL. -/
def cstr (b : Bytes) : CStr := ⟨b.takeWhile (· ≠ 0), fun h => by simpa using List.mem_takeWhile_imp h⟩

theorem cstr_chars {b : Bytes} (h : (0 : UInt8) ∉ b) : (cstr b).chars = b :=
  List.takeWhile_eq_self_iff.2 fun x hx => by
    have hne : x ≠ 0 := by
      rintro rfl
      exact h hx
    simpa using hne

namespace Clients
open NetworkProv.Core Core.CText Protocomm Security1 Endpoints Ble Http Console Transport

variable {κ σ : Type}

/-! ## Over BLE -/

structure BleClient (σ : Type) where
  gatt : Gatt σ Sec1Ctx KeyStore
  env : Nat → ReqEnv

/-- Reads of `mtu` bytes, until one is shorter.
mirrors src/tests/bsim/ble_e2e/src/tester.c:96-129 -/
def gattXport (maxResp mtu : Nat) : Xport (BleClient σ) := fun d ep inbuf =>
  let next := fun g => (⟨g, fun n => d.env (n + 1)⟩ : BleClient σ)
  match charOf d.gatt ep with
  | none => (next d.gatt, -ENOENT, [])
  | some i =>
    match writeAttr maxResp (.value i) ⟨inbuf, 0, false, d.env 0⟩ d.gatt with
    | (ret, g) =>
      if ret < 0 then (next g, ret, [])
      else match longRead mtu (g.epIo i) (maxResp + 1) 0 with
        | none => (next g, - EIO, [])
        | some resp => (next g, 0, resp)

/-- Connected to a device that serves these endpoints. -/
def BleJoined (eps : List (ProtocommEp σ)) (d : BleClient σ) (l : Link σ) : Prop :=
  Serves eps l.dev d.gatt ∧ d.env = l.env

theorem serves_congr {eps : List (ProtocommEp σ)} {s s' : PcSession σ} {g : Gatt σ Sec1Ctx KeyStore}
    (h : Serves eps s g) (hc : SameConfig s s') {io : Nat → EpIo} (hio : ∀ j, (io j).name = (g.epIo j).name) :
    Serves eps s' { g with gPc := some s', epIo := io } where
  pc := rfl
  table := by
    have ht := h.table
    rw [hc]
    exact ht
  registered := h.registered
  gatt := h.gatt
  built := ⟨h.built.attrs, fun i ep hi => (hio i).trans (h.built.name i ep hi), h.built.uuid⟩

theorem ble_next {maxResp mtu : Nat} (hm : 0 < mtu) {eps : List (ProtocommEp σ)} {d : BleClient σ} {l : Link σ}
    (h : BleJoined eps d l) (ep : CStr) (b : Bytes) (hl : (pcXport l ep b).2.2.length ≤ maxResp) :
    SameResult (gattXport maxResp mtu d ep b) (pcXport l ep b) ∧
      BleJoined eps (gattXport maxResp mtu d ep b).1 (pcXport l ep b).1 := by
  obtain ⟨hs, henv⟩ := h
  generalize hr : protocommReqHandle (l.env 0) l.dev (some ep) b = q
  obtain ⟨s', r⟩ := q
  have hpc : pcXport l ep b = (⟨s', fun n => l.env (n + 1)⟩, r.ret, r.out) := by
    unfold pcXport
    rw [hr]
  rw [hpc] at hl ⊢
  dsimp only at hl ⊢
  cases hc : charOf d.gatt ep with
  | none =>
    have hf : l.dev.pc.findEp ep = none := by
      rw [← Option.isNone_iff_eq_none, ← Option.not_isSome, ← charOf_isSome hs, hc]
      rfl
    rw [reqHandle_unknown hf] at hr
    cases hr
    simp only [gattXport, hc]
    exact ⟨⟨Iff.rfl, fun _ => rfl⟩, hs, by rw [henv]⟩
  | some i =>
    obtain ⟨hi, hn⟩ := charOf_some hs hc
    have hcfg : SameConfig l.dev s' := Session.step_config (l := .req _ _ _) (congrArg some hr)
    simp only [gattXport, hc, writeAttr, hs.pc]
    rw [← hn] at hr
    rw [writeEp_taken (a := ⟨b, 0, false, d.env 0⟩) ⟨rfl, rfl⟩, henv, hr]
    dsimp only
    have hjoin : BleJoined eps ⟨{ d.gatt with
        gPc := some s', epIo := fun j => if j = i then { d.gatt.epIo i with resp := r.delivered maxResp }
          else d.gatt.epIo j }, fun n => l.env (n + 1)⟩ ⟨s', fun n => l.env (n + 1)⟩ := by
      refine ⟨serves_congr hs hcfg fun j => ?_, rfl⟩
      dsimp only
      split
      · rename_i hj
        rw [hj]
      · rfl
    by_cases h0 : r.ret = 0
    · have hw : ¬ writeResult maxResp ⟨b, 0, false, l.env 0⟩ r < 0 := by
        unfold writeResult
        rw [if_neg (not_not.2 h0), if_neg (Nat.not_lt_of_le hl)]
        exact Int.not_lt.2 (Int.natCast_nonneg _)
      have hd : r.delivered maxResp = r.out := by
        unfold Reply.delivered
        rw [if_neg (by simp [h0, hl])]
      rw [if_neg hw, if_true, longRead_eq hm _ _ _ (Nat.zero_le _) (by rw [hd]; exact Nat.lt_of_lt_of_le (Nat.lt_succ_of_le hl) (Nat.le_add_left _ _))]
      exact ⟨⟨iff_of_true rfl h0, fun _ => hd⟩, hjoin⟩
    · have hw : writeResult maxResp ⟨b, 0, false, l.env 0⟩ r = UNLIKELY := if_pos h0
      rw [hw, if_pos (by decide)]
      exact ⟨⟨iff_of_false (show UNLIKELY ≠ 0 by decide) h0, fun h => absurd h h0⟩, hjoin⟩

/-! ## Over HTTP -/

/-- The answers during one request, and how the server cuts its body up. -/
structure HttpArgs where
  env : HttpEnv
  chunks : Bytes → List Bytes

/-- `client`: its context at the server. -/
structure HttpClient (κ σ : Type) where
  http : SoftapHttp κ
  sess : PcSession σ
  cookie : Option CStr
  args : Nat → HttpArgs

/-- `"/<ep>"` -/
def urlOf (ep : CStr) : CStr := ⟨0x2f :: ep.chars, by simpa using ep.noNul⟩

/-- The built-in endpoints have resources of their own, `user_data` their names.
mirrors src/protocomm_softap.c:331-352 -/
def resourceOf (ep : CStr) : Option CStr := if isBuiltinEp ep then some ep else none

theorem cookieName_noNul : (0 : UInt8) ∉ cookieName := by decide

/-- The captured headers come with the first part. -/
def requestParts (cookie : Option CStr) : List Bytes → List HttpRequestCtx
  | [] => []
  | b :: bs =>
    ⟨b, .ok, cookie.toList.map fun c => ⟨some ⟨cookieName, cookieName_noNul⟩, some c⟩⟩ ::
      bs.map fun b => ⟨b, .none, []⟩

/-- mirrors src/tests/protocomm_http/src/main.c:131-190,275-299 -/
def httpXport [DecidableEq κ] (w : ULong) (client : κ) : Xport (HttpClient κ σ) := fun d ep inbuf =>
  let next := fun h s cookie => (⟨h, s, cookie, fun n => d.args (n + 1)⟩ : HttpClient κ σ)
  let parts := requestParts d.cookie ((d.args 0).chunks inbuf)
  match post w ⟨client, urlOf ep, .final, ⟨[], .none, []⟩, resourceOf ep, (d.args 0).env⟩ parts d.http d.sess with
  | (h, s, o) =>
    match o.resp with
    | some (.ok cookie body) => (next h s (some (cstr cookie)), 0, body)
    | _ => (next h s d.cookie, - EIO, [])

/-- The URL selects the endpoint. -/
def Routable (ep : CStr) : Prop := epName (resourceOf ep) (urlOf ep) = ep

theorem routable_builtin {ep : CStr} (h : isBuiltinEp ep = true) : Routable ep := by
  unfold Routable resourceOf
  rw [if_pos h]
  rfl

/-- Nobody else's request is in flight, and a body is cut into parts. -/
structure HttpReady (client : κ) (d : HttpClient κ σ) (l : Link σ) : Prop where
  admits : d.http.Admits client
  empty : d.http.reqBuf = []
  chunks : ∀ n b, (d.args n).chunks b ≠ [] ∧ ((d.args n).chunks b).flatten = b
  env : ∀ n, l.env n = (d.args n).env.req

/-- A client that has no cookie yet. -/
structure HttpFresh (client : κ) (d : HttpClient κ σ) (l : Link σ) : Prop extends HttpReady client d l where
  cookie : d.cookie = none
  dev : l.dev = protocommOpenSession (d.args 0).env.openSession d.sess

/-- A client whose cookie is the session's. -/
structure HttpJoined (client : κ) (d : HttpClient κ σ) (l : Link σ) : Prop extends HttpReady client d l where
  valid : d.http.sessionValid = true
  cookie : d.cookie = some (cstr (setCookie d.http.sessionId))
  dev : l.dev = d.sess

theorem setCookie_noNul (id : UInt32) : (0 : UInt8) ∉ setCookie id := by
  have hd : ∀ c ∈ printDecimal id.toNat, isDigit c = true :=
    List.all_eq_true.1 (decimal?_eq_some.1 (decimal?_printDecimal id.toNat)).2.1
  intro h
  rcases List.mem_append.1 h with h | h
  · exact absurd h (by decide)
  · exact absurd (hd 0 h) (by decide)

theorem bodyOf_requestParts (cookie : Option CStr) : ∀ bs : List Bytes, bodyOf (requestParts cookie bs) = bs.flatten
  | [] => rfl
  | b :: bs => by simp [requestParts, bodyOf, List.flatMap_map, List.flatMap_id']

theorem foldl_latched_none (w : ULong) (c : Option UInt32) (bs : List Bytes) :
    (bs.map fun b => (⟨b, .none, []⟩ : HttpRequestCtx)).foldl (latched w) c = c := by
  induction bs with
  | nil => rfl
  | cons b bs ih => simpa [latched] using ih

/-- The transport reads the client's cookie, however the body is cut up. -/
theorem latched_requestParts (w : ULong) (c : Option UInt32) (cookie : Option CStr) {bs : List Bytes} (hbs : bs ≠ []) :
    (requestParts cookie bs).foldl (latched w) c = cookie.bind fun v => readCookie w v.chars := by
  cases bs with
  | nil => exact absurd rfl hbs
  | cons b bs =>
    rw [requestParts, List.foldl_cons, foldl_latched_none]
    cases cookie with
    | none => rfl
    | some v => rfl

theorem requestParts_ne_nil {cookie : Option CStr} {bs : List Bytes} (h : bs ≠ []) : requestParts cookie bs ≠ [] := by
  cases bs with
  | nil => exact absurd rfl h
  | cons b bs => exact List.cons_ne_nil _ _

/-- What the adapter makes of a dispatched request. -/
theorem httpXport_eq [DecidableEq κ] {w : ULong} {client : κ} {d : HttpClient κ σ} {l : Link σ} {ep : CStr} {b : Bytes}
    (h : HttpReady client d l) (hep : Routable ep) (hsize : b.length ≤ REQ_BUF_LEN) {h' : SoftapHttp κ}
    {s' : PcSession σ} {id : UInt32} {opened : Option UInt32} {r : Reply}
    (hd : dispatch (d.args 0).env ep
        (d.http.takeAll w client (requestParts d.cookie ((d.args 0).chunks b))) d.sess =
      (h', s', ⟨0, some (respond id r), opened, some ⟨ep, b, r⟩⟩)) :
    httpXport w client d ep b =
      if r.ret ≠ 0 ∨ r.out.length > RESP_BUF_LEN then (⟨h', s', d.cookie, fun n => d.args (n + 1)⟩, - EIO, [])
      else (⟨h', s', some (cstr (setCookie id)), fun n => d.args (n + 1)⟩, 0, r.out) := by
  obtain ⟨hne, hflat⟩ := h.chunks 0 b
  have hfit : d.http.reqBuf.length + (bodyOf (requestParts d.cookie ((d.args 0).chunks b))).length ≤ REQ_BUF_LEN := by
    rw [h.empty, bodyOf_requestParts, hflat, List.length_nil, Nat.zero_add]
    exact hsize
  unfold httpXport
  dsimp only
  rw [post_fits d.sess (requestParts_ne_nil hne) h.admits hfit]
  dsimp only
  rw [show epName (resourceOf ep) (urlOf ep) = ep from hep, hd]
  unfold respond
  by_cases h0 : r.ret = 0
  · by_cases hl : r.out.length > RESP_BUF_LEN
    · simp [h0, hl]
    · simp [h0, hl]
  · simp [h0]

theorem takeAll_request (w : ULong) {client : κ} {d : HttpClient κ σ} {l : Link σ} (h : HttpReady client d l)
    (b : Bytes) :
    (d.http.takeAll w client (requestParts d.cookie ((d.args 0).chunks b))).reqBuf = b ∧
    (d.http.takeAll w client (requestParts d.cookie ((d.args 0).chunks b))).cookie =
      d.cookie.bind fun v => readCookie w v.chars := by
  obtain ⟨hne, hflat⟩ := h.chunks 0 b
  rw [takeAll_reqBuf, takeAll_cookie, bodyOf_requestParts, hflat, h.empty, latched_requestParts w _ _ hne]
  exact ⟨rfl, rfl⟩

theorem HttpReady.next {client : κ} {d : HttpClient κ σ} {l : Link σ} (h : HttpReady client d l) {http : SoftapHttp κ}
    (hc : http.reqClient = none) (hb : http.reqBuf = []) (sess s' : PcSession σ) (cookie : Option CStr) :
    HttpReady client (⟨http, sess, cookie, fun n => d.args (n + 1)⟩ : HttpClient κ σ)
      ⟨s', fun n => l.env (n + 1)⟩ where
  admits := .inl hc
  empty := hb
  chunks n := h.chunks (n + 1)
  env n := h.env (n + 1)

/-- The outcome of a request, as `pcXport` has it. -/
theorem respond_result {D : Type} {l : Link σ} {ep : CStr} {b : Bytes} {s' : PcSession σ} {r : Reply} {d d' : D}
    (hr : pcXport l ep b = (⟨s', fun n => l.env (n + 1)⟩, r.ret, r.out)) (hl : r.out.length ≤ RESP_BUF_LEN) :
    SameResult (if r.ret ≠ 0 ∨ r.out.length > RESP_BUF_LEN then (d, - EIO, []) else (d', 0, r.out))
      (pcXport l ep b) := by
  rw [hr]
  by_cases h0 : r.ret = 0
  · rw [if_neg (by simp [h0, hl])]
    exact ⟨iff_of_true rfl h0, fun _ => rfl⟩
  · rw [if_pos (.inl h0)]
    exact ⟨iff_of_false (show - EIO ≠ 0 by decide) h0, fun h => absurd h h0⟩

theorem http_first [DecidableEq κ] (w : ULong) {client : κ} {d : HttpClient κ σ} {l : Link σ} {ep : CStr} {b : Bytes}
    (hep : Routable ep) (hsize : b.length ≤ REQ_BUF_LEN) (hl : (pcXport l ep b).2.2.length ≤ RESP_BUF_LEN)
    (h : HttpFresh client d l) :
    SameResult (httpXport w client d ep b) (pcXport l ep b) ∧
      ((pcXport l ep b).2.1 = 0 → HttpJoined client (httpXport w client d ep b).1 (pcXport l ep b).1) := by
  obtain ⟨hbuf, hcookie⟩ := takeAll_request w h.toHttpReady b
  rw [h.cookie, Option.bind_none] at hcookie
  rcases dispatch_cases (d.args 0).env ep (d.http.takeAll w client (requestParts d.cookie ((d.args 0).chunks b)))
      d.sess with ⟨-, hck, -⟩ | ⟨-, s', r, hreq, heq⟩
  · rw [h.cookie, hcookie] at hck
    cases hck
  rw [hbuf] at hreq heq
  have hpc : pcXport l ep b = (⟨s', fun n => l.env (n + 1)⟩, r.ret, r.out) := by
    unfold pcXport
    rw [h.env 0, h.dev, hreq]
  rw [httpXport_eq h.toHttpReady hep hsize heq]
  rw [hpc] at hl
  refine ⟨respond_result hpc hl, fun h0 => ?_⟩
  rw [hpc] at h0 ⊢
  rw [if_neg (by simp [show r.ret = 0 from h0, show r.out.length ≤ RESP_BUF_LEN from hl])]
  exact ⟨h.toHttpReady.next rfl rfl _ _ _, rfl, rfl, rfl⟩

theorem http_next [DecidableEq κ] (w : ULong) {client : κ} {d : HttpClient κ σ} {l : Link σ} {ep : CStr} {b : Bytes}
    (hep : Routable ep) (hsize : b.length ≤ REQ_BUF_LEN) (hl : (pcXport l ep b).2.2.length ≤ RESP_BUF_LEN)
    (h : HttpJoined client d l) :
    SameResult (httpXport w client d ep b) (pcXport l ep b) ∧
      HttpJoined client (httpXport w client d ep b).1 (pcXport l ep b).1 := by
  obtain ⟨hbuf, hcookie⟩ := takeAll_request w h.toHttpReady b
  obtain ⟨hv, hid⟩ := takeAll_session w client (requestParts d.cookie ((d.args 0).chunks b)) d.http
  have hown : (d.cookie.bind fun v => readCookie w v.chars) = some d.http.sessionId := by
    rw [h.cookie, Option.bind_some, cstr_chars (setCookie_noNul _), (setCookie_read w _).1]
  rcases dispatch_cases (d.args 0).env ep (d.http.takeAll w client (requestParts d.cookie ((d.args 0).chunks b)))
      d.sess with ⟨-, -, s', r, hreq, heq⟩ | ⟨hnot, -⟩
  · rw [hbuf] at hreq heq
    have hpc : pcXport l ep b = (⟨s', fun n => l.env (n + 1)⟩, r.ret, r.out) := by
      unfold pcXport
      rw [h.env 0, h.dev, hreq]
    rw [httpXport_eq h.toHttpReady hep hsize heq]
    rw [hpc] at hl
    refine ⟨respond_result hpc hl, ?_⟩
    rw [hpc]
    split
    · refine ⟨h.toHttpReady.next rfl rfl _ _ _, hv.trans h.valid, h.cookie.trans ?_, rfl⟩
      exact congrArg (fun id => some (cstr (setCookie id))) hid.symm
    · exact ⟨h.toHttpReady.next rfl rfl _ _ _, hv.trans h.valid, rfl, rfl⟩
  · refine absurd ⟨hv.trans h.valid, ?_⟩ hnot
    rw [hcookie, hown, hid]

/-! ## On the console -/

/-- Zephyr's conversions undo each other. -/
structure Inverse (u : HexUtil) : Prop where
  length : ∀ b, (u.bin2hex b).length = 2 * b.length
  noNul : ∀ b, (0 : UInt8) ∉ u.bin2hex b
  back : ∀ b, u.hex2bin (u.bin2hex b) = b

structure ConsoleClient (σ : Type) where
  dev : ConsoleDev σ Sec1Ctx KeyStore
  sid : UInt32
  env : Nat → ConsoleEnv

/-- `"net_prov %s %u %s"` -/
def netProv (u : HexUtil) (d : ConsoleClient σ) (ep : CStr) (inbuf : Bytes) : ConsoleCmd :=
  ⟨ep, cstr (printDecimal d.sid.toNat), cstr (u.bin2hex inbuf), d.env 0⟩

/-- mirrors src/tests/console/src/main.c:53-111 -/
def consoleXport (u : HexUtil) (w : ULong) : Xport (ConsoleClient σ) := fun d ep inbuf =>
  match cmdNetProv u w (netProv u d ep inbuf) d.dev with
  | (dev, o) =>
    let next : ConsoleClient σ := ⟨dev, d.sid, fun n => d.env (n + 1)⟩
    if o.ret ≠ 0 then (next, - EIO, [])
    else match o.line with
      | .response hex => (next, 0, u.hex2bin hex)
      | _ => (next, 0, [])

/-- The transport is started, and its allocations succeed. -/
structure ConsoleReady (d : ConsoleClient σ) (l : Link σ) : Prop where
  started : d.dev.con.gPc ≠ none
  alloc : ∀ n, (d.env n).inAlloc = true ∧ (d.env n).hexAlloc = true
  env : ∀ n, l.env n = (d.env n).req

/-- The session of the client's number, or the fresh one that its first command opens. -/
structure ConsoleFresh (d : ConsoleClient σ) (l : Link σ) : Prop extends ConsoleReady d l where
  dev : l.dev = sessionFor (d.env 0).openSession d.sid.toNat d.dev

structure ConsoleJoined (d : ConsoleClient σ) (l : Link σ) : Prop extends ConsoleReady d l where
  session : d.dev.con.haveSession = true ∧ d.dev.con.curSession = d.sid.toNat
  dev : l.dev = d.dev.sess

theorem ConsoleJoined.fresh {d : ConsoleClient σ} {l : Link σ} (h : ConsoleJoined d l) : ConsoleFresh d l :=
  ⟨h.toConsoleReady, by unfold sessionFor; rw [if_pos h.session]; exact h.dev⟩

theorem printDecimal_noNul (n : Nat) : (0 : UInt8) ∉ printDecimal n := fun h =>
  absurd (List.all_eq_true.1 (decimal?_eq_some.1 (decimal?_printDecimal n)).2.1 0 h) (by decide)

/-- The number is accepted, as it was meant. -/
theorem sessionOf_printDecimal (w : ULong) (id : UInt32) :
    sessionOf w (cstr (printDecimal id.toNat)).chars = some id.toNat := by
  have hd := decimal?_printDecimal id.toNat
  rw [cstr_chars (printDecimal_noNul _), sessionOf_eq, numeral_decimal hd]
  have hmax := toNat_le_max id
  exact ⟨id.toNat, hd, ⟨Nat.lt_of_le_of_lt hmax (pow_bits w), hmax⟩, rfl⟩

/-- A command line of the client gets as far as protocomm. -/
theorem cmdNetProv_client {u : HexUtil} (hu : Inverse u) (w : ULong) {d : ConsoleClient σ} {l : Link σ}
    (h : ConsoleReady d l) (ep : CStr) (b : Bytes) :
    cmdNetProv u w (netProv u d ep b) d.dev =
      runCmd u (netProv u d ep b) d.sid.toNat b (useSession (d.env 0).openSession d.sid.toNat d.dev) := by
  have hchars : (netProv u d ep b).hex.chars = u.bin2hex b := cstr_chars (hu.noNul b)
  unfold cmdNetProv
  rw [if_neg h.started, show (netProv u d ep b).sessionId = cstr (printDecimal d.sid.toNat) from rfl,
    sessionOf_printDecimal, hchars, hu.length, hu.back]
  dsimp only
  have halloc : (netProv u d ep b).env.inAlloc = true := (h.alloc 0).1
  have hhalf : 2 * b.length / 2 = b.length := by omega
  rw [if_neg (by omega), if_neg (by simp [halloc]), hhalf, if_neg (by simp)]
  by_cases hb : b = []
  · subst hb
    rfl
  · rw [if_pos (List.length_pos_iff.2 hb)]
    rfl

theorem console_step {u : HexUtil} (hu : Inverse u) (w : ULong) {d : ConsoleClient σ} {l : Link σ} (ep : CStr)
    (b : Bytes) (h : ConsoleFresh d l) :
    SameResult (consoleXport u w d ep b) (pcXport l ep b) ∧
      ConsoleJoined (consoleXport u w d ep b).1 (pcXport l ep b).1 := by
  generalize hr : protocommReqHandle (l.env 0) l.dev (some ep) b = q
  obtain ⟨s', r⟩ := q
  have hpc : pcXport l ep b = (⟨s', fun n => l.env (n + 1)⟩, r.ret, r.out) := by
    unfold pcXport
    rw [hr]
  have hjoin : ConsoleJoined (⟨⟨{ d.dev.con with curSession := d.sid.toNat, haveSession := true }, s'⟩, d.sid,
      fun n => d.env (n + 1)⟩ : ConsoleClient σ) ⟨s', fun n => l.env (n + 1)⟩ :=
    ⟨⟨h.started, fun n => h.alloc (n + 1), fun n => h.env (n + 1)⟩, ⟨rfl, rfl⟩, rfl⟩
  rw [h.env 0, h.dev] at hr
  have halloc : (netProv u d ep b).env.hexAlloc = true := (h.alloc 0).2
  rw [hpc]
  unfold consoleXport
  rw [cmdNetProv_client hu w h.toConsoleReady, useSession_eq]
  unfold runCmd
  rw [show protocommReqHandle (netProv u d ep b).env.req (sessionFor (d.env 0).openSession d.sid.toNat d.dev)
    (some (netProv u d ep b).ep) b = (s', r) from hr]
  dsimp only
  by_cases h0 : r.ret = 0
  · rw [if_neg (not_not.2 h0), if_neg (show ¬ (!(netProv u d ep b).env.hexAlloc) = true by simp [halloc])]
    dsimp only
    rw [if_neg (not_not.2 rfl)]
    exact ⟨⟨iff_of_true rfl h0, fun _ => hu.back r.out⟩, hjoin⟩
  · rw [if_pos h0]
    dsimp only
    rw [if_pos (by decide)]
    exact ⟨⟨iff_of_false (show - EIO ≠ 0 by decide) h0, fun h => absurd h h0⟩, hjoin⟩

/-! ## All three -/

/-- `maxResp`: `CONFIG_NETWORK_PROV_BLE_MAX_RESP_LEN`. -/
structure Platform (κ : Type) where
  maxResp : Nat
  mtu : Nat
  ulong : ULong
  client : κ
  hex : HexUtil

/-- Pieces of a read have bytes, the conversions undo each other, and both transports
that have a response buffer have room for so much in it. -/
structure Platform.Holds (p : Platform κ) (limit : Nat) : Prop where
  mtu : 0 < p.mtu
  hex : Inverse p.hex
  ble : limit ≤ p.maxResp
  http : limit ≤ RESP_BUF_LEN

inductive Way (κ σ : Type)
  | ble (d : BleClient σ)
  | http (d : HttpClient κ σ)
  | console (d : ConsoleClient σ)

namespace Way

def xport [DecidableEq κ] (p : Platform κ) : Xport (Way κ σ)
  | .ble d, ep, b =>
    match gattXport p.maxResp p.mtu d ep b with
    | (d, r) => (.ble d, r)
  | .http d, ep, b =>
    match httpXport p.ulong p.client d ep b with
    | (d, r) => (.http d, r)
  | .console d, ep, b =>
    match consoleXport p.hex p.ulong d ep b with
    | (d, r) => (.console d, r)

/-- The client's next request is the first of a session; over BLE it has just connected. -/
def Fresh (p : Platform κ) : Way κ σ → Link σ → Prop
  | .ble d, l => BleJoined l.dev.pc.endpoints d l
  | .http d, l => HttpFresh p.client d l
  | .console d, l => ConsoleFresh d l

def Joined (p : Platform κ) : Way κ σ → Link σ → Prop
  | .ble d, l => BleJoined l.dev.pc.endpoints d l
  | .http d, l => HttpJoined p.client d l
  | .console d, l => ConsoleJoined d l

/-- The instance that the transport serves. -/
def session : Way κ σ → Option (PcSession σ)
  | .ble d => d.gatt.gPc
  | .http d => some d.sess
  | .console d => some d.dev.sess

/-- Something happens to the application meanwhile. -/
def onApp (f : σ → σ) : Way κ σ → Way κ σ
  | .ble d => .ble { d with gatt := { d.gatt with gPc := d.gatt.gPc.map fun s => { s with app := f s.app } } }
  | .http d => .http { d with sess := { d.sess with app := f d.sess.app } }
  | .console d => .console { d with dev := { d.dev with sess := { d.dev.sess with app := f d.dev.sess.app } } }

theorem joined_session {p : Platform κ} {d : Way κ σ} {l : Link σ} (h : d.Joined p l) : d.session = some l.dev := by
  cases d with
  | ble d => exact h.1.pc
  | http d => exact congrArg some h.dev.symm
  | console d => exact congrArg some h.dev.symm

theorem joined_onApp {p : Platform κ} {d : Way κ σ} {l : Link σ} (h : d.Joined p l) (f : σ → σ) :
    (d.onApp f).Joined p { l with dev := { l.dev with app := f l.dev.app } } := by
  cases d with
  | ble d =>
    obtain ⟨hs, henv⟩ := h
    refine ⟨⟨?_, rfl, hs.registered, hs.gatt, ⟨hs.built.attrs, hs.built.name, hs.built.uuid⟩⟩, henv⟩
    change d.gatt.gPc.map _ = some _
    rw [hs.pc]
    rfl
  | http d =>
    obtain ⟨hr, hv, hc, hd⟩ := h
    exact ⟨⟨hr.admits, hr.empty, hr.chunks, hr.env⟩, hv, hc, by rw [hd]⟩
  | console d =>
    obtain ⟨hr, hs, hd⟩ := h
    exact ⟨⟨hr.started, hr.alloc, hr.env⟩, hs, by rw [hd]⟩

end Way

theorem pcXport_endpoints (l : Link σ) (ep : CStr) (b : Bytes) :
    (pcXport l ep b).1.dev.pc.endpoints = l.dev.pc.endpoints := by
  have hcfg : SameConfig l.dev (pcXport l ep b).1.dev :=
    Session.step_config (l := .req (l.env 0) (some ep) b) rfl
  rw [hcfg]

/-- **All transports answer alike.** Whichever of the three a client is on, from the first request
of its session on it gets what `protocomm_req_handle` answers, in that one session. -/
theorem way_alike [DecidableEq κ] {p : Platform κ} {limit : Nat} (hp : p.Holds limit) :
    Follows (Way.xport p) pcXport Routable REQ_BUF_LEN limit (Way.Fresh (σ := σ) p) (Way.Joined p) where
  first {d l ep b} hep hb hl h := by
    cases d with
    | ble d =>
      obtain ⟨hs, hj⟩ := ble_next hp.mtu h ep b (Nat.le_trans hl hp.ble)
      rw [← pcXport_endpoints l ep b] at hj
      exact ⟨hs, fun _ => hj⟩
    | http d => exact http_first p.ulong hep hb (Nat.le_trans hl hp.http) h
    | console d => exact ⟨(console_step hp.hex p.ulong ep b h).1, fun _ => (console_step hp.hex p.ulong ep b h).2⟩
  next {d l ep b} hep hb hl h := by
    cases d with
    | ble d =>
      obtain ⟨hs, hj⟩ := ble_next hp.mtu h ep b (Nat.le_trans hl hp.ble)
      rw [← pcXport_endpoints l ep b] at hj
      exact ⟨hs, hj⟩
    | http d => exact http_next p.ulong hep hb (Nat.le_trans hl hp.http) h
    | console d => exact console_step hp.hex p.ulong ep b h.fresh

/-! ## What a start leaves -/

theorem ble_fresh (p : Platform κ) {e : GattEnv} {s : PcSession σ} {deviceName : Option CStr}
    {g₀ g : Gatt σ Sec1Ctx KeyStore} (hpc : TableOk s.pc) (hstart : networkProvBleStart e s deviceName g₀ = (0, g))
    (eo : Env) (env : Nat → ReqEnv) :
    (Way.ble ⟨connected 0 eo g, env⟩).Fresh p ⟨protocommOpenSession eo s, env⟩ := by
  obtain ⟨hs, -⟩ := start_serves hpc hstart
  have hcfg := openSession_config eo s
  have hgpc : (connected 0 eo g).gPc = some (protocommOpenSession eo s) := by
    change g.gPc.map _ = _
    rw [hs.pc]
    rfl
  refine ⟨⟨hgpc, rfl, hs.registered, hs.gatt, ?_⟩, rfl⟩
  rw [hcfg]
  exact ⟨hs.built.attrs, hs.built.name, hs.built.uuid⟩

theorem http_fresh (p : Platform κ) (h : SoftapHttp κ) (s : PcSession σ) {args : Nat → HttpArgs}
    (hargs : ∀ n b, (args n).chunks b ≠ [] ∧ ((args n).chunks b).flatten = b) :
    (Way.http ⟨httpStart h, s, none, args⟩).Fresh p
      ⟨protocommOpenSession (args 0).env.openSession s, fun n => (args n).env.req⟩ :=
  ⟨⟨.inl rfl, rfl, hargs, fun _ => rfl⟩, rfl, rfl⟩

theorem console_fresh (p : Platform κ) (pc : Nat) (c : Transport.Console) (s : PcSession σ) (sid : UInt32)
    {env : Nat → ConsoleEnv} (henv : ∀ n, (env n).inAlloc = true ∧ (env n).hexAlloc = true) :
    (Way.console ⟨⟨(networkProvConsoleStart pc c).2, s⟩, sid, env⟩).Fresh p
      ⟨protocommOpenSession (env 0).openSession s, fun n => (env n).req⟩ :=
  ⟨⟨by simp [networkProvConsoleStart], henv, fun _ => rfl⟩, rfl⟩

/-! ## A platform -/

theorem hex_byte (c : UInt8) : isHexDigit (hexChar (c / 16)) = true ∧ isHexDigit (hexChar (c % 16)) = true ∧
    hexValue (hexChar (c / 16)) * 16 + hexValue (hexChar (c % 16)) = c := by
  have h : ∀ n < 256, isHexDigit (hexChar (UInt8.ofNat n / 16)) = true ∧
      isHexDigit (hexChar (UInt8.ofNat n % 16)) = true ∧
      hexValue (hexChar (UInt8.ofNat n / 16)) * 16 + hexValue (hexChar (UInt8.ofNat n % 16)) = UInt8.ofNat n := by
    decide +kernel
  simpa using h c.toNat c.toNat_lt

theorem bin2hex_cons (c : UInt8) (b : Bytes) :
    testHex.bin2hex (c :: b) = hexChar (c / 16) :: hexChar (c % 16) :: testHex.bin2hex b := rfl

theorem length_bin2hex (b : Bytes) : (testHex.bin2hex b).length = 2 * b.length := by
  induction b with
  | nil => rfl
  | cons c b ih =>
    rw [bin2hex_cons, List.length_cons, List.length_cons, ih, List.length_cons]
    omega

theorem bin2hex_digits (b : Bytes) : ∀ c ∈ testHex.bin2hex b, isHexDigit c = true := by
  intro c hc
  obtain ⟨x, -, hx⟩ := List.mem_flatMap.1 hc
  obtain ⟨h1, h2, -⟩ := hex_byte x
  rcases List.mem_cons.1 hx with rfl | hx
  · exact h1
  · rw [List.mem_singleton.1 hx]
    exact h2

theorem hexPairs_bin2hex (b : Bytes) : hexPairs (testHex.bin2hex b) = b := by
  induction b with
  | nil => rfl
  | cons c b ih => rw [bin2hex_cons, hexPairs, ih, (hex_byte c).2.2]

theorem testHex_inverse : Inverse testHex where
  length := length_bin2hex
  noNul b h := absurd (bin2hex_digits b 0 h) (by decide)
  back b := by
    have hall : (testHex.bin2hex b).all isHexDigit = true := List.all_eq_true.2 (bin2hex_digits b)
    have heven : (testHex.bin2hex b).length % 2 = 0 := by
      rw [length_bin2hex]
      omega
    change (if (testHex.bin2hex b).all isHexDigit = true then hexPairs (if (testHex.bin2hex b).length % 2 = 0 then
      testHex.bin2hex b else 0x30 :: testHex.bin2hex b) else []) = b
    rw [if_pos hall, if_pos heven]
    exact hexPairs_bin2hex b

def demoPlatform : Platform Nat := ⟨512, 20, .bits32, 1, testHex⟩

theorem demoPlatform_holds {limit : Nat} (h : limit ≤ 512) : demoPlatform.Holds limit :=
  ⟨by decide, testHex_inverse, h, Nat.le_trans h (by decide)⟩

end Clients

end NetworkProv
