import NetworkProv.Stack.Established
import NetworkProv.Transport.Clients

/-!
# A session over any transport

The whole way: a client with the proof of possession, on BLE, HTTP or the
console, down to the state machine of the network type.

* `way_completes_iff`: over each of the transports the handshake completes exactly for
  clients with the proof of possession.
* `way_refines`: what such a client then asks for, and what happens meanwhile, comes to a
  run of the machine.
* `wifi_way_refines`, `thread_way_refines`: for both network types.

Limitations: no allocation and no PSA call under the requests fails (`openedLink`, what a
fresh `Way` has it answer), and no one else uses the transport until the session is over.
-/
namespace NetworkProv.Stack
open NetworkProv.Core Protocomm Security1 Session Endpoints Clients Proto
open Http (REQ_BUF_LEN RESP_BUF_LEN)

variable {κ N I O E H X : Type}

inductive WayInput (I : Type)
  | request (ep : CStr) (msg : Bytes)
  | event (i : I)

inductive WayOut (O : Type)
  | exchange (o : SeatOut)
  | event (o : O)

abbrev WaySeat (κ N E H X : Type) := Seat (Way κ (EpApp (App N E) H X))

/-- The network side of the device, while a transport serves it. -/
def wayNet (s : WaySeat κ N E H X) : Option N := s.dev.session.map fun dev => dev.app.app.net

def setNet (n : N) (a : EpApp (App N E) H X) : EpApp (App N E) H X := { a with app := { a.app with net := n } }

def wayStep [DecidableEq κ] (B : Backend N I O E) (P : Psa) (p : Platform κ) (s : WaySeat κ N E H X) :
    WayInput I → Option (WaySeat κ N E H X × WayOut O)
  | .request ep msg =>
    match exchangeOver P (Way.xport p) s ep msg with
    | (s, o) => some (s, .exchange o)
  | .event i =>
    if B.isEvent i then
      ((wayNet s).bind fun n => B.machine.step n i).map fun r =>
        ({ s with dev := s.dev.onApp (setNet r.1) }, .event r.2)
    else none

def wayStack [DecidableEq κ] (B : Backend N I O E) (P : Psa) (p : Platform κ) :
    Machine (WaySeat κ N E H X) (WayInput I) (WayOut O) := ⟨wayStep B P p⟩

abbrev WayEntry (κ N I O E H X : Type) := Entry (WaySeat κ N E H X) (WayInput I) (WayOut O)

/-- The step is a request to an endpoint of the network type, which the HTTP transport has room for,
or an event. -/
def WayOrderly (B : Backend N I O E) (x : WayEntry κ N I O E H X) : Prop :=
  ∀ ep msg, x.lbl = .request ep msg → (B.handler ep).isSome ∧ msg.length ≤ REQ_BUF_LEN

/-- What a step shows is what the run `t` of the machine shows. -/
def WayCarries (B : Backend N I O E) (x : WayEntry κ N I O E H X) (t : List (Entry N I O)) : Prop :=
  match x.lbl, x.out with
  | .request ep msg, .exchange o =>
    ∃ ret out, B.Answers ep msg t ret out ∧ (o.ret = 0 ↔ ret = 0) ∧ (ret = 0 → o.plain = some out)
  | .event i, .event o => ∃ n n', wayNet x.pre = some n ∧ wayNet x.post = some n' ∧ t = [⟨n, i, o, n'⟩]
  | _, _ => False

/-- No answer is longer than `limit` bytes. -/
def Backend.Short (B : Backend N I O E) (limit : Nat) : Prop :=
  ∀ ep inbuf t ret out, B.Answers ep inbuf t ret out → out.length ≤ limit

theorem Kind.short {Q R : Type} (K : Kind N I O E Q R) : K.backend.Short MAX_PAYLOAD := by
  rintro ep inbuf t ret out ⟨⟨ret', r⟩, -, -, -, hb⟩
  cases r with
  | none =>
    rw [(hb.error rfl).2]
    exact Nat.zero_le _
  | some r => exact (hb.message _ rfl).2.2.1

theorem routable_handler {B : Backend N I O E} {ep : CStr} (h : (B.handler ep).isSome) : Routable ep := by
  refine routable_builtin ?_
  unfold Backend.handler at h
  split at h
  · rename_i he
    rw [he]
    decide
  split at h
  · rename_i he
    rw [he]
    decide
  split at h
  · rename_i he
    rw [he]
    decide
  · cases h

/-! ## Responses of `prov-session` -/

/-- nanopb on `SessionData`, of which no message is longer than 128 bytes: what the longest
has room for is below that. -/
structure SessionCodec (pb : Nanopb) : Prop extends Codec pb where
  short : ∀ m b, pb.encode m = some b → b.length ≤ 128

theorem protoPb_sessionCodec (pb : Nanopb) : SessionCodec (protoPb pb) :=
  ⟨protoPb_codec pb, fun _ _ h => (sessionData.encode_length h).trans sessionData_size⟩

/-- What `sec1_handshake` answers is a message that was encoded. -/
theorem sec1Handshake_encoded {P : Psa} {pb : Nanopb} {e : Env} {w w' : KeyStore} {v v' : Option Sec1Ctx}
    {inbuf out : Bytes} (h : sec1Handshake P pb e w v inbuf = (.ok out, v', w')) : ∃ m, pb.encode m = some out := by
  have hbuild : ∀ alloc m, networkProvPbEncode pb alloc m = .ok out → ∃ m, pb.encode m = some out := by
    intro alloc m hm
    unfold networkProvPbEncode at hm
    split at hm
    · cases hm
    · rename_i b hb
      split at hm
      · cases hm
        exact ⟨m, hb⟩
      · cases hm
  cases v with
  | none => cases h
  | some ctx =>
    rcases sec1Handshake_cases h with ⟨p, c, -, -, hc, -⟩ | ⟨p, c, -, -, hc, -⟩ | ⟨hr, -⟩
    · obtain ⟨-, ⟨-, ⟨ret, hr⟩, -⟩ | ⟨-, -, hr, -⟩⟩ := handleCmd0_cases hc
      · cases hr
      · exact hbuild _ _ hr.symm
    · rcases handleCmd1_cases hc with ⟨⟨ret, hr⟩, -⟩ | ⟨-, s, -, -, hr⟩
      · cases hr
      · exact hbuild _ _ hr.symm
    · cases hr

/-- The device runs security 1, and the calls of the requests to come succeed. -/
structure Sec1Link {σ : Type} (P : Psa) (pb : Nanopb) (l : Link σ) : Prop where
  sec : l.dev.pc.sec = some (networkProvSecurity1 P pb)
  ep : SecurityEp l.dev.pc sessionEp
  good : ∀ n, ∃ e, l.env n = .good e

theorem sec1Link_next {σ : Type} {P : Psa} {pb : Nanopb} (l : Link σ) (ep : CStr) (b : Bytes)
    (h : Sec1Link P pb l) : Sec1Link P pb (pcXport l ep b).1 := by
  have hcfg : SameConfig l.dev (pcXport l ep b).1.dev :=
    Session.step_config (l := .req (l.env 0) (some ep) b) rfl
  obtain ⟨hsec, hep, hgood⟩ := h
  refine ⟨?_, ?_, fun n => hgood (n + 1)⟩
  · rw [hcfg]
    exact hsec
  · unfold SecurityEp findEp at hep ⊢
    rw [hcfg]
    exact hep

theorem session_short {σ : Type} {P : Psa} {pb : Nanopb} (hpb : SessionCodec pb) {l : Link σ}
    (h : Sec1Link P pb l) (b : Bytes) : (pcXport l sessionEp b).2.2.length ≤ 128 := by
  generalize hh : sec1Handshake P pb (l.env 0).handshake l.dev.ext l.dev.pc.secCtx b = q
  obtain ⟨r, c, w⟩ := q
  rw [pcXport_eq h.sec h.ep hh]
  cases r with
  | error ret => exact Nat.zero_le _
  | ok out =>
    obtain ⟨m, hm⟩ := sec1Handshake_encoded hh
    exact hpb.short m out hm

/-! ## The handshake -/

/-- The session that a client's first request goes to. -/
def openedLink {σ : Type} (r : Draws) (s : PcSession σ) : Link σ :=
  ⟨protocommOpenSession (.good r.devicePriv r.openRandom) s, fun n => .good (.good (r.reqPriv n) (r.reqRandom n))⟩

/-- The handshake of a client on its transport. -/
def wayHandshake {σ : Type} [DecidableEq κ] (P : Psa) (pb : Nanopb) (r : Draws) (p : Platform κ) (d : Way κ σ)
    (clientPop : Option CStr) : Int × ProvClient × KeyStore × Way κ σ :=
  provClientHandshake P pb (Way.xport p) (.good r.clientPriv r.clientRandom) r.clientKeys provClientInit d clientPop

/-- It is the handshake of a client at the device itself. -/
theorem wayHandshake_alike {σ : Type} [DecidableEq κ] {P : Psa} {pb : Nanopb} (hpb : SessionCodec pb)
    {r : Draws} {s : PcSession σ} (hsec : s.pc.sec = some (networkProvSecurity1 P pb)) (hep : SecurityEp s.pc sessionEp)
    {p : Platform κ} {limit : Nat} (hlimit : 128 ≤ limit) (hp : p.Holds limit) {d : Way κ σ}
    (hd : d.Fresh p (openedLink r s)) (clientPop : Option CStr) :
    SameHandshake (fun d l => d.Joined p l ∧ Sec1Link P pb l)
      (wayHandshake P pb r p d clientPop) (freshHandshake P pb r s clientPop) := by
  have hcfg := openSession_config (.good r.devicePriv r.openRandom) s
  have hlink : Sec1Link P pb (openedLink r s) := by
    refine ⟨?_, ?_, fun n => ⟨_, rfl⟩⟩
    · unfold openedLink
      rw [hcfg]
      exact hsec
    · unfold SecurityEp findEp at hep ⊢
      unfold openedLink
      rw [hcfg]
      exact hep
  exact handshake_alike ((way_alike hp).and (I := Sec1Link P pb) sec1Link_next)
    (routable_builtin (by decide)) (by decide) (fun _ _ b hR => (session_short hpb hR.2 b).trans hlimit)
    (fun _ _ b hR => (session_short hpb hR.2 b).trans hlimit) ⟨hd, hlink⟩ _ _ _ clientPop

/-- **Over any transport the proof of possession decides.** No call under its requests fails, and no
one else uses the transport: then a client that is about to make its first request completes the
handshake if and only if its string is what the device keeps of its own. -/
theorem way_completes_iff {σ : Type} [DecidableEq κ] {P : Psa} {pb : Nanopb} (hpb : SessionCodec pb)
    {r : Draws} {s : PcSession σ} {clientPop : Option CStr} {shared : Bytes} {L : List Bytes}
    (hsec : s.pc.sec = some (networkProvSecurity1 P pb)) (hep : SecurityEp s.pc sessionEp)
    (hset : PopSetting P r.devicePriv r.clientPriv shared (r.reqRandom 0) L)
    (hpop : (charsOf s.pc.pop).take 63 ∈ L) (hclient : charsOf clientPop ∈ L) {p : Platform κ} {limit : Nat}
    (hlimit : 128 ≤ limit) (hp : p.Holds limit) {d : Way κ σ} (hd : d.Fresh p (openedLink r s)) :
    (wayHandshake P pb r p d clientPop).1 = 0 ↔ (charsOf s.pc.pop).take 63 = charsOf clientPop := by
  have hkept := handshake_iff_kept hpb.toCodec hsec hep hset hpop hclient
  rw [← hkept]
  rcases wayHandshake_alike hpb hsec hep hlimit hp hd clientPop with ⟨c, w, d', l, hx, hx', -, hl⟩ | ⟨hne, hne'⟩
  · refine iff_of_true (congrArg Prod.fst hx) ⟨congrArg Prod.fst hx', ?_⟩
    obtain ⟨hcfgSec, hcfgEp⟩ : (openedLink r s).dev.pc.sec = some (networkProvSecurity1 P pb) ∧
        SecurityEp (openedLink r s).dev.pc sessionEp := by
      have hcfg := openSession_config (.good r.devicePriv r.openRandom) s
      unfold openedLink SecurityEp findEp at *
      rw [hcfg]
      exact ⟨hsec, hep⟩
    obtain ⟨ctx, ctx', kd, kc, -, hctx', -, -, hdone, -⟩ :=
      handshake_completed hpb.toCodec hcfgSec hcfgEp (show _ = (0, c, w, l) from hx')
    exact ⟨ctx', by rw [hx']; exact hctx', hdone.state⟩
  · exact iff_of_false hne fun h => hne' h.1

/-! ## The session -/

/-- The client on its transport and the client at the device itself are at the same point. -/
structure Over (B : Backend N I O E) (P : Psa) (pb : Nanopb) (p : Platform κ) (x : WaySeat κ N E H X)
    (s : StackState N E H X) : Prop where
  client : x.client = s.client
  joined : ∃ env, x.dev.Joined p ⟨s.dev, env⟩ ∧ ∀ n, ∃ e, env n = .good e
  stack : StackInv B P pb s

theorem Over.net_eq {B : Backend N I O E} {P : Psa} {pb : Nanopb} {p : Platform κ} {x : WaySeat κ N E H X}
    {s : StackState N E H X} (h : Over B P pb p x s) : wayNet x = some (net s) := by
  obtain ⟨env, hj, -⟩ := h.joined
  unfold wayNet
  rw [Way.joined_session hj]
  rfl

/-- The handshake of a client with the proof of possession leaves it in step with the device. -/
theorem way_established [DecidableEq κ] {B : Backend N I O E} {limit : Nat} (hlimit : 128 ≤ limit) {P : Psa}
    {pb : Nanopb} (hpb : SessionCodec pb) {r : Draws} {s : PcSession (EpApp (App N E) H X)}
    {clientPop : Option CStr} {shared : Bytes}
    (h : Provisioned B P pb r s clientPop shared) {p : Platform κ} (hp : p.Holds limit)
    {d : Way κ (EpApp (App N E) H X)} (hd : d.Fresh p (openedLink r s)) :
    ∃ c w d', wayHandshake P pb r p d clientPop = (0, c, w, d') ∧
      Over B P pb p ⟨c, d'⟩ (freshStack P pb r s clientPop) := by
  obtain ⟨h0, hinv, -⟩ := established hpb.toCodec h
  obtain ⟨-, hep, hsec, -⟩ := h.started.table
  rcases wayHandshake_alike hpb hsec (by rw [sessionEp_eq]; exact hep) hlimit hp hd clientPop with
    ⟨c, w, d', l, hx, hx', hj, hl⟩ | ⟨-, hne⟩
  · have hdev : (freshStack P pb r s clientPop) = ⟨c, l.dev⟩ := by
      unfold freshStack
      rw [hx']
    rw [hdev] at hinv ⊢
    exact ⟨c, w, d', hx, rfl, ⟨l.env, hj, hl.good⟩, hinv⟩
  · exact absurd h0 hne

/-- The device's response to a request of the session is as long as its handler's answer. -/
theorem request_short {B : Backend N I O E} (hB : B.Lawful) {limit : Nat} (hshort : B.Short limit) {P : Psa}
    {pb : Nanopb} {s : StackState N E H X} (h : StackInv B P pb s) {env : Nat → ReqEnv} {e : Env}
    (he : env 0 = .good e) {ep : CStr} (hep : (B.handler ep).isSome) (msg : Bytes) {st : End}
    (hst : InStep P s.client s.dev st) : (pcXport ⟨s.dev, env⟩ ep (st.xform msg)).2.2.length ≤ limit := by
  obtain ⟨hd, hhd⟩ := Option.isSome_iff_exists.1 hep
  obtain ⟨ctx, hc, hdone, hs, -⟩ := hst
  obtain ⟨t, -, -, hans⟩ := hB.serves ep hd hhd s.dev.app.app msg h.ready
  have hle := hshort _ _ _ _ _ hans
  obtain ⟨dev', hr, -⟩ := reqHandle_live (e := e) h.channel.sec (h.serving ep hd hhd) ⟨ctx, hc, hdone, hs⟩
    (st.xform msg)
  unfold pcXport
  dsimp only
  rw [he, hr, End.xform_xform]
  dsimp only
  split
  · rw [End.length_xform]
    exact hle
  · exact Nat.zero_le _

theorem way_request [DecidableEq κ] {B : Backend N I O E} (hB : B.Lawful) {limit : Nat} (hshort : B.Short limit)
    {P : Psa} {pb : Nanopb} {p : Platform κ} (hp : p.Holds limit) {x : WaySeat κ N E H X} {s : StackState N E H X}
    {ep : CStr} {msg : Bytes} (hep : (B.handler ep).isSome) (hsize : msg.length ≤ REQ_BUF_LEN)
    (h : Over B P pb p x s) :
    ∃ t s', B.machine.Run (net s) t (net s') ∧ Over B P pb p (exchangeOver P (Way.xport p) x ep msg).1 s' ∧
      ∃ ret out, B.Answers ep msg t ret out ∧ ((exchangeOver P (Way.xport p) x ep msg).2.ret = 0 ↔ ret = 0) ∧
        (ret = 0 → (exchangeOver P (Way.xport p) x ep msg).2.plain = some out) := by
  obtain ⟨hclient, ⟨env, hj, hgood⟩, hinv⟩ := h
  obtain ⟨e, he⟩ := hgood 0
  obtain ⟨st, hst⟩ := hinv.channel.inStep
  obtain ⟨ctx, -, -, -, hcl⟩ := id hst
  obtain ⟨hinv', t, out, hrun, hans, hplain⟩ :=
    stack_request hB (q := ⟨env 0, ep, msg⟩) rfl ⟨⟨e, he⟩, hep⟩ hinv
  obtain ⟨hc', hj', hp', hret⟩ := exchangeOver_alike (way_alike hp) (s := x) (l := ⟨s.dev, env⟩)
    (show x.client.cipher.stream P = some st by rw [hclient]; exact hcl) (routable_handler hep) hsize
    (request_short hB hshort hinv he hep msg hst) hj
  rw [hclient] at hc' hj' hp' hret
  exact ⟨t, _, hrun, ⟨hc', ⟨_, hj', fun n => hgood (n + 1)⟩, hinv'⟩, _, out, hans, hret,
    fun h0 => hp'.trans (hplain h0)⟩

theorem way_step [DecidableEq κ] {B : Backend N I O E} (hB : B.Lawful) {limit : Nat} (hshort : B.Short limit)
    {P : Psa} {pb : Nanopb} {p : Platform κ} (hp : p.Holds limit) {x : WayEntry κ N I O E H X}
    {s : StackState N E H X} (hx : (wayStack B P p).Ok x) (hc : WayOrderly B x) (h : Over B P pb p x.pre s) :
    ∃ t s', B.machine.Run (net s) t (net s') ∧ Over B P pb p x.post s' ∧ WayCarries B x t := by
  obtain ⟨a, l, o, a'⟩ := x
  change wayStep B P p a l = some (a', o) at hx
  cases l with
  | request ep msg =>
    cases hx
    obtain ⟨hep, hsize⟩ := hc ep msg rfl
    obtain ⟨t, s', hrun, hover, ret, out, hans, hret, hplain⟩ := way_request hB hshort hp hep hsize h
    exact ⟨t, s', hrun, hover, ret, out, hans, hret, hplain⟩
  | event i =>
    unfold wayStep at hx
    dsimp only at hx
    split at hx
    · rename_i hi
      have hn : wayNet a = some (net s) := h.net_eq
      rw [hn, Option.bind_some] at hx
      obtain ⟨⟨n, o⟩, hr, heq⟩ := Option.map_eq_some_iff.1 hx
      cases heq
      obtain ⟨hclient, ⟨env, hj, hgood⟩, hinv⟩ := h
      have hover : Over B P pb p { a with dev := a.dev.onApp (setNet n) } (withNet s n) :=
        ⟨hclient, ⟨env, Way.joined_onApp hj (setNet n), hgood⟩,
          ⟨⟨hinv.channel.sec, .refl _, hinv.channel.inStep⟩, hinv.serving, hB.events _ _ i o hr hi hinv.ready⟩⟩
      exact ⟨[⟨net s, i, o, n⟩], withNet s n, .one (e := ⟨net s, i, o, n⟩) hr, hover, net s, n, hn,
        hover.net_eq, rfl⟩
    · cases hx

/-- **A session over any transport.** -/
theorem way_refines [DecidableEq κ] {B : Backend N I O E} (hB : B.Lawful) {limit : Nat} (hshort : B.Short limit)
    {P : Psa} {pb : Nanopb} {p : Platform κ} (hp : p.Holds limit) {x₀ x : WaySeat κ N E H X}
    {s : StackState N E H X} (h : Over B P pb p x₀ s) {t : List (WayEntry κ N I O E H X)}
    (hr : (wayStack B P p).Run x₀ t x) (hc : ∀ y ∈ t, WayOrderly B y) :
    ∃ ts n, wayNet x = some n ∧ B.machine.Run (net s) ts.flatten n ∧ List.Forall₂ (WayCarries B) t ts := by
  have hstep : ∀ (y : WayEntry κ N I O E H X) (n : N), (wayStack B P p).Ok y → WayOrderly B y →
      (∃ s, Over B P pb p y.pre s ∧ net s = n) →
      ∃ t n', B.machine.Run n t n' ∧ (∃ s, Over B P pb p y.post s ∧ net s = n') ∧ WayCarries B y t := by
    rintro y n hy hc ⟨s, hs, rfl⟩
    obtain ⟨t, s', hrun, hover, hcar⟩ := way_step hB hshort hp hy hc hs
    exact ⟨t, _, hrun, ⟨s', hover, rfl⟩, hcar⟩
  obtain ⟨ts, n, hrun, ⟨s', hover, hn⟩, hts⟩ :=
    hr.simulate (R := fun x n => ∃ s, Over B P pb p x s ∧ net s = n) hstep ⟨s, h, rfl⟩ hc
  exact ⟨ts, n, by rw [hover.net_eq, hn], hrun, hts⟩

/-- What a handshake over a transport and the requests after it come to, for a client that is about
to open a session of the device `s`. -/
def SessionOver [DecidableEq κ] (B : Backend N I O E) (P : Psa) (pb : Nanopb) (r : Draws)
    (s : PcSession (EpApp (App N E) H X)) (clientPop : Option CStr) (p : Platform κ)
    (d : Way κ (EpApp (App N E) H X)) : Prop :=
  ∃ c w d', wayHandshake P pb r p d clientPop = (0, c, w, d') ∧
    ∀ t x, (wayStack B P p).Run ⟨c, d'⟩ t x → (∀ y ∈ t, WayOrderly B y) →
      ∃ ts n, wayNet x = some n ∧ B.machine.Run s.app.app.net ts.flatten n ∧
        List.Forall₂ (WayCarries B) t ts

theorem Kind.Lawful.sessionOver [DecidableEq κ] {Q R : Type} {K : Kind N I O E Q R} (hK : K.Lawful) {P : Psa}
    {pb : Nanopb} (hpb : SessionCodec pb) {r : Draws} {s : PcSession (EpApp (App N (ReqCalls E I)) H X)}
    {clientPop : Option CStr} {shared : Bytes} (h : Provisioned K.backend P pb r s clientPop shared) {p : Platform κ}
    (hp : p.Holds MAX_PAYLOAD) {d : Way κ (EpApp (App N (ReqCalls E I)) H X)} (hd : d.Fresh p (openedLink r s)) :
    SessionOver K.backend P pb r s clientPop p d := by
  obtain ⟨-, -, hnet⟩ := established hpb.toCodec h
  obtain ⟨c, w, d', hh, hover⟩ := way_established (by decide) hpb h hp hd
  refine ⟨c, w, d', hh, fun t x hr hc => ?_⟩
  rw [← hnet]
  exact way_refines hK.backend K.short hp hover hr hc

/-- **A Wi-Fi device over any transport.** On BLE, HTTP or the console, for a client that has the
proof of possession and is about to make its first request, where no call under its requests fails
and no one else uses the transport: the handshake completes, and whatever it then asks of the three
endpoints, in whatever parts its requests travel, and whatever happens in between, the Wi-Fi side
goes through a run of its machine, and the client gets the answers. -/
theorem wifi_way_refines [DecidableEq κ] {P : Psa} {pb : Nanopb} (hpb : SessionCodec pb) (maxEntries : Nat)
    {dpb : PayloadPb} (hdpb : PayloadCodec dpb) {r : Draws}
    {s : PcSession (EpApp WifiApp H X)} {clientPop : Option CStr} {shared : Bytes}
    (h : Provisioned (OnWifi.wifiKind maxEntries dpb).backend P pb r s clientPop shared)
    {p : Platform κ} (hp : p.Holds MAX_PAYLOAD) {d : Way κ (EpApp WifiApp H X)} (hd : d.Fresh p (openedLink r s)) :
    SessionOver (OnWifi.wifiKind maxEntries dpb).backend P pb r s clientPop p d :=
  (OnWifi.wifiKind_lawful maxEntries hdpb).sessionOver hpb h hp hd

/-- **A Thread device over any transport**, likewise. -/
theorem thread_way_refines [DecidableEq κ] {P : Psa} {pb : Nanopb} (hpb : SessionCodec pb) (maxEntries : Nat)
    {dpb : PayloadPb} (hdpb : PayloadCodec dpb) {r : Draws}
    {s : PcSession (EpApp ThreadApp H X)} {clientPop : Option CStr} {shared : Bytes}
    (h : Provisioned (OnThread.threadKind maxEntries dpb).backend P pb r s clientPop shared)
    {p : Platform κ} (hp : p.Holds MAX_PAYLOAD) {d : Way κ (EpApp ThreadApp H X)} (hd : d.Fresh p (openedLink r s)) :
    SessionOver (OnThread.threadKind maxEntries dpb).backend P pb r s clientPop p d :=
  (OnThread.threadKind_lawful maxEntries hdpb).sessionOver hpb h hp hd

/-! ## A client on each of them -/

/-- A server that cuts bodies up after the first byte. -/
def demoArgs (n : Nat) : HttpArgs :=
  ⟨⟨.good testDraws.devicePriv testDraws.openRandom, 7, .good (.good (testDraws.reqPriv n) (testDraws.reqRandom n))⟩,
    fun b => [b.take 1, b.drop 1]⟩

theorem demoArgs_chunks (n : Nat) (b : Bytes) :
    (demoArgs n).chunks b ≠ [] ∧ ((demoArgs n).chunks b).flatten = b := by
  refine ⟨List.cons_ne_nil _ _, ?_⟩
  change b.take 1 ++ (b.drop 1 ++ []) = b
  rw [List.append_nil, List.take_append_drop]

def httpDemo : Way Nat (EpApp WifiApp Unit Unit) := .http ⟨Http.httpStart Http.testHttp, demoDevice, none, demoArgs⟩

theorem httpDemo_fresh : httpDemo.Fresh demoPlatform (openedLink testDraws demoDevice) :=
  http_fresh demoPlatform Http.testHttp demoDevice demoArgs_chunks

theorem way_completes_iff_test :
    (wayHandshake vectors (protoPb wirePb) testDraws demoPlatform httpDemo (some wrongPop)).1 = 0 ↔
      (charsOf demoDevice.pc.pop).take 63 = charsOf (some wrongPop) :=
  way_completes_iff (protoPb_sessionCodec wirePb)
    (L := [(charsOf demoDevice.pc.pop).take 63, charsOf (some wrongPop)]) rfl
    (by rw [sessionEp_eq]; exact demo_provisioned.started.table.2.1)
    (vectors_setting (by decide +kernel) (by decide +kernel) (by decide +kernel)) (by simp) (by simp)
    (Nat.le_refl 128) (demoPlatform_holds (by decide)) httpDemo_fresh

/-- The client's requests and the events of a session. -/
def wayInputs {I : Type} (is : List (StackInput I)) : List (WayInput I) :=
  is.map fun
    | .request q => .request q.ep q.msg
    | .event i => .event i

/-- The types of the messages that the client reads over its transport, after its handshake. -/
def readOver (d : Way Nat (EpApp WifiApp Unit Unit)) : Option (List (Option Nat)) :=
  match wayHandshake vectors (protoPb wirePb) testDraws demoPlatform d (some Security1.pop) with
  | (_, c, _, d) =>
    ((wayStack demoBackend vectors demoPlatform).exec ⟨c, d⟩ (wayInputs demoInputs)).map fun r =>
      r.1.map fun x =>
        match x.out with
        | .exchange o => (o.plain.bind protoPayload.readConfig).map (·.msg)
        | .event _ => none

theorem wifi_way_refines_test :
    readOver httpDemo =
      some [some typeRespSetWifiConfig, some typeRespApplyWifiConfig, none, some typeRespGetWifiStatus] ∧
    SessionOver demoBackend vectors (protoPb wirePb) testDraws demoDevice (some Security1.pop) demoPlatform httpDemo :=
  ⟨by decide +kernel, wifi_way_refines (protoPb_sessionCodec wirePb) 16 protoPayload_codec demo_provisioned
    (demoPlatform_holds (by decide)) httpDemo_fresh⟩

def bleStarted : Int × Ble.Gatt (EpApp ThreadApp Unit Unit) Sec1Ctx KeyStore :=
  Ble.networkProvBleStart ⟨⟨0, 0, 0⟩, EP_SESSION⟩ threadDemo none (.boot (.zero _))

/-- The Thread device over BLE, started and connected. -/
def bleDemo : Way Nat (EpApp ThreadApp Unit Unit) :=
  .ble ⟨Ble.connected 0 (.good testDraws.devicePriv testDraws.openRandom) bleStarted.2,
    fun n => .good (.good (testDraws.reqPriv n) (testDraws.reqRandom n))⟩

theorem thread_way_refines_test :
    SessionOver threadBackend vectors (protoPb wirePb) testDraws threadDemo (some Security1.pop) demoPlatform
      bleDemo := by
  refine thread_way_refines (protoPb_sessionCodec wirePb) 16 protoPayload_codec threadDemo_provisioned
    (demoPlatform_holds (by decide)) ?_
  have hstart : Ble.networkProvBleStart ⟨⟨0, 0, 0⟩, EP_SESSION⟩ threadDemo none (.boot (.zero _)) =
      (0, bleStarted.2) := rfl
  exact ble_fresh demoPlatform ⟨by decide, by decide, by decide⟩ hstart _ _

end NetworkProv.Stack
