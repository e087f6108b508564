import NetworkProv.Security.Channel

/-!
# One client over any transport

`prov_client` has its transport from its caller, as a function that carries a
request and brings the response. What it does depends on what that function
returns and on nothing else.

* `handshake_alike`: over transports that answer alike the handshake completes
  alike, and leaves the same client.
* `exchangeOver_alike`: and then so does every exchange.
-/
namespace NetworkProv.Security1
open NetworkProv.Core Session Protocomm

variable {D D' σ : Type}

/-- `prov_client_xport_t`: the return value, and the response on a 0. -/
abbrev Xport (D : Type) := D → CStr → Bytes → D × Int × Bytes

/-- Both carried the request and brought the same response, or neither did. -/
def SameResult (a : D × Int × Bytes) (b : D' × Int × Bytes) : Prop :=
  (a.2.1 = 0 ↔ b.2.1 = 0) ∧ (b.2.1 = 0 → a.2.2 = b.2.2)

/-- `X` answers requests to the endpoints `E` of at most `size` bytes as `X'` does, as long as these
responses have at most `limit`. The first that is answered joins what `R₀` relates; a session that
is joined stays so, whatever becomes of a request. -/
structure Follows (X : Xport D) (X' : Xport D') (E : CStr → Prop) (size limit : Nat)
    (R₀ R : D → D' → Prop) : Prop where
  first : ∀ {d d' ep b}, E ep → b.length ≤ size → (X' d' ep b).2.2.length ≤ limit → R₀ d d' →
    SameResult (X d ep b) (X' d' ep b) ∧ ((X' d' ep b).2.1 = 0 → R (X d ep b).1 (X' d' ep b).1)
  next : ∀ {d d' ep b}, E ep → b.length ≤ size → (X' d' ep b).2.2.length ≤ limit → R d d' →
    SameResult (X d ep b) (X' d' ep b) ∧ R (X d ep b).1 (X' d' ep b).1

/-- What the second transport keeps anyway may be kept along. -/
theorem Follows.and {X : Xport D} {X' : Xport D'} {E : CStr → Prop} {size limit : Nat} {R₀ R : D → D' → Prop}
    (h : Follows X X' E size limit R₀ R) {I : D' → Prop} (hI : ∀ d' ep b, I d' → I (X' d' ep b).1) :
    Follows X X' E size limit (fun d d' => R₀ d d' ∧ I d') (fun d d' => R d d' ∧ I d') where
  first he hb hl hd := ⟨(h.first he hb hl hd.1).1, fun h0 => ⟨(h.first he hb hl hd.1).2 h0, hI _ _ _ hd.2⟩⟩
  next he hb hl hd := ⟨(h.next he hb hl hd.1).1, (h.next he hb hl hd.1).2, hI _ _ _ hd.2⟩

/-! ## The handshake -/

/-- Two handshakes that completed, with the same client and related ends, or two that did not. -/
def SameHandshake (R : D → D' → Prop) (a : Int × ProvClient × KeyStore × D)
    (b : Int × ProvClient × KeyStore × D') : Prop :=
  (∃ c w d d', a = (0, c, w, d) ∧ b = (0, c, w, d') ∧ R d d') ∨ (a.1 ≠ 0 ∧ b.1 ≠ 0)

section Handshake

variable {P : Psa} {pb : Nanopb} {X : Xport D} {X' : Xport D'} {R : D → D' → Prop} {d : D} {d' : D'}

variable (pb) in
theorem sessionExchange_alike (cmd : SessionData)
    (hx : ∀ b, b.length ≤ 128 → SameResult (X d sessionEp b) (X' d' sessionEp b) ∧
      ((X' d' sessionEp b).2.1 = 0 → R (X d sessionEp b).1 (X' d' sessionEp b).1)) :
    (∃ m e e', sessionExchange pb X d cmd = (.ok m, e) ∧ sessionExchange pb X' d' cmd = (.ok m, e') ∧
      R e e') ∨
    ∃ ret ret' e e', sessionExchange pb X d cmd = (.error ret, e) ∧
      sessionExchange pb X' d' cmd = (.error ret', e') := by
  unfold sessionExchange
  cases pb.encode cmd with
  | none => exact .inr ⟨_, _, _, _, rfl, rfl⟩
  | some b =>
    dsimp only
    by_cases hl : b.length > 128
    · rw [if_pos hl, if_pos hl]
      exact .inr ⟨_, _, _, _, rfl, rfl⟩
    · rw [if_neg hl, if_neg hl]
      obtain ⟨⟨hret, hout⟩, hR⟩ := hx b (Nat.le_of_not_lt hl)
      generalize X d sessionEp b = a at hret hout hR ⊢
      generalize X' d' sessionEp b = q at hret hout hR ⊢
      obtain ⟨e, ret, out⟩ := a
      obtain ⟨e', ret', out'⟩ := q
      dsimp only at hret hout hR ⊢
      by_cases h0 : ret' = 0
      · rw [if_neg (not_not.2 (hret.2 h0)), if_neg (not_not.2 h0), hout h0]
        cases pb.decode out' with
        | none => exact .inr ⟨_, _, _, _, rfl, rfl⟩
        | some m => exact .inl ⟨m, e, e', rfl, rfl, hR h0⟩
      · rw [if_pos (mt hret.1 h0), if_pos h0]
        exact .inr ⟨_, _, _, _, rfl, rfl⟩

theorem eproto_ne_zero : -EPROTO ≠ 0 := by decide

theorem eacces_ne_zero : -EACCES ≠ 0 := by decide

variable (pb) in
theorem clientCommand1_alike {e : Env} {c : ProvClient}
    (hx : ∀ b, b.length ≤ 128 → SameResult (X d sessionEp b) (X' d' sessionEp b) ∧
      ((X' d' sessionEp b).2.1 = 0 → R (X d sessionEp b).1 (X' d' sessionEp b).1)) :
    (∃ c' f f', clientCommand1 P pb X e c d = (0, c', f) ∧ clientCommand1 P pb X' e c d' = (0, c', f') ∧
      R f f') ∨
    ((clientCommand1 P pb X e c d).1 ≠ 0 ∧ (clientCommand1 P pb X' e c d').1 ≠ 0) := by
  unfold clientCommand1
  generalize hv : provClientXform P e.update₁ c c.devicePubkey.val = v
  obtain ⟨_ | verify, c₁⟩ := v
  · exact .inr ⟨provClientXform_error hv, provClientXform_error hv⟩
  dsimp only
  rcases sessionExchange_alike pb (cmd1 verify) hx with
    ⟨m, f, f', h₁, h₂, hR⟩ | ⟨ret, ret', f, f', h₁, h₂⟩
  · rw [h₁, h₂]
    dsimp only
    split
    · exact .inr ⟨eproto_ne_zero, eproto_ne_zero⟩
    -- both ends have the same answer from here on
    generalize hk : provClientXform P e.update₂ c₁ (pb.sr1 (pb.sec1 m.proto).payload).2 = k
    obtain ⟨_ | check, c₂⟩ := k
    · exact .inr ⟨provClientXform_error hk, provClientXform_error hk⟩
    dsimp only
    split
    · exact .inr ⟨eacces_ne_zero, eacces_ne_zero⟩
    · exact .inl ⟨c₂, f, f', rfl, rfl, hR⟩
  · rw [h₁, h₂]
    exact .inr ⟨sessionExchange_error h₁, sessionExchange_error h₂⟩

/-- **The handshake does not depend on the transport.** -/
theorem handshake_alike {E : CStr → Prop} {size limit : Nat} {R₀ : D → D' → Prop}
    (h : Follows X X' E size limit R₀ R) (hE : E sessionEp) (hsize : 128 ≤ size)
    (h₀ : ∀ d d' b, R₀ d d' → (X' d' sessionEp b).2.2.length ≤ limit)
    (h₁ : ∀ d d' b, R d d' → (X' d' sessionEp b).2.2.length ≤ limit) (hd : R₀ d d') (e : Env) (w : KeyStore)
    (c : ProvClient) (pop : Option CStr) :
    SameHandshake R (provClientHandshake P pb X e w c d pop) (provClientHandshake P pb X' e w c d' pop) := by
  unfold provClientHandshake
  generalize provClientKeygen P e w c = g
  obtain ⟨ret, c₁, w₁⟩ := g
  dsimp only
  by_cases hret : ret ≠ 0
  · rw [if_pos hret, if_pos hret]
    exact .inr ⟨hret, hret⟩
  rw [if_neg hret, if_neg hret]
  rcases sessionExchange_alike pb (cmd0 c₁.pubkey.val)
      (fun b hb => h.first hE (Nat.le_trans hb hsize) (h₀ d d' b hd) hd) with
    ⟨m, f, f', hx, hx', hR⟩ | ⟨_, _, f, f', hx, hx'⟩
  · rw [hx, hx']
    dsimp only
    split
    · rename_i hp
      generalize provClientDerive P e w₁ _ pop (pb.sr0 (pb.sec1 m.proto).payload).2.2 = k
      obtain ⟨ret₂, c₂, w₂⟩ := k
      dsimp only
      by_cases hret₂ : ret₂ ≠ 0
      · rw [if_pos hret₂, if_pos hret₂]
        exact .inr ⟨hret₂, hret₂⟩
      rw [if_neg hret₂, if_neg hret₂]
      rcases clientCommand1_alike pb (P := P) (e := e) (c := c₂) (R := R) (fun b hb => by
          obtain ⟨hs, hj⟩ := h.next hE (Nat.le_trans hb hsize) (h₁ f f' b hR) hR
          exact ⟨hs, fun _ => hj⟩) with ⟨c₃, g, g', hc, hc', hj⟩ | ⟨hc, hc'⟩
      · rw [hc, hc']
        exact .inl ⟨c₃, w₂, g, g', rfl, rfl, hj⟩
      · exact .inr ⟨hc, hc'⟩
    · exact .inr ⟨eproto_ne_zero, eproto_ne_zero⟩
  · rw [hx, hx']
    exact .inr ⟨sessionExchange_error hx, sessionExchange_error hx'⟩

end Handshake

/-! ## Requests -/

/-- A client, and its end of the transport. -/
structure Seat (D : Type) where
  client : ProvClient
  dev : D

/-- What a client gets of a request: the return value, and the plaintext on a 0. -/
structure SeatOut where
  ret : Int
  plain : Option Bytes
  deriving DecidableEq

/-- mirrors src/tests/bsim/ble_e2e/src/tester.c:133-174 -/
def exchangeOver (P : Psa) (X : Xport D) (s : Seat D) (ep : CStr) (msg : Bytes) : Seat D × SeatOut :=
  match provClientXform P true s.client msg with
  | (.error ret, c) => (⟨c, s.dev⟩, ⟨ret, none⟩)
  | (.ok enc, c) =>
    match X s.dev ep enc with
    | (d, ret, resp) =>
      if ret ≠ 0 then (⟨c, d⟩, ⟨ret, none⟩)
      else match provClientXform P true c resp with
        | (.error ret, c) => (⟨c, d⟩, ⟨ret, none⟩)
        | (.ok plain, c) => (⟨c, d⟩, ⟨0, some plain⟩)

/-- An exchange over such a transport is an exchange with the device itself. -/
theorem exchangeOver_alike {P : Psa} {X : Xport D} {E : CStr → Prop} {size limit : Nat}
    {R₀ R : D → Link σ → Prop} (h : Follows X pcXport E size limit R₀ R) {s : Seat D} {l : Link σ} {ep : CStr}
    {msg : Bytes} {st : End} (hs : s.client.cipher.stream P = some st) (hE : E ep) (hsize : msg.length ≤ size)
    (hlimit : (pcXport l ep (st.xform msg)).2.2.length ≤ limit) (hR : R s.dev l) :
    (exchangeOver P X s ep msg).1.client = (exchange P ⟨s.client, l.dev⟩ ⟨l.env 0, ep, msg⟩).1.client ∧
    R (exchangeOver P X s ep msg).1.dev
      ⟨(exchange P ⟨s.client, l.dev⟩ ⟨l.env 0, ep, msg⟩).1.dev, fun n => l.env (n + 1)⟩ ∧
    (exchangeOver P X s ep msg).2.plain = (exchange P ⟨s.client, l.dev⟩ ⟨l.env 0, ep, msg⟩).2.plain ∧
    ((exchangeOver P X s ep msg).2.ret = 0 ↔
      (exchange P ⟨s.client, l.dev⟩ ⟨l.env 0, ep, msg⟩).2.reply.ret = 0) := by
  have hlen : (st.xform msg).length ≤ size := by
    rw [End.length_xform]
    exact hsize
  obtain ⟨⟨hret, hout⟩, hj⟩ := h.next hE hlen hlimit hR
  unfold exchangeOver exchange
  rw [provClientXform_live hs]
  dsimp only
  unfold pcXport at hret hout hj
  generalize X s.dev ep (st.xform msg) = a at hret hout hj ⊢
  generalize protocommReqHandle (l.env 0) l.dev (some ep) (st.xform msg) = q at hret hout hj ⊢
  obtain ⟨d, ret, resp⟩ := a
  obtain ⟨dev, r⟩ := q
  dsimp only at hret hout hj ⊢
  by_cases h0 : r.ret = 0
  · rw [if_neg (not_not.2 (hret.2 h0)), if_neg (not_not.2 h0), hout h0,
      provClientXform_live (c := { s.client with cipher := s.client.cipher.advance msg.length })
        (stream_advance hs _)]
    exact ⟨rfl, hj, rfl, iff_of_true rfl h0⟩
  · rw [if_pos (mt hret.1 h0), if_pos h0]
    exact ⟨rfl, hj, rfl, iff_of_false (mt hret.1 h0) h0⟩

end NetworkProv.Security1
