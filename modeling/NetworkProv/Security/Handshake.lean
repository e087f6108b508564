import NetworkProv.Security.ProvClient

/-!
# A client and a device

What a return of 0 from `prov_client_handshake` says about the two ends, and
what Command0 and Command1 do to a device when nanopb carries the messages
unchanged (`Codec`).

* `handshake_completed`: both ends are 64 bytes into the keystream of one IV,
  each under the key it derived, and the device is in SEC1_DONE.
-/
namespace NetworkProv.Security1
open NetworkProv.Core Session Protocomm

variable {σ : Type}

/-! ## Commands at the device -/

/-- A response that cannot be built is a failure with a code. -/
theorem buildResp_error {pb : Nanopb} {alloc : Bool} {m : SessionData} {ret : Int}
    (h : networkProvPbEncode pb alloc m = .error ret) : ret ≠ 0 := by
  unfold networkProvPbEncode at h
  split at h
  · cases h; decide
  split at h
  · cases h
  · cases h; decide

/-- So is every way in which Command0 fails, -/
theorem handleCmd0_error {P : Psa} {pb : Nanopb} {e : Env} {w w' : KeyStore} {ctx ctx' : Sec1Ctx}
    {p : Sec1Payload} {ret : Int} (h : handleCmd0 P pb e w ctx p = (.error ret, ctx', w')) :
    ret ≠ 0 := by
  unfold handleCmd0 at h
  split at h
  · dsimp only at h
    split at h
    · cases h; decide
    generalize hd : deriveSessionKey P e w _ = d at h
    obtain ⟨r, c, w₁⟩ := d
    dsimp only at h
    split at h
    · rename_i hr; cases h; exact hr
    · simp only [Prod.mk.injEq] at h
      exact buildResp_error h.1
  · cases h; decide

/-- every way in which Command1 does, -/
theorem handleCmd1_error {P : Psa} {pb : Nanopb} {e : Env} {ctx ctx' : Sec1Ctx} {p : Sec1Payload}
    {ret : Int} (h : handleCmd1 P pb e ctx p = (.error ret, ctx')) : ret ≠ 0 := by
  unfold handleCmd1 at h
  split at h
  · cases h; decide
  split at h
  · cases h; decide
  split at h
  · rename_i hx; cases h
    rw [(ctrXform_error hx).1]; decide
  split at h
  · cases h; decide
  split at h
  · rename_i hx; cases h
    rw [(ctrXform_error hx).1]; decide
  · simp only [Prod.mk.injEq] at h
    exact buildResp_error h.1

/-- and every failure of the handshake; a transport tells it from an answer by the code. -/
theorem sec1Handshake_error {P : Psa} {pb : Nanopb} {e : Env} {w w' : KeyStore}
    {v v' : Option Sec1Ctx} {inbuf : Bytes} {ret : Int}
    (h : sec1Handshake P pb e w v inbuf = (.error ret, v', w')) : ret ≠ 0 := by
  cases v with
  | none => cases h; decide
  | some ctx =>
    rcases sec1Handshake_cases h with ⟨p, c, -, -, hc, -⟩ | ⟨p, c, -, -, hc, -, -⟩ | ⟨hr, -⟩
    · exact handleCmd0_error hc
    · exact handleCmd1_error hc
    · cases hr; decide

/-- A message to the session endpoint is handled by `sec1`, which leaves a context and keys. -/
theorem pcXport_eq {P : Psa} {pb : Nanopb} {d : Link σ} {buf : Bytes} {r : Except Int Bytes}
    {c : Option Sec1Ctx} {w : KeyStore} (hsec : d.dev.pc.sec = some (networkProvSecurity1 P pb))
    (hep : SecurityEp d.dev.pc sessionEp)
    (h : sec1Handshake P pb (d.env 0).handshake d.dev.ext d.dev.pc.secCtx buf = (r, c, w)) :
    pcXport d sessionEp buf =
      (⟨{ d.dev.setCtx c with ext := w }, fun n => d.env (n + 1)⟩, (Reply.ofExcept r).ret,
        (Reply.ofExcept r).out) := by
  have hreq : protocommReqHandle (d.env 0) d.dev (some sessionEp) buf =
      ({ d.dev.setCtx c with ext := w }, .ofExcept r) := by
    unfold SecurityEp at hep
    simp [protocommReqHandle, hep, hsec, networkProvSecurity1, h]
  unfold pcXport
  rw [hreq]

/-- A message that the transport delivers with return 0 was handled by `sec1`. -/
theorem pcXport_ok {P : Psa} {pb : Nanopb} {d d' : Link σ} {buf resp : Bytes}
    (hsec : d.dev.pc.sec = some (networkProvSecurity1 P pb)) (hep : SecurityEp d.dev.pc sessionEp)
    (h : pcXport d sessionEp buf = (d', 0, resp)) :
    ∃ c w, sec1Handshake P pb (d.env 0).handshake d.dev.ext d.dev.pc.secCtx buf = (.ok resp, c, w) ∧
      d' = ⟨{ d.dev.setCtx c with ext := w }, fun n => d.env (n + 1)⟩ := by
  generalize hh : sec1Handshake P pb (d.env 0).handshake d.dev.ext d.dev.pc.secCtx buf = q
  obtain ⟨r, c, w⟩ := q
  rw [pcXport_eq hsec hep hh, Prod.mk.injEq, Prod.mk.injEq] at h
  obtain ⟨rfl, hret, rfl⟩ := h
  cases r with
  | error ret => exact absurd hret (sec1Handshake_error hh)
  | ok out => exact ⟨c, w, rfl, rfl⟩

/-- An answered Command0: the device has the public key of the client, a random IV of its own, and the
key derived from both, at the start of the keystream. It answers with its own key and the IV. -/
theorem command0_ok {P : Psa} {pb : Nanopb} {e : Env} {w w' : KeyStore} {v v' : Option Sec1Ctx}
    {buf resp : Bytes} {pk : Buf PUBKEY_LEN} (hpb : Codec pb)
    (h : sec1Handshake P pb e w v buf = (.ok resp, v', w')) (hb : pb.encode (cmd0 pk.val) = some buf) :
    ∃ ctx ctx', v = some ctx ∧ v' = some ctx' ∧ ctx'.state = .cmd0Done ∧ SameDevice ctx ctx' ∧
      ctx'.clientPubkey = pk ∧ e.generateRandom = some ctx'.deviceRandom ∧
      pb.decode resp = some (resp0 ctx.devicePubkey.val ctx'.deviceRandom.val) ∧
      ∃ shared key, psaRawKeyAgreement P e w ctx.deviceKey pk.val = some shared ∧
        mixPop P e ctx.pop shared = some key ∧
        ctx'.cipher = ⟨some key, some ctx'.deviceRandom.val, 0⟩ := by
  obtain ⟨buf', hb', -, hdec⟩ := hpb.cmd0 pk
  rw [hb] at hb'; cases hb'
  have hd : decodeSec1 pb buf = some ⟨sessionCommand0, .sc0 pk.val⟩ := by
    simp [decodeSec1, hdec, cmd0]
  cases v with
  | none => cases h
  | some ctx =>
    rcases sec1Handshake_cases h with ⟨p, c, hp, -, hc, rfl⟩ | ⟨p, c, hp, hm, -⟩ | ⟨hr, -⟩
    · rw [hd] at hp; cases hp
      obtain ⟨hs, ⟨-, ⟨ret, hr⟩, -⟩ | ⟨-, hst, hr, hpk, hrnd, sh, key, h1, h2, h3⟩⟩ :=
        handleCmd0_cases hc
      · cases hr
      · have hpk' : c.clientPubkey = pk := Subtype.ext hpk.symm
        obtain ⟨b, hb1, hb2⟩ := hpb.resp0 c.devicePubkey c.deviceRandom
        have hresp : resp = b := by
          unfold buildResp0 networkProvPbEncode at hr
          rw [hb1] at hr
          dsimp only at hr
          split at hr
          · cases hr; rfl
          · cases hr
        refine ⟨ctx, c, rfl, rfl, hst, hs, hpk', hrnd, ?_, sh, key, by rw [← hpk']; exact h1, h2, h3⟩
        rw [hresp, hb2, hs.devicePubkey]
    · rw [hd] at hp; cases hp
      simp [sessionCommand0, sessionCommand1] at hm
    · cases hr

/-- An answered Command1: what the client sent is, 32 bytes of the keystream further on, the public
key of the device. The answer is the public key of the client under the next 32. -/
theorem command1_ok {P : Psa} {pb : Nanopb} {e : Env} {w w' : KeyStore} {ctx : Sec1Ctx}
    {v' : Option Sec1Ctx} {buf resp : Bytes} (cv : Buf PUBKEY_LEN) (hpb : Codec pb)
    (h : sec1Handshake P pb e w (some ctx) buf = (.ok resp, v', w'))
    (hb : pb.encode (cmd1 cv.val) = some buf) :
    ∃ s, ctx.cipher.stream P = some s ∧ s.xform cv.val = ctx.devicePubkey.val ∧
      v' = some { ctx with state := .done, cipher := ctx.cipher.advance 64 } ∧
      pb.decode resp = some (resp1 ((s.advance 32).xform ctx.clientPubkey.val)) := by
  obtain ⟨buf', hb', -, hdec⟩ := hpb.cmd1 cv
  rw [hb] at hb'; cases hb'
  have hd : decodeSec1 pb buf = some ⟨sessionCommand1, .sc1 cv.val⟩ := by
    simp [decodeSec1, hdec, cmd1]
  rcases sec1Handshake_cases h with ⟨p, c, hp, hm, -⟩ | ⟨p, c, hp, -, hc, rfl, -⟩ | ⟨hr, -⟩
  · rw [hd] at hp; cases hp
    simp [sessionCommand0, sessionCommand1] at hm
  · rw [hd] at hp; cases hp
    rcases handleCmd1_cases hc with ⟨⟨ret, hr⟩, -⟩ | ⟨⟨-, -, -, s', hs', hv⟩, s, hs, rfl, hr⟩
    · cases hr
    · rw [hs] at hs'; cases hs'
      obtain ⟨b, hb1, hb2⟩ :=
        hpb.resp1 ⟨(s'.advance PUBKEY_LEN).xform ctx.clientPubkey.val, by simp⟩
      have hresp : resp = b := by
        unfold buildResp1 networkProvPbEncode at hr
        rw [hb1] at hr
        dsimp only at hr
        split at hr
        · cases hr; rfl
        · cases hr
      refine ⟨s', hs, hv, rfl, ?_⟩
      rw [hresp, hb2]
  · cases hr

/-! ## The whole handshake -/

/-- Both ends after a handshake: `kd` and `kc` are the keys that the device
and the client derived. -/
structure HandshakeDone (P : Psa) (ctx ctx' : Sec1Ctx) (c' : ProvClient) (kd kc : Bytes) : Prop where
  state : ctx'.state = .done
  same : SameDevice ctx ctx'
  device : ctx'.cipher = ⟨some kd, some ctx'.deviceRandom.val, 64⟩
  client : c'.cipher = ⟨some kc, some ctx'.deviceRandom.val, 64⟩
  verify : (⟨P.ctr kd ctx'.deviceRandom.val, 0⟩ : End).xform
    ((⟨P.ctr kc ctx'.deviceRandom.val, 0⟩ : End).xform ctx.devicePubkey.val) = ctx.devicePubkey.val

/-- The second half of the handshake. The client starts at the same IV with a key that it has derived;
if it ends with 0 the device has verified it, and both are 64 bytes on. -/
theorem clientCommand1_ok {P : Psa} {pb : Nanopb} {e : Env} {c c' : ProvClient} {d d' : Link σ}
    {ctx : Sec1Ctx} {kc : Bytes} {rnd : Buf RANDOM_LEN} (hpb : Codec pb)
    (hsec : d.dev.pc.sec = some (networkProvSecurity1 P pb)) (hep : SecurityEp d.dev.pc sessionEp)
    (hctx : d.dev.pc.secCtx = some ctx) (hc : c.cipher = ⟨some kc, some rnd.val, 0⟩)
    (h : clientCommand1 P pb pcXport e c d = (0, c', d')) :
    ∃ s, ctx.cipher.stream P = some s ∧
      s.xform ((⟨P.ctr kc rnd.val, 0⟩ : End).xform c.devicePubkey.val) = ctx.devicePubkey.val ∧
      d'.dev.pc.secCtx = some { ctx with state := .done, cipher := ctx.cipher.advance 64 } ∧
      SameConfig d.dev d'.dev ∧ d'.dev.app = d.dev.app ∧
      c' = { c with cipher := ⟨some kc, some rnd.val, 64⟩ } := by
  have hst : c.cipher.stream P = some ⟨P.ctr kc rnd.val, 0⟩ := by rw [hc]; rfl
  unfold clientCommand1 at h
  split at h
  · rename_i hx; cases h
    exact absurd rfl (provClientXform_error hx)
  rename_i cv c₁ hx
  obtain ⟨s₁, hs₁, rfl, rfl⟩ := provClientXform_ok hx
  rw [hst] at hs₁; cases hs₁
  split at h
  · rename_i hx; cases h
    exact absurd rfl (sessionExchange_error hx)
  rename_i m d₁ hx₁
  obtain ⟨buf, resp, hb, hxp, hdec⟩ := sessionExchange_ok hx₁
  obtain ⟨v, w, hh, rfl⟩ := pcXport_ok hsec hep hxp
  rw [hctx] at hh
  obtain ⟨s, hs, hv, rfl, hresp⟩ :=
    command1_ok ⟨(⟨P.ctr kc rnd.val, 0⟩ : End).xform c.devicePubkey.val, by simp⟩ hpb hh hb
  rw [hdec, Option.some.injEq] at hresp
  subst hresp
  dsimp only at h
  split at h
  · simp [EPROTO] at h
  rename_i hpr
  split at h
  · rename_i hx; cases h
    exact absurd rfl (provClientXform_error hx)
  rename_i check c₂ hx₂
  obtain ⟨s₂, -, -, rfl⟩ := provClientXform_ok hx₂
  -- the last check: the device has sent the client's own key
  split at h
  · simp [EACCES] at h
  · cases h
    refine ⟨s, hs, hv, rfl, rfl, rfl, ?_⟩
    simp [CipherOp.advance, hc, Nanopb.sec1, resp1, Nanopb.sr1]
    rfl

/-- **A handshake that ends with 0** was one Command0 and one Command1 at the device, in one session. -/
theorem handshake_completed {P : Psa} {pb : Nanopb} {e : Env} {w w' : KeyStore} {c c' : ProvClient}
    {d d' : Link σ} {pop : Option CStr} (hpb : Codec pb)
    (hsec : d.dev.pc.sec = some (networkProvSecurity1 P pb)) (hep : SecurityEp d.dev.pc sessionEp)
    (h : provClientHandshake P pb pcXport e w c d pop = (0, c', w', d')) :
    ∃ ctx ctx' kd kc, d.dev.pc.secCtx = some ctx ∧ d'.dev.pc.secCtx = some ctx' ∧
      SameConfig d.dev d'.dev ∧ d'.dev.app = d.dev.app ∧ HandshakeDone P ctx ctx' c' kd kc ∧
      (d.env 0).handshake.generateRandom = some ctx'.deviceRandom ∧
      (∃ shared, psaRawKeyAgreement P (d.env 0).handshake d.dev.ext ctx.deviceKey c'.pubkey.val
          = some shared ∧ mixPop P (d.env 0).handshake ctx.pop shared = some kd) ∧
      (∃ priv shared, e.generateKey = some priv ∧ c'.pubkey.val = P.x25519Pub priv ∧
        P.x25519 priv ctx.devicePubkey.val = some shared ∧ clientMixPop P e pop shared = some kc) := by
  unfold provClientHandshake at h
  generalize hk : provClientKeygen P e w c = k at h
  obtain ⟨r₀, c₁, w₁⟩ := k
  dsimp only at h
  split at h
  · rename_i hr; cases h; exact absurd rfl hr
  rename_i hr₀
  simp only [ne_eq, Decidable.not_not] at hr₀
  subst hr₀
  obtain ⟨priv, hp, hfind, hpk, hc₁⟩ := provClientKeygen_ok hk
  split at h
  · rename_i hx; cases h
    exact absurd rfl (sessionExchange_error hx)
  rename_i m d₁ hx
  obtain ⟨buf, resp, hb, hxp, hdec⟩ := sessionExchange_ok hx
  -- Command0, as the device has handled it
  obtain ⟨v, w₂, hh, rfl⟩ := pcXport_ok hsec hep hxp
  obtain ⟨ctx, ctx₁, hctx, rfl, hst, hs, hcp, hrnd, hresp, shd, kd, h1, h2, h3⟩ :=
    command0_ok hpb hh hb
  rw [hdec, Option.some.injEq] at hresp
  subst hresp
  dsimp only at h
  split at h
  swap
  · simp [EPROTO] at h
  rename_i hlen
  -- the client derives its key from the answer
  generalize hdv : provClientDerive P e w₁ _ pop _ = dv at h
  obtain ⟨r₂, c₂, w₃⟩ := dv
  dsimp only at h
  split at h
  · rename_i hr; cases h; exact absurd rfl hr
  rename_i hr₂
  simp only [ne_eq, Decidable.not_not] at hr₂
  subst hr₂
  obtain ⟨shc, kc, h4, h5, hc₂⟩ := provClientDerive_ok hdv
  -- and goes on to Command1 with it
  generalize hcm : clientCommand1 P pb pcXport e c₂ _ = cm at h
  obtain ⟨r₃, c₃, d₃⟩ := cm
  cases h
  have hcc : c₂.cipher = ⟨some kc, some ctx₁.deviceRandom.val, 0⟩ := by rw [hc₂]; rfl
  obtain ⟨s, hs', hv, hctx', hcfg, happ, rfl⟩ :=
    clientCommand1_ok hpb (by exact hsec) (by exact hep) rfl hcc hcm
  have hss : s = ⟨P.ctr kd ctx₁.deviceRandom.val, 0⟩ := by
    rw [h3] at hs'; cases hs'; rfl
  have hdp : c₂.devicePubkey = ctx.devicePubkey := by rw [hc₂]; rfl
  have hkey : c₂.key = c₁.key ∧ c₂.pubkey = c₁.pubkey := by rw [hc₂]; exact ⟨rfl, rfl⟩
  refine ⟨ctx, _, kd, kc, hctx, hctx', hcfg, happ,
    ⟨rfl, ⟨hs.pop, hs.deviceKey, hs.devicePubkey⟩, ?_, rfl, ?_⟩, hrnd, ⟨shd, ?_, h2⟩,
    ⟨priv, shc, hp, ?_, ?_, h5⟩⟩
  · rw [h3]; rfl
  · rw [hss, hdp, hs.devicePubkey] at hv; exact hv
  · rw [← h1]; simp only [hkey.2]
  · simp only [hkey.2]; exact hpk
  · unfold psaRawKeyAgreement at h4
    rw [hfind] at h4
    dsimp only at h4
    split at h4
    · exact h4
    · cases h4

end NetworkProv.Security1
