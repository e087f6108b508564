import NetworkProv.Security.Handshake

/-!
# The secure channel

A client and a device after the handshake, exchanging requests in order. The
two ends share one keystream for both directions, so they stay usable only as
long as every exchange moves both by the same number of bytes: the request's,
and the response's if one comes back. `InStep` says they are at one place of
one keystream.

* `exchange_inStep`: an exchange keeps them in step, whatever the handler
  does, and carries request and response unchanged.
* `channel_roundtrip`: so after a handshake does every exchange of a run.
-/
namespace NetworkProv.Security1
open NetworkProv.Core Session Protocomm

variable {σ : Type}

structure Channel (σ : Type) where
  client : ProvClient
  dev : PcSession σ

/-- A request of the client: the endpoint and the plaintext. -/
structure ChanReq where
  env : ReqEnv
  ep : CStr
  msg : Bytes

/-- The device's reply, and what the client decrypts of it on a return of 0. -/
structure ChanOut where
  reply : Reply
  plain : Option Bytes
  deriving DecidableEq

/-- mirrors src/tests/security1/src/main.c:49-68; the client gives up on an
error. -/
def exchange (P : Psa) (s : Channel σ) (q : ChanReq) : Channel σ × ChanOut :=
  match provClientXform P true s.client q.msg with
  | (.error ret, c) => (⟨c, s.dev⟩, ⟨.fail ret, none⟩)
  | (.ok enc, c) =>
    match protocommReqHandle q.env s.dev (some q.ep) enc with
    | (dev, r) =>
      if r.ret ≠ 0 then (⟨c, dev⟩, ⟨r, none⟩)
      else match provClientXform P true c r.out with
        | (.error _, c) => (⟨c, dev⟩, ⟨r, none⟩)
        | (.ok plain, c) => (⟨c, dev⟩, ⟨r, some plain⟩)

def channel (P : Psa) : Machine (Channel σ) ChanReq ChanOut := ⟨fun s q => some (exchange P s q)⟩

/-- Both ends are at the same place of the same keystream, the device in
SEC1_DONE. -/
def InStep (P : Psa) (c : ProvClient) (dev : PcSession σ) (st : End) : Prop :=
  ∃ ctx, dev.pc.secCtx = some ctx ∧ ctx.state = .done ∧ ctx.cipher.stream P = some st ∧
    c.cipher.stream P = some st

/-! ## The device's end -/

theorem sec1Encrypt_live {P : Psa} {ctx : Sec1Ctx} {st : End} (hd : ctx.state = .done)
    (hs : ctx.cipher.stream P = some st) (inp : Bytes) :
    sec1Encrypt P true (some ctx) inp =
      (.ok (st.xform inp), some { ctx with cipher := ctx.cipher.advance inp.length }) := by
  simp [sec1Encrypt, hd, ctrXform_live hs]

/-- The device's end is at `st`. -/
def DeviceAt (P : Psa) (dev : PcSession σ) (st : End) : Prop :=
  ∃ ctx, dev.pc.secCtx = some ctx ∧ ctx.state = .done ∧ ctx.cipher.stream P = some st

theorem DeviceAt.encrypt {P : Psa} (pb : Nanopb) {dev : PcSession σ} {st : End}
    (h : DeviceAt P dev st) (inp : Bytes) :
    ∃ c, (networkProvSecurity1 P pb).encrypt true dev.pc.secCtx inp = (.ok (st.xform inp), c) ∧
      DeviceAt P (dev.setCtx c) (st.advance inp.length) := by
  obtain ⟨ctx, hc, hd, hs⟩ := h
  rw [hc]
  exact ⟨_, sec1Encrypt_live hd hs inp, _, rfl, hd, stream_advance hs _⟩

/-- The bytes of the keystream that a handler's answer takes. -/
def answerLength (ret : Int) (out : Bytes) : Nat := if ret = 0 then out.length else 0

theorem runHandler_live {P : Psa} (pb : Nanopb) (e : Env) {dev : PcSession σ} {st : End} (name : CStr)
    (handler : ReqHandler σ) (plain : Bytes) (h : DeviceAt P dev st) :
    ∃ dev', runHandler (networkProvSecurity1 P pb) (.good e) dev name handler plain =
        (dev', ⟨(handler dev.app plain).2.1,
          if (handler dev.app plain).2.1 = 0 then st.xform (handler dev.app plain).2.2 else [],
          some ⟨name, plain, (handler dev.app plain).2.1, (handler dev.app plain).2.2⟩⟩) ∧
      DeviceAt P dev' (st.advance (answerLength (handler dev.app plain).2.1 (handler dev.app plain).2.2)) := by
  generalize ha : handler dev.app plain = a
  obtain ⟨app, ret, raw⟩ := a
  have h' : DeviceAt P { dev with app := app } st := h
  unfold runHandler
  rw [ha]
  dsimp only
  by_cases hr : ret = 0
  · subst hr
    by_cases hl : raw = []
    · subst hl
      exact ⟨_, rfl, by simpa [answerLength] using h'⟩
    · have hl' : raw.length ≠ 0 := by simpa using hl
      obtain ⟨c, hx, hd⟩ := h'.encrypt pb raw
      refine ⟨_, ?_, hd⟩
      rw [if_neg (by decide), if_neg hl', if_neg (by simp [ReqEnv.good]), show (ReqEnv.good e).encrypt = true from rfl,
        hx]
      rfl
  · refine ⟨{ dev with app := app }, by simp [hr], ?_⟩
    simpa [answerLength, hr] using h'

/-- A data request to a device in SEC1_DONE reaches the handler decrypted. -/
theorem reqHandle_live {P : Psa} {pb : Nanopb} {e : Env} {dev : PcSession σ} {st : End} {name : CStr}
    {handler : ReqHandler σ} (hsec : dev.pc.sec = some (networkProvSecurity1 P pb))
    (hep : DataEp dev.pc name handler) (h : DeviceAt P dev st) (enc : Bytes) :
    ∃ dev', protocommReqHandle (.good e) dev (some name) enc =
        (dev', ⟨(handler dev.app (st.xform enc)).2.1,
          if (handler dev.app (st.xform enc)).2.1 = 0 then
            (st.advance enc.length).xform (handler dev.app (st.xform enc)).2.2 else [],
          some ⟨name, st.xform enc, (handler dev.app (st.xform enc)).2.1,
            (handler dev.app (st.xform enc)).2.2⟩⟩) ∧
      DeviceAt P dev' (st.advance (enc.length +
        answerLength (handler dev.app (st.xform enc)).2.1 (handler dev.app (st.xform enc)).2.2)) := by
  have hreq : protocommReqHandle (.good e) dev (some name) enc =
      handleData (networkProvSecurity1 P pb) (.good e) dev name handler enc := by
    obtain ⟨ctx, hc, -⟩ := h
    unfold DataEp at hep
    simp [protocommReqHandle, hep, hsec, hc]
  rw [hreq]
  by_cases hl : enc = []
  · subst hl
    obtain ⟨dev', hr, hd⟩ := runHandler_live pb e name handler [] h
    refine ⟨dev', ?_, by simpa [End.xform] using hd⟩
    simpa [handleData, End.xform] using hr
  · have hl' : enc.length > 0 := List.length_pos_iff.mpr hl
    obtain ⟨c, hx, hd⟩ := h.encrypt pb enc
    obtain ⟨dev', hr, hd'⟩ := runHandler_live pb e name handler (st.xform enc) hd
    rw [End.advance_advance] at hd'
    refine ⟨dev', ?_, hd'⟩
    have hdec : (networkProvSecurity1 P pb).decrypt true dev.pc.secCtx enc = (.ok (st.xform enc), c) := hx
    unfold handleData
    rw [if_pos hl', if_neg (by simp [ReqEnv.good]), show (ReqEnv.good e).decrypt = true from rfl, hdec]
    exact hr

/-! ## One exchange, and all of them -/

/-- The handler of the endpoint got the client's plaintext, the return value is
the handler's, and with a return of 0 the client has the bytes the handler
produced. -/
def RoundTrip (x : Entry (Channel σ) ChanReq ChanOut) : Prop :=
  ∃ handler ret out app, DataEp x.pre.dev.pc x.lbl.ep handler ∧
    handler x.pre.dev.app x.lbl.msg = (app, ret, out) ∧
    x.out.reply.call = some ⟨x.lbl.ep, x.lbl.msg, ret, out⟩ ∧ x.out.reply.ret = ret ∧
    (ret = 0 → x.out.plain = some out)

theorem exchange_inStep {P : Psa} {pb : Nanopb} {x : Entry (Channel σ) ChanReq ChanOut} {st : End}
    {e : Env} {handler : ReqHandler σ} (hx : (channel P).Ok x)
    (hsec : x.pre.dev.pc.sec = some (networkProvSecurity1 P pb)) (he : x.lbl.env = .good e)
    (hep : DataEp x.pre.dev.pc x.lbl.ep handler) (h : InStep P x.pre.client x.pre.dev st) :
    RoundTrip x ∧ SameConfig x.pre.dev x.post.dev ∧ ∃ st', InStep P x.post.client x.post.dev st' := by
  obtain ⟨⟨c, dev⟩, ⟨env, ep, msg⟩, out, s'⟩ := x
  obtain ⟨ctx, hc, hd, hs, hcl⟩ := h
  change some (exchange P ⟨c, dev⟩ ⟨env, ep, msg⟩) = some (s', out) at hx
  change env = _ at he
  subst he
  simp only [Option.some.injEq] at hx
  obtain ⟨dev', hreq, hd'⟩ := reqHandle_live (e := e) hsec hep ⟨ctx, hc, hd, hs⟩ (st.xform msg)
  have hcfg : SameConfig dev dev' := Session.step_config (l := .req _ _ _) (congrArg some hreq)
  rw [End.xform_xform] at hreq hd'
  generalize ha : handler dev.app msg = a at hreq hd'
  obtain ⟨app, ret, raw⟩ := a
  dsimp only at hreq hd'
  rw [End.length_xform] at hreq hd'
  unfold exchange at hx
  rw [provClientXform_live hcl] at hx
  dsimp only at hx
  rw [hreq] at hx
  dsimp only at hx
  obtain ⟨ctx', hc', hdone', hs'⟩ := hd'
  by_cases hr : ret = 0
  · subst hr
    rw [if_neg (by decide), if_pos rfl,
      provClientXform_live (c := { c with cipher := c.cipher.advance msg.length })
        (stream_advance hcl _)] at hx
    cases hx
    refine ⟨⟨handler, 0, raw, app, hep, ha, rfl, rfl, fun _ => ?_⟩, hcfg, _, ctx', hc', hdone', hs', ?_⟩
    · exact congrArg some (End.xform_xform _ _)
    · simp only [End.length_xform, advance_advance, answerLength, if_pos]
      exact stream_advance hcl _
  · rw [if_pos hr] at hx
    cases hx
    refine ⟨⟨handler, ret, raw, app, hep, ha, rfl, rfl, fun h0 => absurd h0 hr⟩, hcfg, _, ctx', hc',
      hdone', hs', ?_⟩
    simp only [answerLength, if_neg hr, Nat.add_zero]
    exact stream_advance hcl _

/-- An exchange makes one request of the device, or none. -/
theorem exchange_request {P : Psa} {s s' : Channel σ} {q : ChanReq} {o : ChanOut}
    (h : exchange P s q = (s', o)) : (o.reply.call = none ∧ s'.dev = s.dev) ∨
      ∃ enc, protocommReqHandle q.env s.dev (some q.ep) enc = (s'.dev, o.reply) := by
  unfold exchange at h
  split at h
  · cases h
    exact .inl ⟨rfl, rfl⟩
  · rename_i enc c hx
    refine .inr ⟨enc, ?_⟩
    generalize hr : protocommReqHandle q.env s.dev (some q.ep) enc = d at h
    obtain ⟨dev, r⟩ := d
    dsimp only at h
    split at h
    · cases h; rfl
    · split at h <;> cases h <;> rfl

/-- The application's state after an exchange is the handler's. -/
theorem RoundTrip.post_app {P : Psa} {x : Entry (Channel σ) ChanReq ChanOut} (hx : (channel P).Ok x)
    (h : RoundTrip x) {handler : ReqHandler σ} (hep : DataEp x.pre.dev.pc x.lbl.ep handler) :
    ∃ ret out, handler x.pre.dev.app x.lbl.msg = (x.post.dev.app, ret, out) ∧ x.out.reply.ret = ret ∧
      (ret = 0 → x.out.plain = some out) := by
  obtain ⟨handler', ret, out, app, hep', ha, hcall, hret, hplain⟩ := h
  have hh : handler' = handler := by
    unfold DataEp at hep hep'
    rw [hep'] at hep
    simpa using hep
  subst hh
  refine ⟨ret, out, ?_, hret, hplain⟩
  rcases exchange_request (Option.some.inj hx) with ⟨hn, -⟩ | ⟨enc, hr⟩
  · rw [hn] at hcall
    cases hcall
  · rcases reqHandle_call hr with ⟨hn, -⟩ | ⟨name, h₂, plain, app₂, ret₂, out₂, hname, hep₂, ha₂, hc₂, happ⟩
    · rw [hn] at hcall
      cases hcall
    · cases hname
      rw [hcall] at hc₂
      cases hc₂
      unfold DataEp at hep' hep₂
      rw [hep'] at hep₂
      cases hep₂
      rw [ha] at ha₂
      cases ha₂
      rw [ha, happ]

/-- What every run of a channel keeps. -/
structure ChannelInv (P : Psa) (pb : Nanopb) (dev₀ : PcSession σ) (s : Channel σ) : Prop where
  sec : s.dev.pc.sec = some (networkProvSecurity1 P pb)
  config : SameConfig dev₀ s.dev
  inStep : ∃ st, InStep P s.client s.dev st

theorem channelInv_step {P : Psa} {pb : Nanopb} {dev₀ : PcSession σ}
    {x : Entry (Channel σ) ChanReq ChanOut} (hx : (channel P).Ok x)
    (hq : ∃ e handler, x.lbl.env = .good e ∧ DataEp dev₀.pc x.lbl.ep handler)
    (h : ChannelInv P pb dev₀ x.pre) : ChannelInv P pb dev₀ x.post ∧ RoundTrip x := by
  obtain ⟨e, handler, he, hep⟩ := hq
  obtain ⟨st, hst⟩ := h.inStep
  have hep' : DataEp x.pre.dev.pc x.lbl.ep handler := by
    unfold DataEp findEp at hep ⊢
    rw [h.config]; exact hep
  obtain ⟨hrt, hcfg, hst'⟩ := exchange_inStep hx h.sec he hep' hst
  refine ⟨⟨?_, h.config.trans hcfg, hst'⟩, hrt⟩
  rw [hcfg]; exact h.sec

/-- After a completed handshake under one keystream the ends are in step. -/
theorem handshake_inStep {P : Psa} {ctx ctx' : Sec1Ctx} {c : ProvClient} {kd kc : Bytes}
    {dev : PcSession σ} (h : HandshakeDone P ctx ctx' c kd kc) (hc : dev.pc.secCtx = some ctx')
    (hks : c.cipher.keystream P = ctx'.cipher.keystream P) :
    InStep P c dev ⟨P.ctr kd ctx'.deviceRandom.val, 64⟩ := by
  rw [h.client, h.device] at hks
  have hks' : P.ctr kc ctx'.deviceRandom.val = P.ctr kd ctx'.deviceRandom.val := by
    simpa [CipherOp.keystream, CipherOp.driving] using hks
  refine ⟨ctx', hc, h.state, ?_, ?_⟩
  · rw [h.device]; rfl
  · rw [h.client]
    simp [CipherOp.stream, CipherOp.driving, hks']

/-- **The secure channel carries every message.** After a handshake that
completed, with both ends on one keystream: for every run of requests to data
endpoints, with memory and ciphers working and handlers doing whatever they
like, each request reaches its handler as the client meant it and each response
returned with 0 reaches the client as the handler made it. -/
theorem channel_roundtrip (P : Psa) (pb : Nanopb) (hpb : Codec pb) (e : Env) (w w' : KeyStore)
    (c c' : ProvClient) (d d' : Link σ) (pop : Option CStr)
    (hsec : d.dev.pc.sec = some (networkProvSecurity1 P pb)) (hep : SecurityEp d.dev.pc sessionEp)
    (hh : provClientHandshake P pb pcXport e w c d pop = (0, c', w', d'))
    (hks : ∀ ctx, d'.dev.pc.secCtx = some ctx → c'.cipher.keystream P = ctx.cipher.keystream P)
    (t : List (Entry (Channel σ) ChanReq ChanOut)) (s : Channel σ)
    (hr : (channel P).Run ⟨c', d'.dev⟩ t s)
    (hreq : ∀ x ∈ t, ∃ e handler, x.lbl.env = .good e ∧ DataEp d'.dev.pc x.lbl.ep handler) :
    ∀ x ∈ t, RoundTrip x := by
  obtain ⟨ctx, ctx', kd, kc, -, hctx', hcfg, -, hdone, -⟩ := handshake_completed hpb hsec hep hh
  have h0 : ChannelInv P pb d'.dev ⟨c', d'.dev⟩ := by
    refine ⟨?_, .refl _, _, handshake_inStep hdone hctx' (hks ctx' hctx')⟩
    rw [hcfg]; exact hsec
  intro x hm
  obtain ⟨t₁, t₂, rfl⟩ := List.append_of_mem hm
  obtain ⟨h₁, hx, -⟩ := hr.at
  have hinv : ChannelInv P pb d'.dev x.pre :=
    h₁.guarded (C := fun x => ∃ e handler, x.lbl.env = .good e ∧ DataEp d'.dev.pc x.lbl.ep handler) h0
      (fun y hy hq hp => (channelInv_step hy hq hp).1) (fun y hy => hreq y (by simp [hy]))
  exact (channelInv_step hx (hreq x hm) hinv).2

/-! ## The test device and a client -/

/-- The test device, just opened, its calls succeeding. -/
def testLink : Link Unit :=
  ⟨protocommOpenSession (.good devicePriv deviceRandom) (testDevice vectors wirePb (some pop)),
    fun _ => goodReq⟩

/-- The client's handshake with it, under the same PoP. -/
def testHandshake : Int × ProvClient × KeyStore × Link Unit :=
  provClientHandshake vectors wirePb pcXport (.good clientPriv deviceRandom) .empty provClientInit
    testLink (some pop)

def testReqs : List ChanReq := [⟨goodReq, dataEp, bytesOf 5 0x68656c6c6f⟩, ⟨goodReq, dataEp, []⟩]

theorem testHandshake_ok :
    provClientHandshake vectors wirePb pcXport (.good clientPriv deviceRandom) .empty provClientInit
      testLink (some pop) =
        (0, testHandshake.2.1, testHandshake.2.2.1, testHandshake.2.2.2) :=
  Prod.ext (by decide +kernel) rfl

/-- The handshake leaves the test device's endpoints alone. -/
theorem testHandshake_dataEp : DataEp testHandshake.2.2.2.dev.pc dataEp echoHandler := by
  obtain ⟨-, -, -, -, -, -, hcfg, -⟩ :=
    handshake_completed wirePb_codec (by rfl) (by rfl) testHandshake_ok
  unfold DataEp findEp
  rw [hcfg]
  rfl

theorem testHandshake_keystream (ctx : Sec1Ctx) (h : testHandshake.2.2.2.dev.pc.secCtx = some ctx) :
    testHandshake.2.1.cipher.keystream vectors = ctx.cipher.keystream vectors := by
  have hd : testHandshake.2.2.2.dev.pc.secCtx.map (·.cipher.driving) =
      some (some (testKey, deviceRandom.val)) := by decide +kernel
  have hc : testHandshake.2.1.cipher.driving = some (testKey, deviceRandom.val) := by decide +kernel
  rw [h, Option.map_some, Option.some.injEq] at hd
  rw [CipherOp.keystream, CipherOp.keystream, hd, hc]

theorem channel_roundtrip_test : ∃ t s,
    (channel vectors).Run ⟨testHandshake.2.1, testHandshake.2.2.2.dev⟩ t s ∧
    t.map (·.lbl) = testReqs ∧
    t.map (·.out.plain) = [some (bytesOf 10 0x6563686f3a68656c6c6f), some (bytesOf 5 0x6563686f3a)] ∧
    ∀ x ∈ t, RoundTrip x := by
  have hr := (channel vectors).run_get ⟨testHandshake.2.1, testHandshake.2.2.2.dev⟩ testReqs (by rfl)
  refine ⟨_, _, hr, by rfl, by decide +kernel, channel_roundtrip vectors wirePb wirePb_codec
    (.good clientPriv deviceRandom) .empty _ provClientInit testHandshake.2.1 testLink
    testHandshake.2.2.2 (some pop) (by rfl) (by rfl) testHandshake_ok testHandshake_keystream _ _ hr
    fun x hx => ?_⟩
  have hl : x.lbl ∈ testReqs := List.mem_map_of_mem (f := (·.lbl)) hx
  simp only [testReqs, List.mem_cons, List.not_mem_nil, or_false] at hl
  rcases hl with hl | hl <;> rw [hl] <;> exact ⟨_, echoHandler, rfl, testHandshake_dataEp⟩

end NetworkProv.Security1
