import NetworkProv.Security.Channel

/-!
# Proof of possession

The handshake of a fresh session with a client, in terms of the two proofs of
possession. With everything underneath working and SHA-256 and AES telling the
strings and keys in question apart, it completes iff the client's string is
what `sec1_init` kept of the device's: its first 63 characters
(`handshake_iff_kept`). So it tells equal from different strings
(`handshake_iff_pop`) except with a device string of 64 characters or more:
the very same string is then refused, and its first 63 characters are taken.
-/
namespace NetworkProv.Security1
open NetworkProv.Core Session Protocomm

variable {σ : Type}

/-! ## Session keys -/

/-- The session key for a shared secret and a proof of possession. -/
def popKey (P : Psa) (shared pop : Bytes) : Bytes :=
  if pop = [] then shared else List.zipWith (· ^^^ ·) shared (P.sha256 pop)

/-- If the device gets a key it is this one. -/
theorem mixPop_some {P : Psa} {e : Env} {pop shared key : Bytes} (h : mixPop P e pop shared = some key) :
    key = popKey P shared pop := by
  unfold mixPop psaHashCompute at h
  split at h
  · rename_i hl
    rw [popKey, if_neg (List.ne_nil_of_length_pos hl)]
    split at h
    · cases h
    rename_i hash hh
    split at hh
    · cases hh
      split at h <;> cases h
      rfl
    · cases hh
  · rename_i hl
    have h0 : pop = [] := by simpa using hl
    cases h
    rw [popKey, if_pos h0]

/-- So it is at the client. -/
theorem clientMixPop_some {P : Psa} {e : Env} {pop : Option CStr} {shared key : Bytes}
    (h : clientMixPop P e pop shared = some key) : key = popKey P shared (charsOf pop) := by
  unfold clientMixPop psaHashCompute at h
  split at h
  · rename_i hl
    rw [popKey, if_neg hl]
    split at h <;> cases h
    rfl
  · rename_i hl
    rw [popKey, if_pos (by simpa using hl)]
    cases h; rfl

theorem mixPop_good (P : Psa) (priv : Bytes) (rnd : Buf 16) (pop shared : Bytes) :
    mixPop P (.good priv rnd) pop shared = some (popKey P shared pop) := by
  unfold mixPop popKey
  by_cases h : pop = []
  · subst h; rfl
  · have hl : pop.length > 0 := List.length_pos_iff.mpr h
    rw [if_pos hl, if_neg h, show psaHashCompute P (.good priv rnd) pop = some (P.sha256 pop) from rfl]
    simp [P.sha256_length]

theorem clientMixPop_good (P : Psa) (priv : Bytes) (rnd : Buf 16) (pop : Option CStr) (shared : Bytes) :
    clientMixPop P (.good priv rnd) pop shared = some (popKey P shared (charsOf pop)) := by
  unfold clientMixPop popKey
  by_cases h : charsOf pop = []
  · simp [h]
  · rw [if_pos h, if_neg h]; rfl

/-- XOR with the same secret tells strings of its length apart. -/
theorem zipWith_xor_cancel : ∀ {s x y : Bytes}, x.length = s.length → y.length = s.length →
    List.zipWith (· ^^^ ·) s x = List.zipWith (· ^^^ ·) s y → x = y
  | [], x, y, hx, hy, _ => by
    rw [List.length_eq_zero_iff.mp hx, List.length_eq_zero_iff.mp hy]
  | a :: s, [], y, hx, _, _ => by simp at hx
  | a :: s, b :: x, [], _, hy, _ => by simp at hy
  | a :: s, b :: x, c :: y, hx, hy, h => by
    simp only [List.zipWith_cons_cons, List.cons.injEq] at h
    rw [UInt8.xor_right_inj] at h
    rw [h.1, zipWith_xor_cancel (by simpa using hx) (by simpa using hy) h.2]

/-- No PoP is a string of zeros. -/
theorem zipWith_xor_zero : ∀ s : Bytes, List.zipWith (· ^^^ ·) s (List.replicate s.length 0) = s
  | [] => rfl
  | a :: s => by simp [List.replicate_succ, zipWith_xor_zero s]

/-- Two strings that SHA-256 tells apart, and from nothing, give two keys. -/
theorem popKey_inj {P : Psa} {shared a b : Bytes} (hl : shared.length = 32)
    (hinj : P.sha256 a = P.sha256 b → a = b) (ha : P.sha256 a ≠ List.replicate 32 0)
    (hb : P.sha256 b ≠ List.replicate 32 0) (h : popKey P shared a = popKey P shared b) : a = b := by
  have hla : (P.sha256 a).length = shared.length := by rw [P.sha256_length, hl]
  have hlb : (P.sha256 b).length = shared.length := by rw [P.sha256_length, hl]
  have hz : (List.replicate 32 (0 : UInt8)).length = shared.length := by simp [hl]
  have h0 : List.zipWith (· ^^^ ·) shared (List.replicate 32 0) = shared := by
    have := zipWith_xor_zero shared
    rwa [hl] at this
  unfold popKey at h
  by_cases ea : a = [] <;> by_cases eb : b = []
  · rw [ea, eb]
  · rw [if_pos ea, if_neg eb] at h
    exact absurd (zipWith_xor_cancel hlb hz (h.symm.trans h0.symm)) hb
  · rw [if_neg ea, if_pos eb] at h
    exact absurd (zipWith_xor_cancel hla hz (h.trans h0.symm)) ha
  · rw [if_neg ea, if_neg eb] at h
    exact hinj (zipWith_xor_cancel hla hlb h)

/-! ## Each part of the handshake, with every call succeeding -/

/-- `sizeof(ctx->pop) - 1` is 63. -/
theorem copyPop_eq (pop : Option CStr) : copyPop pop = (charsOf pop).take 63 := by
  cases pop <;> rfl

/-- The context of a session just opened. -/
def freshCtx (pop : Option CStr) (id : KeyId) (pub : Buf PUBKEY_LEN) : Sec1Ctx where
  state := .init
  pop := copyPop pop
  deviceKey := id
  devicePubkey := pub
  clientPubkey := Buf.zero _
  deviceRandom := Buf.zero _
  sessionKey := PSA_KEY_ID_NULL
  cipher := .init

/-- With every call succeeding, from here on: a session opens with a key pair of its own, -/
theorem sec1Init_good {P : Psa} {priv : Bytes} {rnd : Buf 16} (w : KeyStore) (pop : Option CStr)
    (hpub : (P.x25519Pub priv).length = 32) :
    sec1Init P (.good priv rnd) w pop =
      (.ok (freshCtx pop (w.add (.x25519 priv)).1 ⟨P.x25519Pub priv, hpub⟩), (w.add (.x25519 priv)).2) := by
  have hexp : psaExportPublicKey P (.good priv rnd) (w.add (.x25519 priv)).2
      (w.add (.x25519 priv)).1 = some (P.x25519Pub priv) := by
    rw [psaExportPublicKey, find_add]; rfl
  unfold sec1Init
  rw [if_neg (by simp [Env.good]), if_neg (by simp [Env.good]),
    show psaGenerateKey (.good priv rnd) w = some (w.add (.x25519 priv)) from rfl]
  dsimp only
  rw [hexp]
  dsimp only
  rw [dif_pos hpub]
  rfl

theorem openSession_good {P : Psa} {pb : Nanopb} {s : PcSession σ} {priv : Bytes} (rnd : Buf 16)
    (hsec : s.pc.sec = some (networkProvSecurity1 P pb)) (hpub : (P.x25519Pub priv).length = 32) :
    ∃ ctx, (protocommOpenSession (.good priv rnd) s).pc = { s.pc with secCtx := some ctx } ∧
      ctx.pop = copyPop s.pc.pop ∧ ctx.devicePubkey.val = P.x25519Pub priv ∧
      (protocommOpenSession (.good priv rnd) s).ext.find ctx.deviceKey = some (.x25519 priv) := by
  have hcl := closeSession_config s
  generalize hs₁ : protocommCloseSession s = s₁ at hcl
  have hpop : s₁.pc.pop = s.pc.pop := by rw [hcl]
  have ho : protocommOpenSession (.good priv rnd) s =
      { s₁.setCtx (some (freshCtx s.pc.pop (s₁.ext.add (.x25519 priv)).1 ⟨P.x25519Pub priv, hpub⟩)) with
        ext := (s₁.ext.add (.x25519 priv)).2 } := by
    unfold protocommOpenSession
    rw [hsec]
    dsimp only [networkProvSecurity1]
    rw [hs₁, hpop, sec1Init_good _ _ hpub]
  rw [ho]
  refine ⟨freshCtx s.pc.pop (s₁.ext.add (.x25519 priv)).1 ⟨P.x25519Pub priv, hpub⟩, ?_, rfl, rfl,
    find_add _ _⟩
  simp only [Session.setCtx]
  rw [hcl]

theorem psaImportKey_good (priv : Bytes) (rnd : Buf 16) (w : KeyStore) (key : Bytes) :
    psaImportKey (.good priv rnd) w key = some (w.add (.aes key)) := rfl

theorem setup_good (priv : Bytes) (rnd : Buf 16) (w : KeyStore) (key : Bytes) :
    psaCipherEncryptSetup (.good priv rnd) (w.add (.aes key)).2 .init (w.add (.aes key)).1 =
      some ⟨some key, none, 0⟩ := by
  unfold psaCipherEncryptSetup
  rw [find_add]; rfl

theorem rawKeyAgreement_good {P : Psa} {priv p : Bytes} {rnd : Buf 16} {w : KeyStore} {id : KeyId}
    (h : w.find id = some (.x25519 p)) (peer : Bytes) :
    psaRawKeyAgreement P (.good priv rnd) w id peer = P.x25519 p peer := by
  unfold psaRawKeyAgreement
  rw [h]; rfl

/-- the secret and the PoP it has kept make its key, -/
theorem deriveSessionKey_good {P : Psa} {priv p shared : Bytes} {rnd : Buf 16} {w : KeyStore}
    {ctx : Sec1Ctx} (hk : w.find ctx.deviceKey = some (.x25519 p))
    (ha : P.x25519 p ctx.clientPubkey.val = some shared) (hl : shared.length = 32) :
    deriveSessionKey P (.good priv rnd) w ctx =
      (0, { ctx with sessionKey := (w.add (.aes (popKey P shared ctx.pop))).1,
                     cipher := ⟨some (popKey P shared ctx.pop), some ctx.deviceRandom.val, 0⟩ },
        (w.add (.aes (popKey P shared ctx.pop))).2) := by
  unfold deriveSessionKey
  rw [rawKeyAgreement_good hk, ha]
  dsimp only
  rw [if_neg (by simp [hl]), mixPop_good]
  dsimp only
  rw [psaImportKey_good]
  dsimp only
  rw [setup_good]
  rfl

theorem buildResp0_good {pb : Nanopb} (hpb : Codec pb) (ctx : Sec1Ctx) :
    ∃ b, buildResp0 pb true ctx = .ok b ∧
      pb.decode b = some (resp0 ctx.devicePubkey.val ctx.deviceRandom.val) := by
  obtain ⟨b, h1, h2⟩ := hpb.resp0 ctx.devicePubkey ctx.deviceRandom
  exact ⟨b, by simp [buildResp0, networkProvPbEncode, h1], h2⟩

theorem buildResp1_good {pb : Nanopb} (hpb : Codec pb) (v : Buf 32) :
    ∃ b, buildResp1 pb true v.val = .ok b ∧ pb.decode b = some (resp1 v.val) := by
  obtain ⟨b, h1, h2⟩ := hpb.resp1 v
  exact ⟨b, by simp [buildResp1, networkProvPbEncode, h1], h2⟩

/-- The context after a Command0 that went through. -/
def afterCmd0 (ctx : Sec1Ctx) (id : KeyId) (pk : Buf PUBKEY_LEN) (rnd : Buf RANDOM_LEN) (key : Bytes) :
    Sec1Ctx :=
  { ctx with state := .cmd0Done, clientPubkey := pk, deviceRandom := rnd, sessionKey := id,
             cipher := ⟨some key, some rnd.val, 0⟩ }

/-- Command0 is answered with what the client needs for its own, -/
theorem command0_good {P : Psa} {pb : Nanopb} {p shared buf : Bytes} (priv : Bytes) (rnd : Buf 16)
    {w : KeyStore} {ctx : Sec1Ctx} {pk : Buf 32} (hpb : Codec pb) (hb : pb.decode buf = some (cmd0 pk.val))
    (hk : w.find ctx.deviceKey = some (.x25519 p)) (ha : P.x25519 p pk.val = some shared)
    (hl : shared.length = 32) :
    ∃ resp id w', sec1Handshake P pb (.good priv rnd) w (some ctx) buf =
        (.ok resp, some (afterCmd0 ctx id pk rnd (popKey P shared ctx.pop)), w') ∧
      pb.decode resp = some (resp0 ctx.devicePubkey.val rnd.val) := by
  have hder : deriveSessionKey P (.good priv rnd) w
      { ctx with clientPubkey := pk, deviceRandom := rnd } = _ := deriveSessionKey_good hk ha hl
  obtain ⟨resp, hr1, hr2⟩ := buildResp0_good hpb
    (afterCmd0 ctx (w.add (.aes (popKey P shared ctx.pop))).1 pk rnd (popKey P shared ctx.pop))
  have hc : handleCmd0 P pb (.good priv rnd) w ctx ⟨sessionCommand0, .sc0 pk.val⟩ =
      (.ok resp, afterCmd0 ctx (w.add (.aes (popKey P shared ctx.pop))).1 pk rnd
        (popKey P shared ctx.pop), (w.add (.aes (popKey P shared ctx.pop))).2) := by
    have hlen : (pb.sc0 (.sc0 pk.val)).length = PUBKEY_LEN := pk.property
    unfold handleCmd0
    rw [dif_pos hlen, show psaGenerateRandom (.good priv rnd) = some rnd from rfl]
    dsimp only [Nanopb.sc0]
    rw [hder]
    dsimp only
    rw [if_neg (by decide), show (Env.good priv rnd).respAlloc = true from rfl]
    exact congrArg (·, _, _) hr1
  have hd : decodeSec1 pb buf = some ⟨sessionCommand0, .sc0 pk.val⟩ := by
    simp [decodeSec1, hb, cmd0]
  refine ⟨resp, (w.add (.aes (popKey P shared ctx.pop))).1, (w.add (.aes (popKey P shared ctx.pop))).2,
    ?_, hr2⟩
  simp only [sec1Handshake, hd]
  rw [if_pos trivial, hc]

/-- and Command1 is, if the verify data is the public key under the session key. -/
theorem command1_good {P : Psa} {pb : Nanopb} {buf : Bytes} (priv : Bytes) (rnd : Buf 16) (w : KeyStore)
    {ctx : Sec1Ctx} (cv : Buf 32) {st : End} (hpb : Codec pb) (hb : pb.decode buf = some (cmd1 cv.val))
    (hs : ctx.state = .cmd0Done) (hc : ctx.cipher.stream P = some st)
    (hv : st.xform cv.val = ctx.devicePubkey.val) :
    ∃ resp, sec1Handshake P pb (.good priv rnd) w (some ctx) buf =
        (.ok resp, some { ctx with state := .done, cipher := ctx.cipher.advance 64 }, w) ∧
      pb.decode resp = some (resp1 ((st.advance 32).xform ctx.clientPubkey.val)) := by
  obtain ⟨resp, hr1, hr2⟩ := buildResp1_good hpb ⟨(st.advance 32).xform ctx.clientPubkey.val, by simp⟩
  have hx₂ : (ctx.cipher.advance 32).stream P = some (st.advance 32) := stream_advance hc 32
  have hh : handleCmd1 P pb (.good priv rnd) ctx ⟨sessionCommand1, .sc1 cv.val⟩ =
      (.ok resp, { ctx with state := .done, cipher := ctx.cipher.advance 64 }) := by
    have hlen : (pb.sc1 (.sc1 cv.val)).length = PUBKEY_LEN := cv.property
    unfold handleCmd1
    rw [if_neg (by simp [hs]), if_neg (by simp [hlen]),
      show (Env.good priv rnd).update₁ = true from rfl, ctrXform_live hc]
    dsimp only [Nanopb.sc1]
    rw [hv, if_neg (by simp), show (Env.good priv rnd).update₂ = true from rfl, Buf.length_val]
    have hx : ctrXform P true { ctx with cipher := ctx.cipher.advance 32 } ctx.clientPubkey.val = _ :=
      ctrXform_live hx₂ _
    rw [hx]
    dsimp only
    rw [show (Env.good priv rnd).respAlloc = true from rfl, hr1, Buf.length_val, advance_advance]
    rfl
  refine ⟨resp, ?_, hr2⟩
  have hd : decodeSec1 pb buf = some ⟨sessionCommand1, .sc1 cv.val⟩ := by
    simp [decodeSec1, hb, cmd1]
  simp only [sec1Handshake, hd]
  rw [if_neg (by decide), if_pos trivial, hh]

/-- The client has a key pair, -/
theorem provClientKeygen_good {P : Psa} {priv : Bytes} {rnd : Buf 16} {w : KeyStore} {c : ProvClient}
    (hpub : (P.x25519Pub priv).length = 32) :
    provClientKeygen P (.good priv rnd) w c =
      (0, { c with key := (w.add (.x25519 priv)).1, pubkey := ⟨P.x25519Pub priv, hpub⟩ },
        (w.add (.x25519 priv)).2) := by
  have hexp : psaExportPublicKey P (.good priv rnd) (w.add (.x25519 priv)).2
      (w.add (.x25519 priv)).1 = some (P.x25519Pub priv) := by
    rw [psaExportPublicKey, find_add]; rfl
  unfold provClientKeygen
  rw [if_neg (by simp [Env.good]), show psaGenerateKey (.good priv rnd) w = some (w.add (.x25519 priv)) from rfl]
  dsimp only
  rw [hexp]
  simp [hpub]

/-- derives its key from the answer, -/
theorem provClientDerive_good {P : Psa} {p shared : Bytes} (priv : Bytes) (rnd : Buf 16) {w : KeyStore}
    (c : ProvClient) (pop : Option CStr) (iv : Bytes) (hk : w.find c.key = some (.x25519 p))
    (ha : P.x25519 p c.devicePubkey.val = some shared) (hl : shared.length = 32) :
    ∃ id w', provClientDerive P (.good priv rnd) w c pop iv =
      (0, { c with sessionKey := id, cipher := ⟨some (popKey P shared (charsOf pop)), some iv, 0⟩ }, w') := by
  refine ⟨(w.add (.aes (popKey P shared (charsOf pop)))).1,
    (w.add (.aes (popKey P shared (charsOf pop)))).2, ?_⟩
  unfold provClientDerive
  rw [rawKeyAgreement_good hk, ha]
  dsimp only
  rw [if_neg (by simp [hl]), clientMixPop_good]
  dsimp only
  rw [psaImportKey_good]
  dsimp only
  rw [setup_good]
  rfl

theorem sessionExchange_good {D : Type} {pb : Nanopb} {xport : D → CStr → Bytes → D × Int × Bytes}
    {d d' : D} {cmd m : SessionData} {buf resp : Bytes} (he : pb.encode cmd = some buf)
    (hl : buf.length ≤ 128) (hx : xport d sessionEp buf = (d', 0, resp))
    (hd : pb.decode resp = some m) : sessionExchange pb xport d cmd = (.ok m, d') := by
  simp [sessionExchange, he, Nat.not_lt.mpr hl, hx, hd]

/-- and finds its own public key in the answer to Command1, if both keys are the same. -/
theorem clientCommand1_good {P : Psa} {pb : Nanopb} {a key : Bytes} {rnd rnd₁ : Buf 16}
    (cp : Bytes) (rnd₂ : Buf 16) (c : ProvClient) (d : Link σ) {ctx : Sec1Ctx} (hpb : Codec pb)
    (hsec : d.dev.pc.sec = some (networkProvSecurity1 P pb)) (hep : SecurityEp d.dev.pc sessionEp)
    (henv : d.env 0 = .good (.good a rnd₁)) (hctx : d.dev.pc.secCtx = some ctx)
    (hst : ctx.state = .cmd0Done) (hci : ctx.cipher = ⟨some key, some rnd.val, 0⟩)
    (hcc : c.cipher = ⟨some key, some rnd.val, 0⟩) (hdp : c.devicePubkey = ctx.devicePubkey)
    (hcp : ctx.clientPubkey = c.pubkey) :
    ∃ c' d', clientCommand1 P pb pcXport (.good cp rnd₂) c d = (0, c', d') := by
  have hs : ctx.cipher.stream P = some ⟨P.ctr key rnd.val, 0⟩ := by rw [hci]; rfl
  have hs' : c.cipher.stream P = some ⟨P.ctr key rnd.val, 0⟩ := by rw [hcc]; rfl
  generalize (⟨P.ctr key rnd.val, 0⟩ : End) = st at hs hs'
  obtain ⟨buf, hb1, hb2, hb3⟩ := hpb.cmd1 ⟨st.xform c.devicePubkey.val, by simp⟩
  obtain ⟨resp, hh, hr⟩ := command1_good a rnd₁ d.dev.ext ⟨st.xform c.devicePubkey.val, by simp⟩ hpb
    hb3 hst hs (by simp [hdp])
  have hx := pcXport_eq hsec hep (Eq.trans (by rw [henv, hctx]; rfl) hh)
  have hex := sessionExchange_good hb1 hb2 hx hr
  refine ⟨{ c with cipher := (c.cipher.advance 32).advance 32 },
    ⟨{ d.dev.setCtx (some { ctx with state := .done, cipher := ctx.cipher.advance 64 }) with
        ext := d.dev.ext }, fun n => d.env (n + 1)⟩, ?_⟩
  unfold clientCommand1
  rw [show (Env.good cp rnd₂).update₁ = true from rfl, provClientXform_live hs']
  dsimp only
  rw [hex]
  dsimp only
  rw [if_neg (by simp [Nanopb.sec1, resp1, Nanopb.sr1])]
  dsimp only [Nanopb.sec1, resp1, Nanopb.sr1]
  rw [show (Env.good cp rnd₂).update₂ = true from rfl, Buf.length_val]
  have hx₂ : provClientXform P true { c with cipher := c.cipher.advance 32 }
      ((st.advance 32).xform ctx.clientPubkey.val) = _ := provClientXform_live (stream_advance hs' 32) _
  rw [hx₂]
  dsimp only
  rw [End.xform_xform, hcp, if_neg (by simp), End.length_xform, Buf.length_val]

/-- With every call succeeding and one key on both ends, the handshake goes through. -/
theorem handshake_good {P : Psa} {pb : Nanopb} {dp cp a b shared : Bytes} {rnd rnd₁ rnd₂ : Buf 16}
    {w : KeyStore} {c : ProvClient} {d : Link σ} {ctx : Sec1Ctx} {q : Option CStr} (hpb : Codec pb)
    (hsec : d.dev.pc.sec = some (networkProvSecurity1 P pb)) (hep : SecurityEp d.dev.pc sessionEp)
    (henv₀ : d.env 0 = .good (.good a rnd)) (henv₁ : d.env 1 = .good (.good b rnd₁))
    (hctx : d.dev.pc.secCtx = some ctx) (hk : d.dev.ext.find ctx.deviceKey = some (.x25519 dp))
    (hdp : ctx.devicePubkey.val = P.x25519Pub dp) (hcp : (P.x25519Pub cp).length = 32)
    (had : P.x25519 dp (P.x25519Pub cp) = some shared) (hac : P.x25519 cp (P.x25519Pub dp) = some shared)
    (hl : shared.length = 32) (hkey : popKey P shared (charsOf q) = popKey P shared ctx.pop) :
    ∃ c' w' d', provClientHandshake P pb pcXport (.good cp rnd₂) w c d q = (0, c', w', d') := by
  obtain ⟨buf, hb1, hb2, hb3⟩ := hpb.cmd0 ⟨P.x25519Pub cp, hcp⟩
  obtain ⟨resp, id, w₁, hh, hr⟩ := command0_good a rnd hpb hb3 hk had hl
  have hx := pcXport_eq hsec hep (Eq.trans (by rw [henv₀, hctx]; rfl) hh)
  have hex := sessionExchange_good hb1 hb2 hx hr
  have hfind : (w.add (.x25519 cp)).2.find (w.add (.x25519 cp)).1 = some (.x25519 cp) := find_add _ _
  obtain ⟨id₂, w₂, hder⟩ := provClientDerive_good cp rnd₂
    { c with key := (w.add (.x25519 cp)).1, pubkey := ⟨P.x25519Pub cp, hcp⟩,
             devicePubkey := ctx.devicePubkey } q rnd.val hfind (by rw [hdp]; exact hac) hl
  obtain ⟨c₃, d₃, hc1⟩ := clientCommand1_good cp rnd₂
    { c with key := (w.add (.x25519 cp)).1, pubkey := ⟨P.x25519Pub cp, hcp⟩,
             devicePubkey := ctx.devicePubkey, sessionKey := id₂,
             cipher := ⟨some (popKey P shared (charsOf q)), some rnd.val, 0⟩ }
    ⟨{ d.dev.setCtx (some (afterCmd0 ctx id ⟨P.x25519Pub cp, hcp⟩ rnd (popKey P shared ctx.pop))) with
        ext := w₁ }, fun n => d.env (n + 1)⟩
    hpb hsec hep henv₁ rfl rfl rfl (by rw [hkey]) rfl rfl
  refine ⟨c₃, w₂, d₃, ?_⟩
  unfold provClientHandshake
  rw [provClientKeygen_good hcp]
  dsimp only
  rw [if_neg (by decide), hex]
  dsimp only
  rw [dif_pos (by simp [Nanopb.sec1, resp0, Nanopb.sr0])]
  simp only [Nanopb.sec1, resp0, Nanopb.sr0, hder, ne_eq, not_true_eq_false, if_false, hc1]

/-! ## What decides -/

/-- Two key pairs that agree on a secret, and strings `L` that SHA-256 tells
apart and from nothing, and whose session keys AES-CTR tells apart within the
first 32 bytes. -/
structure PopSetting (P : Psa) (dp cp shared : Bytes) (iv : Buf 16) (L : List Bytes) : Prop where
  devicePub : (P.x25519Pub dp).length = 32
  clientPub : (P.x25519Pub cp).length = 32
  deviceSecret : P.x25519 dp (P.x25519Pub cp) = some shared
  clientSecret : P.x25519 cp (P.x25519Pub dp) = some shared
  length : shared.length = 32
  inj : ∀ a ∈ L, ∀ b ∈ L, P.sha256 a = P.sha256 b → a = b
  nonzero : ∀ a ∈ L, P.sha256 a ≠ List.replicate 32 0
  ctr : ∀ a ∈ L, ∀ b ∈ L, (∀ i < 32, P.ctr (popKey P shared a) iv.val i =
    P.ctr (popKey P shared b) iv.val i) → popKey P shared a = popKey P shared b

/-- What the random generators and the stores of the two parties contribute:
the key and the random bytes of each device call, the client's key, its store. -/
structure Draws where
  devicePriv : Bytes
  clientPriv : Bytes
  openRandom : Buf 16
  clientRandom : Buf 16
  reqPriv : Nat → Bytes
  reqRandom : Nat → Buf 16
  clientKeys : KeyStore

/-- A session opened on `s`, and a client's handshake in it. -/
def freshHandshake (P : Psa) (pb : Nanopb) (r : Draws) (s : PcSession σ) (clientPop : Option CStr) :
    Int × ProvClient × KeyStore × Link σ :=
  provClientHandshake P pb pcXport (.good r.clientPriv r.clientRandom) r.clientKeys provClientInit
    ⟨protocommOpenSession (.good r.devicePriv r.openRandom) s,
      fun n => .good (.good (r.reqPriv n) (r.reqRandom n))⟩ clientPop

/-- Success on both sides. -/
def Completes (P : Psa) (pb : Nanopb) (r : Draws) (s : PcSession σ) (clientPop : Option CStr) : Prop :=
  (freshHandshake P pb r s clientPop).1 = 0 ∧
    ∃ ctx, (freshHandshake P pb r s clientPop).2.2.2.dev.pc.secCtx = some ctx ∧ ctx.state = .done

/-- If the handshake completes the two session keys were the same. -/
theorem completes_key {P : Psa} {pb : Nanopb} {r : Draws} {s : PcSession σ} {clientPop : Option CStr}
    {shared : Bytes} {L : List Bytes} (hpb : Codec pb)
    (hsec : s.pc.sec = some (networkProvSecurity1 P pb)) (hep : SecurityEp s.pc sessionEp)
    (hset : PopSetting P r.devicePriv r.clientPriv shared (r.reqRandom 0) L)
    (hp : (charsOf s.pc.pop).take 63 ∈ L) (hq : charsOf clientPop ∈ L)
    (h : Completes P pb r s clientPop) :
    popKey P shared ((charsOf s.pc.pop).take 63) = popKey P shared (charsOf clientPop) := by
  obtain ⟨ctx₀, hpc, hpop, hdpk, hfind⟩ :=
    openSession_good r.openRandom hsec hset.devicePub
  have hpc' : (protocommOpenSession (.good r.devicePriv r.openRandom) s).pc.secCtx = some ctx₀ := by
    rw [hpc]
  obtain ⟨ctx, ctx', kd, kc, hctx, -, -, -, hdone, hrnd, ⟨shd, hra, hmix⟩, priv, shc, hpriv, hcpk, hrc, hcmix⟩ :=
    handshake_completed hpb (by rw [hpc]; exact hsec) (by rw [hpc]; exact hep)
      (Prod.ext h.1 rfl : freshHandshake P pb r s clientPop = (0, _, _, _))
  rw [hpc', Option.some.injEq] at hctx
  subst hctx
  cases hpriv
  rw [show ((fun n => ReqEnv.good (.good (r.reqPriv n) (r.reqRandom n))) 0).handshake =
    .good (r.reqPriv 0) (r.reqRandom 0) from rfl, rawKeyAgreement_good hfind, hcpk,
    hset.deviceSecret] at hra
  cases hra
  rw [hdpk, hset.clientSecret] at hrc
  cases hrc
  have hkd := mixPop_some hmix
  have hkc := clientMixPop_some hcmix
  rw [hpop, copyPop_eq] at hkd
  have hiv : ctx'.deviceRandom = r.reqRandom 0 := (Option.some.inj hrnd).symm
  have hks := (End.xform_xform_eq_iff ⟨P.ctr kc ctx'.deviceRandom.val, 0⟩
    ⟨P.ctr kd ctx'.deviceRandom.val, 0⟩ rfl _).mp hdone.verify
  rw [hiv, hkd, hkc, List.map_inj_left, Buf.length_val] at hks
  refine hset.ctr _ hp _ hq fun i hi => ?_
  exact (hks i (List.mem_range'_1.mpr ⟨Nat.zero_le i, by omega⟩)).symm

/-- With everything working the handshake of a fresh session completes iff the
client's string is what the device has kept of its own. -/
theorem handshake_iff_kept {P : Psa} {pb : Nanopb} {r : Draws} {s : PcSession σ}
    {clientPop : Option CStr} {shared : Bytes} {L : List Bytes} (hpb : Codec pb)
    (hsec : s.pc.sec = some (networkProvSecurity1 P pb)) (hep : SecurityEp s.pc sessionEp)
    (hset : PopSetting P r.devicePriv r.clientPriv shared (r.reqRandom 0) L)
    (hp : (charsOf s.pc.pop).take 63 ∈ L) (hq : charsOf clientPop ∈ L) :
    Completes P pb r s clientPop ↔ (charsOf s.pc.pop).take 63 = charsOf clientPop := by
  constructor
  · intro h
    exact popKey_inj hset.length (hset.inj _ hp _ hq) (hset.nonzero _ hp) (hset.nonzero _ hq)
      (completes_key hpb hsec hep hset hp hq h)
  · intro h
    obtain ⟨ctx, hpc, hpop, hdpk, hfind⟩ := openSession_good r.openRandom hsec hset.devicePub
    have hctx : (protocommOpenSession (.good r.devicePriv r.openRandom) s).pc.secCtx = some ctx := by
      rw [hpc]
    have hsec' : (protocommOpenSession (.good r.devicePriv r.openRandom) s).pc.sec =
        some (networkProvSecurity1 P pb) := by rw [hpc]; exact hsec
    have hep' : SecurityEp (protocommOpenSession (.good r.devicePriv r.openRandom) s).pc sessionEp := by
      rw [hpc]; exact hep
    obtain ⟨c', w', d', hh⟩ := handshake_good (w := r.clientKeys) (c := provClientInit) (q := clientPop)
      (d := ⟨_, fun n => .good (.good (r.reqPriv n) (r.reqRandom n))⟩) hpb hsec' hep' rfl rfl hctx hfind hdpk
      hset.clientPub hset.deviceSecret hset.clientSecret hset.length
      (by rw [hpop, copyPop_eq, h])
    obtain ⟨c₀, ctx', kd, kc, -, hctx', -, -, hdone, -⟩ := handshake_completed hpb hsec' hep' hh
    have hf : freshHandshake P pb r s clientPop = (0, c', w', d') := hh
    exact ⟨by rw [hf], ctx', by rw [hf]; exact hctx', hdone.state⟩

/-- **When the handshake tells proofs of possession apart.** It completes for
equal strings only and always iff the device's string has at most 63
characters, or the client's is neither that string nor its first 63
characters. -/
theorem handshake_iff_pop (P : Psa) (pb : Nanopb) (hpb : Codec pb) (r : Draws) (s : PcSession σ)
    (hsec : s.pc.sec = some (networkProvSecurity1 P pb)) (hep : SecurityEp s.pc sessionEp)
    (clientPop : Option CStr) (shared : Bytes)
    (hset : PopSetting P r.devicePriv r.clientPriv shared (r.reqRandom 0)
      [(charsOf s.pc.pop).take 63, charsOf clientPop]) :
    (Completes P pb r s clientPop ↔ charsOf s.pc.pop = charsOf clientPop) ↔
      (charsOf s.pc.pop).length ≤ 63 ∨
        (charsOf clientPop ≠ charsOf s.pc.pop ∧ charsOf clientPop ≠ (charsOf s.pc.pop).take 63) := by
  rw [handshake_iff_kept hpb hsec hep hset (by simp) (by simp)]
  generalize charsOf s.pc.pop = p
  generalize charsOf clientPop = q
  by_cases hl : p.length ≤ 63
  · simp [hl, List.take_of_length_le hl]
  · have hne : p.take 63 ≠ p := by
      intro h
      have := congrArg List.length h
      rw [List.length_take] at this
      omega
    constructor
    · intro h
      refine .inr ⟨fun hq => ?_, fun hq => ?_⟩
      · exact hne ((h.mpr hq.symm).trans hq)
      · exact hne (hq.symm.trans (h.mp hq.symm).symm)
    · intro hx
      rcases hx with h | ⟨h1, h2⟩
      · exact absurd h hl
      · exact ⟨fun h => absurd h.symm h2, fun h => absurd h.symm h1⟩

/-! ## Reference values -/

def wrongPop : CStr := ⟨wrongPopText, by decide⟩

def longPop : CStr := ⟨longPopText, by decide⟩

/-- The key pairs and random bytes of the test vectors. -/
def testDraws : Draws where
  devicePriv := devicePriv
  clientPriv := clientPriv
  openRandom := deviceRandom
  clientRandom := deviceRandom
  reqPriv := fun _ => []
  reqRandom := fun _ => deviceRandom
  clientKeys := .empty

/-- The vectors are a `PopSetting`. -/
theorem vectors_setting {L : List Bytes}
    (h1 : ∀ a ∈ L, ∀ b ∈ L, vectors.sha256 a = vectors.sha256 b → a = b)
    (h2 : ∀ a ∈ L, vectors.sha256 a ≠ List.replicate 32 0)
    (h3 : ∀ a ∈ L, ∀ b ∈ L, (∀ i < 32, vectors.ctr (popKey vectors sharedSecret a) deviceRandom.val i =
      vectors.ctr (popKey vectors sharedSecret b) deviceRandom.val i) →
      popKey vectors sharedSecret a = popKey vectors sharedSecret b) :
    PopSetting vectors devicePriv clientPriv sharedSecret deviceRandom L :=
  ⟨by decide +kernel, by decide +kernel, by decide +kernel, by decide +kernel, by decide +kernel,
    h1, h2, h3⟩

theorem handshake_iff_pop_test :
    (Completes vectors wirePb testDraws (testDevice vectors wirePb (some pop)) (some wrongPop) ↔
        charsOf (some pop) = charsOf (some wrongPop)) ↔
      (charsOf (some pop)).length ≤ 63 ∨ (charsOf (some wrongPop) ≠ charsOf (some pop) ∧
        charsOf (some wrongPop) ≠ (charsOf (some pop)).take 63) :=
  handshake_iff_pop vectors wirePb wirePb_codec testDraws (testDevice vectors wirePb (some pop)) rfl rfl
    (some wrongPop) sharedSecret
    (vectors_setting (by decide +kernel) (by decide +kernel) (by decide +kernel))

/-- **A 64-character string is refused to its owner.** Device and client have
the same one, every call succeeds, and the handshake fails. -/
theorem long_pop_refused :
    PopSetting vectors devicePriv clientPriv sharedSecret deviceRandom
      [longPopText, longPopText.take 63] ∧
    (freshHandshake vectors wirePb testDraws (testDevice vectors wirePb (some longPop))
      (some longPop)).1 = -EACCES ∧
    ¬ (Completes vectors wirePb testDraws (testDevice vectors wirePb (some longPop)) (some longPop) ↔
        charsOf (some longPop) = charsOf (some longPop)) := by
  have hret : (freshHandshake vectors wirePb testDraws (testDevice vectors wirePb (some longPop))
      (some longPop)).1 = -EACCES := by decide +kernel
  refine ⟨vectors_setting (by decide +kernel) (by decide +kernel) (by decide +kernel), hret, fun h => ?_⟩
  have h0 := (h.mpr rfl).1
  rw [hret] at h0
  exact absurd h0 (by decide)

end NetworkProv.Security1
