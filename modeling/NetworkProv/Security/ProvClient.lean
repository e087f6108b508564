import NetworkProv.Security.Gate

/-!
# The client side of security 1 (`tests/common/prov_client.c`)

The client drives the device through a transport callback. It has a PSA key
store of its own, and the same kind of `Env` says what its PSA calls answer.

* `handshake_completed`: when `prov_client_handshake` returns 0 against a
  device, whatever failed or not underneath, both ends are 64 bytes into
  the keystream of the same IV, each under the key it derived, and the device
  is in SEC1_DONE.
-/
namespace NetworkProv.Security1
open NetworkProv.Core Session Protocomm

structure ProvClient where
  key : KeyId
  pubkey : Buf PUBKEY_LEN
  devicePubkey : Buf PUBKEY_LEN
  sessionKey : KeyId
  cipher : CipherOp
  deriving DecidableEq

/-- mirrors src/tests/common/prov_client.c:19-24 -/
def provClientInit : ProvClient :=
  ⟨PSA_KEY_ID_NULL, Buf.zero _, Buf.zero _, PSA_KEY_ID_NULL, .init⟩

/-- mirrors src/tests/common/prov_client.c:26-55 -/
def provClientKeygen (P : Psa) (e : Env) (w : KeyStore) (c : ProvClient) :
    Int × ProvClient × KeyStore :=
  if !e.cryptoInit then (- EIO, c, w)
  else match psaGenerateKey e w with
    | none => (- EIO, { c with key := PSA_KEY_ID_NULL }, w)
    | some (id, w) =>
      match psaExportPublicKey P e w id with
      | none => (- EIO, { c with key := PSA_KEY_ID_NULL }, psaDestroyKey w id)
      | some pub =>
        if h : pub.length = PUBKEY_LEN then (0, { c with key := id, pubkey := ⟨pub, h⟩ }, w)
        else (- EIO, { c with key := PSA_KEY_ID_NULL }, psaDestroyKey w id)

/-- mirrors src/tests/common/prov_client.c:71-84 -/
def clientMixPop (P : Psa) (e : Env) (pop : Option CStr) (shared : Bytes) : Option Bytes :=
  if charsOf pop ≠ [] then
    (psaHashCompute P e (charsOf pop)).map fun hash => List.zipWith (· ^^^ ·) shared hash
  else some shared

/-- mirrors src/tests/common/prov_client.c:57-114 -/
def provClientDerive (P : Psa) (e : Env) (w : KeyStore) (c : ProvClient) (pop : Option CStr)
    (deviceRandom : Bytes) : Int × ProvClient × KeyStore :=
  match psaRawKeyAgreement P e w c.key c.devicePubkey.val with
  | none => (- EIO, c, w)
  | some shared =>
    if shared.length ≠ SESSION_KEY_LEN then (- EIO, c, w)
    else match clientMixPop P e pop shared with
      | none => (- EIO, c, w)
      | some key =>
        match psaImportKey e w key with
        | none => (- EIO, { c with sessionKey := PSA_KEY_ID_NULL }, w)
        | some (id, w) =>
          match (psaCipherEncryptSetup e w .init id).bind (psaCipherSetIv e · deviceRandom) with
          | none => (- EIO, { c with sessionKey := PSA_KEY_ID_NULL, cipher := .init }, psaDestroyKey w id)
          | some op => (0, { c with sessionKey := id, cipher := op }, w)

/-- mirrors src/tests/common/prov_client.c:116-127 -/
def provClientXform (P : Psa) (ok : Bool) (c : ProvClient) (inp : Bytes) :
    Except Int Bytes × ProvClient :=
  match psaCipherUpdate P ok c.cipher inp with
  | (none, op) => (.error (- EIO), { c with cipher := op })
  | (some out, op) => (.ok out, { c with cipher := op })

section Handshake

variable {D : Type} (P : Psa) (pb : Nanopb) (xport : D → CStr → Bytes → D × Int × Bytes)

/-- mirrors src/tests/common/prov_client.c:141-166 -/
def sessionExchange (d : D) (cmd : SessionData) : Except Int SessionData × D :=
  match pb.encode cmd with
  | none => (.error (-EINVAL), d)
  | some buf =>
    if buf.length > 128 then (.error (-EINVAL), d)
    else match xport d sessionEp buf with
      | (d, ret, resp) =>
        if ret ≠ 0 then (.error ret, d)
        else match pb.decode resp with
          | none => (.error (-EILSEQ), d)
          | some m => (.ok m, d)

/-- The Command1 half of `prov_client_handshake`.
mirrors src/tests/common/prov_client.c:207-249 -/
def clientCommand1 (e : Env) (c : ProvClient) (d : D) : Int × ProvClient × D :=
  match provClientXform P e.update₁ c c.devicePubkey.val with
  | (.error ret, c) => (ret, c, d)
  | (.ok clientVerify, c) =>
    match sessionExchange pb xport d (cmd1 clientVerify) with
    | (.error ret, d) => (ret, c, d)
    | (.ok resp1, d) =>
      let p := pb.sec1 resp1.proto
      let sr1 := pb.sr1 p.payload
      if p.msg ≠ sessionResponse1 ∨ sr1.1 ≠ statusSuccess ∨ sr1.2.length ≠ PUBKEY_LEN then
        (-EPROTO, c, d)
      else match provClientXform P e.update₂ c sr1.2 with
        | (.error ret, c) => (ret, c, d)
        | (.ok check, c) => if check ≠ c.pubkey.val then (-EACCES, c, d) else (0, c, d)

/-- mirrors src/tests/common/prov_client.c:168-250 -/
def provClientHandshake (e : Env) (w : KeyStore) (c : ProvClient) (d : D) (pop : Option CStr) :
    Int × ProvClient × KeyStore × D :=
  match provClientKeygen P e w c with
  | (ret, c, w) =>
    if ret ≠ 0 then (ret, c, w, d)
    else match sessionExchange pb xport d (cmd0 c.pubkey.val) with
      | (.error ret, d) => (ret, c, w, d)
      | (.ok resp0, d) =>
        let p := pb.sec1 resp0.proto
        let sr0 := pb.sr0 p.payload
        if h : p.msg = sessionResponse0 ∧ sr0.1 = statusSuccess ∧ sr0.2.1.length = PUBKEY_LEN ∧
            sr0.2.2.length = RANDOM_LEN then
          match provClientDerive P e w { c with devicePubkey := ⟨sr0.2.1, h.2.2.1⟩ } pop sr0.2.2 with
          | (ret, c, w) =>
            if ret ≠ 0 then (ret, c, w, d)
            else match clientCommand1 P pb xport e c d with
              | (ret, c, d) => (ret, c, w, d)
        else (-EPROTO, c, w, d)

end Handshake

/-! ## The transport to a device -/

variable {σ : Type}

/-- A device, and what the calls of the requests to come answer. -/
structure Link (σ : Type) where
  dev : PcSession σ
  env : Nat → ReqEnv

/-- mirrors src/tests/security1/src/main.c:42-46 -/
def pcXport (d : Link σ) (ep : CStr) (inbuf : Bytes) : Link σ × Int × Bytes :=
  match protocommReqHandle (d.env 0) d.dev (some ep) inbuf with
  | (s, r) => (⟨s, fun n => d.env (n + 1)⟩, r.ret, r.out)

/-! ## A completed handshake, from the client's side -/

theorem provClientKeygen_ok {P : Psa} {e : Env} {w w' : KeyStore} {c c' : ProvClient}
    (h : provClientKeygen P e w c = (0, c', w')) :
    ∃ priv, e.generateKey = some priv ∧ w'.find c'.key = some (.x25519 priv) ∧
      c'.pubkey.val = P.x25519Pub priv ∧ c' = { c with key := c'.key, pubkey := c'.pubkey } := by
  unfold provClientKeygen psaGenerateKey at h
  split at h
  · simp [ EIO] at h
  split at h
  · simp [ EIO] at h
  rename_i id w₁ hg
  simp only [Option.map_eq_some_iff] at hg
  obtain ⟨priv, hp, hadd⟩ := hg
  have hid : id = (w.add (.x25519 priv)).1 := by rw [hadd]
  have hw : w₁ = (w.add (.x25519 priv)).2 := by rw [hadd]
  split at h
  · simp [ EIO] at h
  rename_i pub hx
  split at h
  · cases h
    refine ⟨priv, hp, by rw [hid, hw, find_add], ?_, rfl⟩
    unfold psaExportPublicKey at hx
    rw [hid, hw, find_add] at hx
    dsimp only at hx
    split at hx
    · cases hx; rfl
    · cases hx
  · simp [ EIO] at h

theorem provClientDerive_ok {P : Psa} {e : Env} {w w' : KeyStore} {c c' : ProvClient}
    {pop : Option CStr} {rnd : Bytes} (h : provClientDerive P e w c pop rnd = (0, c', w')) :
    ∃ shared key, psaRawKeyAgreement P e w c.key c.devicePubkey.val = some shared ∧
      clientMixPop P e pop shared = some key ∧
      c' = { c with sessionKey := c'.sessionKey, cipher := ⟨some key, some rnd, 0⟩ } := by
  unfold provClientDerive at h
  split at h
  · simp [ EIO] at h
  rename_i shared hsh
  split at h
  · simp [ EIO] at h
  split at h
  · simp [ EIO] at h
  rename_i key hmix
  split at h
  · simp [ EIO] at h
  rename_i id w₁ himp
  split at h
  · simp [ EIO] at h
  rename_i op hop
  simp only [Option.bind_eq_some_iff] at hop
  obtain ⟨op₁, hset, hiv⟩ := hop
  cases h
  refine ⟨shared, key, hsh, hmix, ?_⟩
  rw [psaCipherSetIv_some hiv, setup_imported himp hset]

theorem provClientXform_ok {P : Psa} {ok : Bool} {c c' : ProvClient} {inp out : Bytes}
    (h : provClientXform P ok c inp = (.ok out, c')) :
    ∃ s, c.cipher.stream P = some s ∧ out = s.xform inp ∧
      c' = { c with cipher := c.cipher.advance inp.length } := by
  unfold provClientXform at h
  split at h
  · cases h
  · rename_i out' op hu
    cases h
    obtain ⟨s, hs, rfl, rfl⟩ := psaCipherUpdate_some hu
    exact ⟨s, hs, rfl, rfl⟩

theorem provClientXform_error {P : Psa} {ok : Bool} {c c' : ProvClient} {inp : Bytes} {ret : Int}
    (h : provClientXform P ok c inp = (.error ret, c')) : ret ≠ 0 := by
  unfold provClientXform at h
  split at h
  · cases h; decide
  · cases h

theorem provClientXform_live {P : Psa} {c : ProvClient} {s : End} (hs : c.cipher.stream P = some s)
    (inp : Bytes) : provClientXform P true c inp =
      (.ok (s.xform inp), { c with cipher := c.cipher.advance inp.length }) := by
  simp [provClientXform, psaCipherUpdate_ok hs]

theorem sessionExchange_ok {D : Type} {pb : Nanopb} {xport : D → CStr → Bytes → D × Int × Bytes}
    {d d' : D} {cmd m : SessionData} (h : sessionExchange pb xport d cmd = (.ok m, d')) :
    ∃ buf resp, pb.encode cmd = some buf ∧ xport d sessionEp buf = (d', 0, resp) ∧
      pb.decode resp = some m := by
  unfold sessionExchange at h
  split at h
  · cases h
  rename_i buf henc
  split at h
  · cases h
  generalize hx : xport d sessionEp buf = q at h
  obtain ⟨d₁, ret, resp⟩ := q
  dsimp only at h
  split at h
  · cases h
  rename_i hret
  split at h
  · cases h
  · rename_i m' hdec
    cases h
    simp only [ne_eq, Decidable.not_not] at hret
    subst hret
    exact ⟨buf, resp, henc, hx, hdec⟩

theorem sessionExchange_error {D : Type} {pb : Nanopb} {xport : D → CStr → Bytes → D × Int × Bytes}
    {d d' : D} {cmd : SessionData} {ret : Int}
    (h : sessionExchange pb xport d cmd = (.error ret, d')) : ret ≠ 0 := by
  unfold sessionExchange at h
  split at h
  · cases h; decide
  split at h
  · cases h; decide
  dsimp only at h
  split at h
  · rename_i hr; cases h; exact hr
  split at h
  · cases h; decide
  · cases h

end NetworkProv.Security1
