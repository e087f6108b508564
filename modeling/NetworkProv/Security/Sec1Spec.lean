import NetworkProv.Security.Security1

/-!
# What each `sec1` operation can do

One lemma a function, stated on its result, so that the proofs about runs
never unfold the code:

* `deriveSessionKey_ok`, `deriveSessionKey_fail`: a fresh keystream on
  success; on failure the cipher is as before or has no key and IV.
* `handleCmd0_cases`: a Command0 whose derivation succeeds (`Cmd0Derives`)
  installs a keystream and leaves SEC1_CMD0_DONE, any other is rejected.
* `handleCmd1_cases`: a Command1 that decrypts to the device's public key
  (`Cmd1Verifies`) leads to SEC1_DONE, any other keeps the state.
-/
namespace NetworkProv.Security1
open NetworkProv.Core Session

/-! ## `sec1_init`, `derive_session_key` -/

/-- What a session starts with: a key pair, the PoP cut to what there is room for, no cipher. -/
theorem sec1Init_ok {P : Psa} {e : Env} {w w' : KeyStore} {pop : Option CStr} {ctx : Sec1Ctx}
    (h : sec1Init P e w pop = (.ok ctx, w')) :
    ctx.state = .init ∧ ctx.cipher = .init ∧ ctx.pop = copyPop pop := by
  unfold sec1Init at h
  split at h
  · cases h
  split at h
  · cases h
  split at h
  · cases h
  split at h
  · cases h
  split at h
  · cases h; exact ⟨rfl, rfl, rfl⟩
  · cases h

theorem psaCipherEncryptSetup_some {e : Env} {w : KeyStore} {op op' : CipherOp} {id : KeyId}
    (h : psaCipherEncryptSetup e w op id = some op') :
    ∃ key, w.find id = some (.aes key) ∧ op' = ⟨some key, none, 0⟩ := by
  unfold psaCipherEncryptSetup at h
  split at h
  · rename_i key _ hk
    split at h
    · cases h; exact ⟨key, hk, rfl⟩
    · cases h
  · cases h

theorem psaCipherSetIv_some {e : Env} {op op' : CipherOp} {iv : Bytes}
    (h : psaCipherSetIv e op iv = some op') : op' = { op with iv := some iv } := by
  unfold psaCipherSetIv at h
  split at h
  · split at h
    · cases h; rfl
    · cases h
  · cases h

@[simp] theorem find_add (w : KeyStore) (m : KeyMaterial) : (w.add m).2.find (w.add m).1 = some m := by
  simp [KeyStore.add, KeyStore.find]

/-- A setup on the key just imported uses that key. -/
theorem setup_imported {e : Env} {w w' : KeyStore} {key : Bytes} {id : KeyId} {op : CipherOp}
    (hi : psaImportKey e w key = some (id, w')) (hs : psaCipherEncryptSetup e w' .init id = some op) :
    op = ⟨some key, none, 0⟩ := by
  unfold psaImportKey at hi
  split at hi
  · simp only [Option.some.injEq, Prod.ext_iff] at hi
    obtain ⟨rfl, rfl⟩ := hi
    obtain ⟨k, hk, rfl⟩ := psaCipherEncryptSetup_some hs
    rw [find_add] at hk
    cases hk; rfl
  · cases hi

/-- A session key: the secret with the PoP mixed in, imported, and the cipher at the start of its keystream. -/
theorem deriveSessionKey_ok {P : Psa} {e : Env} {w w' : KeyStore} {ctx ctx' : Sec1Ctx}
    (h : deriveSessionKey P e w ctx = (0, ctx', w')) :
    ∃ shared key id, psaRawKeyAgreement P e w ctx.deviceKey ctx.clientPubkey.val = some shared ∧
      shared.length = SESSION_KEY_LEN ∧ mixPop P e ctx.pop shared = some key ∧
      psaImportKey e w key = some (id, w') ∧
      ctx' = { ctx with sessionKey := id, cipher := ⟨some key, some ctx.deviceRandom.val, 0⟩ } := by
  unfold deriveSessionKey at h
  split at h
  · simp [ EIO] at h
  rename_i shared hsh
  split at h
  · simp [ EIO] at h
  rename_i hlen
  split at h
  · simp [ EIO] at h
  rename_i key hmix
  split at h
  · simp [ EIO] at h
  rename_i id w₁ himp
  split at h
  · simp [ EIO] at h
  rename_i op hset
  split at h
  · simp [ EIO] at h
  rename_i op' hiv
  simp only [Prod.mk.injEq, true_and] at h
  obtain ⟨rfl, rfl⟩ := h
  refine ⟨shared, key, id, hsh, by simpa using hlen, hmix, himp, ?_⟩
  rw [psaCipherSetIv_some hiv, setup_imported himp hset]

/-- Without one: `-EIO`, and the cipher is what it was or has no key. -/
theorem deriveSessionKey_fail {P : Psa} {e : Env} {w w' : KeyStore} {ctx ctx' : Sec1Ctx} {ret : Int}
    (h : deriveSessionKey P e w ctx = (ret, ctx', w')) (hr : ret ≠ 0) :
    ret = - EIO ∧ ctx' = { ctx with sessionKey := ctx'.sessionKey, cipher := ctx'.cipher } ∧
      (ctx'.cipher = ctx.cipher ∨ ctx'.cipher.driving = none) := by
  unfold deriveSessionKey at h
  split at h
  · cases h; exact ⟨rfl, rfl, .inl rfl⟩
  split at h
  · cases h; exact ⟨rfl, rfl, .inl rfl⟩
  split at h
  · cases h; exact ⟨rfl, rfl, .inl rfl⟩
  split at h
  · cases h; exact ⟨rfl, rfl, .inl rfl⟩
  rename_i himp
  split at h
  · cases h; exact ⟨rfl, rfl, .inr rfl⟩
  rename_i op hset
  split at h
  · cases h
    refine ⟨rfl, rfl, .inr ?_⟩
    rw [setup_imported himp hset]; rfl
  · cases h; exact absurd rfl hr

/-! ## Command0 -/

/-- The Command0 is one whose key derivation succeeds. -/
def Cmd0Derives (P : Psa) (pb : Nanopb) (e : Env) (w : KeyStore) (ctx : Sec1Ctx)
    (p : Sec1Payload) : Prop :=
  ∃ (pk : Buf PUBKEY_LEN) (rnd : Buf RANDOM_LEN), pb.sc0 p.payload = pk.val ∧
    e.generateRandom = some rnd ∧
    (deriveSessionKey P e w { ctx with clientPubkey := pk, deviceRandom := rnd }).1 = 0

/-- The Command0 gets as far as `psa_import_key`. -/
def Imports (P : Psa) (pb : Nanopb) (e : Env) (w : KeyStore) (ctx : Sec1Ctx)
    (p : Sec1Payload) : Prop :=
  ∃ (pk : Buf PUBKEY_LEN) (rnd : Buf RANDOM_LEN) (shared key : Bytes),
    pb.sc0 p.payload = pk.val ∧ e.generateRandom = some rnd ∧
    psaRawKeyAgreement P e w ctx.deviceKey pk.val = some shared ∧
    shared.length = SESSION_KEY_LEN ∧ mixPop P e ctx.pop shared = some key

/-- What no message changes. -/
structure SameDevice (ctx ctx' : Sec1Ctx) : Prop where
  pop : ctx'.pop = ctx.pop
  deviceKey : ctx'.deviceKey = ctx.deviceKey
  devicePubkey : ctx'.devicePubkey = ctx.devicePubkey

theorem SameDevice.refl (ctx : Sec1Ctx) : SameDevice ctx ctx := ⟨rfl, rfl, rfl⟩

/-- Command0, by whether a key came of it. -/
theorem handleCmd0_cases {P : Psa} {pb : Nanopb} {e : Env} {w w' : KeyStore} {ctx ctx' : Sec1Ctx}
    {p : Sec1Payload} {r : Except Int Bytes} (h : handleCmd0 P pb e w ctx p = (r, ctx', w')) :
    SameDevice ctx ctx' ∧
    ((¬ Cmd0Derives P pb e w ctx p ∧ (∃ ret, r = .error ret) ∧ ctx'.state = ctx.state ∧
        (ctx'.cipher = ctx.cipher ∨ ctx'.cipher.driving = none)) ∨
     (Cmd0Derives P pb e w ctx p ∧ ctx'.state = .cmd0Done ∧ r = buildResp0 pb e.respAlloc ctx' ∧
        pb.sc0 p.payload = ctx'.clientPubkey.val ∧ e.generateRandom = some ctx'.deviceRandom ∧
        ∃ shared key, psaRawKeyAgreement P e w ctx.deviceKey ctx'.clientPubkey.val = some shared ∧
          mixPop P e ctx.pop shared = some key ∧
          ctx'.cipher = ⟨some key, some ctx'.deviceRandom.val, 0⟩)) := by
  unfold handleCmd0 psaGenerateRandom at h
  split at h
  · rename_i hlen
    dsimp only at h
    split at h
    · -- the random generator failed
      rename_i hrnd
      cases h
      refine ⟨⟨rfl, rfl, rfl⟩, .inl ⟨?_, ⟨_, rfl⟩, rfl, .inl rfl⟩⟩
      intro hx
      obtain ⟨pk, rnd, -, h2, -⟩ := hx
      rw [hrnd] at h2; cases h2
    · rename_i rnd hrnd
      generalize hd : deriveSessionKey P e w { ctx with
        clientPubkey := ⟨pb.sc0 p.payload, hlen⟩, deviceRandom := rnd } = d at h
      obtain ⟨ret, ctx₁, w₁⟩ := d
      dsimp only at h
      split at h
      · rename_i hret
        cases h
        obtain ⟨-, hf, hc⟩ := deriveSessionKey_fail hd hret
        refine ⟨by rw [hf]; exact ⟨rfl, rfl, rfl⟩, .inl ⟨?_, ⟨_, rfl⟩, by rw [hf], hc⟩⟩
        intro hx
        obtain ⟨pk, rnd', h1, h2, h3⟩ := hx
        rw [hrnd] at h2; cases h2
        obtain rfl : pk = ⟨pb.sc0 p.payload, hlen⟩ := Subtype.ext h1.symm
        rw [hd] at h3
        exact hret h3
      · rename_i hret
        simp only [ne_eq, Decidable.not_not] at hret; subst hret
        cases h
        obtain ⟨shared, key, id, h1, -, h2, -, rfl⟩ := deriveSessionKey_ok hd
        exact ⟨⟨rfl, rfl, rfl⟩, .inr ⟨⟨⟨_, hlen⟩, rnd, rfl, hrnd, by rw [hd]⟩, rfl, rfl, rfl, hrnd,
          shared, key, h1, h2, rfl⟩⟩
  · rename_i hlen
    cases h
    refine ⟨.refl _, .inl ⟨?_, ⟨_, rfl⟩, rfl, .inl rfl⟩⟩
    intro hx
    obtain ⟨pk, rnd, h1, -⟩ := hx
    exact hlen (by rw [h1]; exact pk.property)

/-! ## Command1 -/

/-- The Command1 decrypts to the device's public key. -/
def Cmd1Verifies (P : Psa) (pb : Nanopb) (e : Env) (ctx : Sec1Ctx) (p : Sec1Payload) : Prop :=
  ctx.state = .cmd0Done ∧ (pb.sc1 p.payload).length = PUBKEY_LEN ∧ e.update₁ = true ∧
    ∃ s, ctx.cipher.stream P = some s ∧ s.xform (pb.sc1 p.payload) = ctx.devicePubkey.val

instance (P : Psa) (pb : Nanopb) (e : Env) (ctx : Sec1Ctx) (p : Sec1Payload) :
    Decidable (Cmd1Verifies P pb e ctx p) :=
  decidable_of_iff (ctx.state = .cmd0Done ∧ (pb.sc1 p.payload).length = PUBKEY_LEN ∧ e.update₁ = true ∧
    (ctx.cipher.stream P).map (·.xform (pb.sc1 p.payload)) = some ctx.devicePubkey.val)
    (by simp [Cmd1Verifies, Option.map_eq_some_iff])

theorem ctrXform_error {P : Psa} {ok : Bool} {ctx ctx' : Sec1Ctx} {inp : Bytes} {ret : Int}
    (h : ctrXform P ok ctx inp = (.error ret, ctx')) :
    ret = - EIO ∧ ctx' = { ctx with cipher := .init } := by
  unfold ctrXform at h
  split at h
  · rename_i op hu
    cases h
    rw [psaCipherUpdate_none hu]; exact ⟨rfl, rfl⟩
  · cases h

/-- Bytes through the cipher, which moves on by their number. -/
theorem ctrXform_ok {P : Psa} {ok : Bool} {ctx ctx' : Sec1Ctx} {inp out : Bytes}
    (h : ctrXform P ok ctx inp = (.ok out, ctx')) :
    ∃ s, ctx.cipher.stream P = some s ∧ ok = true ∧ out = s.xform inp ∧
      ctx' = { ctx with cipher := ctx.cipher.advance inp.length } := by
  unfold ctrXform at h
  split at h
  · cases h
  · rename_i out' op hu
    cases h
    obtain ⟨s, hs, rfl, rfl⟩ := psaCipherUpdate_some hu
    refine ⟨s, hs, ?_, rfl, rfl⟩
    cases ok with
    | true => rfl
    | false => simp [psaCipherUpdate, hs] at hu

theorem ctrXform_live {P : Psa} {ctx : Sec1Ctx} {s : End} (hs : ctx.cipher.stream P = some s)
    (inp : Bytes) : ctrXform P true ctx inp =
      (.ok (s.xform inp), { ctx with cipher := ctx.cipher.advance inp.length }) := by
  simp [ctrXform, psaCipherUpdate_ok hs]

/-- Command1, by whether it verifies. -/
theorem handleCmd1_cases {P : Psa} {pb : Nanopb} {e : Env} {ctx ctx' : Sec1Ctx} {p : Sec1Payload}
    {r : Except Int Bytes} (h : handleCmd1 P pb e ctx p = (r, ctx')) :
    ((∃ ret, r = .error ret) ∧ ctx' = { ctx with cipher := ctx'.cipher } ∧
        (ctx'.cipher.driving = ctx.cipher.driving ∨ ctx'.cipher = .init)) ∨
    (Cmd1Verifies P pb e ctx p ∧ ∃ s, ctx.cipher.stream P = some s ∧
      ctx' = { ctx with state := .done, cipher := ctx.cipher.advance 64 } ∧
      r = buildResp1 pb e.respAlloc ((s.advance PUBKEY_LEN).xform ctx.clientPubkey.val)) := by
  unfold handleCmd1 at h
  split at h
  · cases h; exact .inl ⟨⟨_, rfl⟩, rfl, .inl rfl⟩
  rename_i hst
  split at h
  · cases h; exact .inl ⟨⟨_, rfl⟩, rfl, .inl rfl⟩
  rename_i hlen
  simp only [ne_eq, Decidable.not_not] at hst hlen
  split at h
  · rename_i hx
    cases h
    obtain ⟨-, rfl⟩ := ctrXform_error hx
    exact .inl ⟨⟨_, rfl⟩, rfl, .inr rfl⟩
  rename_i check ctx₁ hx
  obtain ⟨s, hs, hok, rfl, rfl⟩ := ctrXform_ok hx
  split at h
  · cases h; exact .inl ⟨⟨_, rfl⟩, rfl, .inl rfl⟩
  rename_i hv
  simp only [not_or, ne_eq, Decidable.not_not] at hv
  split at h
  · rename_i hx2
    cases h
    obtain ⟨-, rfl⟩ := ctrXform_error hx2
    exact .inl ⟨⟨_, rfl⟩, rfl, .inr rfl⟩
  rename_i dv ctx₂ hx2
  cases h
  obtain ⟨s₂, hs₂, -, rfl, rfl⟩ := ctrXform_ok hx2
  rw [hlen, stream_advance hs, Option.some.injEq] at hs₂
  subst hs₂
  exact .inr ⟨⟨hst, hlen, hok, s, hs, hv.2⟩, s, hs, by simp [hlen]; rfl, rfl⟩

/-! ## Messages and data -/

/-- A message on `prov-session`, by what the code takes it for. -/
theorem sec1Handshake_cases {P : Psa} {pb : Nanopb} {e : Env} {w w' : KeyStore} {ctx : Sec1Ctx}
    {inbuf : Bytes} {r : Except Int Bytes} {v : Option Sec1Ctx}
    (h : sec1Handshake P pb e w (some ctx) inbuf = (r, v, w')) :
    (∃ p ctx', decodeSec1 pb inbuf = some p ∧ p.msg = sessionCommand0 ∧
      handleCmd0 P pb e w ctx p = (r, ctx', w') ∧ v = some ctx') ∨
    (∃ p ctx', decodeSec1 pb inbuf = some p ∧ p.msg = sessionCommand1 ∧
      handleCmd1 P pb e ctx p = (r, ctx') ∧ v = some ctx' ∧ w' = w) ∨
    (r = .error (-EINVAL) ∧ v = some ctx ∧ w' = w ∧ ∀ p, decodeSec1 pb inbuf = some p →
      p.msg ≠ sessionCommand0 ∧ p.msg ≠ sessionCommand1) := by
  simp only [sec1Handshake] at h
  split at h
  · rename_i hd; cases h
    exact .inr (.inr ⟨rfl, rfl, rfl, fun p hp => by rw [hd] at hp; cases hp⟩)
  rename_i p hd
  split at h
  · rename_i hm
    cases h; exact .inl ⟨p, _, hd, hm, rfl, rfl⟩
  · rename_i hm0
    split at h
    · rename_i hm
      cases h; exact .inr (.inl ⟨p, _, hd, hm, rfl, rfl, rfl⟩)
    · rename_i hm1
      cases h
      refine .inr (.inr ⟨rfl, rfl, rfl, fun q hq => ?_⟩)
      rw [hd] at hq; cases hq
      exact ⟨hm0, hm1⟩

/-- `sec1_encrypt` works in SEC1_DONE only and changes nothing but the cipher. -/
theorem sec1Encrypt_cases {P : Psa} {ok : Bool} {ctx : Sec1Ctx} {inp : Bytes}
    {r : Except Int Bytes} {v : Option Sec1Ctx} (h : sec1Encrypt P ok (some ctx) inp = (r, v)) :
    (ctx.state ≠ .done ∧ r = .error (-EACCES) ∧ v = some ctx) ∨
    (ctx.state = .done ∧ r = .error (- EIO) ∧ v = some { ctx with cipher := .init }) ∨
    (ctx.state = .done ∧ ∃ s, ctx.cipher.stream P = some s ∧ r = .ok (s.xform inp) ∧
      v = some { ctx with cipher := ctx.cipher.advance inp.length }) := by
  simp only [sec1Encrypt] at h
  split at h
  · rename_i hst; cases h; exact .inl ⟨hst, rfl, rfl⟩
  rename_i hst
  simp only [ne_eq, Decidable.not_not] at hst
  obtain ⟨ctx', hx, rfl⟩ : ∃ ctx', ctrXform P ok ctx inp = (r, ctx') ∧ v = some ctx' := by
    cases h; exact ⟨_, rfl, rfl⟩
  cases r with
  | error ret =>
    obtain ⟨rfl, rfl⟩ := ctrXform_error hx
    exact .inr (.inl ⟨hst, rfl, rfl⟩)
  | ok out =>
    obtain ⟨s, hs, -, rfl, rfl⟩ := ctrXform_ok hx
    exact .inr (.inr ⟨hst, s, hs, rfl, rfl⟩)

/-- Nothing but the cipher operation differs. -/
def SameButCipher (ctx ctx' : Sec1Ctx) : Prop := ctx' = { ctx with cipher := ctx'.cipher }

theorem SameButCipher.trans (a b c : Sec1Ctx) (h₁ : SameButCipher a b) (h₂ : SameButCipher b c) :
    SameButCipher a c := by
  unfold SameButCipher at *
  rw [h₂, h₁]

theorem sec1Encrypt_ctx {P : Psa} (ok : Bool) (ctx : Sec1Ctx) (inp : Bytes) (r : Except Int Bytes)
    (v : Option Sec1Ctx) (h : sec1Encrypt P ok (some ctx) inp = (r, v)) :
    ∃ ctx', v = some ctx' ∧ SameButCipher ctx ctx' := by
  rcases sec1Encrypt_cases h with ⟨-, -, rfl⟩ | ⟨-, -, rfl⟩ | ⟨-, s, -, -, rfl⟩ <;> exact ⟨_, rfl, rfl⟩

end NetworkProv.Security1
