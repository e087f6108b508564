import NetworkProv.Security.Pop

/-!
# What a device gives away before proof

Two devices that differ in their proofs of possession only, fed the same
requests, with the same random bytes and the same failures. They differ in the
PoP itself and in the bytes of AES keys, nothing else (`Alike`): the session
key is used, before SEC1_DONE, only to decrypt Command1's verify data, and what
is decrypted is compared and dropped.

* `alike_step`: a step in which neither device verifies a Command1 gives the
  same reply and handler call on both, and keeps them alike.
* `pop_not_observable`: so does a whole run.
-/
namespace NetworkProv.Security1
open NetworkProv.Core Session Protocomm

variable {σ : Type}

/-! ## Key stores -/

/-- A key without what a PoP can have gone into. -/
def KeyMaterial.mask : KeyMaterial → KeyMaterial
  | .x25519 priv => .x25519 priv
  | .aes _ => .aes []

/-- Equal but for the bytes of AES keys. -/
structure AlikeKeys (w₁ w₂ : KeyStore) : Prop where
  last : w₁.last = w₂.last
  keys : w₁.keys.map (fun k => (k.1, KeyMaterial.mask k.2)) =
    w₂.keys.map fun k => (k.1, KeyMaterial.mask k.2)

/-- A lookup finds masked what it would find. -/
theorem lookup_mask (id : KeyId) : ∀ l : List (KeyId × KeyMaterial),
    (l.map fun k => (k.1, KeyMaterial.mask k.2)).lookup id = (l.lookup id).map KeyMaterial.mask
  | [] => rfl
  | (i, m) :: l => by
    simp only [List.map_cons, List.lookup_cons]
    cases id == i with
    | true => rfl
    | false => exact lookup_mask id l

theorem AlikeKeys.find {w₁ w₂ : KeyStore} (h : AlikeKeys w₁ w₂) (id : KeyId) :
    (w₁.find id).map KeyMaterial.mask = (w₂.find id).map KeyMaterial.mask := by
  rw [KeyStore.find, KeyStore.find, ← lookup_mask, ← lookup_mask, h.keys]

/-- The same key under both ids: no key, one X25519 key, or two AES keys. -/
theorem AlikeKeys.find_cases {w₁ w₂ : KeyStore} (h : AlikeKeys w₁ w₂) (id : KeyId) :
    (w₁.find id = none ∧ w₂.find id = none) ∨
    (∃ p, w₁.find id = some (.x25519 p) ∧ w₂.find id = some (.x25519 p)) ∨
    (∃ k₁ k₂, w₁.find id = some (.aes k₁) ∧ w₂.find id = some (.aes k₂)) := by
  have hf := h.find id
  cases h₁ : w₁.find id with
  | none =>
    rw [h₁] at hf
    cases h₂ : w₂.find id with
    | none => exact .inl ⟨rfl, rfl⟩
    | some m => rw [h₂] at hf; cases hf
  | some m₁ =>
    rw [h₁] at hf
    cases h₂ : w₂.find id with
    | none => rw [h₂] at hf; cases hf
    | some m₂ =>
      rw [h₂, Option.map_some, Option.map_some, Option.some.injEq] at hf
      cases m₁ with
      | x25519 p₁ =>
        cases m₂ with
        | x25519 p₂ => cases hf; exact .inr (.inl ⟨p₁, rfl, rfl⟩)
        | aes k₂ => cases hf
      | aes k₁ =>
        cases m₂ with
        | x25519 p₂ => cases hf
        | aes k₂ => exact .inr (.inr ⟨k₁, k₂, rfl, rfl⟩)

/-- Whatever the key, it gets the same id on both sides. -/
theorem AlikeKeys.add {w₁ w₂ : KeyStore} (h : AlikeKeys w₁ w₂) (m₁ m₂ : KeyMaterial)
    (hm : KeyMaterial.mask m₁ = KeyMaterial.mask m₂) :
    (w₁.add m₁).1 = (w₂.add m₂).1 ∧ AlikeKeys (w₁.add m₁).2 (w₂.add m₂).2 := by
  have hl : w₁.last + 1 = w₂.last + 1 := by rw [h.last]
  refine ⟨hl, hl, ?_⟩
  simp only [KeyStore.add, List.map_cons]
  rw [hl, hm, h.keys]

theorem filter_mask (id : KeyId) (l : List (KeyId × KeyMaterial)) :
    (l.filter fun k => k.1 ≠ id).map (fun k => (k.1, KeyMaterial.mask k.2)) =
      (l.map fun k => (k.1, KeyMaterial.mask k.2)).filter fun k => k.1 ≠ id := by
  rw [List.filter_map]; rfl

theorem AlikeKeys.destroy {w₁ w₂ : KeyStore} (h : AlikeKeys w₁ w₂) (id : KeyId) :
    AlikeKeys (psaDestroyKey w₁ id) (psaDestroyKey w₂ id) := by
  refine ⟨h.last, ?_⟩
  simp only [psaDestroyKey]
  rw [filter_mask, filter_mask, h.keys]

/-- An X25519 key is the same on both sides, and so is the secret agreed on with it, -/
theorem AlikeKeys.rawKeyAgreement {w₁ w₂ : KeyStore} (h : AlikeKeys w₁ w₂) (P : Psa) (e : Env)
    (id : KeyId) (peer : Bytes) :
    psaRawKeyAgreement P e w₁ id peer = psaRawKeyAgreement P e w₂ id peer := by
  unfold psaRawKeyAgreement
  rcases h.find_cases id with ⟨h₁, h₂⟩ | ⟨p, h₁, h₂⟩ | ⟨k₁, k₂, h₁, h₂⟩ <;> rw [h₁, h₂]

/-- and the public key. -/
theorem AlikeKeys.exportPublicKey {w₁ w₂ : KeyStore} (h : AlikeKeys w₁ w₂) (P : Psa) (e : Env)
    (id : KeyId) : psaExportPublicKey P e w₁ id = psaExportPublicKey P e w₂ id := by
  unfold psaExportPublicKey
  rcases h.find_cases id with ⟨h₁, h₂⟩ | ⟨p, h₁, h₂⟩ | ⟨k₁, k₂, h₁, h₂⟩ <;> rw [h₁, h₂]

/-! ## Contexts -/

/-- Both with or without a key, with one IV, at one place. -/
structure AlikeOp (o₁ o₂ : CipherOp) : Prop where
  key : o₁.key.isSome = o₂.key.isSome
  iv : o₁.iv = o₂.iv
  pos : o₁.pos = o₂.pos

theorem AlikeOp.refl (o : CipherOp) : AlikeOp o o := ⟨rfl, rfl, rfl⟩

/-- A keystream on both sides or on neither. -/
theorem AlikeOp.stream {o₁ o₂ : CipherOp} (h : AlikeOp o₁ o₂) (P : Psa) :
    (o₁.stream P).isSome = (o₂.stream P).isSome := by
  obtain ⟨k₁, iv₁, p₁⟩ := o₁
  obtain ⟨k₂, iv₂, p₂⟩ := o₂
  obtain ⟨hk, rfl, rfl⟩ := h
  cases k₁ <;> cases k₂ <;> cases iv₁ <;> first | rfl | cases hk

theorem AlikeOp.advance {o₁ o₂ : CipherOp} (h : AlikeOp o₁ o₂) (n : Nat) :
    AlikeOp (o₁.advance n) (o₂.advance n) :=
  ⟨h.key, h.iv, congrArg (· + n) h.pos⟩

/-- Two contexts before SEC1_DONE that differ in their non-empty PoPs and the
key of the cipher. -/
structure AlikeCtx (c₁ c₂ : Sec1Ctx) : Prop where
  state : c₁.state = c₂.state
  notDone : c₁.state ≠ .done
  pop₁ : c₁.pop ≠ []
  pop₂ : c₂.pop ≠ []
  deviceKey : c₁.deviceKey = c₂.deviceKey
  devicePubkey : c₁.devicePubkey = c₂.devicePubkey
  clientPubkey : c₁.clientPubkey = c₂.clientPubkey
  deviceRandom : c₁.deviceRandom = c₂.deviceRandom
  sessionKey : c₁.sessionKey = c₂.sessionKey
  cipher : AlikeOp c₁.cipher c₂.cipher

theorem AlikeCtx.setCipher {c₁ c₂ : Sec1Ctx} (h : AlikeCtx c₁ c₂) {id₁ id₂ : KeyId}
    (hid : id₁ = id₂) {o₁ o₂ : CipherOp} (ho : AlikeOp o₁ o₂) :
    AlikeCtx { c₁ with sessionKey := id₁, cipher := o₁ } { c₂ with sessionKey := id₂, cipher := o₂ } :=
  { h with sessionKey := hid, cipher := ho }

theorem AlikeCtx.setOp {c₁ c₂ : Sec1Ctx} (h : AlikeCtx c₁ c₂) {o₁ o₂ : CipherOp}
    (ho : AlikeOp o₁ o₂) : AlikeCtx { c₁ with cipher := o₁ } { c₂ with cipher := o₂ } :=
  { h with cipher := ho }

theorem mixPop_eq {P : Psa} {e : Env} {pop shared : Bytes} (h : pop ≠ []) :
    mixPop P e pop shared = if e.hashCompute then some (popKey P shared pop) else none := by
  have hl : pop.length > 0 := List.length_pos_iff.mpr h
  unfold mixPop psaHashCompute popKey
  rw [if_pos hl, if_neg h]
  cases e.hashCompute with
  | true => simp [P.sha256_length]
  | false => rfl

/-- `psa_cipher_encrypt_setup` on a key just imported depends on its success only. -/
theorem setup_added {e : Env} (w : KeyStore) (key : Bytes) :
    psaCipherEncryptSetup e (w.add (.aes key)).2 .init (w.add (.aes key)).1 =
      if e.encryptSetup then some ⟨some key, none, 0⟩ else none := by
  unfold psaCipherEncryptSetup
  rw [find_add]; rfl

/-- The two session keys differ, and nothing that is answered or counted does. With both PoPs non-empty
the same calls are made on both sides; the cases are the calls, in the order in which they can fail. -/
theorem deriveSessionKey_alike (P : Psa) (e : Env) {w₁ w₂ : KeyStore} {c₁ c₂ : Sec1Ctx}
    (hw : AlikeKeys w₁ w₂) (hc : AlikeCtx c₁ c₂) :
    (deriveSessionKey P e w₁ c₁).1 = (deriveSessionKey P e w₂ c₂).1 ∧
      AlikeCtx (deriveSessionKey P e w₁ c₁).2.1 (deriveSessionKey P e w₂ c₂).2.1 ∧
      AlikeKeys (deriveSessionKey P e w₁ c₁).2.2 (deriveSessionKey P e w₂ c₂).2.2 := by
  have hra : psaRawKeyAgreement P e w₂ c₂.deviceKey c₂.clientPubkey.val =
      psaRawKeyAgreement P e w₁ c₁.deviceKey c₁.clientPubkey.val := by
    rw [← hc.deviceKey, ← hc.clientPubkey, hw.rawKeyAgreement P e]
  unfold deriveSessionKey
  rw [hra]
  cases psaRawKeyAgreement P e w₁ c₁.deviceKey c₁.clientPubkey.val with
  | none => exact ⟨rfl, hc, hw⟩
  | some shared =>
    dsimp only
    by_cases hl : shared.length ≠ SESSION_KEY_LEN
    · rw [if_pos hl, if_pos hl]; exact ⟨rfl, hc, hw⟩
    rw [if_neg hl, if_neg hl, mixPop_eq hc.pop₁, mixPop_eq hc.pop₂]
    cases e.hashCompute with
    | false => exact ⟨rfl, hc, hw⟩
    | true =>
      simp only [if_true]
      unfold psaImportKey
      cases e.importKey with
      | false =>
        simp only [Bool.false_eq_true, if_false]
        exact ⟨trivial, { hc with sessionKey := rfl }, hw⟩
      | true =>
        simp only [if_true]
        obtain ⟨hid, hadd⟩ :=
          hw.add (.aes (popKey P shared c₁.pop)) (.aes (popKey P shared c₂.pop)) rfl
        rw [setup_added, setup_added]
        cases e.encryptSetup with
        | false =>
          simp only [Bool.false_eq_true, if_false]
          exact ⟨trivial, hc.setCipher hid (.refl _), hadd⟩
        | true =>
          simp only [if_true, psaCipherSetIv]
          cases e.setIv with
          | false =>
            simp only [Bool.false_eq_true, if_false]
            exact ⟨trivial, hc.setCipher hid ⟨rfl, rfl, rfl⟩, hadd⟩
          | true =>
            simp only [if_true]
            exact ⟨trivial, hc.setCipher hid ⟨rfl, by rw [hc.deviceRandom], rfl⟩, hadd⟩

/-- Command0 answers with the public key and the random bytes, neither of which the PoP goes into. -/
theorem handleCmd0_alike (P : Psa) (pb : Nanopb) (e : Env) {w₁ w₂ : KeyStore} {c₁ c₂ : Sec1Ctx}
    (p : Sec1Payload) (hw : AlikeKeys w₁ w₂) (hc : AlikeCtx c₁ c₂) :
    (handleCmd0 P pb e w₁ c₁ p).1 = (handleCmd0 P pb e w₂ c₂ p).1 ∧
      AlikeCtx (handleCmd0 P pb e w₁ c₁ p).2.1 (handleCmd0 P pb e w₂ c₂ p).2.1 ∧
      AlikeKeys (handleCmd0 P pb e w₁ c₁ p).2.2 (handleCmd0 P pb e w₂ c₂ p).2.2 := by
  unfold handleCmd0
  by_cases hlen : (pb.sc0 p.payload).length = PUBKEY_LEN
  · rw [dif_pos hlen, dif_pos hlen]
    dsimp only
    cases psaGenerateRandom e with
    | none => exact ⟨rfl, { hc with clientPubkey := rfl }, hw⟩
    | some rnd =>
      dsimp only
      have hc' : AlikeCtx { c₁ with clientPubkey := ⟨pb.sc0 p.payload, hlen⟩, deviceRandom := rnd }
          { c₂ with clientPubkey := ⟨pb.sc0 p.payload, hlen⟩, deviceRandom := rnd } :=
        { hc with clientPubkey := rfl, deviceRandom := rfl }
      obtain ⟨h1, h2, h3⟩ := deriveSessionKey_alike P e hw hc'
      generalize deriveSessionKey P e w₁ _ = d₁ at h1 h2 h3 ⊢
      generalize deriveSessionKey P e w₂ _ = d₂ at h1 h2 h3 ⊢
      obtain ⟨r₁, a₁, v₁⟩ := d₁
      obtain ⟨r₂, a₂, v₂⟩ := d₂
      dsimp only at h1 h2 h3 ⊢
      subst h1
      by_cases hr : r₁ ≠ 0
      · rw [if_pos hr, if_pos hr]; exact ⟨rfl, h2, h3⟩
      · rw [if_neg hr, if_neg hr]
        refine ⟨?_, { h2 with state := rfl, notDone := by simp }, h3⟩
        simp only [buildResp0]
        rw [h2.devicePubkey, h2.deviceRandom]
  · rw [dif_neg hlen, dif_neg hlen]
    exact ⟨rfl, hc, hw⟩

/-- A Command1 that does not verify: what it answers and leaves depends on the
presence of a keystream, not on its bytes. -/
theorem handleCmd1_unverified {P : Psa} {pb : Nanopb} {e : Env} {c : Sec1Ctx} {p : Sec1Payload}
    (h : ¬ Cmd1Verifies P pb e c p) :
    handleCmd1 P pb e c p =
      if c.state ≠ .cmd0Done then (.error (-EACCES), c)
      else if (pb.sc1 p.payload).length ≠ PUBKEY_LEN then (.error (-EINVAL), c)
      else if (c.cipher.stream P).isSome && e.update₁ then
        (.error (-EACCES), { c with cipher := c.cipher.advance PUBKEY_LEN })
      else (.error (- EIO), { c with cipher := .init }) := by
  unfold handleCmd1
  by_cases hst : c.state ≠ .cmd0Done
  · rw [if_pos hst, if_pos hst]
  rw [if_neg hst, if_neg hst]
  by_cases hlen : (pb.sc1 p.payload).length ≠ PUBKEY_LEN
  · rw [if_pos hlen, if_pos hlen]
  rw [if_neg hlen, if_neg hlen]
  simp only [ne_eq, Decidable.not_not] at hst hlen
  unfold ctrXform psaCipherUpdate
  cases hs : c.cipher.stream P with
  | none => rfl
  | some s =>
    cases hu : e.update₁ with
    | false => rfl
    | true =>
      have hne : s.xform (pb.sc1 p.payload) ≠ c.devicePubkey.val := fun hv =>
        h ⟨hst, hlen, hu, s, hs, hv⟩
      simp [hne, hlen]

/-- Command1 that verifies on neither side. -/
theorem handleCmd1_alike {P : Psa} {pb : Nanopb} {e : Env} {c₁ c₂ : Sec1Ctx} {p : Sec1Payload}
    (hc : AlikeCtx c₁ c₂) (h₁ : ¬ Cmd1Verifies P pb e c₁ p) (h₂ : ¬ Cmd1Verifies P pb e c₂ p) :
    (handleCmd1 P pb e c₁ p).1 = (handleCmd1 P pb e c₂ p).1 ∧
      AlikeCtx (handleCmd1 P pb e c₁ p).2 (handleCmd1 P pb e c₂ p).2 := by
  rw [handleCmd1_unverified h₁, handleCmd1_unverified h₂, ← hc.cipher.stream P]
  by_cases hst : c₁.state ≠ .cmd0Done
  · have hst₂ : c₂.state ≠ .cmd0Done := by rwa [← hc.state]
    rw [if_pos hst, if_pos hst₂]
    exact ⟨rfl, hc⟩
  have hst₂ : ¬ c₂.state ≠ .cmd0Done := by rwa [← hc.state]
  rw [if_neg hst, if_neg hst₂]
  split
  · exact ⟨rfl, hc⟩
  split
  · exact ⟨rfl, hc.setOp (hc.cipher.advance _)⟩
  · exact ⟨rfl, hc.setOp (.refl _)⟩

/-! ## The instance -/

/-- Contexts on both sides or on neither. -/
inductive AlikeCtxs : Option Sec1Ctx → Option Sec1Ctx → Prop
  | none : AlikeCtxs none none
  | some {c₁ c₂ : Sec1Ctx} : AlikeCtx c₁ c₂ → AlikeCtxs (some c₁) (some c₂)

/-- Two devices that differ in their PoPs, and in what the session keys made of
them, and have verified no client. -/
structure Alike (P : Psa) (pb : Nanopb) (s₁ s₂ : PcSession σ) : Prop where
  sec₁ : s₁.pc.sec = some (networkProvSecurity1 P pb)
  sec₂ : s₂.pc.sec = some (networkProvSecurity1 P pb)
  endpoints : s₁.pc.endpoints = s₂.pc.endpoints
  version : s₁.pc.version = s₂.pc.version
  pop₁ : charsOf s₁.pc.pop ≠ []
  pop₂ : charsOf s₂.pc.pop ≠ []
  ctx : AlikeCtxs s₁.pc.secCtx s₂.pc.secCtx
  keys : AlikeKeys s₁.ext s₂.ext
  app : s₁.app = s₂.app

theorem Alike.set {P : Psa} {pb : Nanopb} {s₁ s₂ : PcSession σ} (h : Alike P pb s₁ s₂)
    {v₁ v₂ : Option Sec1Ctx} {w₁ w₂ : KeyStore} (hv : AlikeCtxs v₁ v₂) (hw : AlikeKeys w₁ w₂) :
    Alike P pb { s₁.setCtx v₁ with ext := w₁ } { s₂.setCtx v₂ with ext := w₂ } :=
  ⟨h.sec₁, h.sec₂, h.endpoints, h.version, h.pop₁, h.pop₂, hv, hw, h.app⟩

/-- What is kept of a non-empty PoP is not empty. -/
theorem copyPop_ne_nil {pop : Option CStr} (h : charsOf pop ≠ []) : copyPop pop ≠ [] := by
  rw [copyPop_eq]
  intro h0
  rw [List.take_eq_nil_iff] at h0
  rcases h0 with h0 | h0
  · exact absurd h0 (by decide)
  · exact h h0

/-- A new session: the PoP is copied, and no key is made of it yet. -/
theorem sec1Init_alike (P : Psa) (e : Env) {w₁ w₂ : KeyStore} {p₁ p₂ : Option CStr}
    (hw : AlikeKeys w₁ w₂) (h₁ : charsOf p₁ ≠ []) (h₂ : charsOf p₂ ≠ []) :
    AlikeKeys (sec1Init P e w₁ p₁).2 (sec1Init P e w₂ p₂).2 ∧
      ((∃ ret, (sec1Init P e w₁ p₁).1 = .error ret ∧ (sec1Init P e w₂ p₂).1 = .error ret) ∨
       (∃ c₁ c₂, (sec1Init P e w₁ p₁).1 = .ok c₁ ∧ (sec1Init P e w₂ p₂).1 = .ok c₂ ∧ AlikeCtx c₁ c₂)) := by
  unfold sec1Init psaGenerateKey
  cases e.cryptoInit with
  | false => exact ⟨hw, .inl ⟨_, rfl, rfl⟩⟩
  | true =>
    cases e.calloc with
    | false => exact ⟨hw, .inl ⟨_, rfl, rfl⟩⟩
    | true =>
      cases e.generateKey with
      | none => exact ⟨hw, .inl ⟨_, rfl, rfl⟩⟩
      | some priv =>
        obtain ⟨hid, hadd⟩ := hw.add (.x25519 priv) (.x25519 priv) rfl
        have hexp : psaExportPublicKey P e (w₂.add (.x25519 priv)).2 (w₂.add (.x25519 priv)).1 =
            psaExportPublicKey P e (w₁.add (.x25519 priv)).2 (w₁.add (.x25519 priv)).1 := by
          rw [← hid, hadd.exportPublicKey P e]
        simp only [Bool.not_true, Bool.false_eq_true, if_false, Option.map_some]
        rw [hexp]
        cases psaExportPublicKey P e (w₁.add (.x25519 priv)).2 (w₁.add (.x25519 priv)).1 with
        | none => exact ⟨by rw [hid]; exact hadd.destroy _, .inl ⟨_, rfl, rfl⟩⟩
        | some pub =>
          dsimp only
          by_cases hl : pub.length = PUBKEY_LEN
          · rw [dif_pos hl, dif_pos hl]
            exact ⟨hadd, .inr ⟨_, _, rfl, rfl, rfl, by simp, copyPop_ne_nil h₁, copyPop_ne_nil h₂, hid, rfl,
              rfl, rfl, rfl, .refl _⟩⟩
          · rw [dif_neg hl, dif_neg hl]
            exact ⟨by rw [hid]; exact hadd.destroy _, .inl ⟨_, rfl, rfl⟩⟩

theorem sec1Cleanup_alike {w₁ w₂ : KeyStore} {c₁ c₂ : Sec1Ctx} (hw : AlikeKeys w₁ w₂)
    (hc : AlikeCtx c₁ c₂) : AlikeKeys (sec1Cleanup w₁ c₁) (sec1Cleanup w₂ c₂) := by
  unfold sec1Cleanup
  rw [← hc.sessionKey, ← hc.deviceKey]
  split <;> split
  · exact (hw.destroy _).destroy _
  · exact hw.destroy _
  · exact hw.destroy _
  · exact hw

/-- The end of a session destroys the key, under the same id. -/
theorem closeSession_alike {P : Psa} {pb : Nanopb} {s₁ s₂ : PcSession σ} (h : Alike P pb s₁ s₂) :
    Alike P pb (protocommCloseSession s₁) (protocommCloseSession s₂) := by
  have hctx := h.ctx
  unfold protocommCloseSession
  rw [h.sec₁, h.sec₂]
  generalize h1 : s₁.pc.secCtx = v₁ at hctx
  generalize h2 : s₂.pc.secCtx = v₂ at hctx
  cases hctx with
  | none => exact h
  | some hc => exact h.set .none (sec1Cleanup_alike h.keys hc)

/-- A session opens on both sides or fails on both. -/
theorem openSession_alike {P : Psa} {pb : Nanopb} {s₁ s₂ : PcSession σ} (e : Env)
    (h : Alike P pb s₁ s₂) : Alike P pb (protocommOpenSession e s₁) (protocommOpenSession e s₂) := by
  have hcl := closeSession_alike h
  have hp₁ : (protocommCloseSession s₁).pc.pop = s₁.pc.pop := by rw [closeSession_config s₁]
  have hp₂ : (protocommCloseSession s₂).pc.pop = s₂.pc.pop := by rw [closeSession_config s₂]
  unfold protocommOpenSession
  rw [h.sec₁, h.sec₂]
  dsimp only [networkProvSecurity1]
  rw [hp₁, hp₂]
  generalize protocommCloseSession s₁ = t₁ at hcl
  generalize protocommCloseSession s₂ = t₂ at hcl
  obtain ⟨hw, hr⟩ := sec1Init_alike P e hcl.keys h.pop₁ h.pop₂
  generalize sec1Init P e t₁.ext s₁.pc.pop = d₁ at hw hr ⊢
  generalize sec1Init P e t₂.ext s₂.pc.pop = d₂ at hw hr ⊢
  obtain ⟨r₁, w₁⟩ := d₁
  obtain ⟨r₂, w₂⟩ := d₂
  dsimp only at hw hr
  rcases hr with ⟨ret, rfl, rfl⟩ | ⟨c₁, c₂, rfl, rfl, hc⟩
  · exact hcl.set .none hw
  · exact hcl.set (.some hc) hw

/-! ## Requests -/

/-- A message that verifies on neither side. -/
theorem sec1Handshake_alike (P : Psa) (pb : Nanopb) (e : Env) {w₁ w₂ : KeyStore}
    {v₁ v₂ : Option Sec1Ctx} {inbuf : Bytes} (hw : AlikeKeys w₁ w₂) (hv : AlikeCtxs v₁ v₂)
    (h₁ : ∀ c p, v₁ = some c → decodeSec1 pb inbuf = some p → p.msg = sessionCommand1 →
      ¬ Cmd1Verifies P pb e c p)
    (h₂ : ∀ c p, v₂ = some c → decodeSec1 pb inbuf = some p → p.msg = sessionCommand1 →
      ¬ Cmd1Verifies P pb e c p) :
    (sec1Handshake P pb e w₁ v₁ inbuf).1 = (sec1Handshake P pb e w₂ v₂ inbuf).1 ∧
      AlikeCtxs (sec1Handshake P pb e w₁ v₁ inbuf).2.1 (sec1Handshake P pb e w₂ v₂ inbuf).2.1 ∧
      AlikeKeys (sec1Handshake P pb e w₁ v₁ inbuf).2.2 (sec1Handshake P pb e w₂ v₂ inbuf).2.2 := by
  cases hv with
  | none => exact ⟨rfl, .none, hw⟩
  | @some c₁ c₂ hc =>
    unfold sec1Handshake
    dsimp only
    cases hd : decodeSec1 pb inbuf with
    | none => exact ⟨rfl, .some hc, hw⟩
    | some p =>
      dsimp only
      by_cases hm₀ : p.msg = sessionCommand0
      · rw [if_pos hm₀, if_pos hm₀]
        obtain ⟨hr, hc', hw'⟩ := handleCmd0_alike P pb e p hw hc
        exact ⟨hr, .some hc', hw'⟩
      rw [if_neg hm₀, if_neg hm₀]
      by_cases hm₁ : p.msg = sessionCommand1
      · rw [if_pos hm₁, if_pos hm₁]
        obtain ⟨hr, hc'⟩ := handleCmd1_alike hc (h₁ c₁ p rfl hd hm₁) (h₂ c₂ p rfl hd hm₁)
        exact ⟨hr, .some hc', hw⟩
      · rw [if_neg hm₁, if_neg hm₁]
        exact ⟨rfl, .some hc, hw⟩

theorem sec1Encrypt_notDone {P : Psa} {ok : Bool} {c : Sec1Ctx} {inp : Bytes} (h : c.state ≠ .done) :
    sec1Encrypt P ok (some c) inp = (.error (-EACCES), some c) := by
  simp [sec1Encrypt, h]

/-- The handler's answer is not encrypted: it is lost, on both sides. -/
theorem runHandler_alike {P : Psa} {pb : Nanopb} {e : ReqEnv} {s₁ s₂ : PcSession σ} {name : CStr}
    {handler : ReqHandler σ} {plain : Bytes} {c₁ c₂ : Sec1Ctx} (h : Alike P pb s₁ s₂)
    (h₁ : s₁.pc.secCtx = some c₁) (h₂ : s₂.pc.secCtx = some c₂) (hc : AlikeCtx c₁ c₂) :
    (runHandler (networkProvSecurity1 P pb) e s₁ name handler plain).2 =
        (runHandler (networkProvSecurity1 P pb) e s₂ name handler plain).2 ∧
      Alike P pb (runHandler (networkProvSecurity1 P pb) e s₁ name handler plain).1
        (runHandler (networkProvSecurity1 P pb) e s₂ name handler plain).1 := by
  have hx₁ : ∀ raw, (networkProvSecurity1 P pb).encrypt e.encrypt (some c₁) raw =
      (.error (-EACCES), some c₁) := fun raw => sec1Encrypt_notDone hc.notDone
  have hx₂ : ∀ raw, (networkProvSecurity1 P pb).encrypt e.encrypt (some c₂) raw =
      (.error (-EACCES), some c₂) := fun raw => sec1Encrypt_notDone (by rw [← hc.state]; exact hc.notDone)
  have happ : ∀ a, Alike P pb { s₁ with app := a } { s₂ with app := a } := fun a => { h with app := rfl }
  unfold runHandler
  rw [← h.app]
  generalize handler s₁.app plain = a
  obtain ⟨app, ret, raw⟩ := a
  dsimp only
  by_cases hr : ret ≠ 0
  · rw [if_pos hr, if_pos hr]; exact ⟨rfl, happ app⟩
  rw [if_neg hr, if_neg hr]
  by_cases hl : raw.length = 0
  · rw [if_pos hl, if_pos hl]; exact ⟨rfl, happ app⟩
  rw [if_neg hl, if_neg hl]
  cases e.encAlloc with
  | false => exact ⟨rfl, happ app⟩
  | true =>
    rw [h₁, h₂, hx₁, hx₂]
    refine ⟨rfl, ?_⟩
    exact (happ app).set (.some hc) h.keys

/-- Before SEC1_DONE only an empty request gets to the handler, with no argument of the client. -/
theorem handleData_alike {P : Psa} {pb : Nanopb} {e : ReqEnv} {s₁ s₂ : PcSession σ} {name : CStr}
    {handler : ReqHandler σ} {inbuf : Bytes} {c₁ c₂ : Sec1Ctx} (h : Alike P pb s₁ s₂)
    (h₁ : s₁.pc.secCtx = some c₁) (h₂ : s₂.pc.secCtx = some c₂) (hc : AlikeCtx c₁ c₂) :
    (handleData (networkProvSecurity1 P pb) e s₁ name handler inbuf).2 =
        (handleData (networkProvSecurity1 P pb) e s₂ name handler inbuf).2 ∧
      Alike P pb (handleData (networkProvSecurity1 P pb) e s₁ name handler inbuf).1
        (handleData (networkProvSecurity1 P pb) e s₂ name handler inbuf).1 := by
  unfold handleData
  by_cases hl : inbuf.length > 0
  · rw [if_pos hl, if_pos hl]
    cases e.plainAlloc with
    | false => exact ⟨rfl, h⟩
    | true =>
      have hx₁ : (networkProvSecurity1 P pb).decrypt e.decrypt (some c₁) inbuf =
          (.error (-EACCES), some c₁) := sec1Encrypt_notDone hc.notDone
      have hx₂ : (networkProvSecurity1 P pb).decrypt e.decrypt (some c₂) inbuf =
          (.error (-EACCES), some c₂) := sec1Encrypt_notDone (by rw [← hc.state]; exact hc.notDone)
      rw [h₁, h₂, hx₁, hx₂]
      exact ⟨rfl, h.set (.some hc) h.keys⟩
  · rw [if_neg hl, if_neg hl]
    exact runHandler_alike h h₁ h₂ hc

/-- One request: the handshake, a handler, the version, or a refusal. -/
theorem reqHandle_alike {P : Psa} {pb : Nanopb} (e : ReqEnv) {s₁ s₂ : PcSession σ}
    (epName : Option CStr) (inbuf : Bytes) (h : Alike P pb s₁ s₂)
    (hv₁ : ∀ name c p, epName = some name → SecurityEp s₁.pc name → s₁.pc.secCtx = some c →
      decodeSec1 pb inbuf = some p → p.msg = sessionCommand1 → ¬ Cmd1Verifies P pb e.handshake c p)
    (hv₂ : ∀ name c p, epName = some name → SecurityEp s₂.pc name → s₂.pc.secCtx = some c →
      decodeSec1 pb inbuf = some p → p.msg = sessionCommand1 → ¬ Cmd1Verifies P pb e.handshake c p) :
    (protocommReqHandle e s₁ epName inbuf).2 = (protocommReqHandle e s₂ epName inbuf).2 ∧
      Alike P pb (protocommReqHandle e s₁ epName inbuf).1 (protocommReqHandle e s₂ epName inbuf).1 := by
  cases epName with
  | none => exact ⟨rfl, h⟩
  | some name =>
    have hf : s₂.pc.findEp name = s₁.pc.findEp name := by rw [findEp, findEp, h.endpoints]
    unfold protocommReqHandle
    dsimp only
    rw [hf]
    cases hep : s₁.pc.findEp name with
    | none => exact ⟨rfl, h⟩
    | some ep =>
      obtain ⟨n, ty⟩ := ep
      obtain rfl : n = name := findEp_name hep
      cases ty with
      | version =>
        refine ⟨?_, h⟩
        simp only [handleVersion]
        rw [h.version]
      | security =>
        dsimp only
        rw [h.sec₁, h.sec₂]
        obtain ⟨hr, hc, hw⟩ := sec1Handshake_alike P pb e.handshake h.keys h.ctx
          (fun c p hc hd hm => hv₁ n c p rfl hep hc hd hm)
          (fun c p hc hd hm => hv₂ n c p rfl (hf.trans hep) hc hd hm)
        refine ⟨?_, h.set hc hw⟩
        exact congrArg Reply.ofExcept hr
      | data handler =>
        dsimp only
        rw [h.sec₁, h.sec₂]
        have hctx := h.ctx
        generalize h1 : s₁.pc.secCtx = v₁ at hctx
        generalize h2 : s₂.pc.secCtx = v₂ at hctx
        cases hctx with
        | none => exact ⟨rfl, h⟩
        | some hc => exact handleData_alike h h1 h2 hc

/-! ## Runs -/

/-- One step of each, none of which verifies: the same reply, and devices that still differ in this only. -/
theorem alike_step {P : Psa} {pb : Nanopb} {x₁ x₂ : Sec1PcEntry σ} (hx₁ : machine.Ok x₁)
    (hx₂ : machine.Ok x₂) (hl : x₁.lbl = x₂.lbl)
    (hv : ¬ VerifiesOpen P pb x₁ ∧ ¬ VerifiesOpen P pb x₂) (h : Alike P pb x₁.pre x₂.pre) :
    x₁.out = x₂.out ∧ Alike P pb x₁.post x₂.post := by
  obtain ⟨s₁, l, r₁, s₁'⟩ := x₁
  obtain ⟨s₂, l₂, r₂, s₂'⟩ := x₂
  change l = l₂ at hl
  subst hl
  change s₁.step l = some (s₁', r₁) at hx₁
  change s₂.step l = some (s₂', r₂) at hx₂
  cases l with
  | openSession e => cases hx₁; cases hx₂; exact ⟨rfl, openSession_alike e h⟩
  | closeSession => cases hx₁; cases hx₂; exact ⟨rfl, closeSession_alike h⟩
  | req e epName inbuf =>
    simp only [Session.step, Option.some.injEq] at hx₁ hx₂
    obtain ⟨hr, hs⟩ := reqHandle_alike e epName inbuf h
      (fun name c p hn hep hc hd hm hver => hv.1 ⟨e, name, inbuf, c, p, by rw [hn], hep, hc, hd, hm, hver⟩)
      (fun name c p hn hep hc hd hm hver => hv.2 ⟨e, name, inbuf, c, p, by rw [hn], hep, hc, hd, hm, hver⟩)
    rw [hx₁, hx₂] at hr hs
    exact ⟨hr, hs⟩

/-- A device of the security 1 test, or any other: no session open. -/
def device (P : Psa) (pb : Nanopb) (eps : List (ProtocommEp σ)) (version : Option CStr) (w : KeyStore)
    (app : σ) (devicePop : CStr) : PcSession σ :=
  ⟨⟨eps, some (networkProvSecurity1 P pb), some devicePop, none, version⟩, w, app⟩

/-- **The proof of possession does not show before proof.** Two devices that
differ in their non-empty PoPs only: in any run in which neither verifies a
Command1, they give the same replies and call the same handlers with the same
arguments. -/
theorem pop_not_observable (P : Psa) (pb : Nanopb) (eps : List (ProtocommEp σ))
    (version : Option CStr) (w : KeyStore) (app : σ) (p₁ p₂ : CStr) (h₁ : p₁.chars ≠ [])
    (h₂ : p₂.chars ≠ []) (t₁ t₂ : List (Sec1PcEntry σ)) (s₁ s₂ : PcSession σ)
    (hr₁ : machine.Run (device P pb eps version w app p₁) t₁ s₁)
    (hr₂ : machine.Run (device P pb eps version w app p₂) t₂ s₂)
    (hl : t₁.map (·.lbl) = t₂.map (·.lbl))
    (hv₁ : ∀ x ∈ t₁, ¬ VerifiesOpen P pb x) (hv₂ : ∀ x ∈ t₂, ¬ VerifiesOpen P pb x) :
    t₁.map (·.out) = t₂.map (·.out) := by
  have h0 : Alike P pb (device P pb eps version w app p₁) (device P pb eps version w app p₂) :=
    ⟨rfl, rfl, rfl, rfl, h₁, h₂, .none, ⟨rfl, rfl⟩, rfl⟩
  exact (hr₁.lockstep (C := fun x₁ x₂ => ¬ VerifiesOpen P pb x₁ ∧ ¬ VerifiesOpen P pb x₂)
    (fun _ _ => alike_step) hr₂ h0 hl fun x hx y hy => ⟨hv₁ x hx, hv₂ y hy⟩).1

/-- The step is a request that a context takes for a verifying Command1. -/
def mayVerify (P : Psa) (pb : Nanopb) (x : Sec1PcEntry σ) : Bool :=
  match x.lbl, x.pre.pc.secCtx with
  | .req e _ inbuf, some c => (decodeSec1 pb inbuf).any fun p => Cmd1Verifies P pb e.handshake c p
  | _, _ => false

theorem mayVerify_of_verifies {P : Psa} {pb : Nanopb} {x : Sec1PcEntry σ} (h : VerifiesOpen P pb x) :
    mayVerify P pb x = true := by
  obtain ⟨e, name, inbuf, c, p, hl, -, hc, hd, -, hv⟩ := h
  simp [mayVerify, hl, hc, hd, hv]

/-- A Command0, a Command1 with wrong verify data, an empty and a non-empty
request. -/
def guessOps : List PcOp :=
  [.openSession (.good devicePriv deviceRandom),
   .req goodReq (some sessionEp) (cmd0Head ++ clientPub),
   .req goodReq (some sessionEp) (cmd1Head ++ List.replicate 32 0),
   .req goodReq (some dataEp) [],
   .req goodReq (some dataEp) [1, 2, 3]]

theorem pop_not_observable_test : ∃ t₁ t₂ s₁ s₂,
    machine.Run (testDevice vectors wirePb (some pop)) t₁ s₁ ∧
    machine.Run (testDevice vectors wirePb (some wrongPop)) t₂ s₂ ∧
    t₁.map (·.lbl) = guessOps ∧ t₂.map (·.lbl) = guessOps ∧ t₁.map (·.out) = t₂.map (·.out) := by
  have hr₁ := machine.run_get (testDevice vectors wirePb (some pop)) guessOps (by rfl)
  have hr₂ := machine.run_get (testDevice vectors wirePb (some wrongPop)) guessOps (by rfl)
  refine ⟨_, _, _, _, hr₁, hr₂, by rfl, by rfl, pop_not_observable vectors wirePb
    [⟨dataEp, .data echoHandler⟩, ⟨sessionEp, .security⟩] none .empty () pop wrongPop
    (by decide) (by decide) _ _ _ _ hr₁ hr₂ (by rfl) (fun x hx hv => ?_) (fun x hx hv => ?_)⟩
  · have hall : ((machine.exec (testDevice vectors wirePb (some pop)) guessOps).get (by rfl)).1.all
        (fun x => !mayVerify vectors wirePb x) = true := by decide +kernel
    have := List.all_eq_true.mp hall x hx
    rw [mayVerify_of_verifies hv] at this
    cases this
  · have hall : ((machine.exec (testDevice vectors wirePb (some wrongPop)) guessOps).get (by rfl)).1.all
        (fun x => !mayVerify vectors wirePb x) = true := by decide +kernel
    have := List.all_eq_true.mp hall x hx
    rw [mayVerify_of_verifies hv] at this
    cases this

end NetworkProv.Security1
