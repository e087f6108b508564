import NetworkProv.Security.Sec1Run

/-!
# What the stored public key says about the keystream

`handle_cmd1` answers with the encryption of `ctx->client_pubkey`, to show the
client that the device used its key in the ECDH. `handle_cmd0` writes that
field, and `ctx->device_random`, before anything that can fail. If it fails
before `psa_cipher_encrypt_setup`, the state and the cipher stay, and the fields
no longer go with them.

* `sec1_stored_cases`: a step derives a keystream, loses it, or keeps it; and in
  the last case keeps the two fields unless it is such a Command0 (`Unbinds`).
* `handshake_bound_iff`: keystream and fields go together throughout a run
  exactly when no step is one.
* `failed_command0_unbinds`: after one, a Command1 that verifies is answered
  with the encryption of a key that was never used.
-/
namespace NetworkProv.Security1
open NetworkProv.Core Session

/-! ## What a Command0 writes -/

/-- The Command0 changes the stored public key or the stored random. -/
def Overwrites (pb : Nanopb) (e : Env) (ctx : Sec1Ctx) (p : Sec1Payload) : Prop :=
  ∃ pk : Buf PUBKEY_LEN, pb.sc0 p.payload = pk.val ∧
    (pk ≠ ctx.clientPubkey ∨ ∃ rnd, e.generateRandom = some rnd ∧ rnd ≠ ctx.deviceRandom)

/-- It gets as far as `psa_cipher_encrypt_setup`. -/
def Arms (P : Psa) (pb : Nanopb) (e : Env) (w : KeyStore) (ctx : Sec1Ctx) (p : Sec1Payload) : Prop :=
  Imports P pb e w ctx p ∧ e.importKey = true

theorem deriveSessionKey_stored {P : Psa} {e : Env} {w w' : KeyStore} {ctx ctx' : Sec1Ctx} {ret : Int}
    (h : deriveSessionKey P e w ctx = (ret, ctx', w')) :
    ctx'.clientPubkey = ctx.clientPubkey ∧ ctx'.deviceRandom = ctx.deviceRandom := by
  by_cases hr : ret = 0
  · subst hr
    obtain ⟨_, _, _, -, -, -, -, rfl⟩ := deriveSessionKey_ok h
    exact ⟨rfl, rfl⟩
  · obtain ⟨-, hf, -⟩ := deriveSessionKey_fail h hr
    rw [hf]; exact ⟨rfl, rfl⟩

/-- The fields are written even when the Command0 fails. -/
theorem handleCmd0_stored {P : Psa} {pb : Nanopb} {e : Env} {w w' : KeyStore} {ctx ctx' : Sec1Ctx}
    {p : Sec1Payload} {r : Except Int Bytes} (h : handleCmd0 P pb e w ctx p = (r, ctx', w')) :
    Overwrites pb e ctx p ↔
      ¬ (ctx'.clientPubkey = ctx.clientPubkey ∧ ctx'.deviceRandom = ctx.deviceRandom) := by
  have hpk : ∀ hlen : (pb.sc0 p.payload).length = PUBKEY_LEN, ∀ pk : Buf PUBKEY_LEN,
      pb.sc0 p.payload = pk.val ↔ pk = ⟨pb.sc0 p.payload, hlen⟩ :=
    fun _ pk => ⟨fun h => Subtype.ext h.symm, fun h => by rw [h]⟩
  unfold handleCmd0 psaGenerateRandom at h
  split at h
  · rename_i hlen
    dsimp only at h
    simp only [Overwrites, hpk hlen, exists_eq_left, not_and_or]
    split at h
    · rename_i hrnd
      cases h
      simp [hrnd]
    · rename_i rnd hrnd
      generalize hd : deriveSessionKey P e w { ctx with
        clientPubkey := ⟨pb.sc0 p.payload, hlen⟩, deviceRandom := rnd } = d at h
      obtain ⟨ret, ctx₁, w₁⟩ := d
      obtain ⟨h1, h2⟩ := deriveSessionKey_stored hd
      have hres : ctx'.clientPubkey = ctx₁.clientPubkey ∧ ctx'.deviceRandom = ctx₁.deviceRandom := by
        dsimp only at h
        split at h <;> (cases h; exact ⟨rfl, rfl⟩)
      rw [hres.1, hres.2, h1, h2]
      simp [hrnd]
  · rename_i hlen
    cases h
    refine iff_of_false ?_ (by simp)
    intro hx
    obtain ⟨pk, h1, -⟩ := hx
    exact hlen (by rw [h1]; exact pk.property)

theorem deriveSessionKey_cipher {P : Psa} {e : Env} {w w' : KeyStore} {ctx ctx' : Sec1Ctx} {ret : Int}
    (h : deriveSessionKey P e w ctx = (ret, ctx', w'))
    (hn : ¬ ((∃ shared key, psaRawKeyAgreement P e w ctx.deviceKey ctx.clientPubkey.val = some shared ∧
      shared.length = SESSION_KEY_LEN ∧ mixPop P e ctx.pop shared = some key) ∧ e.importKey = true)) :
    ret = - EIO ∧ ctx'.cipher = ctx.cipher := by
  unfold deriveSessionKey at h
  split at h
  · cases h; exact ⟨rfl, rfl⟩
  rename_i shared hsh
  split at h
  · cases h; exact ⟨rfl, rfl⟩
  rename_i hlen
  split at h
  · cases h; exact ⟨rfl, rfl⟩
  rename_i key hmix
  have himp : psaImportKey e w key = none := by
    unfold psaImportKey
    exact if_neg fun hi => hn ⟨⟨shared, key, hsh, by simpa using hlen, hmix⟩, hi⟩
  rw [himp] at h
  cases h; exact ⟨rfl, rfl⟩

/-- A Command0 that does not get to the cipher leaves it, and the state, alone. -/
theorem handleCmd0_unarmed {P : Psa} {pb : Nanopb} {e : Env} {w w' : KeyStore} {ctx ctx' : Sec1Ctx}
    {p : Sec1Payload} {r : Except Int Bytes} (h : handleCmd0 P pb e w ctx p = (r, ctx', w'))
    (hn : ¬ Arms P pb e w ctx p) : ctx'.state = ctx.state ∧ ctx'.cipher = ctx.cipher := by
  unfold handleCmd0 psaGenerateRandom at h
  split at h
  · rename_i hlen
    dsimp only at h
    split at h
    · cases h; exact ⟨rfl, rfl⟩
    · rename_i rnd hrnd
      generalize hd : deriveSessionKey P e w { ctx with
        clientPubkey := ⟨pb.sc0 p.payload, hlen⟩, deviceRandom := rnd } = d at h
      obtain ⟨ret, ctx₁, w₁⟩ := d
      obtain ⟨hret, hci⟩ := deriveSessionKey_cipher hd fun hx => by
        obtain ⟨⟨shared, key, hre⟩, hi⟩ := hx
        exact hn ⟨⟨⟨_, hlen⟩, rnd, shared, key, rfl, hrnd, hre⟩, hi⟩
      have hne : ret ≠ 0 := by rw [hret]; decide
      obtain ⟨-, hf, -⟩ := deriveSessionKey_fail hd hne
      simp only [ne_eq, hne, not_false_eq_true, if_true] at h
      cases h
      exact ⟨by rw [hf], hci⟩
  · cases h; exact ⟨rfl, rfl⟩

theorem arms_of_derives {P : Psa} {pb : Nanopb} {e : Env} {w : KeyStore} {ctx : Sec1Ctx}
    {p : Sec1Payload} (h : Cmd0Derives P pb e w ctx p) : Arms P pb e w ctx p := by
  obtain ⟨pk, rnd, h1, h2, h3⟩ := h
  generalize hd : deriveSessionKey P e w { ctx with clientPubkey := pk, deviceRandom := rnd } = d at h3
  obtain ⟨ret, ctx₁, w₁⟩ := d
  obtain rfl : ret = 0 := h3
  obtain ⟨shared, key, id, hsh, hlen, hmix, himp, -⟩ := deriveSessionKey_ok hd
  refine ⟨⟨pk, rnd, shared, key, h1, h2, hsh, hlen, hmix⟩, ?_⟩
  by_contra hi
  rw [psaImportKey, if_neg hi] at himp
  cases himp

/-- Once the cipher is set up anew, the old keystream is gone. -/
theorem handleCmd0_armed {P : Psa} {pb : Nanopb} {e : Env} {w w' : KeyStore} {ctx ctx' : Sec1Ctx}
    {p : Sec1Payload} {r : Except Int Bytes} (h : handleCmd0 P pb e w ctx p = (r, ctx', w'))
    (ha : Arms P pb e w ctx p) (hn : ¬ Cmd0Derives P pb e w ctx p) :
    ctx'.cipher.driving = none := by
  obtain ⟨⟨pk, rnd, shared, key, hpk, hrnd, hsh, hlen, hmix⟩, hi⟩ := ha
  have hl : (pb.sc0 p.payload).length = PUBKEY_LEN := by rw [hpk]; exact pk.property
  obtain rfl : pk = ⟨pb.sc0 p.payload, hl⟩ := Subtype.ext hpk.symm
  generalize hd : deriveSessionKey P e w { ctx with
    clientPubkey := ⟨pb.sc0 p.payload, hl⟩, deviceRandom := rnd } = d
  obtain ⟨ret, ctx₁, w₁⟩ := d
  have hne : ret ≠ 0 := fun h0 => hn ⟨_, rnd, rfl, hrnd, by rw [hd]; exact h0⟩
  obtain rfl : ctx' = ctx₁ := by
    simp only [handleCmd0, psaGenerateRandom, dif_pos hl, hrnd, hd, ne_eq, hne, not_false_eq_true,
      if_true] at h
    cases h; rfl
  unfold deriveSessionKey at hd
  simp only [hsh, hlen, hmix, psaImportKey, hi, ne_eq, not_true_eq_false, if_true, if_false] at hd
  split at hd
  · cases hd; rfl
  rename_i op hset
  split at hd
  · cases hd
    obtain rfl := setup_imported (e := e) (w := w) (by rw [psaImportKey, if_pos hi]) hset
    rfl
  · cases hd; exact absurd rfl hne

/-! ## Steps -/

/-- The step derives the keystream of `k` and `iv` from the client's key `pk` and the
device's random `rnd`. -/
structure DerivedBy (P : Psa) (pb : Nanopb) (x : Sec1Entry) (k iv : Bytes) (pk : Buf PUBKEY_LEN)
    (rnd : Buf RANDOM_LEN) : Prop where
  installed : InstalledBy P pb x k iv
  iv : iv = rnd.val
  key : ∃ e p shared, Handles pb x e p sessionCommand0 ∧ pb.sc0 p.payload = pk.val ∧
    e.generateRandom = some rnd ∧
    psaRawKeyAgreement P e x.pre.keys x.pre.ctx.deviceKey pk.val = some shared ∧
    mixPop P e x.pre.ctx.pop shared = some k

/-- The step is a Command0 that changes the stored key or random, on a keystream in
place, and fails before it gets to the cipher. -/
def Unbinds (P : Psa) (pb : Nanopb) (x : Sec1Entry) : Prop :=
  ∃ e p, Handles pb x e p sessionCommand0 ∧ x.pre.ctx.cipher.driving ≠ none ∧
    Overwrites pb e x.pre.ctx p ∧ ¬ Arms P pb e x.pre.keys x.pre.ctx p

/-- The step leaves the stored key and random as they are. -/
def KeepsStored (x : Sec1Entry) : Prop :=
  x.post.ctx.clientPubkey = x.pre.ctx.clientPubkey ∧ x.post.ctx.deviceRandom = x.pre.ctx.deviceRandom

/-- Only a Command0 writes them. -/
theorem sec1_keepsStored {P : Psa} {pb : Nanopb} {x : Sec1Entry} (hx : (sec1Machine P pb).Ok x) :
    (∃ e p, Handles pb x e p sessionCommand0) ∨ KeepsStored x := by
  obtain ⟨⟨ctx, w⟩, l, o, ⟨ctx', w'⟩⟩ := x
  change sec1Step P pb ⟨ctx, w⟩ l = some (⟨ctx', w'⟩, o) at hx
  cases l with
  | handshake e inbuf =>
    rcases sec1Handshake_cases (sec1Step_handshake hx) with ⟨p, c, hd, hm, -, -⟩ |
        ⟨p, c, -, -, hc, hv, -⟩ | ⟨-, hv, -, -⟩
    · exact .inl ⟨e, p, inbuf, rfl, hd, hm⟩
    · cases hv
      rcases handleCmd1_cases hc with ⟨-, hf, -⟩ | ⟨-, s, -, rfl, -⟩
      · exact .inr (by rw [hf]; exact ⟨rfl, rfl⟩)
      · exact .inr ⟨rfl, rfl⟩
    · cases hv
      exact .inr ⟨rfl, rfl⟩
  | encrypt ok inp =>
    obtain ⟨c, hv, hsame⟩ := sec1Encrypt_ctx ok ctx inp _ _ (sec1Step_encrypt hx)
    cases hv
    exact .inr (by rw [hsame]; exact ⟨rfl, rfl⟩)

theorem sec1_stored_cases {P : Psa} {pb : Nanopb} {x : Sec1Entry} (hx : (sec1Machine P pb).Ok x) :
    (∃ k iv, DerivedBy P pb x k iv x.post.ctx.clientPubkey x.post.ctx.deviceRandom) ∨
    x.post.ctx.cipher.driving = none ∨
    (¬ Installs P pb x ∧ x.post.ctx.cipher.driving = x.pre.ctx.cipher.driving ∧
      (KeepsStored x ∨ Unbinds P pb x ∧ ¬ KeepsStored x ∧ x.post.ctx.state = x.pre.ctx.state)) := by
  have hstored := sec1_keepsStored hx
  rcases sec1_step_cases hx with ⟨k, iv, hi⟩ | ⟨hv, hn, hsame⟩ | ⟨hn, hst, hsame | hnone⟩
  · obtain ⟨e, p, hh, hde⟩ := hi.installs
    obtain ⟨-, ⟨hnd, -⟩ | ⟨-, -, -, hpk, hrnd, shared, key, hsh, hmix, hci⟩⟩ :=
      handleCmd0_cases (hh.cmd0 hx)
    · exact absurd hde hnd
    rw [hi.cipher] at hci
    cases hci
    exact .inl ⟨k, _, hi, rfl, e, p, shared, hh, hpk, hrnd, hsh, hmix⟩
  · -- a Command1 that verifies is not a Command0
    obtain ⟨e, p, hh, -⟩ := hv
    rcases hstored with ⟨e', p', hh'⟩ | hk
    · obtain ⟨-, -, h0⟩ := hh.unique hh'
      simp [sessionCommand0, sessionCommand1] at h0
    · exact .inr (.inr ⟨hn, hsame, .inl hk⟩)
  · rcases hstored with ⟨e, p, hh⟩ | hk
    · by_cases hd : x.pre.ctx.cipher.driving = none
      · exact .inr (.inl (hsame.trans hd))
      have hc := hh.cmd0 hx
      by_cases hk : KeepsStored x
      · exact .inr (.inr ⟨hn, hsame, .inl hk⟩)
      by_cases ha : Arms P pb e x.pre.keys x.pre.ctx p
      · exact .inr (.inl (handleCmd0_armed hc ha fun hde => hn ⟨e, p, hh, hde⟩))
      · exact .inr (.inr ⟨hn, hsame, .inr ⟨⟨e, p, hh, hd, (handleCmd0_stored hc).2 hk, ha⟩, hk, hst⟩⟩)
    · exact .inr (.inr ⟨hn, hsame, .inl hk⟩)
  · exact .inr (.inl hnone)

/-- An unbinding step keeps the keystream and the state, and loses the fields. -/
theorem Unbinds.spec {P : Psa} {pb : Nanopb} {x : Sec1Entry} (hx : (sec1Machine P pb).Ok x)
    (h : Unbinds P pb x) : ¬ Installs P pb x ∧ x.post.ctx.state = x.pre.ctx.state ∧
      x.post.ctx.cipher = x.pre.ctx.cipher ∧ ¬ KeepsStored x := by
  obtain ⟨e, p, hh, -, how, ha⟩ := h
  have hc := hh.cmd0 hx
  obtain ⟨hst, hci⟩ := handleCmd0_unarmed hc ha
  refine ⟨?_, hst, hci, (handleCmd0_stored hc).1 how⟩
  intro hi
  obtain ⟨e', p', hh', hde⟩ := hi
  obtain ⟨rfl, rfl, -⟩ := hh.unique hh'
  exact ha (arms_of_derives hde)

/-! ## Runs -/

/-- The keystream of `k` and `iv` was derived from `pk` and `rnd`, and no Command0 has
replaced it since. -/
def DerivedFrom (P : Psa) (pb : Nanopb) (t : List Sec1Entry) (k iv : Bytes) (pk : Buf PUBKEY_LEN)
    (rnd : Buf RANDOM_LEN) : Prop :=
  ∃ t₁ c0 t₂, t = t₁ ++ c0 :: t₂ ∧ DerivedBy P pb c0 k iv pk rnd ∧ ∀ x ∈ t₂, Keeps P pb k iv x

/-- The stored key and random are those of the keystream in place. -/
def Bound (P : Psa) (pb : Nanopb) (t : List Sec1Entry) (s : Sec1World) : Prop :=
  s.ctx.state ≠ .init → ∀ k iv, s.ctx.cipher.driving = some (k, iv) →
    DerivedFrom P pb t k iv s.ctx.clientPubkey s.ctx.deviceRandom

/-- A Command1 that succeeds is answered with the encryption of the key from which the
keystream was derived. -/
def Attests (P : Psa) (pb : Nanopb) (t : List Sec1Entry) (x : Sec1Entry) : Prop :=
  ∀ e p b, Handles pb x e p sessionCommand1 → x.out = .ok b →
    ∃ k iv pk rnd, x.pre.ctx.cipher.driving = some (k, iv) ∧ DerivedFrom P pb t k iv pk rnd ∧
      x.out = buildResp1 pb e.respAlloc
        (xorFrom (P.ctr k iv) (x.pre.ctx.cipher.pos + PUBKEY_LEN) pk.val)

theorem DerivedFrom.snoc {P : Psa} {pb : Nanopb} {t : List Sec1Entry} {k iv : Bytes}
    {pk : Buf PUBKEY_LEN} {rnd : Buf RANDOM_LEN} {x : Sec1Entry} (h : DerivedFrom P pb t k iv pk rnd)
    (hx : Keeps P pb k iv x) : DerivedFrom P pb (t ++ [x]) k iv pk rnd :=
  Since.snoc h hx

/-- A history of derivation ends in the derivation, or in a step that keeps its keystream. -/
theorem DerivedFrom.snoc_cases {P : Psa} {pb : Nanopb} {t : List Sec1Entry} {k iv : Bytes}
    {pk : Buf PUBKEY_LEN} {rnd : Buf RANDOM_LEN} {x : Sec1Entry}
    (h : DerivedFrom P pb (t ++ [x]) k iv pk rnd) :
    DerivedBy P pb x k iv pk rnd ∨ (¬ Installs P pb x ∧ DerivedFrom P pb t k iv pk rnd) := by
  exact (Since.snoc_iff.1 h).imp id fun hk => ⟨hk.2.noInstall, hk.1⟩

/-- What a keystream was derived from is read off the last installation. -/
theorem DerivedFrom.unique {P : Psa} {pb : Nanopb} {k iv : Bytes} {pk pk' : Buf PUBKEY_LEN}
    {rnd rnd' : Buf RANDOM_LEN} (t : List Sec1Entry) (h : DerivedFrom P pb t k iv pk rnd)
    (h' : DerivedFrom P pb t k iv pk' rnd') : pk = pk' ∧ rnd = rnd' := by
  induction t using List.reverseRecOn with
  | nil =>
    obtain ⟨t₁, c0, t₂, ht, -⟩ := h
    simp at ht
  | append_singleton t x ih =>
    rcases h.snoc_cases with h0 | ⟨hn, h1⟩ <;> rcases h'.snoc_cases with h0' | ⟨hn', h1'⟩
    · obtain ⟨e, p, -, hh, hpk, hrnd, -⟩ := h0.key
      obtain ⟨e', p', -, hh', hpk', hrnd', -⟩ := h0'.key
      obtain ⟨rfl, rfl, -⟩ := hh.unique hh'
      exact ⟨Subtype.ext (hpk.symm.trans hpk'), Option.some.inj (hrnd.symm.trans hrnd')⟩
    · exact absurd h0.installed.installs hn'
    · exact absurd h0'.installed.installs hn
    · exact ih h1 h1'

/-- The handshake has begun once there is a keystream. -/
theorem driving_state {P : Psa} {pb : Nanopb} {s₀ s : Sec1World} {t : List Sec1Entry}
    (h0 : s₀.ctx.cipher.driving = none) (hr : (sec1Machine P pb).Run s₀ t s)
    (hd : s.ctx.cipher.driving ≠ none) : s.ctx.state ≠ .init := by
  refine hr.invariant (P := fun s => s.ctx.cipher.driving ≠ none → s.ctx.state ≠ .init)
    (fun h => absurd h0 h) (fun x hx ih hd => ?_) hd
  rcases sec1_step_cases hx with ⟨k, iv, hi⟩ | ⟨⟨e, p, -, -, hdone⟩, -⟩ | ⟨-, hst, hsame | hnone⟩
  · rw [hi.state]; decide
  · rw [hdone]; decide
  · rw [hst]
    exact ih (by rwa [← hsame])
  · exact absurd hnone hd

theorem Bound.step {P : Psa} {pb : Nanopb} {t : List Sec1Entry} {x : Sec1Entry}
    (hx : (sec1Machine P pb).Ok x) (hst : x.pre.ctx.cipher.driving ≠ none → x.pre.ctx.state ≠ .init)
    (ih : Bound P pb t x.pre) (hn : ¬ Unbinds P pb x) : Bound P pb (t ++ [x]) x.post := by
  intro _ k iv hd
  rcases sec1_stored_cases hx with ⟨k', iv', hi⟩ | hnone | ⟨hni, hsame, ⟨hpk, hrnd⟩ | ⟨hu, -⟩⟩
  · have hdr := hi.installed.cipher
    rw [hdr] at hd
    cases hd
    exact ⟨t, x, [], rfl, hi, fun _ hy => by cases hy⟩
  · rw [hnone] at hd; cases hd
  · have hk : Keeps P pb k iv x := ⟨hni, hsame ▸ hd, hd⟩
    rw [hpk, hrnd]
    exact (ih (hst (by rw [hk.pre]; simp)) k iv hk.pre).snoc hk
  · exact absurd hu hn

theorem Unbinds.unbound {P : Psa} {pb : Nanopb} {t : List Sec1Entry} {x : Sec1Entry}
    (hx : (sec1Machine P pb).Ok x) (hst : x.pre.ctx.state ≠ .init) (ih : Bound P pb t x.pre)
    (h : Unbinds P pb x) : ¬ Bound P pb (t ++ [x]) x.post := by
  intro hb
  obtain ⟨hni, hs, hci, hk⟩ := h.spec hx
  obtain ⟨-, -, -, hd, -⟩ := h
  obtain ⟨⟨k, iv⟩, hd⟩ := Option.ne_none_iff_exists'.1 hd
  rcases (hb (by rwa [hs]) k iv (by rwa [hci])).snoc_cases with h0 | ⟨-, hpost⟩
  · exact hni h0.installed.installs
  · exact hk (hpost.unique _ (ih hst k iv hd))

theorem Bound.attests {P : Psa} {pb : Nanopb} {t : List Sec1Entry} {x : Sec1Entry}
    (hx : (sec1Machine P pb).Ok x) (hb : Bound P pb t x.pre) : Attests P pb t x := by
  intro e p b hh ho
  rcases handleCmd1_cases (hh.cmd1 hx) with ⟨⟨ret, he⟩, -⟩ | ⟨hv, s, hs, -, hr⟩
  · rw [he] at ho; cases ho
  · obtain ⟨⟨k, iv⟩, hd, rfl⟩ := Option.map_eq_some_iff.1 hs
    have hst : x.pre.ctx.state ≠ .init := by rw [hv.1]; decide
    exact ⟨k, iv, _, _, hd, hb hst k iv hd, hr⟩

/-- **When the handshake binds.** In every run of one context, with any PSA calls failing:
the stored public key and random are always those from which the keystream in place was
derived, and each Command1 that succeeds is answered with the encryption of that key, iff
no Command0 changes the stored key or random and then fails before
`psa_cipher_encrypt_setup` while there is a keystream. -/
theorem handshake_bound_iff (P : Psa) (pb : Nanopb) (e₀ : Env) (w₀ w₁ : KeyStore)
    (pop : Option CStr) (ctx₀ : Sec1Ctx) (h0 : sec1Init P e₀ w₀ pop = (.ok ctx₀, w₁))
    (t : List Sec1Entry) (s : Sec1World) (hr : (sec1Machine P pb).Run ⟨ctx₀, w₁⟩ t s) :
    (∀ t₁ x t₂, t = t₁ ++ x :: t₂ → Bound P pb (t₁ ++ [x]) x.post ∧ Attests P pb t₁ x) ↔
      ∀ x ∈ t, ¬ Unbinds P pb x := by
  have hd0 : ctx₀.cipher.driving = none := by rw [(sec1Init_ok h0).2.1]; rfl
  have hb0 : ∀ t, Bound P pb t ⟨ctx₀, w₁⟩ := fun t _ k iv hd => by
    rw [hd0] at hd; cases hd
  refine hr.always_iff (P := Bound P pb)
    (Q := fun t x => Bound P pb (t ++ [x]) x.post ∧ Attests P pb t x) (hb0 []) ?_ ?_
  · intro t x hrt hx hb hn
    have hb' := hb.step hx (driving_state hd0 hrt) hn
    exact ⟨hb', hb', hb.attests hx⟩
  · intro t x hrt hx hb hq hu
    have hst : x.pre.ctx.state ≠ .init := driving_state hd0 hrt hu.choose_spec.choose_spec.2.1
    exact hu.unbound hx hst hb hq.1

theorem handshake_bound_iff_test : ∃ t s,
    (sec1Machine vectors wirePb).Run ⟨testCtx, ⟨1, [(1, .x25519 devicePriv)]⟩⟩ t s ∧
    t.map (·.lbl) = [.handshake (.good devicePriv deviceRandom) (cmd0Head ++ clientPub),
      .handshake (.good devicePriv deviceRandom) (cmd1Head ++ xorFrom testKs 0 devicePub)] ∧
    ((∀ t₁ x t₂, t = t₁ ++ x :: t₂ →
      Bound vectors wirePb (t₁ ++ [x]) x.post ∧ Attests vectors wirePb t₁ x) ↔
      ∀ x ∈ t, ¬ Unbinds vectors wirePb x) := by
  have hr := (sec1Machine vectors wirePb).run_get ⟨testCtx, ⟨1, [(1, .x25519 devicePriv)]⟩⟩
    [.handshake (.good devicePriv deviceRandom) (cmd0Head ++ clientPub),
      .handshake (.good devicePriv deviceRandom) (cmd1Head ++ xorFrom testKs 0 devicePub)]
    (by decide +kernel)
  exact ⟨_, _, hr, by rfl, handshake_bound_iff vectors wirePb (.good devicePriv deviceRandom)
    .empty _ (some pop) testCtx rfl _ _ hr⟩

/-- The public key that X25519 refuses to agree on. -/
def zeroPub : Buf PUBKEY_LEN := Buf.zero _

/-- **A failed Command0 unbinds the handshake.** A Command0 with the zero key, after a
good one, fails in the ECDH. The Command1 that answers the good one still verifies, and
is answered with the encryption of the zero key. -/
theorem failed_command0_unbinds : ∃ t s,
    (sec1Machine vectors wirePb).Run ⟨testCtx, ⟨1, [(1, .x25519 devicePriv)]⟩⟩ t s ∧
    t.map (·.lbl) = [.handshake (.good devicePriv deviceRandom) (cmd0Head ++ clientPub),
      .handshake (.good devicePriv deviceRandom) (cmd0Head ++ zeroPub.val),
      .handshake (.good devicePriv deviceRandom) (cmd1Head ++ xorFrom testKs 0 devicePub)] ∧
    t.map (·.out) = [.ok (resp0Head ++ devicePub ++ resp0Mid ++ deviceRandom.val), .error (- EIO),
      .ok (resp1Head ++ xorFrom testKs 32 zeroPub.val)] ∧
    ¬ ∀ t₁ x t₂, t = t₁ ++ x :: t₂ →
      Bound vectors wirePb (t₁ ++ [x]) x.post ∧ Attests vectors wirePb t₁ x := by
  have hr := (sec1Machine vectors wirePb).run_get ⟨testCtx, ⟨1, [(1, .x25519 devicePriv)]⟩⟩
    [.handshake (.good devicePriv deviceRandom) (cmd0Head ++ clientPub),
      .handshake (.good devicePriv deviceRandom) (cmd0Head ++ zeroPub.val),
      .handshake (.good devicePriv deviceRandom) (cmd1Head ++ xorFrom testKs 0 devicePub)]
    (by decide +kernel)
  refine ⟨_, _, hr, by rfl, by decide +kernel, fun hb => ?_⟩
  have h1 := (hb [_] _ [_] rfl).1 (by decide +kernel) testKey deviceRandom.val (by decide +kernel)
  rcases h1.snoc_cases with h | ⟨-, h⟩
  · -- the second Command0 was not answered
    obtain ⟨e, inbuf, hl, ho⟩ := h.installed.answers
    cases hl
    exact absurd ho (by decide +kernel)
  rcases DerivedFrom.snoc_cases (t := []) h with h | ⟨-, t₁, c0, t₂, ht, -⟩
  · -- the first one came with another key
    obtain ⟨e, p, -, ⟨inbuf, hl, hd, -⟩, hpk, -⟩ := h.key
    cases hl
    have hdec : decodeSec1 wirePb (cmd0Head ++ clientPub) = some ⟨sessionCommand0, .sc0 clientPub⟩ := by
      decide +kernel
    rw [hdec] at hd
    cases hd
    exact absurd hpk (by decide +kernel)
  · simp at ht

end NetworkProv.Security1
