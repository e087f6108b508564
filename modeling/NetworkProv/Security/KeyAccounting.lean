import NetworkProv.Security.Gate

/-!
# The PSA keys of a session

A session owns a device key, generated at the open, and from its first
Command0 on a session key. Both are destroyed at the close, by the ids in the
context. Command0 is accepted in every state; a second one overwrites the id of
the first session key, which nobody destroys any more.

* `owned_step`: a step keeps the live keys those of the open session, unless it
  is a Command0 that imports a key on top of another (`Rekeys`).
* `keys_accounted_iff`: in a run there are never too many keys, and none once
  the session is closed, exactly when no step is one.
* `second_command0_leaks`: two Command0 in one session.
-/
namespace NetworkProv.Security1
open NetworkProv.Core Session Protocomm

variable {σ : Type}

def KeyMaterial.isDevice : KeyMaterial → Bool
  | .x25519 _ => true
  | .aes _ => false

def deviceKeys (w : KeyStore) : Nat := w.keys.countP fun k => KeyMaterial.isDevice k.2

def sessionKeys (w : KeyStore) : Nat := w.keys.countP fun k => !KeyMaterial.isDevice k.2

/-- The live keys are those of the open session, if there is one. -/
inductive Owned (w : KeyStore) : Option Sec1Ctx → Prop
  | closed : w.keys = [] → Owned w none
  | device (ctx : Sec1Ctx) (priv : Bytes) : w.keys = [(ctx.deviceKey, .x25519 priv)] →
      0 < ctx.deviceKey → ctx.deviceKey ≤ w.last → ctx.sessionKey = PSA_KEY_ID_NULL →
      Owned w (some ctx)
  | session (ctx : Sec1Ctx) (priv key : Bytes) :
      w.keys = [(ctx.sessionKey, .aes key), (ctx.deviceKey, .x25519 priv)] →
      0 < ctx.deviceKey → ctx.deviceKey < ctx.sessionKey → ctx.sessionKey ≤ w.last →
      Owned w (some ctx)

/-- At most one key of each kind is alive, none without a session, and none would
survive the instance. -/
structure Accounted (s : PcSession σ) : Prop where
  device : deviceKeys s.ext ≤ 1
  session : sessionKeys s.ext ≤ 1
  closed : s.pc.secCtx = none → s.ext.keys = []
  deleted : (protocommDelete s).1.keys = []

/-! ## Opening and closing -/

/-- A session that opens has a key pair in the store, one that does not leaves nothing. -/
theorem Owned.init {P : Psa} {e : Env} {w w' : KeyStore} {pop : Option CStr}
    {r : Except Int Sec1Ctx} (hw : w.keys = []) (h : sec1Init P e w pop = (r, w')) :
    Owned w' r.toOption := by
  have hfresh : ∀ priv, psaDestroyKey (w.add (.x25519 priv)).2 (w.add (.x25519 priv)).1 =
      ⟨w.last + 1, []⟩ := by
    intro priv
    simp [psaDestroyKey, KeyStore.add, hw]
  unfold sec1Init at h
  split at h
  · cases h; exact .closed hw
  split at h
  · cases h; exact .closed hw
  split at h
  · cases h; exact .closed hw
  rename_i id w₁ hgen
  obtain ⟨priv, -, hadd⟩ := Option.map_eq_some_iff.1 hgen
  obtain ⟨rfl, rfl⟩ : (w.add (.x25519 priv)).1 = id ∧ (w.add (.x25519 priv)).2 = w₁ :=
    Prod.ext_iff.1 hadd
  split at h
  · cases h
    rw [hfresh]
    exact .closed rfl
  split at h
  · cases h
    exact .device _ priv (by simp [KeyStore.add, hw]) (Nat.succ_pos _) (Nat.le_refl _) rfl
  · cases h
    rw [hfresh]
    exact .closed rfl

/-- A cleanup destroys what the context has. -/
theorem Owned.cleanup {w : KeyStore} {ctx : Sec1Ctx} (h : Owned w (some ctx)) :
    (sec1Cleanup w ctx).keys = [] := by
  cases h with
  | device _ priv hk hd hle hs =>
    simp [sec1Cleanup, hs, psaDestroyKey, hk, PSA_KEY_ID_NULL, Nat.ne_of_gt hd]
  | session _ priv key hk hd hlt hle =>
    have hs : ctx.sessionKey ≠ 0 := Nat.ne_of_gt (Nat.lt_trans hd hlt)
    simp [sec1Cleanup, psaDestroyKey, hk, PSA_KEY_ID_NULL, Nat.ne_of_gt hd, hs]

theorem closeSession_keys {P : Psa} {pb : Nanopb} {s : PcSession σ}
    (hsec : s.pc.sec = some (networkProvSecurity1 P pb)) :
    (protocommCloseSession s).ext = match s.pc.secCtx with
      | none => s.ext
      | some ctx => sec1Cleanup s.ext ctx := by
  unfold protocommCloseSession
  rw [hsec]
  cases s.pc.secCtx <;> rfl

theorem Owned.close {P : Psa} {pb : Nanopb} {s : PcSession σ}
    (hsec : s.pc.sec = some (networkProvSecurity1 P pb)) (h : Owned s.ext s.pc.secCtx) :
    (protocommCloseSession s).ext.keys = [] := by
  rw [closeSession_keys hsec]
  generalize s.pc.secCtx = v at h
  cases v with
  | none => cases h; assumption
  | some ctx => exact h.cleanup

theorem Owned.open {P : Psa} {pb : Nanopb} {e : Env} {s : PcSession σ}
    (hsec : s.pc.sec = some (networkProvSecurity1 P pb)) (h : Owned s.ext s.pc.secCtx) :
    Owned (protocommOpenSession e s).ext (protocommOpenSession e s).pc.secCtx := by
  have hk := h.close hsec
  unfold protocommOpenSession
  rw [hsec]
  dsimp only [networkProvSecurity1]
  generalize hi : sec1Init P e (protocommCloseSession s).ext (protocommCloseSession s).pc.pop = r
  obtain ⟨r, w⟩ := r
  have ho := Owned.init hk hi
  cases r with
  | error ret => exact ho
  | ok ctx => exact ho

/-- Then there is a key of each kind at most, and a close would leave none. -/
theorem Owned.accounted {P : Psa} {pb : Nanopb} {s : PcSession σ}
    (hsec : s.pc.sec = some (networkProvSecurity1 P pb)) (h : Owned s.ext s.pc.secCtx) :
    Accounted s := by
  refine ⟨?_, ?_, ?_, h.close hsec⟩
  · generalize s.pc.secCtx = v at h
    cases h with
    | closed hk => simp [deviceKeys, hk]
    | device _ priv hk => simp [deviceKeys, hk, KeyMaterial.isDevice]
    | session _ priv key hk => simp [deviceKeys, hk, KeyMaterial.isDevice]
  · generalize s.pc.secCtx = v at h
    cases h with
    | closed hk => simp [sessionKeys, hk]
    | device _ priv hk => simp [sessionKeys, hk, KeyMaterial.isDevice]
    | session _ priv key hk => simp [sessionKeys, hk, KeyMaterial.isDevice]
  · intro hn
    rw [hn] at h
    cases h; assumption

/-! ## Command0 -/

/-- What a key derivation does to the keys: nothing, or an import, which fails or
adds a key, and in both cases overwrites the id in the context. -/
theorem deriveSessionKey_keys {P : Psa} {e : Env} {w w' : KeyStore} {ctx ctx' : Sec1Ctx} {ret : Int}
    (h : deriveSessionKey P e w ctx = (ret, ctx', w')) :
    ctx'.deviceKey = ctx.deviceKey ∧
    ((¬ (∃ shared key, psaRawKeyAgreement P e w ctx.deviceKey ctx.clientPubkey.val = some shared ∧
        shared.length = SESSION_KEY_LEN ∧ mixPop P e ctx.pop shared = some key) ∧
      ctx'.sessionKey = ctx.sessionKey ∧ w' = w) ∨
    (∃ shared key, (psaRawKeyAgreement P e w ctx.deviceKey ctx.clientPubkey.val = some shared ∧
        shared.length = SESSION_KEY_LEN ∧ mixPop P e ctx.pop shared = some key) ∧
      ((ctx'.sessionKey = PSA_KEY_ID_NULL ∧ w' = w) ∨
        (ctx'.sessionKey, w') = w.add (.aes key)))) := by
  unfold deriveSessionKey at h
  split at h
  · rename_i hsh
    cases h
    refine ⟨rfl, .inl ⟨?_, rfl, rfl⟩⟩
    intro hx
    obtain ⟨_, _, h1, -⟩ := hx
    rw [hsh] at h1; cases h1
  rename_i shared hsh
  split at h
  · rename_i hlen
    cases h
    refine ⟨rfl, .inl ⟨?_, rfl, rfl⟩⟩
    intro hx
    obtain ⟨_, _, h1, h2, -⟩ := hx
    rw [hsh] at h1; cases h1
    exact hlen h2
  rename_i hlen
  split at h
  · rename_i hmix
    cases h
    refine ⟨rfl, .inl ⟨?_, rfl, rfl⟩⟩
    intro hx
    obtain ⟨_, _, h1, -, h3⟩ := hx
    rw [hsh] at h1; cases h1
    rw [hmix] at h3; cases h3
  rename_i key hmix
  have hre : psaRawKeyAgreement P e w ctx.deviceKey ctx.clientPubkey.val = some shared ∧
      shared.length = SESSION_KEY_LEN ∧ mixPop P e ctx.pop shared = some key :=
    ⟨hsh, by simpa using hlen, hmix⟩
  split at h
  · cases h
    exact ⟨rfl, .inr ⟨shared, key, hre, .inl ⟨rfl, rfl⟩⟩⟩
  rename_i id w₁ himp
  have hadd : (id, w₁) = w.add (.aes key) := by
    unfold psaImportKey at himp
    split at himp
    · exact (Option.some.inj himp).symm
    · cases himp
  split at h
  · cases h
    exact ⟨rfl, .inr ⟨shared, key, hre, .inr hadd⟩⟩
  split at h
  · cases h
    exact ⟨rfl, .inr ⟨shared, key, hre, .inr hadd⟩⟩
  · cases h
    exact ⟨rfl, .inr ⟨shared, key, hre, .inr hadd⟩⟩

/-- So does a Command0. -/
theorem handleCmd0_keys {P : Psa} {pb : Nanopb} {e : Env} {w w' : KeyStore} {ctx ctx' : Sec1Ctx}
    {p : Sec1Payload} {r : Except Int Bytes} (h : handleCmd0 P pb e w ctx p = (r, ctx', w')) :
    ctx'.deviceKey = ctx.deviceKey ∧
    ((¬ Imports P pb e w ctx p ∧ ctx'.sessionKey = ctx.sessionKey ∧ w' = w) ∨
    (Imports P pb e w ctx p ∧ ((ctx'.sessionKey = PSA_KEY_ID_NULL ∧ w' = w) ∨
      ∃ key, (ctx'.sessionKey, w') = w.add (.aes key)))) := by
  unfold handleCmd0 psaGenerateRandom at h
  split at h
  · rename_i hlen
    dsimp only at h
    split at h
    · rename_i hrnd
      cases h
      refine ⟨rfl, .inl ⟨?_, rfl, rfl⟩⟩
      intro hx
      obtain ⟨_, _, _, _, -, h2, -⟩ := hx
      rw [hrnd] at h2; cases h2
    · rename_i rnd hrnd
      generalize hd : deriveSessionKey P e w { ctx with
        clientPubkey := ⟨pb.sc0 p.payload, hlen⟩, deviceRandom := rnd } = d at h
      obtain ⟨ret, ctx₁, w₁⟩ := d
      obtain ⟨hdev, hk⟩ := deriveSessionKey_keys hd
      -- the result's context differs from `ctx₁` in its state at most
      have hres : ctx'.deviceKey = ctx₁.deviceKey ∧ ctx'.sessionKey = ctx₁.sessionKey ∧ w' = w₁ := by
        dsimp only at h
        split at h <;> (cases h; exact ⟨rfl, rfl, rfl⟩)
      obtain ⟨h1, h2, rfl⟩ := hres
      refine ⟨h1.trans hdev, ?_⟩
      rcases hk with ⟨hn, hs, hw⟩ | ⟨shared, key, hre, hw⟩
      · refine .inl ⟨?_, h2.trans hs, hw⟩
        intro hx
        obtain ⟨pk, rnd', shared, key, hpk, -, hre⟩ := hx
        obtain rfl : pk = ⟨pb.sc0 p.payload, hlen⟩ := Subtype.ext hpk.symm
        exact hn ⟨shared, key, hre⟩
      · refine .inr ⟨⟨⟨_, hlen⟩, rnd, shared, key, rfl, hrnd, hre⟩, ?_⟩
        rw [h2]
        exact hw.imp id fun hadd => ⟨key, hadd⟩
  · rename_i hlen
    cases h
    refine ⟨rfl, .inl ⟨?_, rfl, rfl⟩⟩
    intro hx
    obtain ⟨pk, _, _, _, h1, -⟩ := hx
    exact hlen (by rw [h1]; exact pk.property)

theorem Owned.congr {w : KeyStore} {ctx ctx' : Sec1Ctx} (h : Owned w (some ctx))
    (hd : ctx'.deviceKey = ctx.deviceKey) (hs : ctx'.sessionKey = ctx.sessionKey) :
    Owned w (some ctx') := by
  cases h with
  | device _ priv hk h1 h2 h3 =>
    exact .device ctx' priv (by rwa [hd]) (by rwa [hd]) (by rwa [hd]) (hs.trans h3)
  | session _ priv key hk h1 h2 h3 =>
    exact .session ctx' priv key (by rwa [hd, hs]) (by rwa [hd]) (by rwa [hd, hs]) (by rwa [hs])

/-- A Command0 on a context without a session key, or one that imports nothing. -/
theorem Owned.cmd0 {P : Psa} {pb : Nanopb} {e : Env} {w w' : KeyStore} {ctx ctx' : Sec1Ctx}
    {p : Sec1Payload} {r : Except Int Bytes} (ho : Owned w (some ctx))
    (h : handleCmd0 P pb e w ctx p = (r, ctx', w'))
    (hn : Imports P pb e w ctx p → ctx.sessionKey = PSA_KEY_ID_NULL) : Owned w' (some ctx') := by
  obtain ⟨hd, ⟨-, hs, rfl⟩ | ⟨himp, ⟨hs, rfl⟩ | ⟨key, hadd⟩⟩⟩ := handleCmd0_keys h
  · exact ho.congr hd hs
  · exact ho.congr hd (hs.trans (hn himp).symm)
  · cases ho with
    | device _ priv hk h1 h2 h3 =>
      have hid : ctx'.sessionKey = w.last + 1 := congrArg Prod.fst hadd
      have hw : w' = ⟨w.last + 1, (w.last + 1, .aes key) :: w.keys⟩ := congrArg Prod.snd hadd
      subst hw
      exact .session ctx' priv key (by rw [hid, hd, hk]) (by rwa [hd])
        (by rw [hd, hid]; exact Nat.lt_succ_of_le h2) (Nat.le_of_eq hid)
    | session _ priv key' hk h1 h2 h3 =>
      exact absurd (hn himp) (Nat.ne_of_gt (Nat.lt_trans h1 h2))

/-- On top of a session key, an import leaves a key that the context has lost. -/
theorem Owned.rekeyed {P : Psa} {pb : Nanopb} {e : Env} {w w' : KeyStore} {ctx ctx' : Sec1Ctx}
    {p : Sec1Payload} {r : Except Int Bytes} (ho : Owned w (some ctx))
    (h : handleCmd0 P pb e w ctx p = (r, ctx', w')) (himp : Imports P pb e w ctx p)
    (hs : ctx.sessionKey ≠ PSA_KEY_ID_NULL) : (sec1Cleanup w' ctx').keys ≠ [] := by
  cases ho with
  | device _ priv hk h1 h2 h3 => exact absurd h3 hs
  | session _ priv key hk h1 h2 h3 =>
    obtain ⟨hd, ⟨hn, -⟩ | ⟨-, hw⟩⟩ := handleCmd0_keys h
    · exact absurd himp hn
    -- whatever the cleanup destroys, it is not the old session key
    have hmem : (ctx.sessionKey, KeyMaterial.aes key) ∈ w'.keys ∧ ctx'.sessionKey ≠ ctx.sessionKey ∧
        ctx'.deviceKey ≠ ctx.sessionKey := by
      rcases hw with ⟨hnull, rfl⟩ | ⟨key', hadd⟩
      · exact ⟨by simp [hk], by rw [hnull]; exact Ne.symm hs, by rw [hd]; exact Nat.ne_of_lt h2⟩
      · have hid : ctx'.sessionKey = w.last + 1 := congrArg Prod.fst hadd
        have hw : w' = ⟨w.last + 1, (w.last + 1, .aes key') :: w.keys⟩ := congrArg Prod.snd hadd
        exact ⟨by simp [hw, hk], by rw [hid]; exact Nat.ne_of_gt (Nat.lt_succ_of_le h3),
          by rw [hd]; exact Nat.ne_of_lt h2⟩
    obtain ⟨hm, hne1, hne2⟩ := hmem
    intro hnil
    have hin : (ctx.sessionKey, KeyMaterial.aes key) ∈ (sec1Cleanup w' ctx').keys := by
      unfold sec1Cleanup psaDestroyKey
      split <;> split <;> simp [hm, hne1.symm, hne2.symm]
    rw [hnil] at hin
    cases hin

/-! ## Runs -/

/-- The step is a Command0 that reaches `psa_import_key` in a session that already
has a session key. -/
def Rekeys (P : Psa) (pb : Nanopb) (x : Sec1PcEntry σ) : Prop :=
  ∃ e name inbuf ctx p, x.lbl = .req e (some name) inbuf ∧ SecurityEp x.pre.pc name ∧
    x.pre.pc.secCtx = some ctx ∧ decodeSec1 pb inbuf = some p ∧ p.msg = sessionCommand0 ∧
    ctx.sessionKey ≠ PSA_KEY_ID_NULL ∧ Imports P pb e.handshake x.pre.ext ctx p

/-- Of the requests, only a Command0 does anything to the keys. -/
theorem reqHandle_keys {P : Psa} {pb : Nanopb} {e : ReqEnv} {s s' : PcSession σ}
    {epName : Option CStr} {inbuf : Bytes} {r : Reply}
    (hsec : s.pc.sec = some (networkProvSecurity1 P pb)) (ho : Owned s.ext s.pc.secCtx)
    (h : protocommReqHandle e s epName inbuf = (s', r)) :
    Owned s'.ext s'.pc.secCtx ∨
    ∃ name ctx p out ctx', epName = some name ∧ SecurityEp s.pc name ∧ s.pc.secCtx = some ctx ∧
      decodeSec1 pb inbuf = some p ∧ p.msg = sessionCommand0 ∧
      handleCmd0 P pb e.handshake s.ext ctx p = (out, ctx', s'.ext) ∧ s'.pc.secCtx = some ctx' := by
  rcases reqHandle_cases h with ⟨rfl, -⟩ | ⟨n, sec, hs, out, c, w, rfl, hep, h1, h2, h3, rfl, -⟩ |
      ⟨n, hd, sec, ctx, rfl, -, h1, h2, h3⟩
  · exact .inl ho
  · rw [hsec] at h1; cases h1
    cases h2
    cases hc : s.pc.secCtx with
    | none =>
      rw [hc] at h3 ho
      cases h3
      exact .inl ho
    | some ctx =>
      rw [hc] at h3 ho
      rcases sec1Handshake_cases h3 with ⟨p, ctx', hd, hm, hc0, rfl⟩ | ⟨p, ctx', -, -, hc1, rfl, rfl⟩ |
          ⟨-, rfl, rfl, -⟩
      · exact .inr ⟨n, ctx, p, out, ctx', rfl, hep, rfl, hd, hm, hc0, rfl⟩
      · -- a Command1 moves the state and the cipher only
        rcases handleCmd1_cases hc1 with ⟨-, hf, -⟩ | ⟨-, st, -, rfl, -⟩
        · exact .inl (ho.congr (by rw [hf]) (by rw [hf]))
        · exact .inl (ho.congr rfl rfl)
      · exact .inl ho
  · rw [hsec] at h1; cases h1
    obtain ⟨hext, ctx', hc', hsame⟩ := sec1_handleData_ctx h2 h3
    rw [h2] at ho
    rw [hext, hc']
    exact .inl (ho.congr (by rw [hsame]) (by rw [hsame]))

/-- A step that is no second Command0 keeps the books. -/
theorem owned_step {P : Psa} {pb : Nanopb} {x : Sec1PcEntry σ} (hx : machine.Ok x)
    (hsec : x.pre.pc.sec = some (networkProvSecurity1 P pb)) (ho : Owned x.pre.ext x.pre.pc.secCtx)
    (hn : ¬ Rekeys P pb x) : Owned x.post.ext x.post.pc.secCtx := by
  obtain ⟨s, l, r, s'⟩ := x
  change s.step l = some (s', r) at hx
  cases l with
  | openSession e =>
    cases hx
    exact ho.open hsec
  | closeSession =>
    cases hx
    rw [closeSession_none hsec]
    exact .closed (ho.close hsec)
  | req e epName inbuf =>
    have hh : protocommReqHandle e s epName inbuf = (s', r) := Option.some.inj hx
    rcases reqHandle_keys hsec ho hh with h | ⟨n, ctx, p, out, ctx', rfl, hep, hc, hd, hm, h0, hc'⟩
    · exact h
    · rw [hc] at ho
      rw [hc']
      refine ho.cmd0 h0 fun himp => ?_
      by_contra hs
      exact hn ⟨e, n, inbuf, ctx, p, rfl, hep, hc, hd, hm, hs, himp⟩

/-- One that is leaves a key that no close destroys. -/
theorem rekeys_unaccounted {P : Psa} {pb : Nanopb} {x : Sec1PcEntry σ} (hx : machine.Ok x)
    (hsec : x.pre.pc.sec = some (networkProvSecurity1 P pb)) (ho : Owned x.pre.ext x.pre.pc.secCtx)
    (h : Rekeys P pb x) : ¬ Accounted x.post := by
  intro hacc
  have hsec' : x.post.pc.sec = some (networkProvSecurity1 P pb) := by
    have hcfg : SameConfig x.pre x.post := Session.step_config hx
    rw [hcfg]; exact hsec
  obtain ⟨s, l, r, s'⟩ := x
  obtain ⟨e, name, inbuf, ctx, p, rfl, hep, hc, hd, hm, hs, himp⟩ := h
  change s.pc.findEp name = _ at hep
  change s.pc.secCtx = some ctx at hc
  change Owned s.ext s.pc.secCtx at ho
  change s.pc.sec = _ at hsec
  generalize h0 : handleCmd0 P pb e.handshake s.ext ctx p = q at *
  obtain ⟨out, ctx', w'⟩ := q
  have hh : protocommReqHandle e s (some name) inbuf = (s', r) := Option.some.inj hx
  have hpost : ({ s.setCtx (some ctx') with ext := w' }, Reply.ofExcept out) = (s', r) := by
    rw [← hh]
    simp [protocommReqHandle, hep, hsec, networkProvSecurity1, sec1Handshake, hc, hd, hm, h0]
  cases hpost
  rw [hc] at ho
  have hdel := hacc.deleted
  simp only [protocommDelete, closeSession_keys hsec'] at hdel
  exact ho.rekeyed h0 himp hs hdel

/-- **When the keys are accounted for.** In any run of opens, closes and requests, with
any of the PSA calls failing: there is never more than one device key and one session
key, and none without a session or after `protocomm_delete`, iff no Command0 gets as
far as the import of a session key in a session that already has one. -/
theorem keys_accounted_iff (P : Psa) (pb : Nanopb) (s₀ s : PcSession σ) (t : List (Sec1PcEntry σ))
    (hsec : s₀.pc.sec = some (networkProvSecurity1 P pb)) (hc : s₀.pc.secCtx = none)
    (hk : s₀.ext.keys = []) (hr : machine.Run s₀ t s) :
    (∀ x ∈ t, Accounted x.post) ↔ ∀ x ∈ t, ¬ Rekeys P pb x := by
  refine hr.forall_iff (P := fun s => s.pc.sec = some (networkProvSecurity1 P pb) ∧
    Owned s.ext s.pc.secCtx) ⟨hsec, by rw [hc]; exact .closed hk⟩ ?_ ?_
  · intro x hx ⟨hs, hown⟩ hn
    have hs' : x.post.pc.sec = some (networkProvSecurity1 P pb) := by
      have hcfg : SameConfig x.pre x.post := Session.step_config hx
      rw [hcfg]; exact hs
    have hown' := owned_step hx hs hown hn
    exact ⟨⟨hs', hown'⟩, hown'.accounted hs'⟩
  · exact fun x hx hp hacc hrk => rekeys_unaccounted hx hp.1 hp.2 hrk hacc

theorem keys_accounted_iff_test : ∃ t s, machine.Run (testDevice vectors wirePb (some pop)) t s ∧
    t.map (·.lbl) = testOps ∧
    ((∀ x ∈ t, Accounted x.post) ↔ ∀ x ∈ t, ¬ Rekeys vectors wirePb x) := by
  have hr := machine.run_get (testDevice vectors wirePb (some pop)) testOps (by rfl)
  exact ⟨_, _, hr, by rfl, keys_accounted_iff vectors wirePb _ _ _ rfl rfl rfl hr⟩

/-- **A second Command0 leaks a key.** The session key of the first one is alive next to
that of the second, and still is once the session is closed. -/
theorem second_command0_leaks : ∃ t s, machine.Run (testDevice vectors wirePb (some pop)) t s ∧
    t.map (·.lbl) = [.openSession (.good devicePriv deviceRandom),
      .req goodReq (some sessionEp) (cmd0Head ++ clientPub),
      .req goodReq (some sessionEp) (cmd0Head ++ clientPub), .closeSession] ∧
    t.map (sessionKeys ·.post.ext) = [0, 1, 2, 1] ∧ s.pc.secCtx = none ∧
    ¬ ∀ x ∈ t, Accounted x.post := by
  have hr := machine.run_get (testDevice vectors wirePb (some pop))
    [.openSession (.good devicePriv deviceRandom),
      .req goodReq (some sessionEp) (cmd0Head ++ clientPub),
      .req goodReq (some sessionEp) (cmd0Head ++ clientPub), .closeSession] (by rfl)
  refine ⟨_, _, hr, by rfl, by decide +kernel, by rfl, fun hacc => ?_⟩
  obtain ⟨-, hle, -, -⟩ := hacc _ (List.mem_of_getElem? (i := 2) rfl)
  exact absurd hle (by decide +kernel)

end NetworkProv.Security1
