import NetworkProv.Core.Machine
import NetworkProv.Security.Sec1Spec
import NetworkProv.Security.Wire

/-!
# Runs of one `sec1` context

The context of one session as a machine: handshake messages and data, in any
order, with any PSA call failing. `sec1_step_cases` sorts the steps into
installations of a keystream, verifications, and the rest, which keeps the
state and either keeps the keystream or loses it. From that, by induction on
the run, a keystream usable in SEC1_DONE is one that was installed by a
Command0 and verified by a later Command1, with no installation in between
(`usable_keystream_verified`).
-/
namespace NetworkProv.Security1
open NetworkProv.Core Session

structure Sec1World where
  ctx : Sec1Ctx
  keys : KeyStore
  deriving DecidableEq

inductive Sec1Op where
  | handshake (e : Env) (inbuf : Bytes)
  | encrypt (ok : Bool) (inp : Bytes)

def sec1Step (P : Psa) (pb : Nanopb) (s : Sec1World) : Sec1Op → Option (Sec1World × Except Int Bytes)
  | .handshake e inbuf =>
    match sec1Handshake P pb e s.keys (some s.ctx) inbuf with
    | (r, v, w) => v.map fun ctx => (⟨ctx, w⟩, r)
  | .encrypt ok inp =>
    match sec1Encrypt P ok (some s.ctx) inp with
    | (r, v) => v.map fun ctx => (⟨ctx, s.keys⟩, r)

def sec1Machine (P : Psa) (pb : Nanopb) : Machine Sec1World Sec1Op (Except Int Bytes) := ⟨sec1Step P pb⟩

abbrev Sec1Entry := Entry Sec1World Sec1Op (Except Int Bytes)

/-- The step handles the message `p`, of type `msg`. -/
def Handles (pb : Nanopb) (x : Sec1Entry) (e : Env) (p : Sec1Payload) (msg : Nat) : Prop :=
  ∃ inbuf, x.lbl = .handshake e inbuf ∧ decodeSec1 pb inbuf = some p ∧ p.msg = msg

/-- The step is a Command0 that puts a new keystream in place. -/
def Installs (P : Psa) (pb : Nanopb) (x : Sec1Entry) : Prop :=
  ∃ e p, Handles pb x e p sessionCommand0 ∧ Cmd0Derives P pb e x.pre.keys x.pre.ctx p

/-- The step is a Command1 that decrypts, under the keystream in place, to the
device's public key, and completes the handshake. -/
def Verifies (P : Psa) (pb : Nanopb) (x : Sec1Entry) : Prop :=
  ∃ e p, Handles pb x e p sessionCommand1 ∧ Cmd1Verifies P pb e x.pre.ctx p ∧
    x.post.ctx.state = .done

/-- `Installs`, with the key and the IV. The Command0 returns 0 unless its
response could not be encoded or allocated. -/
structure InstalledBy (P : Psa) (pb : Nanopb) (x : Sec1Entry) (k iv : Bytes) : Prop where
  installs : Installs P pb x
  cipher : x.post.ctx.cipher = ⟨some k, some iv, 0⟩
  state : x.post.ctx.state = .cmd0Done
  answers : ∃ e inbuf, x.lbl = .handshake e inbuf ∧ x.out = buildResp0 pb e.respAlloc x.post.ctx

/-- The step leaves the keystream of `k` and `iv` in place. -/
structure Keeps (P : Psa) (pb : Nanopb) (k iv : Bytes) (x : Sec1Entry) : Prop where
  noInstall : ¬ Installs P pb x
  pre : x.pre.ctx.cipher.driving = some (k, iv)
  post : x.post.ctx.cipher.driving = some (k, iv)

/-- A message that was handled is handled as what it is. -/
theorem Handles.unique {pb : Nanopb} {x : Sec1Entry} {e e' : Env} {p p' : Sec1Payload} {m m' : Nat}
    (h : Handles pb x e p m) (h' : Handles pb x e' p' m') : e = e' ∧ p = p' ∧ m = m' := by
  obtain ⟨b, h1, h2, rfl⟩ := h
  obtain ⟨b', h1', h2', rfl⟩ := h'
  rw [h1, Sec1Op.handshake.injEq] at h1'
  obtain ⟨rfl, rfl⟩ := h1'
  rw [h2] at h2'; cases h2'
  exact ⟨rfl, rfl, rfl⟩

theorem sec1Step_handshake {P : Psa} {pb : Nanopb} {ctx ctx' : Sec1Ctx} {w w' : KeyStore} {e : Env}
    {inbuf : Bytes} {r : Except Int Bytes}
    (h : sec1Step P pb ⟨ctx, w⟩ (.handshake e inbuf) = some (⟨ctx', w'⟩, r)) :
    sec1Handshake P pb e w (some ctx) inbuf = (r, some ctx', w') := by
  simp only [sec1Step, Option.map_eq_some_iff, Prod.mk.injEq, Sec1World.mk.injEq] at h
  obtain ⟨c, hv, ⟨rfl, rfl⟩, rfl⟩ := h
  rw [← hv]

theorem sec1Step_encrypt {P : Psa} {pb : Nanopb} {ctx ctx' : Sec1Ctx} {w w' : KeyStore} {ok : Bool}
    {inp : Bytes} {r : Except Int Bytes}
    (h : sec1Step P pb ⟨ctx, w⟩ (.encrypt ok inp) = some (⟨ctx', w'⟩, r)) :
    sec1Encrypt P ok (some ctx) inp = (r, some ctx') := by
  simp only [sec1Step, Option.map_eq_some_iff, Prod.mk.injEq, Sec1World.mk.injEq] at h
  obtain ⟨c, hv, ⟨rfl, -⟩, rfl⟩ := h
  rw [← hv]

/-- What handles a Command0, and what a Command1. -/
theorem Handles.cmd0 {P : Psa} {pb : Nanopb} {x : Sec1Entry} {e : Env} {p : Sec1Payload}
    (h : Handles pb x e p sessionCommand0) (hx : (sec1Machine P pb).Ok x) :
    handleCmd0 P pb e x.pre.keys x.pre.ctx p = (x.out, x.post.ctx, x.post.keys) := by
  obtain ⟨⟨ctx, w⟩, l, o, ⟨ctx', w'⟩⟩ := x
  obtain ⟨inbuf, rfl, hd, hm⟩ := h
  have hh := sec1Step_handshake hx
  simp only [sec1Handshake, hd, hm, if_true] at hh
  cases hh; rfl

theorem Handles.cmd1 {P : Psa} {pb : Nanopb} {x : Sec1Entry} {e : Env} {p : Sec1Payload}
    (h : Handles pb x e p sessionCommand1) (hx : (sec1Machine P pb).Ok x) :
    handleCmd1 P pb e x.pre.ctx p = (x.out, x.post.ctx) := by
  obtain ⟨⟨ctx, w⟩, l, o, ⟨ctx', w'⟩⟩ := x
  obtain ⟨inbuf, rfl, hd, hm⟩ := h
  have hh := sec1Step_handshake hx
  simp only [sec1Handshake, hd, hm, if_true] at hh
  cases hh; rfl

theorem sec1_step_cases {P : Psa} {pb : Nanopb} {x : Sec1Entry} (hx : (sec1Machine P pb).Ok x) :
    (∃ k iv, InstalledBy P pb x k iv) ∨
    (Verifies P pb x ∧ ¬ Installs P pb x ∧
      x.post.ctx.cipher.driving = x.pre.ctx.cipher.driving) ∨
    (¬ Installs P pb x ∧ x.post.ctx.state = x.pre.ctx.state ∧
      (x.post.ctx.cipher.driving = x.pre.ctx.cipher.driving ∨
        x.post.ctx.cipher.driving = none)) := by
  obtain ⟨⟨ctx, w⟩, l, o, ⟨ctx', w'⟩⟩ := x
  change sec1Step P pb ⟨ctx, w⟩ l = some (⟨ctx', w'⟩, o) at hx
  cases l with
  | handshake e inbuf =>
    rcases sec1Handshake_cases (sec1Step_handshake hx) with ⟨p, c, hd, hm, hc, hv⟩ | ⟨p, c, hd, hm, hc, hv, -⟩ |
        ⟨-, hv, -, hn⟩ <;> cases hv
    · obtain ⟨-, ⟨hnd, -, hs, hci⟩ | ⟨hde, hs, ho, -, -, sh, key, -, -, hci⟩⟩ := handleCmd0_cases hc
      · refine .inr (.inr ⟨?_, hs, hci.imp (fun h => by simp [h]) id⟩)
        intro hx
        obtain ⟨e', p', hh', hd'⟩ := hx
        obtain ⟨rfl, rfl, -⟩ := hh'.unique ⟨inbuf, rfl, hd, hm⟩
        exact hnd hd'
      · exact .inl ⟨key, _, ⟨e, p, ⟨inbuf, rfl, hd, hm⟩, hde⟩, hci, hs, e, inbuf, rfl, ho⟩
    · have hni : ¬ Installs P pb ⟨⟨ctx, w⟩, .handshake e inbuf, o, ⟨ctx', w'⟩⟩ := by
        intro hx
        obtain ⟨e', p', hh', -⟩ := hx
        obtain ⟨-, -, h0⟩ := hh'.unique ⟨inbuf, rfl, hd, hm⟩
        simp [sessionCommand0, sessionCommand1] at h0
      rcases handleCmd1_cases hc with ⟨-, hf, hci⟩ | ⟨hver, s, hs, rfl, -⟩
      · refine .inr (.inr ⟨hni, by rw [hf], hci.imp id fun h => ?_⟩)
        rw [h]; rfl
      · exact .inr (.inl ⟨⟨e, p, ⟨inbuf, rfl, hd, hm⟩, hver, rfl⟩, hni, rfl⟩)
    · refine .inr (.inr ⟨?_, rfl, .inl rfl⟩)
      intro hx
      obtain ⟨e', p', ⟨b, hb, hd', hm'⟩, -⟩ := hx
      cases hb
      exact (hn p' hd').1 hm'
  | encrypt ok inp =>
    have hni : ¬ Installs P pb ⟨⟨ctx, w⟩, .encrypt ok inp, o, ⟨ctx', w'⟩⟩ := by
      rintro ⟨e', p', ⟨b, hb, -⟩, -⟩; cases hb
    rcases sec1Encrypt_cases (sec1Step_encrypt hx) with ⟨-, -, hv⟩ | ⟨-, -, hv⟩ | ⟨-, s, -, -, hv⟩ <;> cases hv
    · exact .inr (.inr ⟨hni, rfl, .inl rfl⟩)
    · exact .inr (.inr ⟨hni, rfl, .inr rfl⟩)
    · exact .inr (.inr ⟨hni, rfl, .inl rfl⟩)

/-! ## The keystream in use -/

/-- `c0` installed the keystream of `k` and `iv`, and it has stayed in place. -/
def Installed (P : Psa) (pb : Nanopb) (t : List Sec1Entry) (k iv : Bytes) : Prop :=
  ∃ t₁ c0 t₂, t = t₁ ++ c0 :: t₂ ∧ InstalledBy P pb c0 k iv ∧ ∀ x ∈ t₂, Keeps P pb k iv x

/-- Moreover `c1` has verified it. -/
def Verified (P : Psa) (pb : Nanopb) (t : List Sec1Entry) (k iv : Bytes) : Prop :=
  ∃ t₁ c0 t₂ c1 t₃, t = t₁ ++ c0 :: (t₂ ++ c1 :: t₃) ∧ InstalledBy P pb c0 k iv ∧
    Verifies P pb c1 ∧ ∀ x ∈ t₂ ++ c1 :: t₃, Keeps P pb k iv x

theorem Installed.snoc {P : Psa} {pb : Nanopb} {t : List Sec1Entry} {k iv : Bytes} {x : Sec1Entry}
    (h : Installed P pb t k iv) (hx : Keeps P pb k iv x) : Installed P pb (t ++ [x]) k iv :=
  Since.snoc h hx

theorem Verified.snoc {P : Psa} {pb : Nanopb} {t : List Sec1Entry} {k iv : Bytes} {x : Sec1Entry}
    (h : Verified P pb t k iv) (hx : Keeps P pb k iv x) : Verified P pb (t ++ [x]) k iv :=
  SinceThen.snoc h hx

/-- Verifying the keystream in place. -/
theorem Installed.verified {P : Psa} {pb : Nanopb} {t : List Sec1Entry} {k iv : Bytes} {x : Sec1Entry}
    (h : Installed P pb t k iv) (hx : Keeps P pb k iv x) (hv : Verifies P pb x) :
    Verified P pb (t ++ [x]) k iv :=
  Since.andThen h hx hv

/-- The invariant of a session: a keystream that could transform data was
installed, and in SEC1_DONE it was verified. -/
def StreamInv (P : Psa) (pb : Nanopb) (t : List Sec1Entry) (s : Sec1World) : Prop :=
  ∀ k iv, s.ctx.cipher.driving = some (k, iv) →
    Installed P pb t k iv ∧ (s.ctx.state = .done → Verified P pb t k iv)

theorem streamInv_step {P : Psa} {pb : Nanopb} {t : List Sec1Entry} {x : Sec1Entry}
    (hx : (sec1Machine P pb).Ok x) (ih : StreamInv P pb t x.pre) :
    StreamInv P pb (t ++ [x]) x.post := by
  intro k iv hd
  rcases sec1_step_cases hx with ⟨k', iv', hi⟩ | ⟨hv, hn, hsame⟩ | ⟨hn, hst, hsame | hnone⟩
  · rw [hi.cipher] at hd
    cases hd
    refine ⟨⟨t, x, [], rfl, hi, fun _ hy => by cases hy⟩, fun hdone => ?_⟩
    rw [hi.state] at hdone; cases hdone
  · have hk : Keeps P pb k iv x := ⟨hn, hsame ▸ hd, hd⟩
    obtain ⟨h1, -⟩ := ih k iv hk.pre
    exact ⟨h1.snoc hk, fun _ => h1.verified hk hv⟩
  · have hk : Keeps P pb k iv x := ⟨hn, hsame ▸ hd, hd⟩
    obtain ⟨h1, h2⟩ := ih k iv hk.pre
    exact ⟨h1.snoc hk, fun hdone => (h2 (hst ▸ hdone)).snoc hk⟩
  · rw [hnone] at hd; cases hd

/-- **A usable keystream was verified.** In every run of one context, with any
PSA calls failing: whenever `sec1_encrypt` succeeds, the key and the IV that
drive the cipher were installed by a Command0 (`c0`), a later Command1 (`c1`)
decrypted under them to the device's public key, and no Command0 has replaced
the keystream since. -/
theorem usable_keystream_verified (P : Psa) (pb : Nanopb) (e₀ : Env) (w₀ w₁ : KeyStore)
    (pop : Option CStr) (ctx₀ : Sec1Ctx) (h0 : sec1Init P e₀ w₀ pop = (.ok ctx₀, w₁))
    (t : List Sec1Entry) (s : Sec1World) (hr : (sec1Machine P pb).Run ⟨ctx₀, w₁⟩ t s)
    (ok : Bool) (inp out : Bytes) (v : Option Sec1Ctx)
    (he : sec1Encrypt P ok (some s.ctx) inp = (.ok out, v)) :
    ∃ k iv, s.ctx.cipher.driving = some (k, iv) ∧ Verified P pb t k iv := by
  have hinv : StreamInv P pb t s := by
    refine hr.history (P := StreamInv P pb) (fun k iv hd => ?_)
      fun t x _ hx ih => streamInv_step hx ih
    rw [(sec1Init_ok h0).2.1] at hd; cases hd
  rcases sec1Encrypt_cases he with ⟨-, h, -⟩ | ⟨-, h, -⟩ | ⟨hdone, st, hs, -, -⟩
  · cases h
  · cases h
  · simp only [CipherOp.stream, Option.map_eq_some_iff] at hs
    obtain ⟨⟨k, iv⟩, hd, -⟩ := hs
    exact ⟨k, iv, hd, (hinv k iv hd).2 hdone⟩

/-- The context that `sec1_init` makes from the reference key and PoP. -/
def testCtx : Sec1Ctx where
  state := .init
  pop := popText
  deviceKey := 1
  devicePubkey := ⟨devicePub, by decide⟩
  clientPubkey := Buf.zero _
  deviceRandom := Buf.zero _
  sessionKey := PSA_KEY_ID_NULL
  cipher := .init

/-- After a Command0 and the Command1 that answers it, one byte can be encrypted. -/
theorem usable_keystream_verified_test : ∃ t s,
    (sec1Machine vectors wirePb).Run ⟨testCtx, ⟨1, [(1, .x25519 devicePriv)]⟩⟩ t s ∧
    t.map (·.lbl) = [.handshake (.good devicePriv deviceRandom) (cmd0Head ++ clientPub),
      .handshake (.good devicePriv deviceRandom) (cmd1Head ++ xorFrom testKs 0 devicePub)] ∧
    ∃ k iv, s.ctx.cipher.driving = some (k, iv) ∧ Verified vectors wirePb t k iv := by
  have hr := (sec1Machine vectors wirePb).run_get ⟨testCtx, ⟨1, [(1, .x25519 devicePriv)]⟩⟩
    [.handshake (.good devicePriv deviceRandom) (cmd0Head ++ clientPub),
      .handshake (.good devicePriv deviceRandom) (cmd1Head ++ xorFrom testKs 0 devicePub)]
    (by decide +kernel)
  exact ⟨_, _, hr, by rfl, usable_keystream_verified vectors wirePb (.good devicePriv deviceRandom)
    .empty _ (some pop) testCtx rfl _ _ hr true [0x2a] _ _ rfl⟩

end NetworkProv.Security1
