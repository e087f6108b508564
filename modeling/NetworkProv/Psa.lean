import NetworkProv.Basic
import NetworkProv.Core.Keystream

/-!
# PSA Crypto, as far as security scheme 1 uses it

The primitives (X25519, SHA-256, the AES-256-CTR keystream) are parameters,
`Psa`. Around them stands what the API documents: a key store that hands out
fresh non-null ids, and a multipart cipher operation, which transforms data
only once it has both a key and an IV and is unusable after an error.

Every call may fail; which ones do, and what the random generator returns, is
the environment's choice, an `Env` for one operation of the code.
-/
namespace NetworkProv
open NetworkProv.Core

structure Psa where
  /-- The public key of an X25519 private key. -/
  x25519Pub : Bytes → Bytes
  /-- The shared secret of a private key and a peer's public key. -/
  x25519 : Bytes → Bytes → Option Bytes
  sha256 : Bytes → Bytes
  sha256_length : ∀ b, (sha256 b).length = 32
  /-- The keystream of a key and an IV. -/
  ctr : Bytes → Bytes → Nat → UInt8

/-- What the calls made during one operation answer. -/
structure Env where
  calloc : Bool
  cryptoInit : Bool
  /-- The private key `psa_generate_key` draws. -/
  generateKey : Option Bytes
  exportPublicKey : Bool
  generateRandom : Option (Buf 16)
  rawKeyAgreement : Bool
  hashCompute : Bool
  importKey : Bool
  encryptSetup : Bool
  setIv : Bool
  /-- The first and the second `psa_cipher_update` of the operation. -/
  update₁ : Bool
  update₂ : Bool
  /-- The buffer for an encoded response. -/
  respAlloc : Bool

/-- Every call succeeds; `priv` and `rnd` are drawn. -/
def Env.good (priv : Bytes) (rnd : Buf 16) : Env :=
  ⟨true, true, some priv, true, some rnd, true, true, true, true, true, true, true, true⟩

/-! ## Keys -/

abbrev KeyId := Nat

def PSA_KEY_ID_NULL : KeyId := 0

inductive KeyMaterial where
  | x25519 (priv : Bytes)
  | aes (key : Bytes)
  deriving DecidableEq

/-- The volatile keys alive, and the last id handed out. -/
structure KeyStore where
  last : KeyId
  keys : List (KeyId × KeyMaterial)
  deriving DecidableEq

def KeyStore.empty : KeyStore := ⟨PSA_KEY_ID_NULL, []⟩

def KeyStore.add (w : KeyStore) (m : KeyMaterial) : KeyId × KeyStore :=
  (w.last + 1, ⟨w.last + 1, (w.last + 1, m) :: w.keys⟩)

def KeyStore.find (w : KeyStore) (id : KeyId) : Option KeyMaterial := w.keys.lookup id

def psaDestroyKey (w : KeyStore) (id : KeyId) : KeyStore :=
  { w with keys := w.keys.filter fun k => k.1 ≠ id }

def psaGenerateKey (e : Env) (w : KeyStore) : Option (KeyId × KeyStore) :=
  e.generateKey.map fun priv => w.add (.x25519 priv)

def psaExportPublicKey (P : Psa) (e : Env) (w : KeyStore) (id : KeyId) : Option Bytes :=
  match w.find id with
  | some (.x25519 priv) => if e.exportPublicKey then some (P.x25519Pub priv) else none
  | _ => none

def psaGenerateRandom (e : Env) : Option (Buf 16) := e.generateRandom

def psaRawKeyAgreement (P : Psa) (e : Env) (w : KeyStore) (id : KeyId) (peer : Bytes) :
    Option Bytes :=
  match w.find id with
  | some (.x25519 priv) => if e.rawKeyAgreement then P.x25519 priv peer else none
  | _ => none

def psaHashCompute (P : Psa) (e : Env) (b : Bytes) : Option Bytes :=
  if e.hashCompute then some (P.sha256 b) else none

def psaImportKey (e : Env) (w : KeyStore) (key : Bytes) : Option (KeyId × KeyStore) :=
  if e.importKey then some (w.add (.aes key)) else none

/-! ## Cipher operations -/

/-- `psa_cipher_operation_t` for `PSA_ALG_CTR`. -/
structure CipherOp where
  key : Option Bytes
  iv : Option Bytes
  pos : Nat
  deriving DecidableEq

/-- `psa_cipher_operation_init()`; also the state after an abort or an error. -/
def CipherOp.init : CipherOp := ⟨none, none, 0⟩

/-- The key and the IV that drive the operation, once it has both. -/
def CipherOp.driving (op : CipherOp) : Option (Bytes × Bytes) :=
  match op.key, op.iv with
  | some k, some iv => some (k, iv)
  | _, _ => none

/-- The operation's end of the keystream, once it has a key and an IV. -/
def CipherOp.stream (P : Psa) (op : CipherOp) : Option End :=
  op.driving.map fun d => ⟨P.ctr d.1 d.2, op.pos⟩

/-- Its keystream alone, wherever the operation is in it. -/
def CipherOp.keystream (P : Psa) (op : CipherOp) : Option (Nat → UInt8) :=
  op.driving.map fun d => P.ctr d.1 d.2

/-- The operation after `n` more bytes. -/
def CipherOp.advance (op : CipherOp) (n : Nat) : CipherOp := { op with pos := op.pos + n }

def psaCipherEncryptSetup (e : Env) (w : KeyStore) (op : CipherOp) (id : KeyId) :
    Option CipherOp :=
  match op.key, w.find id with
  | none, some (.aes key) => if e.encryptSetup then some ⟨some key, none, 0⟩ else none
  | _, _ => none

def psaCipherSetIv (e : Env) (op : CipherOp) (iv : Bytes) : Option CipherOp :=
  match op.key, op.iv with
  | some _, none => if e.setIv then some { op with iv := some iv } else none
  | _, _ => none

/-- `ok` is the environment's choice. An error leaves the operation unusable. -/
def psaCipherUpdate (P : Psa) (ok : Bool) (op : CipherOp) (inp : Bytes) :
    Option Bytes × CipherOp :=
  match op.stream P with
  | none => (none, .init)
  | some s =>
    if ok then (some (s.xform inp), op.advance inp.length) else (none, .init)

/-- `psa_cipher_update` succeeds only on an operation that has a key and an IV. -/
theorem psaCipherUpdate_some {P : Psa} {ok : Bool} {op op' : CipherOp} {inp out : Bytes}
    (h : psaCipherUpdate P ok op inp = (some out, op')) :
    ∃ s, op.stream P = some s ∧ out = s.xform inp ∧ op' = op.advance inp.length := by
  unfold psaCipherUpdate at h
  split at h
  · simp at h
  · rename_i s hs
    split at h
    · simp only [Prod.mk.injEq, Option.some.injEq] at h
      exact ⟨s, hs, h.1.symm, h.2.symm⟩
    · simp at h

theorem psaCipherUpdate_none {P : Psa} {ok : Bool} {op op' : CipherOp} {inp : Bytes}
    (h : psaCipherUpdate P ok op inp = (none, op')) : op' = .init := by
  unfold psaCipherUpdate at h
  split at h
  · simp only [Prod.mk.injEq, true_and] at h; exact h.symm
  · split at h
    · simp at h
    · simp only [Prod.mk.injEq, true_and] at h; exact h.symm

/-- On a live operation, with the call succeeding. -/
theorem psaCipherUpdate_ok {P : Psa} {op : CipherOp} {s : End} (h : op.stream P = some s)
    (inp : Bytes) : psaCipherUpdate P true op inp = (some (s.xform inp), op.advance inp.length) := by
  simp [psaCipherUpdate, h]

@[simp] theorem driving_advance (op : CipherOp) (n : Nat) : (op.advance n).driving = op.driving := rfl

@[simp] theorem advance_advance (op : CipherOp) (m n : Nat) :
    (op.advance m).advance n = op.advance (m + n) := by
  simp [CipherOp.advance, Nat.add_assoc]

/-- Advancing the operation moves its end of the stream along. -/
theorem stream_advance {P : Psa} {op : CipherOp} {s : End} (h : op.stream P = some s) (n : Nat) :
    (op.advance n).stream P = some (s.advance n) := by
  simp only [CipherOp.stream, driving_advance, Option.map_eq_some_iff] at h ⊢
  obtain ⟨d, hd, rfl⟩ := h
  exact ⟨d, hd, rfl⟩

end NetworkProv
