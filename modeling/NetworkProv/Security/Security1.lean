import NetworkProv.Psa
import NetworkProv.Security.Session

/-!
# Security scheme 1 (`src/security1.c`)

X25519 key agreement, an optional proof of possession mixed into the session
key, AES-256-CTR for all that follows. One cipher operation serves both
directions of the session.

A function that can fail half-way returns the context it leaves behind along
with the error, so that what an early exit has already overwritten is visible.
-/
namespace NetworkProv.Security1
open Session

abbrev PUBKEY_LEN := 32
abbrev RANDOM_LEN := 16
abbrev SESSION_KEY_LEN := 32
abbrev POP_MAX := 64

inductive Sec1State where
  | init
  | cmd0Done
  | done
  deriving DecidableEq

/-- mirrors src/security1.c:45-59. `pop` is the first `pop_len` bytes of the
C array. -/
structure Sec1Ctx where
  state : Sec1State
  pop : Bytes
  deviceKey : KeyId
  devicePubkey : Buf PUBKEY_LEN
  clientPubkey : Buf PUBKEY_LEN
  deviceRandom : Buf RANDOM_LEN
  sessionKey : KeyId
  cipher : CipherOp
  deriving DecidableEq

/-- What `sec1_init` keeps of the proof of possession. -/
def copyPop : Option CStr → Bytes
  | none => []
  | some pop => pop.chars.take (POP_MAX - 1)

/-- mirrors src/security1.c:61-114 -/
def sec1Init (P : Psa) (e : Env) (w : KeyStore) (pop : Option CStr) :
    Except Int Sec1Ctx × KeyStore :=
  if !e.cryptoInit then (.error (- EIO), w)
  else if !e.calloc then (.error (-ENOMEM), w)
  else match psaGenerateKey e w with
    | none => (.error (- EIO), w)
    | some (id, w) =>
      match psaExportPublicKey P e w id with
      | none => (.error (- EIO), psaDestroyKey w id)
      | some pub =>
        if h : pub.length = PUBKEY_LEN then
          (.ok { state := .init, pop := copyPop pop, deviceKey := id, devicePubkey := ⟨pub, h⟩,
                 clientPubkey := Buf.zero _, deviceRandom := Buf.zero _,
                 sessionKey := PSA_KEY_ID_NULL, cipher := .init }, w)
        else (.error (- EIO), psaDestroyKey w id)

/-- mirrors src/security1.c:116-133 -/
def sec1Cleanup (w : KeyStore) (ctx : Sec1Ctx) : KeyStore :=
  let w := if ctx.sessionKey ≠ PSA_KEY_ID_NULL then psaDestroyKey w ctx.sessionKey else w
  if ctx.deviceKey ≠ PSA_KEY_ID_NULL then psaDestroyKey w ctx.deviceKey else w

/-- The PoP step of `derive_session_key`; `none` is the `- EIO` exit.
mirrors src/security1.c:157-171 -/
def mixPop (P : Psa) (e : Env) (pop shared : Bytes) : Option Bytes :=
  if pop.length > 0 then
    match psaHashCompute P e pop with
    | none => none
    | some hash =>
      if hash.length ≠ SESSION_KEY_LEN then none else some (List.zipWith (· ^^^ ·) shared hash)
  else some shared

/-- mirrors src/security1.c:143-200 -/
def deriveSessionKey (P : Psa) (e : Env) (w : KeyStore) (ctx : Sec1Ctx) :
    Int × Sec1Ctx × KeyStore :=
  match psaRawKeyAgreement P e w ctx.deviceKey ctx.clientPubkey.val with
  | none => (- EIO, ctx, w)
  | some shared =>
    if shared.length ≠ SESSION_KEY_LEN then (- EIO, ctx, w)
    else match mixPop P e ctx.pop shared with
      | none => (- EIO, ctx, w)
      | some key =>
        match psaImportKey e w key with
        | none => (- EIO, { ctx with sessionKey := PSA_KEY_ID_NULL }, w)
        | some (id, w) =>
          match psaCipherEncryptSetup e w .init id with
          | none => (- EIO, { ctx with sessionKey := id, cipher := .init }, w)
          | some op =>
            match psaCipherSetIv e op ctx.deviceRandom.val with
            | none => (- EIO, { ctx with sessionKey := id, cipher := op }, w)
            | some op => (0, { ctx with sessionKey := id, cipher := op }, w)

/-- mirrors src/security1.c:210-223 -/
def ctrXform (P : Psa) (ok : Bool) (ctx : Sec1Ctx) (inp : Bytes) : Except Int Bytes × Sec1Ctx :=
  match psaCipherUpdate P ok ctx.cipher inp with
  | (none, op) => (.error (- EIO), { ctx with cipher := op })
  | (some out, op) => (.ok out, { ctx with cipher := op })

/-- mirrors src/security1.c:225-243 -/
def buildResp0 (pb : Nanopb) (alloc : Bool) (ctx : Sec1Ctx) : Except Int Bytes :=
  networkProvPbEncode pb alloc (resp0 ctx.devicePubkey.val ctx.deviceRandom.val)

/-- mirrors src/security1.c:245-260 -/
def buildResp1 (pb : Nanopb) (alloc : Bool) (deviceVerify : Bytes) : Except Int Bytes :=
  networkProvPbEncode pb alloc (resp1 deviceVerify)

/-- mirrors src/security1.c:262-285 -/
def handleCmd0 (P : Psa) (pb : Nanopb) (e : Env) (w : KeyStore) (ctx : Sec1Ctx) (p : Sec1Payload) :
    Except Int Bytes × Sec1Ctx × KeyStore :=
  if h : (pb.sc0 p.payload).length = PUBKEY_LEN then
    let ctx := { ctx with clientPubkey := ⟨pb.sc0 p.payload, h⟩ }
    match psaGenerateRandom e with
    | none => (.error (- EIO), ctx, w)
    | some rnd =>
      match deriveSessionKey P e w { ctx with deviceRandom := rnd } with
      | (ret, ctx, w) =>
        if ret ≠ 0 then (.error ret, ctx, w)
        else
          let ctx := { ctx with state := .cmd0Done }
          (buildResp0 pb e.respAlloc ctx, ctx, w)
  else (.error (-EINVAL), ctx, w)

/-- mirrors src/security1.c:287-326 -/
def handleCmd1 (P : Psa) (pb : Nanopb) (e : Env) (ctx : Sec1Ctx) (p : Sec1Payload) :
    Except Int Bytes × Sec1Ctx :=
  if ctx.state ≠ .cmd0Done then (.error (-EACCES), ctx)
  else if (pb.sc1 p.payload).length ≠ PUBKEY_LEN then (.error (-EINVAL), ctx)
  else match ctrXform P e.update₁ ctx (pb.sc1 p.payload) with
    | (.error ret, ctx) => (.error ret, ctx)
    | (.ok check, ctx) =>
      if check.length ≠ PUBKEY_LEN ∨ check ≠ ctx.devicePubkey.val then (.error (-EACCES), ctx)
      else match ctrXform P e.update₂ ctx ctx.clientPubkey.val with
        | (.error ret, ctx) => (.error ret, ctx)
        | (.ok deviceVerify, ctx) =>
          (buildResp1 pb e.respAlloc deviceVerify, { ctx with state := .done })

/-- What `sec1_handshake` makes of a request: the payload it acts on.
mirrors src/security1.c:337-350 -/
def decodeSec1 (pb : Nanopb) (inbuf : Bytes) : Option Sec1Payload :=
  match pb.decode inbuf with
  | some ⟨secVer, .sec1 p⟩ => if secVer = secScheme1 then some p else none
  | _ => none

/-- mirrors src/security1.c:328-361 -/
def sec1Handshake (P : Psa) (pb : Nanopb) (e : Env) (w : KeyStore) (vctx : Option Sec1Ctx)
    (inbuf : Bytes) : Except Int Bytes × Option Sec1Ctx × KeyStore :=
  match vctx with
  | none => (.error (-EINVAL), none, w)
  | some ctx =>
    match decodeSec1 pb inbuf with
    | none => (.error (-EINVAL), some ctx, w)
    | some p =>
      if p.msg = sessionCommand0 then
        match handleCmd0 P pb e w ctx p with
        | (ret, ctx, w) => (ret, some ctx, w)
      else if p.msg = sessionCommand1 then
        match handleCmd1 P pb e ctx p with
        | (ret, ctx) => (ret, some ctx, w)
      else (.error (-EINVAL), some ctx, w)

/-- `encrypt` and `decrypt` of the scheme; `ok`: the cipher update succeeds.
mirrors src/security1.c:363-372 -/
def sec1Encrypt (P : Psa) (ok : Bool) (vctx : Option Sec1Ctx) (inp : Bytes) :
    Except Int Bytes × Option Sec1Ctx :=
  match vctx with
  | none => (.error (-EACCES), none)
  | some ctx =>
    if ctx.state ≠ .done then (.error (-EACCES), some ctx)
    else match ctrXform P ok ctx inp with
      | (ret, ctx) => (ret, some ctx)

end NetworkProv.Security1
