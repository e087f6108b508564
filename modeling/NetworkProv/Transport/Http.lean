import Mathlib.Logic.Function.Basic
import NetworkProv.Manager.Endpoints

/-!
# The HTTP transport (`src/protocomm_softap.c`)

`prov_http_handler` is called several times for one request: with the parts of
its body as they arrive (`more`, `final`), and when the transaction ends
(`aborted`, `complete`). What it keeps between the calls is a `SoftapHttp`: the
body so far, the cookie of the request, the client it comes from, and the
transport's session. Clients are the addresses of their contexts, any type.

The words of `unsigned long` are 32 or 64 bits wide. The lengths of the parts
are far below what a `size_t` holds.

* `handler_over`, `handler_busy`, `handler_part`, `dispatch_cases`: what one call does.
* `post_fits`, `post_long`, `post_busy`: what becomes of a request of one client,
  however it is cut up.
-/
namespace NetworkProv.Http
open Core.CText Protocomm

variable {κ σ C W : Type}

abbrev REQ_BUF_LEN := 4096
abbrev RESP_BUF_LEN := 4096
abbrev UINT32_MAX := 4294967295

/-- `unsigned long` of the platform. -/
inductive ULong
  | bits32
  | bits64
  deriving DecidableEq

def ULong.bits : ULong → Nat
  | .bits32 => 32
  | .bits64 => 64

inductive HttpTransactionStatus
  | aborted
  | more
  | final
  | complete
  deriving DecidableEq

inductive HttpHeaderStatus
  | ok
  | dropped
  | none
  deriving DecidableEq

structure HttpHeader where
  name : Option CStr
  value : Option CStr

structure HttpRequestCtx where
  data : Bytes
  headersStatus : HttpHeaderStatus
  headers : List HttpHeader

/-! ## The session cookie -/

def lowerAscii (c : UInt8) : UInt8 := if 0x41 ≤ c ∧ c ≤ 0x5a then c + 0x20 else c

/-- mirrors src/protocomm_softap.c:80-93 -/
def strIeq : Bytes → Bytes → Bool
  | a :: as, b :: bs => if lowerAscii a ≠ lowerAscii b then false else strIeq as bs
  | [], [] => true
  | _, _ => false

def cookieName : Bytes := ofChars ['C', 'o', 'o', 'k', 'i', 'e']

def sessionEq : Bytes := ofChars ['s', 'e', 's', 's', 'i', 'o', 'n', '=']

/-- The id that stands at `digits`. mirrors src/protocomm_softap.c:126-134 -/
def scanId (w : ULong) (digits : Bytes) : Option UInt32 :=
  let id := strtoul w.bits digits
  if id.rest = digits ∨ id.value > UINT32_MAX then none else some (UInt32.ofNat id.value)

/-- mirrors src/protocomm_softap.c:117-134 -/
def readCookie (w : ULong) (value : Bytes) : Option UInt32 :=
  match strstr sessionEq value with
  | none => none
  | some p => scanId w (p.drop sessionEq.length)

/-- mirrors src/protocomm_softap.c:109-136 -/
def findCookie (w : ULong) : List HttpHeader → Option UInt32
  | [] => none
  | h :: hs =>
    match h.name, h.value with
    | some name, some value =>
      if !strIeq name.chars cookieName then findCookie w hs else readCookie w value.chars
    | _, _ => findCookie w hs

/-- mirrors src/protocomm_softap.c:102-137 -/
def getCookieSession (w : ULong) (ctx : HttpRequestCtx) : Option UInt32 :=
  if ctx.headersStatus ≠ .ok then none else findCookie w ctx.headers

/-- `"session=%u"` -/
def setCookie (id : UInt32) : Bytes := sessionEq ++ printDecimal id.toNat

/-! ## The endpoint -/

/-- The copy loop of `ep_name_from_url`, with room for so many characters;
`none`: too long. mirrors src/protocomm_softap.c:181-188 -/
def copyName : Nat → Bytes → Option Bytes
  | _, [] => some []
  | room, c :: cs =>
    if c = 0x3f then some []
    else match room with
      | 0 => none
      | room + 1 => (copyName room cs).map (c :: ·)

theorem copyName_eq : ∀ (room : Nat) (p : Bytes), copyName room p =
    if (p.takeWhile (· ≠ 0x3f)).length ≤ room then some (p.takeWhile (· ≠ 0x3f)) else none
  | _, [] => by simp [copyName]
  | 0, c :: cs => by
    by_cases h : c = 0x3f <;> simp [copyName, h]
  | room + 1, c :: cs => by
    by_cases h : c = 0x3f
    · simp [copyName, h]
    · rw [copyName, if_neg h, copyName_eq room cs, List.takeWhile_cons_of_pos (by simpa using h)]
      simp only [List.length_cons, Nat.add_le_add_iff_right]
      split <;> rfl

theorem copyName_noNul {room : Nat} {p name : Bytes} (hp : (0 : UInt8) ∉ p)
    (h : copyName room p = some name) : (0 : UInt8) ∉ name := by
  rw [copyName_eq] at h
  split at h
  · cases h
    exact fun hm => hp ((List.takeWhile_prefix _).subset hm)
  · cases h

def skipSlash : Bytes → Bytes
  | [] => []
  | c :: cs => if c = 0x2f then cs else c :: cs

theorem skipSlash_suffix (p : Bytes) : skipSlash p <:+ p := by
  unfold skipSlash
  split
  · exact List.suffix_refl _
  split
  · exact List.suffix_cons _ _
  · exact List.suffix_refl _

/-- mirrors src/protocomm_softap.c:173-190 -/
def epNameFromUrl (url : CStr) (cap : Nat) : CStr :=
  match h : copyName (cap - 1) (skipSlash url.chars) with
  | none => .empty
  | some name => ⟨name, copyName_noNul (fun hm => url.noNul ((skipSlash_suffix _).subset hm)) h⟩

/-- A resource of its own for the endpoint (`user_data`), or the fallback.
mirrors src/protocomm_softap.c:211-219 -/
def epName (userData : Option CStr) (url : CStr) : CStr :=
  match userData with
  | some name => name
  | none => epNameFromUrl url PROTOCOMM_EP_NAME_MAX

/-! ## The transport's state -/

/-- mirrors src/protocomm_softap.c:55-67,145-153; `reqBuf` is `req_buf` up to `req_len`. -/
structure SoftapHttp (κ : Type) where
  reqBuf : Bytes
  reqCookiePresent : Bool
  reqCookieId : UInt32
  reqClient : Option κ
  sessionValid : Bool
  sessionId : UInt32
  deriving DecidableEq

/-- What a start resets. mirrors src/protocomm_softap.c:354-361 -/
def httpStart (h : SoftapHttp κ) : SoftapHttp κ :=
  { h with reqBuf := [], reqCookiePresent := false, reqClient := none, sessionValid := false }

/-- No request in flight. mirrors src/protocomm_softap.c:224-226,247-249,260-268 -/
def SoftapHttp.clear (h : SoftapHttp κ) : SoftapHttp κ :=
  { h with reqBuf := [], reqCookiePresent := false, reqClient := none }

/-- The cookie of the request in flight. -/
def SoftapHttp.cookie (h : SoftapHttp κ) : Option UInt32 :=
  if h.reqCookiePresent then some h.reqCookieId else none

/-- mirrors src/protocomm_softap.c:238-242 -/
def SoftapHttp.latch (w : ULong) (ctx : HttpRequestCtx) (h : SoftapHttp κ) : SoftapHttp κ :=
  if ctx.headersStatus = .ok then
    match getCookieSession w ctx with
    | none => { h with reqCookiePresent := false }
    | some id => { h with reqCookiePresent := true, reqCookieId := id }
  else h

structure HttpEnv where
  openSession : Env
  rand : UInt32
  req : ReqEnv

/-- mirrors src/protocomm_softap.c:160-166,69-75; with the id drawn, if a session is opened -/
def ensureSession (e : HttpEnv) (h : SoftapHttp κ) (s : Session σ C W) :
    SoftapHttp κ × Session σ C W × Option UInt32 :=
  if h.reqCookiePresent ∧ h.sessionValid ∧ h.reqCookieId = h.sessionId then (h, s, none)
  else ({ h with sessionId := e.rand, sessionValid := true }, protocommOpenSession e.openSession s,
    some e.rand)

/-- `response_ctx`: an internal server error, or a cookie and a body. -/
inductive HttpResponse
  | error
  | ok (cookie : Bytes) (body : Bytes)
  deriving DecidableEq

/-- A call of `protocomm_req_handle`. -/
structure HttpCall where
  ep : CStr
  inbuf : Bytes
  reply : Reply
  deriving DecidableEq

/-- The return value, the response if there is one, and what the call did on
the way: the id of the session it opened, and its call of protocomm. -/
structure HttpOut where
  ret : Int
  resp : Option HttpResponse
  opened : Option UInt32
  call : Option HttpCall
  deriving DecidableEq

def HttpOut.quiet (ret : Int) : HttpOut := ⟨ret, none, none, none⟩

/-- mirrors src/protocomm_softap.c:269-302 -/
def respond (id : UInt32) (r : Reply) : HttpResponse :=
  if r.ret ≠ 0 then .error
  else if r.out.length > RESP_BUF_LEN then .error
  else .ok (setCookie id) r.out

/-- The request is complete. mirrors src/protocomm_softap.c:259-302 -/
def dispatch (e : HttpEnv) (ep : CStr) (h : SoftapHttp κ) (s : Session σ C W) :
    SoftapHttp κ × Session σ C W × HttpOut :=
  match ensureSession e h s with
  | (h, s, opened) =>
    match protocommReqHandle e.req s (some ep) h.reqBuf with
    | (s, r) => (h.clear, s, ⟨0, some (respond h.sessionId r), opened, some ⟨ep, h.reqBuf, r⟩⟩)

/-- The arguments of one call, and the answers of what it calls. -/
structure HttpCallback (κ : Type) where
  client : κ
  url : CStr
  status : HttpTransactionStatus
  ctx : HttpRequestCtx
  userData : Option CStr
  env : HttpEnv

/-- mirrors src/protocomm_softap.c:200-303 -/
def provHttpHandler [DecidableEq κ] (w : ULong) (a : HttpCallback κ) (h : SoftapHttp κ) (s : Session σ C W) :
    SoftapHttp κ × Session σ C W × HttpOut :=
  if a.status = .aborted ∨ a.status = .complete then
    (if h.reqClient = some a.client then h.clear else h, s, .quiet 0)
  else if h.reqClient ≠ none ∧ h.reqClient ≠ some a.client then (h, s, .quiet (-EBUSY))
  else
    let h := ({ h with reqClient := some a.client } : SoftapHttp κ).latch w a.ctx
    if a.ctx.data.length + h.reqBuf.length > REQ_BUF_LEN then (h.clear, s, .quiet (-ENOMEM))
    else
      let h := { h with reqBuf := h.reqBuf ++ a.ctx.data }
      if a.status ≠ .final then (h, s, .quiet 0)
      else dispatch a.env (epName a.userData a.url) h s

/-! ## What one call does -/

/-- Latching the cookie leaves the rest alone. -/
theorem latch_frame (w : ULong) (ctx : HttpRequestCtx) (h : SoftapHttp κ) :
    (h.latch w ctx).reqBuf = h.reqBuf ∧ (h.latch w ctx).reqClient = h.reqClient ∧
    (h.latch w ctx).sessionValid = h.sessionValid ∧ (h.latch w ctx).sessionId = h.sessionId := by
  unfold SoftapHttp.latch
  split
  · split <;> exact ⟨rfl, rfl, rfl, rfl⟩
  · exact ⟨rfl, rfl, rfl, rfl⟩

/-- The cookie after a call: of this call's headers if it has them, else as before. -/
def latched (w : ULong) (cookie : Option UInt32) (ctx : HttpRequestCtx) : Option UInt32 :=
  if ctx.headersStatus = .ok then getCookieSession w ctx else cookie

theorem latch_cookie (w : ULong) (ctx : HttpRequestCtx) (h : SoftapHttp κ) :
    (h.latch w ctx).cookie = latched w h.cookie ctx := by
  unfold SoftapHttp.latch latched
  split
  · split <;> rename_i hc <;> rw [hc] <;> rfl
  · rfl

/-- A part of a request of `c`, taken. -/
def SoftapHttp.take (w : ULong) (c : κ) (ctx : HttpRequestCtx) (h : SoftapHttp κ) : SoftapHttp κ :=
  { ({ h with reqClient := some c } : SoftapHttp κ).latch w ctx with reqBuf := h.reqBuf ++ ctx.data }

@[simp] theorem take_reqBuf (w : ULong) (c : κ) (ctx : HttpRequestCtx) (h : SoftapHttp κ) :
    (h.take w c ctx).reqBuf = h.reqBuf ++ ctx.data := rfl

@[simp] theorem take_reqClient (w : ULong) (c : κ) (ctx : HttpRequestCtx) (h : SoftapHttp κ) :
    (h.take w c ctx).reqClient = some c := (latch_frame w ctx _).2.1

@[simp] theorem take_sessionValid (w : ULong) (c : κ) (ctx : HttpRequestCtx) (h : SoftapHttp κ) :
    (h.take w c ctx).sessionValid = h.sessionValid := (latch_frame w ctx _).2.2.1

@[simp] theorem take_sessionId (w : ULong) (c : κ) (ctx : HttpRequestCtx) (h : SoftapHttp κ) :
    (h.take w c ctx).sessionId = h.sessionId := (latch_frame w ctx _).2.2.2

theorem take_cookie (w : ULong) (c : κ) (ctx : HttpRequestCtx) (h : SoftapHttp κ) :
    (h.take w c ctx).cookie = latched w h.cookie ctx := latch_cookie w ctx _

/-- The call brings a part of a request. -/
def HttpCallback.IsPart (a : HttpCallback κ) : Prop := a.status = .more ∨ a.status = .final

theorem isPart_iff {a : HttpCallback κ} : a.IsPart ↔ ¬ (a.status = .aborted ∨ a.status = .complete) := by
  unfold HttpCallback.IsPart
  cases a.status <;> simp

/-- The buffers are free, or already this client's. -/
def SoftapHttp.Admits (h : SoftapHttp κ) (c : κ) : Prop := h.reqClient = none ∨ h.reqClient = some c

section Call

variable [DecidableEq κ] {w : ULong} {a : HttpCallback κ} {h : SoftapHttp κ} (s : Session σ C W)

theorem handler_over (hp : ¬ a.IsPart) : provHttpHandler w a h s =
    (if h.reqClient = some a.client then h.clear else h, s, .quiet 0) :=
  if_pos (not_not.mp (mt isPart_iff.mpr hp))

theorem handler_busy (hp : a.IsPart) (hn : ¬ h.Admits a.client) :
    provHttpHandler w a h s = (h, s, .quiet (-EBUSY)) := by
  unfold SoftapHttp.Admits at hn
  rw [not_or] at hn
  rw [provHttpHandler, if_neg (isPart_iff.mp hp), if_pos hn]

/-- What becomes of a part that is admitted. -/
theorem handler_part (hp : a.IsPart) (hadm : h.Admits a.client) : provHttpHandler w a h s =
    if REQ_BUF_LEN < a.ctx.data.length + h.reqBuf.length then
      ((h.take w a.client a.ctx).clear, s, .quiet (-ENOMEM))
    else if a.status ≠ .final then (h.take w a.client a.ctx, s, .quiet 0)
    else dispatch a.env (epName a.userData a.url) (h.take w a.client a.ctx) s := by
  have hnot : ¬ (h.reqClient ≠ none ∧ h.reqClient ≠ some a.client) := fun hn => hadm.elim hn.1 hn.2
  rw [provHttpHandler, if_neg (isPart_iff.mp hp), if_neg hnot]
  simp only [(latch_frame w a.ctx _).1]
  rfl

theorem handler_long (hp : a.IsPart) (hadm : h.Admits a.client)
    (hlen : REQ_BUF_LEN < h.reqBuf.length + a.ctx.data.length) :
    provHttpHandler w a h s = ((h.take w a.client a.ctx).clear, s, .quiet (-ENOMEM)) := by
  rw [handler_part s hp hadm, if_pos (by omega)]

theorem handler_more (hm : a.status = .more) (hadm : h.Admits a.client)
    (hfit : h.reqBuf.length + a.ctx.data.length ≤ REQ_BUF_LEN) :
    provHttpHandler w a h s = (h.take w a.client a.ctx, s, .quiet 0) := by
  rw [handler_part s (.inl hm) hadm, if_neg (by omega), if_pos (by rw [hm]; decide)]

theorem handler_final (hf : a.status = .final) (hadm : h.Admits a.client)
    (hfit : h.reqBuf.length + a.ctx.data.length ≤ REQ_BUF_LEN) : provHttpHandler w a h s =
      dispatch a.env (epName a.userData a.url) (h.take w a.client a.ctx) s := by
  rw [handler_part s (.inr hf) hadm, if_neg (by omega), if_neg (by simp [hf])]

end Call

/-- A dispatch runs the request in the open session if the cookie latched is the id of that
session, in a fresh one otherwise. -/
theorem dispatch_cases (e : HttpEnv) (ep : CStr) (h : SoftapHttp κ) (s : Session σ C W) :
    (h.sessionValid = true ∧ h.cookie = some h.sessionId ∧ ∃ s' r,
      protocommReqHandle e.req s (some ep) h.reqBuf = (s', r) ∧
      dispatch e ep h s =
        (h.clear, s', ⟨0, some (respond h.sessionId r), none, some ⟨ep, h.reqBuf, r⟩⟩)) ∨
    (¬ (h.sessionValid = true ∧ h.cookie = some h.sessionId) ∧ ∃ s' r,
      protocommReqHandle e.req (protocommOpenSession e.openSession s) (some ep) h.reqBuf = (s', r) ∧
      dispatch e ep h s = ({ h.clear with sessionId := e.rand, sessionValid := true }, s',
        ⟨0, some (respond e.rand r), some e.rand, some ⟨ep, h.reqBuf, r⟩⟩)) := by
  have hcookie : h.cookie = some h.sessionId ↔
      h.reqCookiePresent = true ∧ h.reqCookieId = h.sessionId := by
    unfold SoftapHttp.cookie
    split <;> simp_all
  unfold dispatch ensureSession
  by_cases hc : h.sessionValid = true ∧ h.cookie = some h.sessionId
  · obtain ⟨hp, hid⟩ := hcookie.mp hc.2
    rw [if_pos ⟨hp, hc.1, hid⟩]
    exact .inl ⟨hc.1, hc.2, _, _, rfl, rfl⟩
  · rw [if_neg fun h => hc ⟨h.2.1, hcookie.mpr ⟨h.1, h.2.2⟩⟩]
    exact .inr ⟨hc, _, _, rfl, rfl⟩

/-! ## A request in parts -/

def bodyOf (parts : List HttpRequestCtx) : Bytes := parts.flatMap (·.data)

/-- What the request's own headers say: those captured last, if any are. -/
def ownCookie (w : ULong) (parts : List HttpRequestCtx) : Option UInt32 := parts.foldl (latched w) none

@[simp] theorem bodyOf_nil : bodyOf [] = [] := rfl

@[simp] theorem length_bodyOf_cons (ctx : HttpRequestCtx) (parts : List HttpRequestCtx) :
    (bodyOf (ctx :: parts)).length = ctx.data.length + (bodyOf parts).length := by simp [bodyOf]

/-- A request of one client, in parts, no other call in between; the server stops at an error. -/
def post [DecidableEq κ] (w : ULong) (a : HttpCallback κ) :
    List HttpRequestCtx → SoftapHttp κ → Session σ C W → SoftapHttp κ × Session σ C W × HttpOut
  | [], h, s => (h, s, .quiet 0)
  | [ctx], h, s => provHttpHandler w { a with status := .final, ctx := ctx } h s
  | ctx :: ctx' :: parts, h, s =>
    match provHttpHandler w { a with status := .more, ctx := ctx } h s with
    | (h, s, o) => if o.ret ≠ 0 then (h, s, o) else post w a (ctx' :: parts) h s

/-- The parts, taken one after the other. -/
def SoftapHttp.takeAll (w : ULong) (c : κ) (parts : List HttpRequestCtx) (h : SoftapHttp κ) : SoftapHttp κ :=
  parts.foldl (fun h ctx => h.take w c ctx) h

theorem takeAll_reqBuf (w : ULong) (c : κ) : ∀ (parts : List HttpRequestCtx) (h : SoftapHttp κ),
    (h.takeAll w c parts).reqBuf = h.reqBuf ++ bodyOf parts
  | [], h => by simp [SoftapHttp.takeAll, bodyOf]
  | ctx :: parts, h => by
    have ih := takeAll_reqBuf w c parts (h.take w c ctx)
    simpa [SoftapHttp.takeAll, bodyOf] using ih

theorem takeAll_session (w : ULong) (c : κ) : ∀ (parts : List HttpRequestCtx) (h : SoftapHttp κ),
    (h.takeAll w c parts).sessionValid = h.sessionValid ∧ (h.takeAll w c parts).sessionId = h.sessionId
  | [], _ => ⟨rfl, rfl⟩
  | ctx :: parts, h => by
    have ih := takeAll_session w c parts (h.take w c ctx)
    simpa [SoftapHttp.takeAll] using ih

theorem takeAll_cookie (w : ULong) (c : κ) : ∀ (parts : List HttpRequestCtx) (h : SoftapHttp κ),
    (h.takeAll w c parts).cookie = parts.foldl (latched w) h.cookie
  | [], _ => rfl
  | ctx :: parts, h => by
    have ih := takeAll_cookie w c parts (h.take w c ctx)
    rw [take_cookie] at ih
    exact ih

section Post

variable [DecidableEq κ] {w : ULong} {a : HttpCallback κ} (s : Session σ C W)

/-- A part that is not the last and fits leaves the rest to be posted. -/
theorem post_more {ctx ctx' : HttpRequestCtx} {parts : List HttpRequestCtx} {h : SoftapHttp κ}
    (hadm : h.Admits a.client) (hfit : h.reqBuf.length + ctx.data.length ≤ REQ_BUF_LEN) :
    post w a (ctx :: ctx' :: parts) h s = post w a (ctx' :: parts) (h.take w a.client ctx) s := by
  rw [post, handler_more (a := { a with status := .more, ctx := ctx }) s rfl hadm hfit]
  exact if_neg (by decide)

/-- However it is cut up, a request that is admitted and fits is dispatched whole. -/
theorem post_fits : ∀ {parts : List HttpRequestCtx} {h : SoftapHttp κ}, parts ≠ [] → h.Admits a.client →
    h.reqBuf.length + (bodyOf parts).length ≤ REQ_BUF_LEN →
    post w a parts h s = dispatch a.env (epName a.userData a.url) (h.takeAll w a.client parts) s
  | [], h, hne, _, _ => absurd rfl hne
  | [ctx], h, _, hadm, hfit => by
    simp only [length_bodyOf_cons, bodyOf_nil, List.length_nil, Nat.add_zero] at hfit
    exact handler_final (a := { a with status := .final, ctx := ctx }) s rfl hadm hfit
  | ctx :: ctx' :: parts, h, _, hadm, hfit => by
    rw [length_bodyOf_cons] at hfit
    rw [post_more s hadm (by omega)]
    refine (post_fits (by simp) (.inr (take_reqClient w _ ctx h)) ?_)
    rw [take_reqBuf, List.length_append]
    omega

/-- A request that is too long is refused at the part that makes it so. -/
theorem post_long : ∀ {parts : List HttpRequestCtx} {h : SoftapHttp κ}, h.Admits a.client →
    h.reqBuf.length ≤ REQ_BUF_LEN → REQ_BUF_LEN < h.reqBuf.length + (bodyOf parts).length →
    ∃ h', post w a parts h s = (h', s, .quiet (-ENOMEM))
  | [], h, _, hle, hlong => absurd hlong (by simpa [bodyOf] using hle)
  | [ctx], h, hadm, _, hlong => by
    simp only [length_bodyOf_cons, bodyOf_nil, List.length_nil, Nat.add_zero] at hlong
    exact ⟨_, handler_long (a := { a with status := .final, ctx := ctx }) s (.inr rfl) hadm hlong⟩
  | ctx :: ctx' :: parts, h, hadm, _, hlong => by
    rw [length_bodyOf_cons] at hlong
    by_cases hfit : h.reqBuf.length + ctx.data.length ≤ REQ_BUF_LEN
    · rw [post_more s hadm hfit]
      refine post_long (.inr (take_reqClient w _ ctx h)) (by simpa using hfit) ?_
      rw [take_reqBuf, List.length_append]
      omega
    · rw [post, handler_long (a := { a with status := .more, ctx := ctx }) s (.inl rfl) hadm
        (Nat.lt_of_not_le hfit)]
      exact ⟨_, if_pos (by decide)⟩

/-- While another client's request is in flight, none is taken. -/
theorem post_busy {h : SoftapHttp κ} (hn : ¬ h.Admits a.client) : ∀ {parts : List HttpRequestCtx},
    parts ≠ [] → post w a parts h s = (h, s, .quiet (-EBUSY))
  | [], hne => absurd rfl hne
  | [ctx], _ => handler_busy (a := { a with status := .final, ctx := ctx }) s (.inr rfl) hn
  | ctx :: ctx' :: parts, _ => by
    rw [post, handler_busy (a := { a with status := .more, ctx := ctx }) s (.inl rfl) hn]
    exact if_pos (by decide)

end Post

/-! ## A device without security -/

def versionEp : CStr := Endpoints.EP_VERSION

/-- An instance with `proto-ver` only. -/
def versionDevice : Session Unit Unit Unit where
  pc := { endpoints := [⟨versionEp, .version⟩], sec := none, pop := none, secCtx := none, version := none }
  ext := ()
  app := ()

end NetworkProv.Http
