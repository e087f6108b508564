import NetworkProv.Core.Machine
import NetworkProv.Psa

/-!
# The protocomm core (`src/protocomm.c`)

A table of named endpoints and one session of a pluggable security scheme.
Endpoint handlers are arbitrary functions on an application state `σ`; the
scheme is its function table, over a session context `C` and whatever it keeps
outside the context, `W` (for security 1 the PSA key store).

Requests record the handler call they lead to, so that what reaches a handler
can be told from what is answered.

* `reqHandle_cases`: a request does nothing, is a handshake message, or is a
  data request in an open session.
* `handleData_cases`: a data request stops before the handler, or runs it on
  the decrypted bytes (on no bytes, if there was nothing to decrypt).
* `Session.step_config`: no operation touches the endpoint table, the scheme
  or the proof of possession.
* `Session.step_app`: only handlers of data endpoints change the application's state.
-/
namespace NetworkProv

abbrev PROTOCOMM_MAX_ENDPOINTS := 8
abbrev PROTOCOMM_EP_NAME_MAX := 16

/-- `protocomm_req_handler_t`: the return value and the response. -/
abbrev ReqHandler (σ : Type) := σ → Bytes → σ × Int × Bytes

/-- mirrors src/protocomm.h:50-74; `none` is a `NULL` entry. -/
structure ProtocommSecurity (C W : Type) where
  version : Int
  init : Option (Env → W → Option CStr → Except Int C × W)
  cleanup : Option (W → C → W)
  handshake : Option (Env → W → Option C → Bytes → Except Int Bytes × Option C × W)
  encrypt : Bool → Option C → Bytes → Except Int Bytes × Option C
  decrypt : Bool → Option C → Bytes → Except Int Bytes × Option C

/-- `enum ep_type`, with the handler of a data endpoint. -/
inductive EpType (σ : Type) where
  | data (handler : ReqHandler σ)
  | security
  | version

structure ProtocommEp (σ : Type) where
  name : CStr
  type : EpType σ

/-- mirrors src/protocomm.c:30-39 -/
structure Protocomm (σ C W : Type) where
  endpoints : List (ProtocommEp σ)
  sec : Option (ProtocommSecurity C W)
  pop : Option CStr
  secCtx : Option C
  version : Option CStr

namespace Protocomm

variable {σ C W : Type}

def protocommNew : Protocomm σ C W := ⟨[], none, none, none, none⟩

/-- mirrors src/protocomm.c:57-65 -/
def findEp (pc : Protocomm σ C W) (name : CStr) : Option (ProtocommEp σ) :=
  pc.endpoints.find? fun ep => ep.name = name

/-- mirrors src/protocomm.c:67-89 -/
def addEp (pc : Protocomm σ C W) (name : Option CStr) (type : EpType σ) :
    Except Int (Protocomm σ C W) :=
  match name with
  | none => .error (-EINVAL)
  | some name =>
    if name.chars.length ≥ PROTOCOMM_EP_NAME_MAX then .error (-ENAMETOOLONG)
    else if (pc.findEp name).isSome then .error (-EALREADY)
    else if pc.endpoints.length ≥ PROTOCOMM_MAX_ENDPOINTS then .error (-ENOMEM)
    else .ok { pc with endpoints := pc.endpoints ++ [⟨name, type⟩] }

/-- mirrors src/protocomm.c:91-95 -/
def protocommAddEndpoint (pc : Protocomm σ C W) (name : Option CStr) (handler : ReqHandler σ) :
    Except Int (Protocomm σ C W) := addEp pc name (.data handler)

/-- mirrors src/protocomm.c:97-111 -/
def protocommSetSecurity (pc : Protocomm σ C W) (name : Option CStr)
    (sec : Option (ProtocommSecurity C W)) (pop : Option CStr) : Except Int (Protocomm σ C W) :=
  match sec with
  | none => .error (-EINVAL)
  | some sec => (addEp pc name .security).map fun pc => { pc with sec := some sec, pop := pop }

/-- mirrors src/protocomm.c:113-126 -/
def protocommSetVersion (pc : Protocomm σ C W) (name : Option CStr) (version : Option CStr) :
    Except Int (Protocomm σ C W) :=
  match version with
  | none => .error (-EINVAL)
  | some v => (addEp pc name .version).map fun pc => { pc with version := some v }

/-! ## Sessions -/

/-- An instance, with what the scheme keeps and the application's state. -/
structure Session (σ C W : Type) where
  pc : Protocomm σ C W
  ext : W
  app : σ

def Session.setCtx (s : Session σ C W) (c : Option C) : Session σ C W :=
  { s with pc := { s.pc with secCtx := c } }

/-- mirrors src/protocomm.c:145-154 -/
def protocommCloseSession (s : Session σ C W) : Session σ C W :=
  match s.pc.sec, s.pc.secCtx with
  | some sec, some c =>
    match sec.cleanup with
    | some cleanup => { s.setCtx none with ext := cleanup s.ext c }
    | none => s.setCtx none
  | _, _ => s

/-- What is left once the instance is gone.
mirrors src/protocomm.c:47-54 -/
def protocommDelete (s : Session σ C W) : W × σ :=
  let s := protocommCloseSession s
  (s.ext, s.app)

/-- mirrors src/protocomm.c:128-143 -/
def protocommOpenSession (e : Env) (s : Session σ C W) : Session σ C W :=
  match s.pc.sec with
  | none => s
  | some sec =>
    let s := protocommCloseSession s
    match sec.init with
    | none => s
    | some init =>
      match init e s.ext s.pc.pop with
      | (.error _, w) => { s.setCtx none with ext := w }
      | (.ok c, w) => { s.setCtx (some c) with ext := w }

/-! ## Requests -/

/-- What the calls made during one request answer. -/
structure ReqEnv where
  versionAlloc : Bool
  plainAlloc : Bool
  encAlloc : Bool
  decrypt : Bool
  encrypt : Bool
  handshake : Env

def ReqEnv.good (e : Env) : ReqEnv := ⟨true, true, true, true, true, e⟩

/-- A call of an endpoint handler: its argument and what it answered. -/
structure Call where
  ep : CStr
  arg : Bytes
  ret : Int
  out : Bytes
  deriving DecidableEq

/-- The return value, the response (empty for `NULL`), and the handler call
the request led to. -/
structure Reply where
  ret : Int
  out : Bytes
  call : Option Call
  deriving DecidableEq

/-- What a transport with room for so many bytes delivers of a reply. -/
def Reply.delivered (limit : Nat) (r : Reply) : Bytes :=
  if r.ret ≠ 0 ∨ r.out.length > limit then [] else r.out

def Reply.fail (ret : Int) : Reply := ⟨ret, [], none⟩

def Reply.ofExcept : Except Int Bytes → Reply
  | .error ret => .fail ret
  | .ok out => ⟨0, out, none⟩

/-- mirrors src/protocomm.c:156-168; `protocomm_set_version` refuses `NULL`. -/
def handleVersion (e : ReqEnv) (pc : Protocomm σ C W) : Reply :=
  if e.versionAlloc then ⟨0, charsOf pc.version, none⟩ else .fail (-ENOMEM)

/-- `handle_data` from the handler call on.
mirrors src/protocomm.c:200-233 -/
def runHandler (sec : ProtocommSecurity C W) (e : ReqEnv) (s : Session σ C W) (ep : CStr)
    (handler : ReqHandler σ) (plain : Bytes) : Session σ C W × Reply :=
  match handler s.app plain with
  | (app, ret, raw) =>
    let s := { s with app := app }
    let call := some ⟨ep, plain, ret, raw⟩
    if ret ≠ 0 then (s, ⟨ret, [], call⟩)
    else if raw.length = 0 then (s, ⟨0, [], call⟩)
    else if !e.encAlloc then (s, ⟨-ENOMEM, [], call⟩)
    else match sec.encrypt e.encrypt s.pc.secCtx raw with
      | (.error ret, c) => (s.setCtx c, ⟨ret, [], call⟩)
      | (.ok enc, c) => (s.setCtx c, ⟨0, enc, call⟩)

/-- mirrors src/protocomm.c:179-234 -/
def handleData (sec : ProtocommSecurity C W) (e : ReqEnv) (s : Session σ C W) (ep : CStr)
    (handler : ReqHandler σ) (inbuf : Bytes) : Session σ C W × Reply :=
  if inbuf.length > 0 then
    if !e.plainAlloc then (s, .fail (-ENOMEM))
    else match sec.decrypt e.decrypt s.pc.secCtx inbuf with
      | (.error ret, c) => (s.setCtx c, .fail ret)
      | (.ok plain, c) => runHandler sec e (s.setCtx c) ep handler plain
  else runHandler sec e s ep handler []

/-- mirrors src/protocomm.c:236-269 -/
def protocommReqHandle (e : ReqEnv) (s : Session σ C W) (epName : Option CStr) (inbuf : Bytes) :
    Session σ C W × Reply :=
  match epName with
  | none => (s, .fail (-EINVAL))
  | some name =>
    match s.pc.findEp name with
    | none => (s, .fail (-ENOENT))
    | some ep =>
      match ep.type with
      | .version => (s, handleVersion e s.pc)
      | .security =>
        match s.pc.sec.bind (·.handshake) with
        | none => (s, .fail (-ENOSYS))
        | some handshake =>
          match handshake e.handshake s.ext s.pc.secCtx inbuf with
          | (r, c, w) => ({ s.setCtx c with ext := w }, .ofExcept r)
      | .data handler =>
        match s.pc.sec, s.pc.secCtx with
        | some sec, some _ => handleData sec e s ep.name handler inbuf
        | _, _ => (s, .fail (-EACCES))

/-- mirrors src/protocomm.c:271-274 -/
def protocommEndpointCount (pc : Option (Protocomm σ C W)) : Nat := (pc.map (·.endpoints.length)).getD 0

/-- mirrors src/protocomm.c:276-282 -/
def protocommEndpointName (pc : Option (Protocomm σ C W)) (idx : Nat) : Option CStr :=
  pc.bind fun pc => (pc.endpoints[idx]?).map (·.name)

/-! ## What the operations can do -/

@[simp] theorem ofExcept_call (r : Except Int Bytes) : (Reply.ofExcept r).call = none := by
  cases r <;> rfl

@[simp] theorem handleVersion_call (e : ReqEnv) (pc : Protocomm σ C W) :
    (handleVersion e pc).call = none := by
  unfold handleVersion; split <;> rfl

theorem findEp_name {pc : Protocomm σ C W} {name : CStr} {ep : ProtocommEp σ}
    (h : pc.findEp name = some ep) : ep.name = name := by
  simpa using List.find?_some h

/-- A request for `name` is one for a data endpoint with this handler. -/
def DataEp (pc : Protocomm σ C W) (name : CStr) (handler : ReqHandler σ) : Prop :=
  pc.findEp name = some ⟨name, .data handler⟩

def SecurityEp (pc : Protocomm σ C W) (name : CStr) : Prop :=
  pc.findEp name = some ⟨name, .security⟩

theorem reqHandle_cases {e : ReqEnv} {s s' : Session σ C W} {epName : Option CStr} {inbuf : Bytes}
    {r : Reply} (h : protocommReqHandle e s epName inbuf = (s', r)) :
    (s' = s ∧ r.call = none) ∨
    (∃ name sec handshake out c w, epName = some name ∧ SecurityEp s.pc name ∧ s.pc.sec = some sec ∧
      sec.handshake = some handshake ∧
      handshake e.handshake s.ext s.pc.secCtx inbuf = (out, c, w) ∧
      s' = { s.setCtx c with ext := w } ∧ r = .ofExcept out) ∨
    (∃ name handler sec c, epName = some name ∧ DataEp s.pc name handler ∧ s.pc.sec = some sec ∧
      s.pc.secCtx = some c ∧ handleData sec e s name handler inbuf = (s', r)) := by
  unfold protocommReqHandle at h
  split at h
  · cases h; exact .inl ⟨rfl, rfl⟩
  rename_i name
  split at h
  · cases h; exact .inl ⟨rfl, rfl⟩
  rename_i ep hep
  obtain ⟨n, ty⟩ := ep
  obtain rfl : n = name := findEp_name hep
  cases ty with
  | version => cases h; exact .inl ⟨rfl, handleVersion_call _ _⟩
  | security =>
    dsimp only at h
    split at h
    · cases h; exact .inl ⟨rfl, rfl⟩
    rename_i hsk hs
    simp only [Option.bind_eq_some_iff] at hs
    obtain ⟨sec, h1, h2⟩ := hs
    generalize hr : hsk e.handshake s.ext s.pc.secCtx inbuf = q at h
    obtain ⟨r', c, w⟩ := q
    cases h
    exact .inr (.inl ⟨n, sec, hsk, r', c, w, rfl, hep, h1, h2, hr, rfl, rfl⟩)
  | data handler =>
    dsimp only at h
    split at h
    · rename_i sec c h1 h2
      exact .inr (.inr ⟨n, handler, sec, c, rfl, hep, h1, h2, h⟩)
    · cases h; exact .inl ⟨rfl, rfl⟩

/-- How a data request gets to its plaintext. -/
inductive Decrypts (sec : ProtocommSecurity C W) (e : ReqEnv) (s : Session σ C W) (inbuf : Bytes) :
    Bytes → Session σ C W → Prop
  | empty : inbuf = [] → Decrypts sec e s inbuf [] s
  | decrypt {plain : Bytes} {c : Option C} : inbuf ≠ [] → e.plainAlloc = true →
      sec.decrypt e.decrypt s.pc.secCtx inbuf = (.ok plain, c) →
      Decrypts sec e s inbuf plain (s.setCtx c)

theorem handleData_cases {sec : ProtocommSecurity C W} {e : ReqEnv} {s s' : Session σ C W}
    {name : CStr} {handler : ReqHandler σ} {inbuf : Bytes} {r : Reply}
    (h : handleData sec e s name handler inbuf = (s', r)) :
    (inbuf ≠ [] ∧ e.plainAlloc = false ∧ s' = s ∧ r = .fail (-ENOMEM)) ∨
    (inbuf ≠ [] ∧ e.plainAlloc = true ∧ ∃ ret c,
      sec.decrypt e.decrypt s.pc.secCtx inbuf = (.error ret, c) ∧ s' = s.setCtx c ∧ r = .fail ret) ∨
    (∃ plain s₁, Decrypts sec e s inbuf plain s₁ ∧ runHandler sec e s₁ name handler plain = (s', r)) := by
  unfold handleData at h
  split at h
  · rename_i hlen
    have hne : inbuf ≠ [] := List.ne_nil_of_length_pos hlen
    split at h
    · rename_i ha
      cases h; exact .inl ⟨hne, by simpa using ha, rfl, rfl⟩
    rename_i ha
    simp only [Bool.not_eq_true', Bool.not_eq_false] at ha
    split at h
    · rename_i ret c hd
      cases h; exact .inr (.inl ⟨hne, ha, ret, c, hd, rfl, rfl⟩)
    · rename_i plain c hd
      exact .inr (.inr ⟨plain, _, .decrypt hne ha hd, h⟩)
  · rename_i hlen
    exact .inr (.inr ⟨[], s, .empty (by simpa using hlen), h⟩)

theorem handleData_decrypts {sec : ProtocommSecurity C W} {e : ReqEnv} {s s₁ : Session σ C W}
    {inbuf plain : Bytes} (h : Decrypts sec e s inbuf plain s₁) (name : CStr) (handler : ReqHandler σ) :
    handleData sec e s name handler inbuf = runHandler sec e s₁ name handler plain := by
  unfold handleData
  cases h with
  | empty hnil => rw [if_neg (by simp [hnil])]
  | decrypt hne ha hd =>
    rw [if_pos (List.length_pos_of_ne_nil hne), if_neg (by simp [ha]), hd]

/-- The reply to a request that a handler answered with `ret` and `out`: its error, or
its output as the scheme encrypts it. -/
structure AnsweredWith (sec : ProtocommSecurity C W) (e : ReqEnv) (c : Option C) (name : CStr) (plain : Bytes)
    (ret : Int) (out : Bytes) (r : Reply) : Prop where
  call : r.call = some ⟨name, plain, ret, out⟩
  failed : ret ≠ 0 → r.ret = ret ∧ r.out = []
  silent : ret = 0 → out = [] → r.ret = 0 ∧ r.out = []
  encrypted : ret = 0 → out ≠ [] → e.encAlloc = true →
    ∀ enc, (sec.encrypt e.encrypt c out).1 = .ok enc → r.ret = 0 ∧ r.out = enc

theorem runHandler_answered {sec : ProtocommSecurity C W} {e : ReqEnv} {s s' : Session σ C W} {name : CStr}
    {handler : ReqHandler σ} {plain : Bytes} {r : Reply}
    (h : runHandler sec e s name handler plain = (s', r)) :
    AnsweredWith sec e s.pc.secCtx name plain (handler s.app plain).2.1 (handler s.app plain).2.2 r := by
  unfold runHandler at h
  dsimp only at h
  split at h
  · rename_i hret
    cases h
    exact ⟨rfl, fun _ => ⟨rfl, rfl⟩, fun h0 => absurd h0 hret, fun h0 => absurd h0 hret⟩
  rename_i hret
  split at h
  · rename_i hlen
    cases h
    exact ⟨rfl, fun hne => absurd hne hret, fun _ _ => ⟨rfl, rfl⟩,
      fun _ hne => absurd (List.length_eq_zero_iff.1 hlen) hne⟩
  rename_i hlen
  have hout : (handler s.app plain).2.2 ≠ [] := fun hnil => hlen (by rw [hnil]; rfl)
  split at h
  · rename_i ha
    cases h
    exact ⟨by rw [of_not_not hret], fun hne => absurd hne hret, fun _ hnil => absurd hnil hout,
      fun _ _ henc => by simp [henc] at ha⟩
  split at h
  · rename_i hx
    cases h
    refine ⟨by rw [of_not_not hret], fun hne => absurd hne hret, fun _ hnil => absurd hnil hout, ?_⟩
    intro _ _ _ enc henc
    rw [hx] at henc
    cases henc
  · rename_i hx
    cases h
    refine ⟨by rw [of_not_not hret], fun hne => absurd hne hret, fun _ hnil => absurd hnil hout, ?_⟩
    intro _ _ _ enc henc
    rw [hx] at henc
    cases henc
    exact ⟨rfl, rfl⟩

theorem runHandler_call {sec : ProtocommSecurity C W} {e : ReqEnv} {s s' : Session σ C W} {name : CStr}
    {handler : ReqHandler σ} {plain : Bytes} {r : Reply}
    (h : runHandler sec e s name handler plain = (s', r)) :
    r.call = some ⟨name, plain, (handler s.app plain).2.1, (handler s.app plain).2.2⟩ := by
  unfold runHandler at h
  dsimp only at h
  split at h
  · cases h; rfl
  split at h
  · cases h; rfl
  split at h
  · cases h; rfl
  split at h <;> cases h <;> rfl

theorem runHandler_app {sec : ProtocommSecurity C W} {e : ReqEnv} {s s' : Session σ C W} {name : CStr}
    {handler : ReqHandler σ} {plain : Bytes} {r : Reply}
    (h : runHandler sec e s name handler plain = (s', r)) : s'.app = (handler s.app plain).1 := by
  unfold runHandler at h
  dsimp only at h
  split at h
  · cases h; rfl
  split at h
  · cases h; rfl
  split at h
  · cases h; rfl
  split at h <;> cases h <;> rfl

/-- A data request leaves the application's state, or its handler runs once on it. -/
theorem handleData_app {sec : ProtocommSecurity C W} {e : ReqEnv} {s s' : Session σ C W} {name : CStr}
    {handler : ReqHandler σ} {inbuf : Bytes} {r : Reply}
    (h : handleData sec e s name handler inbuf = (s', r)) :
    s'.app = s.app ∨ ∃ plain, s'.app = (handler s.app plain).1 := by
  rcases handleData_cases h with ⟨-, -, rfl, -⟩ | ⟨-, -, ret, c, -, rfl, -⟩ | ⟨plain, s₁, hd, hr⟩
  · exact .inl rfl
  · exact .inl rfl
  · have happ : s₁.app = s.app := by cases hd <;> rfl
    rw [← happ]
    exact .inr ⟨plain, runHandler_app hr⟩

/-- A request calls no handler and leaves the application's state, or calls one, once,
and the state is the handler's. -/
theorem reqHandle_call {e : ReqEnv} {s s' : Session σ C W} {epName : Option CStr} {inbuf : Bytes}
    {r : Reply} (h : protocommReqHandle e s epName inbuf = (s', r)) :
    (r.call = none ∧ s'.app = s.app) ∨
    ∃ name handler plain app ret out, epName = some name ∧ DataEp s.pc name handler ∧
      handler s.app plain = (app, ret, out) ∧ r.call = some ⟨name, plain, ret, out⟩ ∧ s'.app = app := by
  rcases reqHandle_cases h with ⟨rfl, hn⟩ | ⟨n, sec, hs, o, c, w, -, -, -, -, -, rfl, rfl⟩ |
      ⟨n, hd, sec, c, rfl, hep, -, -, hh⟩
  · exact .inl ⟨hn, rfl⟩
  · exact .inl ⟨ofExcept_call o, rfl⟩
  · rcases handleData_cases hh with ⟨-, -, rfl, rfl⟩ | ⟨-, -, ret, c, -, rfl, rfl⟩ | ⟨plain, s₁, hde, hr⟩
    · exact .inl ⟨rfl, rfl⟩
    · exact .inl ⟨rfl, rfl⟩
    · have happ : s₁.app = s.app := by cases hde <;> rfl
      have hcall := runHandler_call hr
      have hpost := runHandler_app hr
      rw [happ] at hcall hpost
      exact .inr ⟨n, hd, plain, _, _, _, rfl, hep, rfl, hcall, hpost⟩

/-- A relation that encryption keeps holds between the contexts before and after a
data request, whatever becomes of it; the rest of the scheme's world is not touched. -/
theorem runHandler_ctx {R : C → C → Prop} {sec : ProtocommSecurity C W} (hrefl : ∀ c, R c c)
    (henc : ∀ ok c inp r v, sec.encrypt ok (some c) inp = (r, v) → ∃ c', v = some c' ∧ R c c')
    {e : ReqEnv} {s s' : Session σ C W} {name : CStr} {handler : ReqHandler σ} {plain : Bytes}
    {r : Reply} {c : C} (hc : s.pc.secCtx = some c)
    (h : runHandler sec e s name handler plain = (s', r)) :
    s'.ext = s.ext ∧ ∃ c', s'.pc.secCtx = some c' ∧ R c c' := by
  unfold runHandler at h
  dsimp only at h
  split at h
  · cases h; exact ⟨rfl, c, hc, hrefl c⟩
  split at h
  · cases h; exact ⟨rfl, c, hc, hrefl c⟩
  split at h
  · cases h; exact ⟨rfl, c, hc, hrefl c⟩
  rw [hc] at h
  split at h
  · rename_i hx; cases h; exact ⟨rfl, henc _ _ _ _ _ hx⟩
  · rename_i hx; cases h; exact ⟨rfl, henc _ _ _ _ _ hx⟩

theorem handleData_ctx {R : C → C → Prop} {sec : ProtocommSecurity C W} (hrefl : ∀ c, R c c)
    (htrans : ∀ a b c, R a b → R b c → R a c)
    (henc : ∀ ok c inp r v, sec.encrypt ok (some c) inp = (r, v) → ∃ c', v = some c' ∧ R c c')
    (hdec : ∀ ok c inp r v, sec.decrypt ok (some c) inp = (r, v) → ∃ c', v = some c' ∧ R c c')
    {e : ReqEnv} {s s' : Session σ C W} {name : CStr} {handler : ReqHandler σ} {inbuf : Bytes}
    {r : Reply} {c : C} (hc : s.pc.secCtx = some c)
    (h : handleData sec e s name handler inbuf = (s', r)) :
    s'.ext = s.ext ∧ ∃ c', s'.pc.secCtx = some c' ∧ R c c' := by
  rcases handleData_cases h with ⟨-, -, rfl, -⟩ | ⟨-, -, ret, v, hd, rfl, -⟩ | ⟨plain, s₁, hd, hr⟩
  · exact ⟨rfl, c, hc, hrefl c⟩
  · rw [hc] at hd
    exact ⟨rfl, hdec _ _ _ _ _ hd⟩
  · cases hd with
    | empty _ => exact runHandler_ctx hrefl henc hc hr
    | decrypt _ _ hd =>
      rw [hc] at hd
      obtain ⟨c₁, rfl, h₁⟩ := hdec _ _ _ _ _ hd
      obtain ⟨hext, c₂, hc₂, h₂⟩ := runHandler_ctx (s := s.setCtx (some c₁)) hrefl henc rfl hr
      exact ⟨hext, c₂, hc₂, htrans _ _ _ h₁ h₂⟩

/-! ## The instance as a machine -/

inductive PcOp where
  | openSession (e : Env)
  | closeSession
  | req (e : ReqEnv) (epName : Option CStr) (inbuf : Bytes)

def Session.step (s : Session σ C W) : PcOp → Option (Session σ C W × Reply)
  | .openSession e => some (protocommOpenSession e s, ⟨0, [], none⟩)
  | .closeSession => some (protocommCloseSession s, ⟨0, [], none⟩)
  | .req e epName inbuf => some (protocommReqHandle e s epName inbuf)

def machine : Core.Machine (Session σ C W) PcOp Reply := ⟨Session.step⟩

abbrev PcEntry (σ C W : Type) := Core.Entry (Session σ C W) PcOp Reply

/-- Same endpoints, scheme, proof of possession and version. -/
def SameConfig (s s' : Session σ C W) : Prop := s'.pc = { s.pc with secCtx := s'.pc.secCtx }

theorem SameConfig.refl (s : Session σ C W) : SameConfig s s := rfl

theorem SameConfig.setCtx (s : Session σ C W) (c : Option C) : SameConfig s (s.setCtx c) := rfl

theorem SameConfig.trans {a b c : Session σ C W} (h₁ : SameConfig a b) (h₂ : SameConfig b c) :
    SameConfig a c := by
  unfold SameConfig at *
  rw [h₂, h₁]

theorem runHandler_config {sec : ProtocommSecurity C W} {e : ReqEnv} {s s' : Session σ C W}
    {name : CStr} {handler : ReqHandler σ} {plain : Bytes} {r : Reply}
    (h : runHandler sec e s name handler plain = (s', r)) : SameConfig s s' := by
  unfold runHandler at h
  dsimp only at h
  split at h
  · cases h; rfl
  split at h
  · cases h; rfl
  split at h
  · cases h; rfl
  split at h <;> cases h <;> rfl

theorem handleData_config {sec : ProtocommSecurity C W} {e : ReqEnv} {s s' : Session σ C W}
    {name : CStr} {handler : ReqHandler σ} {inbuf : Bytes} {r : Reply}
    (h : handleData sec e s name handler inbuf = (s', r)) : SameConfig s s' := by
  rcases handleData_cases h with ⟨-, -, rfl, -⟩ | ⟨-, -, ret, c, -, rfl, -⟩ | ⟨plain, s₁, hd, hr⟩
  · rfl
  · rfl
  · have h₁ : SameConfig s s₁ := by
      cases hd with
      | empty => rfl
      | decrypt => rfl
    exact h₁.trans (runHandler_config hr)

theorem closeSession_config (s : Session σ C W) : SameConfig s (protocommCloseSession s) := by
  unfold protocommCloseSession
  split
  · split <;> rfl
  · rfl

theorem openSession_config (e : Env) (s : Session σ C W) : SameConfig s (protocommOpenSession e s) := by
  unfold protocommOpenSession
  split
  · rfl
  dsimp only
  split
  · exact closeSession_config s
  · split <;> exact (closeSession_config s).trans rfl

/-- No operation touches the endpoint table, the scheme or the PoP. -/
theorem Session.step_config {s s' : Session σ C W} {l : PcOp} {r : Reply}
    (h : s.step l = some (s', r)) : SameConfig s s' := by
  cases l with
  | openSession e => cases h; exact openSession_config e s
  | closeSession => cases h; exact closeSession_config s
  | req e epName inbuf =>
    simp only [Session.step, Option.some.injEq] at h
    rcases reqHandle_cases h with ⟨rfl, -⟩ | ⟨n, sec, hs, o, c, w, -, -, -, -, -, rfl, -⟩ |
        ⟨n, hd, sec, c, -, -, -, -, hh⟩
    · rfl
    · rfl
    · exact handleData_config hh

theorem closeSession_app (s : Session σ C W) : (protocommCloseSession s).app = s.app := by
  unfold protocommCloseSession
  split
  · split <;> rfl
  · rfl

theorem openSession_app (e : Env) (s : Session σ C W) : (protocommOpenSession e s).app = s.app := by
  unfold protocommOpenSession
  split
  · rfl
  dsimp only
  split
  · exact closeSession_app s
  · split <;> exact closeSession_app s

/-- Only handlers of data endpoints change the application's state. -/
theorem Session.step_app {s s' : Session σ C W} {l : PcOp} {r : Reply} (h : s.step l = some (s', r)) :
    s'.app = s.app ∨
    ∃ name handler plain, DataEp s.pc name handler ∧ s'.app = (handler s.app plain).1 := by
  cases l with
  | openSession e => cases h; exact .inl (openSession_app e s)
  | closeSession => cases h; exact .inl (closeSession_app s)
  | req e epName inbuf =>
    simp only [Session.step, Option.some.injEq] at h
    rcases reqHandle_cases h with ⟨rfl, -⟩ | ⟨n, sec, hs, o, c, w, -, -, -, -, -, rfl, -⟩ |
        ⟨n, hd, sec, c, -, hep, -, -, hh⟩
    · exact .inl rfl
    · exact .inl rfl
    · exact (handleData_app hh).imp id fun ⟨plain, hp⟩ => ⟨n, hd, plain, hep, hp⟩

theorem openSession_init {e : Env} {s : Session σ C W} {sec : ProtocommSecurity C W}
    {init : Env → W → Option CStr → Except Int C × W}
    (hs : s.pc.sec = some sec) (hi : sec.init = some init) :
    (protocommOpenSession e s).pc.secCtx = none ∨
    ∃ w c w', init e w s.pc.pop = (.ok c, w') ∧ (protocommOpenSession e s).pc.secCtx = some c := by
  have hc : (protocommCloseSession s).pc.pop = s.pc.pop := by rw [closeSession_config s]
  unfold protocommOpenSession
  rw [hs]
  dsimp only
  rw [hi]
  dsimp only
  rw [hc]
  split
  · exact .inl rfl
  · rename_i c w' hok
    exact .inr ⟨_, c, w', hok, rfl⟩

theorem closeSession_none {s : Session σ C W} {sec : ProtocommSecurity C W} (hs : s.pc.sec = some sec) :
    (protocommCloseSession s).pc.secCtx = none := by
  unfold protocommCloseSession
  split
  · split <;> rfl
  · rename_i h
    cases hc : s.pc.secCtx with
    | none => rfl
    | some c => exact absurd hc (h sec c hs)

end Protocomm

end NetworkProv
