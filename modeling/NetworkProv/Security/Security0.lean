import NetworkProv.Protocomm
import NetworkProv.Security.Session

/-!
# Security scheme 0 (`src/security0.c`)

No encryption: a handshake of one command and one response, and data that goes
through as it is. The context is the address of a static variable; nothing reads
it, so it is a value of whatever type contexts have, `sentinel`.

* `reqHandle_plain`: a data request reaches its handler as it was sent, and the
  answer is the handler's.
* `handshake_plain`: the session endpoint answers the command with success.
-/
namespace NetworkProv.Security0
open Session Protocomm

def secScheme0 : Nat := 0
def s0SessionCommand : Nat := 0
def s0SessionResponse : Nat := 1

variable {σ C W : Type}

/-- mirrors src/security0.c:33-38 -/
def sec0Init (sentinel : C) (_e : Env) (w : W) (_pop : Option CStr) : Except Int C × W := (.ok sentinel, w)

/-- mirrors src/security0.c:40-43 -/
def sec0Cleanup (w : W) (_ctx : C) : W := w

/-- mirrors src/tests/protocomm/src/main.c:51-56 -/
def sec0Command : SessionData := ⟨secScheme0, .sec0 ⟨s0SessionCommand, .sc⟩⟩

def sec0Response : SessionData := ⟨secScheme0, .sec0 ⟨s0SessionResponse, .sr statusSuccess⟩⟩

/-- mirrors src/security0.c:45-71 -/
def sec0Handshake (pb : Nanopb) (e : Env) (w : W) (ctx : Option C) (inbuf : Bytes) :
    Except Int Bytes × Option C × W :=
  match pb.decode inbuf with
  | none => (.error (-EINVAL), ctx, w)
  | some req =>
    if req.secVer ≠ secScheme0 then (.error (-EINVAL), ctx, w)
    else (networkProvPbEncode pb e.respAlloc sec0Response, ctx, w)

/-- mirrors src/security0.c:73-80 -/
def sec0Passthrough (_ok : Bool) (ctx : Option C) (inp : Bytes) : Except Int Bytes × Option C :=
  (.ok inp, ctx)

/-- mirrors src/security0.c:82-89 -/
def networkProvSecurity0 (pb : Nanopb) (sentinel : C) : ProtocommSecurity C W where
  version := 0
  init := some (sec0Init sentinel)
  cleanup := some sec0Cleanup
  handshake := some (sec0Handshake pb)
  encrypt := sec0Passthrough
  decrypt := sec0Passthrough

/-- A session is open as soon as it is asked for. -/
theorem openSession_plain {pb : Nanopb} {sentinel : C} {s : Session σ C W}
    (hs : s.pc.sec = some (networkProvSecurity0 pb sentinel)) (e : Env) :
    (protocommOpenSession e s).pc.secCtx = some sentinel := by
  unfold protocommOpenSession
  rw [hs]
  rfl

theorem runHandler_plain (pb : Nanopb) (sentinel : C) (e : Env) (s : Session σ C W) (name : CStr)
    (handler : ReqHandler σ) (msg : Bytes) :
    runHandler (networkProvSecurity0 pb sentinel) (.good e) s name handler msg =
      ({ s with app := (handler s.app msg).1 },
        ⟨(handler s.app msg).2.1, if (handler s.app msg).2.1 = 0 then (handler s.app msg).2.2 else [],
          some ⟨name, msg, (handler s.app msg).2.1, (handler s.app msg).2.2⟩⟩) := by
  generalize ha : handler s.app msg = a
  obtain ⟨app, ret, out⟩ := a
  unfold runHandler
  rw [ha]
  dsimp only
  by_cases hr : ret = 0
  · subst hr
    cases out with
    | nil => rfl
    | cons b out => rfl
  · rw [if_pos hr, if_neg hr]

/-- A data request goes to the handler and back as it is. -/
theorem reqHandle_plain {pb : Nanopb} {sentinel : C} (e : Env) {s : Session σ C W} {name : CStr}
    {handler : ReqHandler σ} (hs : s.pc.sec = some (networkProvSecurity0 pb sentinel))
    (ho : s.pc.secCtx.isSome) (hep : DataEp s.pc name handler) (msg : Bytes) :
    protocommReqHandle (.good e) s (some name) msg =
      ({ s with app := (handler s.app msg).1 },
        ⟨(handler s.app msg).2.1, if (handler s.app msg).2.1 = 0 then (handler s.app msg).2.2 else [],
          some ⟨name, msg, (handler s.app msg).2.1, (handler s.app msg).2.2⟩⟩) := by
  obtain ⟨c, hc⟩ := Option.isSome_iff_exists.1 ho
  have hreq : protocommReqHandle (.good e) s (some name) msg =
      handleData (networkProvSecurity0 pb sentinel) (.good e) s name handler msg := by
    unfold DataEp at hep
    simp [protocommReqHandle, hep, hs, hc]
  rw [hreq]
  cases msg with
  | nil => exact runHandler_plain pb sentinel e s name handler []
  | cons b msg => exact runHandler_plain pb sentinel e s name handler (b :: msg)

/-- The command is answered with success, in whatever state the session is. -/
theorem handshake_plain {pb : Nanopb} {sentinel : C} (e : Env) {s : Session σ C W} {name : CStr} {msg out : Bytes}
    (hs : s.pc.sec = some (networkProvSecurity0 pb sentinel)) (hep : SecurityEp s.pc name)
    (hm : pb.decode msg = some sec0Command) (ho : pb.encode sec0Response = some out) (ha : e.respAlloc = true) :
    protocommReqHandle (.good e) s (some name) msg = (s, ⟨0, out, none⟩) := by
  have hh : sec0Handshake pb e s.ext s.pc.secCtx msg = (.ok out, s.pc.secCtx, s.ext) := by
    simp [sec0Handshake, hm, sec0Command, networkProvPbEncode, ho, ha]
  unfold SecurityEp at hep
  simp only [protocommReqHandle, hep, hs, Option.bind_some, networkProvSecurity0, ReqEnv.good, hh]
  rfl

end NetworkProv.Security0
