import NetworkProv.Core.CText
import NetworkProv.Core.Slots
import NetworkProv.Protocomm

/-!
# The endpoint tables (`src/network_prov_mgr.c`, `src/protocomm.c`)

The manager's table of custom endpoints, and how a start fills the table of the
protocomm instance: the built-in endpoints, then the custom ones. Of the manager
it has what these functions read. The handlers of the network type, those of the
application and the security schemes are parameters, a `Service`; so is whatever
the calls underneath answer, a `StartEnv`.

`network_prov_mgr_deinit` emits an event in the middle when it stops the service;
the calls that the application makes from there are the steps up to
`deinitReturns`.

Limitations: a call is atomic, and a request handler does not call the manager.
Version JSON and transports are left out: what they answer is part of `StartEnv`.
-/
namespace NetworkProv.Endpoints
open NetworkProv.Core Core.CText Protocomm

variable {A C W H X : Type}

def EP_VERSION : CStr := ⟨ofChars ['p', 'r', 'o', 't', 'o', '-', 'v', 'e', 'r'], by decide⟩
def EP_SESSION : CStr := ⟨ofChars ['p', 'r', 'o', 'v', '-', 's', 'e', 's', 's', 'i', 'o', 'n'], by decide⟩
def EP_SCAN : CStr := ⟨ofChars ['p', 'r', 'o', 'v', '-', 's', 'c', 'a', 'n'], by decide⟩
def EP_CONFIG : CStr := ⟨ofChars ['p', 'r', 'o', 'v', '-', 'c', 'o', 'n', 'f', 'i', 'g'], by decide⟩
def EP_CTRL : CStr := ⟨ofChars ['p', 'r', 'o', 'v', '-', 'c', 't', 'r', 'l'], by decide⟩

/-- mirrors src/network_prov_mgr.c:64-69; the handlers `H` of the application, the
contexts `X`. -/
structure CustomEp (H X : Type) where
  name : CStr
  handler : Option H
  ctx : Option X
  created : Bool

def CustomEp.zero : CustomEp H X := ⟨.empty, none, none, false⟩

/-- What endpoint handlers act on: the manager's table, and the application's state. -/
structure EpApp (A H X : Type) where
  custom : List (CustomEp H X)
  app : A

/-- The handlers of the network type, the application's, and the two schemes. -/
structure Service (A C W H X : Type) where
  scan : ReqHandler A
  config : ReqHandler A
  ctrl : ReqHandler A
  invoke : H → Option X → ReqHandler A
  security0 : ProtocommSecurity C W
  security1 : ProtocommSecurity C W

abbrev Pc (A C W H X : Type) := Protocomm (EpApp A H X) C W

structure World (A C W H X : Type) where
  inited : Bool
  started : Bool
  pc : Option (Pc A C W H X)
  ext : W
  app : EpApp A H X
  /-- calls of `network_prov_mgr_deinit` that are in the callback -/
  deinits : Nat

/-- `n`: `CONFIG_NETWORK_PROV_MAX_CUSTOM_ENDPOINTS`. -/
def World.boot (n : Nat) (ext : W) (app : A) : World A C W H X :=
  ⟨false, false, none, ext, ⟨List.replicate n .zero, app⟩, 0⟩

def World.withCustom (s : World A C W H X) (custom : List (CustomEp H X)) : World A C W H X :=
  { s with app := { s.app with custom := custom } }

/-! ## The manager's table -/

/-- mirrors src/network_prov_mgr.c:256-261 -/
def isBuiltinEp (name : CStr) : Bool :=
  name = EP_VERSION || name = EP_SESSION || name = EP_SCAN || name = EP_CONFIG || name = EP_CTRL

/-- mirrors src/network_prov_mgr.c:263-271 -/
def findCustomEp (custom : List (CustomEp H X)) (name : CStr) : Option Nat :=
  custom.findIdx? fun e => e.created && e.name = name

/-- `strncpy` of all but the last byte, and the NUL after it. -/
def strncpyName (s : CStr) : CStr :=
  ⟨s.chars.take (PROTOCOMM_EP_NAME_MAX - 1), fun h => s.noNul (List.mem_of_mem_take h)⟩

theorem strncpyName_eq {s : CStr} (h : s.chars.length < PROTOCOMM_EP_NAME_MAX) : strncpyName s = s :=
  CStr.ext (List.take_of_length_le (Nat.le_sub_one_of_lt h))

/-- mirrors src/network_prov_mgr.c:287-317 -/
def networkProvMgrEndpointCreate (epName : Option CStr) (s : World A C W H X) : Int × World A C W H X :=
  match epName with
  | none => (-EINVAL, s)
  | some name =>
    if name.chars = [] ∨ name.chars.length ≥ PROTOCOMM_EP_NAME_MAX then (-EINVAL, s)
    else if !s.inited then (-EPERM, s)
    else if s.started then (-EPERM, s)
    else if isBuiltinEp name || (findCustomEp s.app.custom name).isSome then (-EALREADY, s)
    else
      match s.app.custom.findIdx? fun e => !e.created with
      | some i => (0, s.withCustom (s.app.custom.set i ⟨strncpyName name, none, none, true⟩))
      | none => (-ENOSPC, s)

/-- mirrors src/network_prov_mgr.c:319-341 -/
def networkProvMgrEndpointRegister (epName : Option CStr) (handler : Option H) (userCtx : Option X)
    (s : World A C W H X) : Int × World A C W H X :=
  match epName, handler with
  | some name, some h =>
    if !s.started then (-EPERM, s)
    else
      match findCustomEp s.app.custom name with
      | none => (-ENOENT, s)
      | some i =>
        (0, s.withCustom (s.app.custom.modify i fun e => { e with ctx := userCtx, handler := some h }))
  | _, _ => (-EINVAL, s)

/-- mirrors src/network_prov_mgr.c:344-358 -/
def networkProvMgrEndpointUnregister (epName : Option CStr) (s : World A C W H X) :
    Int × World A C W H X :=
  match epName with
  | none => (-EINVAL, s)
  | some name =>
    match findCustomEp s.app.custom name with
    | none => (-ENOENT, s)
    | some i => (0, s.withCustom (s.app.custom.modify i fun e => { e with handler := none, ctx := none }))

/-! ## Handlers -/

/-- A handler that acts on the application's state. -/
def onApp (h : ReqHandler A) : ReqHandler (EpApp A H X) := fun s inbuf =>
  match h s.app inbuf with
  | (app, r) => ({ s with app := app }, r)

/-- A handler with its context, or none. -/
def forward (S : Service A C W H X) : Option (H × Option X) → ReqHandler (EpApp A H X)
  | none => fun s _ => (s, -ENOTSUP, [])
  | some (h, ctx) => onApp (S.invoke h ctx)

def CustomEp.registered (e : CustomEp H X) : Option (H × Option X) := e.handler.map (·, e.ctx)

/-- The handler of the `i`th slot; its `priv` is the slot.
mirrors src/network_prov_mgr.c:276-285 -/
def customTrampoline (S : Service A C W H X) (i : Nat) : ReqHandler (EpApp A H X) := fun s inbuf =>
  forward S ((s.custom[i]?).bind (·.registered)) s inbuf

/-! ## Starting and stopping -/

/-- What the calls made during one start answer; `scheme`: `scheme->start`. -/
structure StartEnv where
  new : Bool
  versionJson : CStr
  scanInit : Int
  configInit : Int
  scheme : Int

/-- `if (ret) return ret;` -/
def check (ret : Int) : Except Int Unit := if ret ≠ 0 then .error ret else .ok ()

/-- mirrors src/network_prov_mgr.c:384-427, for either network type. -/
def netEndpointsInit (S : Service A C W H X) (e : StartEnv) (pc : Pc A C W H X) :
    Except Int (Pc A C W H X) := do
  check e.scanInit
  let pc ← protocommAddEndpoint pc (some EP_SCAN) (onApp S.scan)
  check e.configInit
  let pc ← protocommAddEndpoint pc (some EP_CONFIG) (onApp S.config)
  protocommAddEndpoint pc (some EP_CTRL) (onApp S.ctrl)

/-- The slots from the `i`th on.
mirrors src/network_prov_mgr.c:482-491 -/
def addCustomEndpoints (S : Service A C W H X) :
    Nat → List (CustomEp H X) → Pc A C W H X → Except Int (Pc A C W H X)
  | _, [], pc => .ok pc
  | i, ep :: eps, pc =>
    if !ep.created then addCustomEndpoints S (i + 1) eps pc
    else do
      let pc ← protocommAddEndpoint pc (some ep.name) (customTrampoline S i)
      addCustomEndpoints S (i + 1) eps pc

/-- All the registrations of a start.
mirrors src/network_prov_mgr.c:463-491 -/
def registerEndpoints (S : Service A C W H X) (security1 : Bool) (pop : Option CStr) (e : StartEnv)
    (custom : List (CustomEp H X)) : Except Int (Pc A C W H X) := do
  let pc ← protocommSetVersion protocommNew (some EP_VERSION) (some e.versionJson)
  let pc ← protocommSetSecurity pc (some EP_SESSION)
    (some (if security1 then S.security1 else S.security0)) (if security1 then pop else none)
  let pc ← netEndpointsInit S e pc
  addCustomEndpoints S 0 custom pc

/-- mirrors src/network_prov_mgr.c:439-508 -/
def networkProvMgrStartProvisioning (S : Service A C W H X) (security1 : Bool) (pop : Option CStr)
    (e : StartEnv) (s : World A C W H X) : Int × World A C W H X :=
  if !s.inited then (-EPERM, s)
  else if s.started then (-EALREADY, s)
  else if !e.new then (-ENOMEM, { s with pc := none })
  else
    match registerEndpoints S security1 pop e s.app.custom with
    | .error ret => (ret, { s with pc := none })
    | .ok pc =>
      if e.scheme ≠ 0 then (e.scheme, { s with pc := none })
      else (0, { s with started := true, pc := some pc })

/-- mirrors src/network_prov_mgr.c:510-521 -/
def doTeardown (s : World A C W H X) : World A C W H X :=
  match s.started, s.pc with
  | false, _ => s
  | true, none => { s with started := false }
  | true, some pc =>
    match protocommDelete ⟨pc, s.ext, s.app⟩ with
    | (ext, app) => { s with started := false, pc := none, ext := ext, app := app }

/-- `valid`: the configuration names a scheme with its functions; `settings`: what the
settings subsystem answers. mirrors src/network_prov_mgr.c:93-130 -/
def networkProvMgrInit (valid : Bool) (settings : Int) (s : World A C W H X) : Int × World A C W H X :=
  if s.inited then (-EALREADY, s)
  else if !valid then (-EINVAL, s)
  else
    let s := s.withCustom (s.app.custom.map fun _ => .zero)
    if settings ≠ 0 then (settings, s) else (0, { s with inited := true })

/-- Up to the event it emits, if it stops the service.
mirrors src/network_prov_mgr.c:132-146 -/
def networkProvMgrDeinit (s : World A C W H X) : World A C W H X :=
  if !s.inited then s
  else if s.started then { doTeardown s with deinits := s.deinits + 1 }
  else { s with inited := false }

/-! ## The machine -/

inductive Op (A H X : Type)
  | init (valid : Bool) (settings : Int)
  | deinit
  /-- a call of `deinit` returns from the callback -/
  | deinitReturns
  | create (epName : Option CStr)
  | register (epName : Option CStr) (handler : Option H) (userCtx : Option X)
  | unregister (epName : Option CStr)
  | start (security1 : Bool) (pop : Option CStr) (e : StartEnv)
  | teardown
  /-- a session or a request of the instance -/
  | pc (op : PcOp)
  /-- whatever else the application's state goes through -/
  | other (app : A)

/-- The return value, and the reply to a request. -/
abbrev Out := Int × Option Reply

def step (S : Service A C W H X) (s : World A C W H X) : Op A H X → Option (World A C W H X × Out)
  | .init valid settings =>
    match networkProvMgrInit valid settings s with
    | (ret, s) => some (s, (ret, none))
  | .deinit => some (networkProvMgrDeinit s, (0, none))
  | .deinitReturns =>
    if s.deinits = 0 then none else some ({ s with inited := false, deinits := s.deinits - 1 }, (0, none))
  | .create epName =>
    match networkProvMgrEndpointCreate epName s with
    | (ret, s) => some (s, (ret, none))
  | .register epName handler userCtx =>
    match networkProvMgrEndpointRegister epName handler userCtx s with
    | (ret, s) => some (s, (ret, none))
  | .unregister epName =>
    match networkProvMgrEndpointUnregister epName s with
    | (ret, s) => some (s, (ret, none))
  | .start security1 pop e =>
    match networkProvMgrStartProvisioning S security1 pop e s with
    | (ret, s) => some (s, (ret, none))
  | .teardown => some (doTeardown s, (0, none))
  | .pc op =>
    s.pc.bind fun pc => (Session.step ⟨pc, s.ext, s.app⟩ op).map fun r =>
      ({ s with pc := some r.1.pc, ext := r.1.ext, app := r.1.app }, (r.2.ret, some r.2))
  | .other app => some ({ s with app := { s.app with app := app } }, (0, none))

def epMachine (S : Service A C W H X) : Machine (World A C W H X) (Op A H X) Out := ⟨step S⟩

end NetworkProv.Endpoints
