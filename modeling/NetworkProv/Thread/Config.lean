import NetworkProv.Wifi.Config

/-!
# The Thread handlers (`src/thread_config_handler.c`, `src/thread_ctrl_handler.c`)

The functions of the `prov-config` and `prov-ctrl` endpoints of a Thread build
and the manager calls that lead to them, over the static `tc`, the Active
Operational Dataset that OpenThread has committed, and the events emitted, in
order. Requests are taken as decoded (`none`: the decoding failed), responses
before encoding.

OpenThread is not part of the repository. Of its state only the committed
dataset is kept: a successful `otDatasetSetActiveTlvs` replaces it, a
successful `otInstanceErasePersistentInfo` removes it. What the calls answer,
and the role the node has, is an `OtEnv`.

Limitations: a call is atomic, and the application's event callback does not
call back into the service.
-/
namespace NetworkProv.Thread

open NetworkProv.Wifi (Status CredFailReason CredEvent UpTo)

abbrev OT_OPERATIONAL_DATASET_MAX_LENGTH := 254

/-- `otOperationalDatasetTlvs` -/
abbrev DatasetTlvs := UpTo OT_OPERATIONAL_DATASET_MAX_LENGTH

inductive OtDeviceRole
  | disabled
  | detached
  | child
  | router
  | leader
  deriving DecidableEq

inductive ThreadNetworkState
  | attached
  | attaching
  | dettached
  | attachingFailed
  deriving DecidableEq

inductive ThreadAttachFailedReason
  | datasetInvalid
  | threadNetworkNotFound
  deriving DecidableEq

/-- mirrors src/thread_config_handler.c:43-59; `attachTimeout`: the timer is armed. -/
structure Tc where
  dataset : DatasetTlvs
  datasetStaged : Bool
  state : ThreadNetworkState
  failReason : ThreadAttachFailedReason
  pending : Nat
  cbRegistered : Bool
  attachTimeout : Bool
  deriving DecidableEq

/-- `tc` all zero, as `memset` leaves it. -/
def Tc.zero : Tc := ⟨UpTo.zero _, false, .attached, .datasetInvalid, 0, false, false⟩

/-- The members of `ThreadAttachState`, and what OpenThread reports for them. -/
structure ThreadAttachState where
  panId : Nat
  channel : Nat
  extPanId : Buf 8
  name : Bytes
  deriving DecidableEq

/-- `OT_NETWORK_NAME_MAX_SIZE` -/
abbrev NETWORK_NAME_MAX := 16

/-- What the calls made during one operation answer: 0 is `OT_ERROR_NONE`. -/
structure OtEnv where
  setActiveTlvs : Int
  setEnabled : Int
  role : OtDeviceRole
  erasePersistentInfo : Int
  link : ThreadAttachState
  encodeRet : Int

/-- What a call finds and leaves, with the events so far; `active`: the
committed dataset. -/
structure CallState where
  tc : Tc
  active : Option DatasetTlvs
  events : List CredEvent

/-- mirrors src/network_prov_mgr.c:75-91, up to the manager. -/
def CallState.emit (s : CallState) (e : CredEvent) : CallState := { s with events := s.events ++ [e] }

/-- `atomic_cas`: whether the value was `old`, and the value after. -/
def atomicCas (v old new : Nat) : Bool × Nat := if v = old then (true, new) else (false, v)

/-- mirrors src/thread_config_handler.c:61-65 -/
def roleIsAttached : OtDeviceRole → Bool
  | .child | .router | .leader => true
  | .disabled | .detached => false

/-- mirrors src/thread_config_handler.c:71-80 -/
def onAttached (s : CallState) : CallState :=
  match atomicCas s.tc.pending 1 0 with
  | (false, _) => s
  | (true, pending) =>
    ({ s with tc := { s.tc with pending := pending, state := .attached, attachTimeout := false } }).emit
      .credSuccess

/-- mirrors src/thread_config_handler.c:86-100 -/
def attachTimeoutFn (s : CallState) : CallState :=
  match atomicCas s.tc.pending 1 0 with
  | (false, _) => s
  | (true, pending) =>
    ({ s with tc := { s.tc with pending := pending, state := .attachingFailed,
                                failReason := .threadNetworkNotFound } }).emit
      (.credFail .wifiNetworkNotFound)

/-- `roleChanged`: the flags have `OT_CHANGED_THREAD_ROLE`.
mirrors src/thread_config_handler.c:102-115 -/
def otStateChanged (roleChanged : Bool) (role : OtDeviceRole) (s : CallState) : CallState :=
  if !roleChanged then s else if roleIsAttached role then onAttached s else s

/-- `ret`: what registering the callback answers.
mirrors src/thread_config_handler.c:117-132 -/
def networkProvThreadConfigInit (ret : Int) : Int × Tc :=
  let tc := { Tc.zero with state := .dettached }
  if ret ≠ 0 then (ret, tc) else (0, { tc with cbRegistered := true })

/-- mirrors src/thread_config_handler.c:134-141 -/
def networkProvThreadConfigDeinit (tc : Tc) : Tc := { tc with attachTimeout := false, cbRegistered := false }

/-- mirrors src/thread_config_handler.c:143-154 -/
def networkProvThreadConfigReset (tc : Tc) : Tc :=
  { tc with attachTimeout := false, datasetStaged := false, pending := 0, state := .dettached,
            dataset := UpTo.zero _ }

/-- mirrors src/thread_config_handler.c:156-177 -/
def networkProvThreadConfigErase (e : OtEnv) (s : CallState) : Int × CallState :=
  let s := { s with tc := { s.tc with attachTimeout := false, datasetStaged := false, pending := 0,
                                      state := .dettached } }
  if e.erasePersistentInfo ≠ 0 then (- EIO, s) else (0, { s with active := none })

/-- What `do_apply_config` does once it has asked OpenThread; `err`: its answer.
mirrors src/thread_config_handler.c:208-240 -/
def applied (e : OtEnv) (err : Int) (s : CallState) : CallState :=
  if err ≠ 0 then
    (({ s with tc := { s.tc with state := .attachingFailed, failReason := .datasetInvalid } }).emit
      .credRecv).emit (.credFail .wifiAuthError)
  else
    let s := s.emit .credRecv
    let s := { s with tc := { s.tc with state := .attaching, pending := 1 } }
    if roleIsAttached e.role then onAttached s
    else { s with tc := { s.tc with attachTimeout := true } }

/-- mirrors src/thread_config_handler.c:191-241 -/
def doApplyConfig (e : OtEnv) (s : CallState) : Status × CallState :=
  if !s.tc.datasetStaged then (.invalidArgument, s)
  else if e.setActiveTlvs ≠ 0 then (.success, applied e e.setActiveTlvs s)
  else (.success, applied e e.setEnabled { s with active := some s.tc.dataset })

/-- mirrors src/thread_config_handler.c:243-253 -/
def doSetConfig (dataset : Bytes) (tc : Tc) : Status × Tc :=
  if h : dataset.length = 0 ∨ dataset.length > OT_OPERATIONAL_DATASET_MAX_LENGTH then
    (.invalidArgument, tc)
  else (.success, { tc with dataset := ⟨dataset, by omega⟩, datasetStaged := true })

/-- mirrors src/thread_config_handler.c:255-264 -/
def networkProvThreadConfigSetAndApply (e : OtEnv) (dataset : Option Bytes) (s : CallState) :
    Int × CallState :=
  match dataset with
  | none => (-EINVAL, s)
  | some d =>
    if h : d.length = 0 ∨ d.length > OT_OPERATIONAL_DATASET_MAX_LENGTH then (-EINVAL, s)
    else
      match doApplyConfig e { s with tc := { s.tc with dataset := ⟨d, by omega⟩,
                                                       datasetStaged := true } } with
      | (st, s) => (if st = .success then 0 else - EIO, s)

/-- mirrors src/thread_config_handler.c:266-286 -/
def fillAttachedState (e : OtEnv) : ThreadAttachState :=
  { e.link with name := e.link.name.take NETWORK_NAME_MAX }

inductive ThreadStatusOneof
  | unset
  | threadFailReason (r : ThreadAttachFailedReason)
  | threadAttached (a : ThreadAttachState)
  deriving DecidableEq

structure RespGetThreadStatus where
  status : Status
  threadState : ThreadNetworkState
  state : ThreadStatusOneof
  deriving DecidableEq

/-- mirrors src/thread_config_handler.c:288-308 -/
def getStatus (e : OtEnv) (tc : Tc) : RespGetThreadStatus where
  status := .success
  threadState := tc.state
  state :=
    if tc.state = .attached then .threadAttached (fillAttachedState e)
    else if tc.state = .attachingFailed then .threadFailReason tc.failReason
    else .unset

inductive NetworkConfigReq
  | cmdGetThreadStatus
  | cmdSetThreadConfig (dataset : Bytes)
  | cmdApplyThreadConfig
  | other
  deriving DecidableEq

inductive Resp
  | respGetThreadStatus (r : RespGetThreadStatus)
  | respSetThreadConfig (s : Status)
  | respApplyThreadConfig (s : Status)
  | respCtrlThreadReset
  | respCtrlThreadReprov
  deriving DecidableEq

/-- mirrors src/pb_util.c:13-38, up to the bytes. -/
def pbEncode (e : OtEnv) (r : Resp) : Int × Option Resp :=
  if e.encodeRet ≠ 0 then (e.encodeRet, none) else (0, some r)

/-- mirrors src/thread_config_handler.c:326-356 -/
def networkProvThreadConfigHandler (e : OtEnv) (req : Option NetworkConfigReq) (s : CallState) :
    (Int × Option Resp) × CallState :=
  match req with
  | none => ((-EINVAL, none), s)
  | some (.cmdSetThreadConfig dataset) =>
    match doSetConfig dataset s.tc with
    | (st, tc) => (pbEncode e (.respSetThreadConfig st), { s with tc := tc })
  | some .cmdApplyThreadConfig =>
    match doApplyConfig e s with
    | (st, s) => (pbEncode e (.respApplyThreadConfig st), s)
  | some .cmdGetThreadStatus => (pbEncode e (.respGetThreadStatus (getStatus e s.tc)), s)
  | some .other => ((-ENOTSUP, none), s)

inductive NetworkCtrlReq
  | cmdCtrlThreadReset
  | cmdCtrlThreadReprov
  | other
  deriving DecidableEq

/-- mirrors src/thread_ctrl_handler.c:23-64 -/
def networkProvThreadCtrlHandler (e : OtEnv) (req : Option NetworkCtrlReq) (s : CallState) :
    (Int × Option Resp) × CallState :=
  match req with
  | none => ((-EINVAL, none), s)
  | some .cmdCtrlThreadReset =>
    (pbEncode e .respCtrlThreadReset, { s with tc := networkProvThreadConfigReset s.tc })
  | some .cmdCtrlThreadReprov =>
    (pbEncode e .respCtrlThreadReprov, { s with tc := networkProvThreadConfigReset s.tc })
  | some .other => ((-ENOTSUP, none), s)

/-! ## The manager's calls -/

/-- mirrors src/network_prov_mgr.c:161-171 -/
def networkProvMgrResetProvisioning (inited : Bool) (e : OtEnv) (s : CallState) : Int × CallState :=
  if !inited then (-EPERM, s) else networkProvThreadConfigErase e s

/-- mirrors src/network_prov_mgr.c:577-593, both functions. -/
def networkProvMgrResetSmState (started : Bool) (s : CallState) : Int × CallState :=
  if !started then (-EPERM, s) else (0, { s with tc := networkProvThreadConfigReset s.tc })

/-- `isCommissioned`: `otDatasetIsCommissioned`, which looks at the committed dataset.
mirrors src/thread_config_handler.c:179-186 -/
def networkProvThreadIsCommissioned (isCommissioned : Option DatasetTlvs → Bool) (s : CallState) : Bool :=
  isCommissioned s.active

/-- What a call of `network_prov_mgr_is_provisioned` with a place for the answer
puts there. mirrors src/network_prov_mgr.c:148-159 -/
def networkProvMgrIsProvisioned (isCommissioned : Option DatasetTlvs → Bool) (s : CallState) : Bool :=
  networkProvThreadIsCommissioned isCommissioned s

end NetworkProv.Thread
