import NetworkProv.Wifi.Credentials

/-!
# The Wi-Fi handlers (`src/wifi_config_handler.c`, `src/wifi_ctrl_handler.c`)

The functions of the `prov-config` and `prov-ctrl` endpoints and the manager
calls that lead to them, over the state they share: the static `wc`, the
`wifi_credentials` store, and what the call did, the events emitted and the
connect requests issued, in order. Requests are taken as decoded (`none`: the
decoding failed), responses before encoding.

Limitations: a call is atomic, and the application's event callback does not
call back into the service; `Calls` takes an Apply apart at its callback, between
`applyStore` and `applyConnect`. The attempt counters, `uint32_t` in C, are numbers
(`attempts_within`: no overflow). The band, `mfp` and timeout of a connect
request are constants no one reads and are left out.
-/
namespace NetworkProv.Wifi

abbrev SSID_MAX := 32
abbrev PASS_MAX := 63

/-- `WIFI_CHANNEL_ANY` -/
def WIFI_CHANNEL_ANY : UInt8 := 255

/-- `WIFI_STATUS_CONN_AP_NOT_FOUND` -/
def WIFI_STATUS_CONN_AP_NOT_FOUND : Int := 4

/-- `enum Status`, the values this file answers with. -/
inductive Status
  | success
  | invalidArgument
  | internalError
  deriving DecidableEq

inductive WifiStationState
  | connected
  | connecting
  | disconnected
  | connectionFailed
  deriving DecidableEq

inductive WifiConnectFailedReason
  | authError
  | wifiNetworkNotFound
  deriving DecidableEq

/-- `enum network_prov_cred_fail_reason` -/
inductive CredFailReason
  | wifiAuthError
  | wifiNetworkNotFound
  deriving DecidableEq

/-- The events this file emits. -/
inductive CredEvent
  | credRecv
  | credSuccess
  | credFail (reason : CredFailReason)
  deriving DecidableEq

/-- `uint8_t buf[n + 1]` with its length. -/
abbrev UpTo (n : Nat) := { b : Bytes // b.length ≤ n }

def UpTo.zero (n : Nat) : UpTo n := ⟨[], Nat.zero_le n⟩

/-- The staging fields of `wc`, and its in-flight fields. -/
structure ConnectConf where
  ssid : UpTo SSID_MAX
  pass : UpTo PASS_MAX
  bssid : Buf WIFI_MAC_ADDR_LEN
  hasBssid : Bool
  channel : UInt8
  deriving DecidableEq

/-- mirrors src/wifi_config_handler.c:30-70; `retryWork`: the retry is scheduled. -/
structure Wc where
  staged : ConnectConf
  inflight : ConnectConf
  attemptsMax : Nat
  attemptsCompleted : Nat
  attemptFailed : Bool
  lastConnStatus : Int
  retryWork : Bool
  staState : WifiStationState
  failReason : WifiConnectFailedReason
  cbRegistered : Bool
  deriving DecidableEq

def ConnectConf.zero : ConnectConf :=
  ⟨UpTo.zero _, UpTo.zero _, Buf.zero _, false, 0⟩

/-- `wc` before the first start: all zero. -/
def Wc.boot : Wc :=
  ⟨.zero, .zero, 0, 0, false, 0, false, .connected, .authError, false⟩

/-- The members of `struct wifi_connect_req_params` that depend on the state. -/
structure ConnectReqParams where
  ssid : Bytes
  psk : Option Bytes
  security : WifiSecurityType
  channel : UInt8
  bssid : Buf WIFI_MAC_ADDR_LEN
  deriving DecidableEq

/-- A `NET_REQUEST_WIFI_CONNECT` and its answer. -/
structure ConnectReq where
  params : ConnectReqParams
  ret : Int
  deriving DecidableEq

/-- What a call finds and leaves, with the events and requests so far. -/
structure CallState where
  wc : Wc
  store : WifiCredentials
  events : List CredEvent
  connects : List ConnectReq

/-- The members of `struct wifi_iface_status` that are read. -/
structure WifiIfaceStatus where
  channel : Nat
  ssid : Bytes
  bssid : Buf WIFI_MAC_ADDR_LEN

/-- What the calls made during one call of the handler answer. `staIface`,
`firstWifi`: the interface exists; `replaceRet`: the deletion of the entry that an
Apply replaces; `deleteRet`: that of the entry of a failed attempt; `status`: that of
the station interface; `ip4Addr`: its global address as text; `encodeRet`: what
encoding returns. -/
structure WifiEnv where
  staIface : Bool
  firstWifi : Bool
  replaceRet : Int
  storeRet : Int
  connectRet : Int
  deleteRet : Int
  status : Option WifiIfaceStatus
  ip4Addr : Option Bytes
  encodeRet : Int

/-- The station interface, else the first Wi-Fi interface, is there. -/
def WifiEnv.iface (e : WifiEnv) : Bool := e.staIface || e.firstWifi

def CallState.emitEvent (w : CallState) (ev : CredEvent) : CallState := { w with events := w.events ++ [ev] }

/-- mirrors src/wifi_config_handler.c:72-75, for the staging fields. -/
def securityFromPass (c : ConnectConf) : WifiSecurityType :=
  if c.pass.val.length > 0 then .psk else .none

/-- mirrors src/wifi_config_handler.c:82-90; the BSSID itself stays. -/
def clearInflight (wc : Wc) : Wc :=
  { wc with inflight :=
      { wc.inflight with ssid := UpTo.zero _, pass := UpTo.zero _, hasBssid := false,
                         channel := 0 } }

/-- The request for a snapshot.
mirrors src/wifi_config_handler.c:107-122 -/
def connectParams (c : ConnectConf) : ConnectReqParams where
  ssid := c.ssid.val
  psk := if c.pass.val.length > 0 then some c.pass.val else none
  security := if c.pass.val.length > 0 then .psk else .none
  channel := if c.channel > 0 then c.channel else WIFI_CHANNEL_ANY
  bssid := if c.hasBssid then c.bssid else Buf.zero _

/-- mirrors src/wifi_config_handler.c:96-125 -/
def connectFromInflight (e : WifiEnv) (w : CallState) : Int × CallState :=
  if !e.iface then (- ENODEV, w)
  else
    (e.connectRet,
      { w with connects := w.connects ++ [⟨connectParams w.wc.inflight, e.connectRet⟩] })

/-- The causes reported for a connect status.
mirrors src/wifi_config_handler.c:137-148 -/
def failReasonOf (connStatus : Int) : WifiConnectFailedReason × CredFailReason :=
  if connStatus = WIFI_STATUS_CONN_AP_NOT_FOUND then (.wifiNetworkNotFound, .wifiNetworkNotFound)
  else (.authError, .wifiAuthError)

/-- `deleteRet`: what the deletion answers.
mirrors src/wifi_config_handler.c:130-163 -/
def finalFailure (deleteRet : Int) (w : CallState) : CallState :=
  let (failReason, reason) := failReasonOf w.wc.lastConnStatus
  let wc := { w.wc with staState := .connectionFailed, attemptFailed := false,
                        failReason := failReason }
  let (_, store) := w.store.deleteBySsid deleteRet wc.inflight.ssid.val
  let w := { w with wc := clearInflight wc, store := store }
  w.emitEvent (.credFail reason)

/-- mirrors src/wifi_config_handler.c:170-183 -/
def retryWorkHandler (e : WifiEnv) (w : CallState) : CallState :=
  if w.wc.inflight.ssid.val.length = 0 then w
  else
    match connectFromInflight e w with
    | (ret, w) => if ret ≠ 0 then finalFailure e.deleteRet w else w

/-- `struct wifi_status`. -/
structure WifiStatus where
  status : Int
  connStatus : Int
  deriving DecidableEq

/-- mirrors src/wifi_config_handler.c:185-228 -/
def onConnectResult (st : WifiStatus) (deleteRet : Int) (w : CallState) : CallState :=
  if w.wc.inflight.ssid.val.length = 0 then w
  else if st.status = 0 then
    let wc := clearInflight { w.wc with staState := .connected, attemptFailed := false }
    { w with wc := wc }.emitEvent .credSuccess
  else
    let wc := { w.wc with lastConnStatus := st.connStatus }
    if wc.attemptsMax > 0 then
      let wc := { wc with attemptsCompleted := wc.attemptsCompleted + 1 }
      if wc.attemptsCompleted < wc.attemptsMax then
        -- `k_work_schedule` leaves a scheduled retry as it is
        { w with wc := { wc with attemptFailed := true, staState := .connecting,
                                 retryWork := true } }
      else finalFailure deleteRet { w with wc := wc }
    else finalFailure deleteRet { w with wc := wc }

/-- mirrors src/wifi_config_handler.c:239-253 -/
def networkProvWifiConfigInit (connAttempts : Nat) (wc : Wc) : Wc :=
  { wc with staState := .disconnected, attemptsMax := connAttempts, attemptsCompleted := 0,
            attemptFailed := false, retryWork := false, cbRegistered := true }

/-- mirrors src/wifi_config_handler.c:255-267 -/
def networkProvWifiConfigDeinit (wc : Wc) : Wc :=
  { clearInflight wc with retryWork := false, cbRegistered := false }

/-- mirrors src/wifi_config_handler.c:269-290 -/
def networkProvWifiConfigReset (wc : Wc) : Wc :=
  { clearInflight wc with
    retryWork := false
    staged := { wc.staged with ssid := UpTo.zero _, pass := UpTo.zero _, hasBssid := false,
                               channel := 0 }
    attemptsCompleted := 0
    attemptFailed := false
    staState := .disconnected
    failReason := .authError }

/-- mirrors src/wifi_config_handler.c:292-298 -/
def networkProvWifiConfigRemainingAttempts (wc : Wc) : Nat :=
  if wc.attemptsMax ≤ wc.attemptsCompleted then 0 else wc.attemptsMax - wc.attemptsCompleted

/-- mirrors proto/network_config.proto:31-36; what is read of the payload. -/
structure CmdSetWifiConfig where
  ssid : Bytes
  passphrase : Bytes
  bssid : Bytes
  channel : Int
  deriving DecidableEq

/-- mirrors src/wifi_config_handler.c:307-332 -/
def doSetConfig (cmd : CmdSetWifiConfig) (wc : Wc) : Status × Wc :=
  if hs : cmd.ssid.length = 0 ∨ cmd.ssid.length > SSID_MAX then (.invalidArgument, wc)
  else if hp : cmd.passphrase.length > PASS_MAX then (.invalidArgument, wc)
  else
    (.success,
      { wc with staged :=
          { ssid := ⟨cmd.ssid, by omega⟩
            pass := ⟨cmd.passphrase, by omega⟩
            hasBssid := decide (cmd.bssid.length = WIFI_MAC_ADDR_LEN)
            bssid := if hb : cmd.bssid.length = WIFI_MAC_ADDR_LEN then ⟨cmd.bssid, hb⟩
              else wc.staged.bssid
            channel := UInt8.ofInt cmd.channel } })

/-- What `do_apply_config` stores for the staging fields.
mirrors src/wifi_config_handler.c:355-372 -/
def storedCred (c : ConnectConf) : WifiCred where
  type := securityFromPass c
  bssid := if c.hasBssid then some c.bssid else none
  password := c.pass.val
  flags := if c.hasBssid then WIFI_CREDENTIALS_FLAG_BSSID else 0
  channel := c.channel
  timeout := 0

/-- The snapshot taken of the staging fields.
mirrors src/wifi_config_handler.c:382-397 -/
def snapshot (wc : Wc) : Wc :=
  { wc with
    retryWork := false
    inflight := { wc.staged with
      bssid := if wc.staged.hasBssid then wc.staged.bssid else wc.inflight.bssid }
    attemptsCompleted := 0
    attemptFailed := false }

/-- `do_apply_config` up to the callback for CRED_RECV; `false`: it does not get there.
mirrors src/wifi_config_handler.c:342-378 -/
def applyStore (e : WifiEnv) (w : CallState) : Bool × CallState :=
  if !e.iface then (false, w)
  else
    let (_, store) := w.store.deleteBySsid e.replaceRet w.wc.staged.ssid.val
    match store.setPersonal e.storeRet w.wc.staged.ssid.val (storedCred w.wc.staged) with
    | (ret, store) =>
      let w := { w with store := store }
      if ret ≠ 0 then (false, w) else (true, w.emitEvent .credRecv)

/-- `do_apply_config` from there on.
mirrors src/wifi_config_handler.c:380-422 -/
def applyConnect (e : WifiEnv) (w : CallState) : CallState :=
  let w := { w with wc := snapshot { w.wc with staState := .connecting } }
  match connectFromInflight e w with
  | (ret, w) =>
    if ret ≠ 0 then
      let wc := clearInflight { w.wc with staState := .connectionFailed, failReason := .authError }
      let (_, store) := w.store.deleteBySsid e.deleteRet wc.staged.ssid.val
      let w := { w with wc := wc, store := store }
      w.emitEvent (.credFail .wifiAuthError)
    else w

/-- mirrors src/wifi_config_handler.c:342-423 -/
def doApplyConfig (e : WifiEnv) (w : CallState) : Status × CallState :=
  match applyStore e w with
  | (false, w) => (.internalError, w)
  | (true, w) => (.success, applyConnect e w)

/-- mirrors src/wifi_config_handler.c:425-450; a `NULL` pointer is `none`. -/
def networkProvWifiConfigSetAndApply (e : WifiEnv) (ssid psk : Option Bytes) (pskLen : Nat)
    (w : CallState) : Int × CallState :=
  match ssid with
  | none => (-EINVAL, w)
  | some ssid =>
    if h : ssid.length = 0 ∨ ssid.length > SSID_MAX ∨ pskLen > PASS_MAX ∨
        (pskLen > 0 ∧ psk = none) then (-EINVAL, w)
    else
      let staged : ConnectConf :=
        { w.wc.staged with
          ssid := ⟨ssid, by omega⟩
          pass := ⟨(psk.getD []).take pskLen, (List.length_take_le _ _).trans (by omega)⟩
          hasBssid := false
          channel := 0 }
      match doApplyConfig e { w with wc := { w.wc with staged := staged } } with
      | (status, w) => (if status = .success then 0 else - EIO, w)

/-! ## Status polls and requests -/

/-- mirrors proto/network_constants.proto:26-32; `authMode`: `WPA2_PSK` or the default `Open`. -/
structure WifiConnectedState where
  ip4Addr : Bytes
  authMode : Nat
  ssid : Bytes
  bssid : Bytes
  channel : Nat
  deriving DecidableEq

def wifiAuthModeOpen : Nat := 0
def wifiAuthModeWpa2Psk : Nat := 3

/-- mirrors src/wifi_config_handler.c:452-480 -/
def fillConnectedState (e : WifiEnv) (wc : Wc) : WifiConnectedState :=
  let out : WifiConnectedState := ⟨[], wifiAuthModeOpen, [], [], 0⟩
  let out :=
    match e.staIface, e.status with
    | true, some status =>
      { out with channel := status.channel, authMode := wifiAuthModeWpa2Psk,
                 ssid := status.ssid.take (SSID_MAX + 1), bssid := status.bssid.val }
    | _, _ => { out with ssid := wc.staged.ssid.val }
  match e.staIface, e.ip4Addr with
  | true, some addr => { out with ip4Addr := addr }
  | _, _ => out

inductive WifiStatusOneof
  | unset
  | wifiFailReason (r : WifiConnectFailedReason)
  | wifiConnected (c : WifiConnectedState)
  | attemptFailed (attemptsRemaining : Nat)
  deriving DecidableEq

structure RespGetWifiStatus where
  status : Status
  wifiStaState : WifiStationState
  state : WifiStatusOneof
  deriving DecidableEq

/-- mirrors src/wifi_config_handler.c:482-511 -/
def getStatus (e : WifiEnv) (wc : Wc) : RespGetWifiStatus where
  status := .success
  wifiStaState := wc.staState
  state :=
    if wc.staState = .connected then .wifiConnected (fillConnectedState e wc)
    else if wc.staState = .connectionFailed then .wifiFailReason wc.failReason
    else if wc.staState = .connecting ∧ wc.attemptFailed then
      .attemptFailed (networkProvWifiConfigRemainingAttempts wc)
    else .unset

inductive NetworkConfigReq
  | cmdGetWifiStatus
  | cmdSetWifiConfig (cmd : CmdSetWifiConfig)
  | cmdApplyWifiConfig
  | other
  deriving DecidableEq

inductive Resp
  | respGetWifiStatus (r : RespGetWifiStatus)
  | respSetWifiConfig (s : Status)
  | respApplyWifiConfig (s : Status)
  | respCtrlWifiReset
  | respCtrlWifiReprov
  deriving DecidableEq

/-- mirrors src/pb_util.c:13-38, up to the bytes. -/
def pbEncode (e : WifiEnv) (r : Resp) : Int × Option Resp :=
  if e.encodeRet ≠ 0 then (e.encodeRet, none) else (0, some r)

/-- mirrors src/wifi_config_handler.c:529-560 -/
def networkProvWifiConfigHandler (e : WifiEnv) (req : Option NetworkConfigReq) (w : CallState) :
    (Int × Option Resp) × CallState :=
  match req with
  | none => ((-EINVAL, none), w)
  | some (.cmdSetWifiConfig cmd) =>
    match doSetConfig cmd w.wc with
    | (s, wc) => (pbEncode e (.respSetWifiConfig s), { w with wc := wc })
  | some .cmdApplyWifiConfig =>
    match doApplyConfig e w with
    | (s, w) => (pbEncode e (.respApplyWifiConfig s), w)
  | some .cmdGetWifiStatus => (pbEncode e (.respGetWifiStatus (getStatus e w.wc)), w)
  | some .other => ((-ENOTSUP, none), w)

inductive NetworkCtrlReq
  | cmdCtrlWifiReset
  | cmdCtrlWifiReprov
  | other
  deriving DecidableEq

/-- mirrors src/wifi_ctrl_handler.c:24-63 -/
def networkProvWifiCtrlHandler (e : WifiEnv) (req : Option NetworkCtrlReq) (w : CallState) :
    (Int × Option Resp) × CallState :=
  match req with
  | none => ((-EINVAL, none), w)
  | some .cmdCtrlWifiReset =>
    (pbEncode e .respCtrlWifiReset, { w with wc := networkProvWifiConfigReset w.wc })
  | some .cmdCtrlWifiReprov =>
    (pbEncode e .respCtrlWifiReprov, { w with wc := networkProvWifiConfigReset w.wc })
  | some .other => ((-ENOTSUP, none), w)

/-! ## The manager's calls -/

/-- mirrors src/network_prov_mgr.c:161-182; `ret`, `deleted`: how the store answers. -/
def networkProvMgrResetWifiProvisioning (inited : Bool) (ret : Int) (deleted : List Bytes)
    (w : CallState) : Int × CallState :=
  if !inited then (-EPERM, w)
  else
    match w.store.deleteAll ret deleted with
    | (ret, store) => (ret, { w with store := store })

/-- mirrors src/network_prov_mgr.c:577-593, both functions. -/
def networkProvMgrResetWifiSmState (started : Bool) (w : CallState) : Int × CallState :=
  if !started then (-EPERM, w) else (0, { w with wc := networkProvWifiConfigReset w.wc })

/-- mirrors src/network_prov_mgr.c:595-614 -/
def networkProvMgrConfigureWifiSta (started : Bool) (e : WifiEnv) (ssid psk : Option CStr)
    (w : CallState) : Int × CallState :=
  if !started then (-EPERM, w)
  else
    match ssid with
    | none => (-EINVAL, w)
    | some ssid =>
      if ssid.chars = [] then (-EINVAL, w)
      else
        networkProvWifiConfigSetAndApply e (some ssid.chars) (some (charsOf psk))
          (charsOf psk).length w

end NetworkProv.Wifi
