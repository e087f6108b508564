import NetworkProv.Wifi.Config

/-!
# The Wi-Fi scan handler (`src/wifi_scan_handler.c`)

The functions of the `prov-scan` endpoint over their static state `sc`. Of the
array of entries only the first `count` are ever read; they are the list
`entries`. A blocking `CmdScanWifiStart` is two steps: the request, which may
leave a thread waiting for the semaphore (`blocked`), and the end of the wait.

Limitations: the remaining fields of a start request, which the handler does
not read, are left out.
-/
namespace NetworkProv.Wifi

/-- `RespScanWifiResult.entries` holds so many. -/
abbrev RESULT_PAGE := 4

/-- `enum wifi_security_type`, as `auth_from_zephyr` tells its values apart. -/
inductive ScanSecurity
  | none
  | wep
  | psk
  | pskSha256
  | sae
  | wpaPsk
  | other
  deriving DecidableEq

inductive WifiAuthMode
  | open_
  | wep
  | wpaPsk
  | wpa2Psk
  | wpa3Psk
  deriving DecidableEq

/-- The members of `struct wifi_scan_result` that are read. -/
structure WifiScanResult where
  ssid : Bytes
  mac : Buf WIFI_MAC_ADDR_LEN
  channel : UInt8
  rssi : Int
  security : ScanSecurity
  deriving DecidableEq

/-- mirrors src/wifi_scan_handler.c:27-33 -/
structure ScanEntry where
  ssid : UpTo SSID_MAX
  bssid : Buf WIFI_MAC_ADDR_LEN
  channel : UInt8
  rssi : Int
  auth : WifiAuthMode
  deriving DecidableEq

/-- mirrors src/wifi_scan_handler.c:35-48; `doneSem`: the count of `scan_done_sem`. -/
structure Sc where
  entries : List ScanEntry
  finished : Bool
  cbRegistered : Bool
  doneSem : Nat
  blocked : Bool
  deriving DecidableEq

def Sc.boot : Sc := ⟨[], false, false, 0, false⟩

/-- mirrors src/wifi_scan_handler.c:52-71 -/
def authFromZephyr : ScanSecurity → WifiAuthMode
  | .none => .open_
  | .wep => .wep
  | .psk => .wpa2Psk
  | .pskSha256 => .wpa2Psk
  | .sae => .wpa3Psk
  | .wpaPsk => .wpaPsk
  | .other => .wpa2Psk

/-- `maxEntries`: `CONFIG_NETWORK_PROV_SCAN_MAX_ENTRIES`.
mirrors src/wifi_scan_handler.c:73-89 -/
def onScanResult (maxEntries : Nat) (r : WifiScanResult) (sc : Sc) : Sc :=
  if sc.entries.length ≥ maxEntries then sc
  else
    { sc with entries := sc.entries ++
        [{ ssid := ⟨r.ssid.take SSID_MAX, List.length_take_le _ _⟩, bssid := r.mac,
           channel := r.channel, rssi := r.rssi, auth := authFromZephyr r.security }] }

/-- `NET_EVENT_WIFI_SCAN_DONE` in `mgmt_event`.
mirrors src/wifi_scan_handler.c:99-103 -/
def onScanDone (sc : Sc) : Sc := { sc with finished := true, doneSem := 1 }

/-- mirrors src/wifi_scan_handler.c:109-119 -/
def networkProvWifiScanInit (sc : Sc) : Sc := { sc with cbRegistered := true }

/-- mirrors src/wifi_scan_handler.c:121-127 -/
def networkProvWifiScanDeinit (sc : Sc) : Sc := { sc with cbRegistered := false }

/-- What the calls made during one request answer; `encodeRet`: what encoding returns. -/
structure ScanEnv where
  iface : Bool
  scanRet : Int
  encodeRet : Int

/-- mirrors src/wifi_scan_handler.c:129-149 -/
def doScanStart (e : ScanEnv) (sc : Sc) : Status × Sc :=
  if !e.iface then (.internalError, sc)
  else
    let sc := { sc with entries := [], finished := false }
    if e.scanRet ≠ 0 then (.internalError, { sc with finished := true })
    else (.success, sc)

/-- A decoded request; a start carries `blocking`, false if its payload is another's. -/
inductive NetworkScanReq
  | cmdScanWifiStart (blocking : Bool)
  | cmdScanWifiStatus
  | cmdScanWifiResult (startIndex count : Nat)
  | other
  deriving DecidableEq

inductive ScanResp
  | respScanWifiStart (status : Status)
  | respScanWifiStatus (scanFinished : Bool) (resultCount : Nat)
  | respScanWifiResult (entries : List ScanEntry)
  deriving DecidableEq

/-- mirrors src/pb_util.c:13-38, up to the bytes. -/
def scanEncode (encodeRet : Int) (r : ScanResp) : Int × Option ScanResp :=
  if encodeRet ≠ 0 then (encodeRet, none) else (0, some r)

/-- The entries of one result response.
mirrors src/wifi_scan_handler.c:213-235 -/
def Sc.page (sc : Sc) (startIndex count : Nat) : List ScanEntry :=
  (sc.entries.drop startIndex).take (min RESULT_PAGE count)

/-- The answer, or `none` for a start that waits for the end of the scan.
mirrors src/wifi_scan_handler.c:163-242 -/
def networkProvWifiScanHandler (e : ScanEnv) (req : Option NetworkScanReq) (sc : Sc) :
    Option (Int × Option ScanResp) × Sc :=
  match req with
  | none => (some (-EINVAL, none), sc)
  | some (.cmdScanWifiStart blocking) =>
    match doScanStart e { sc with doneSem := 0 } with
    | (s, sc) =>
      if s = .success ∧ blocking then (none, { sc with blocked := true })
      else (some (scanEncode e.encodeRet (.respScanWifiStart s)), sc)
  | some .cmdScanWifiStatus =>
    (some (scanEncode e.encodeRet (.respScanWifiStatus sc.finished sc.entries.length)), sc)
  | some (.cmdScanWifiResult startIndex count) =>
    (some (scanEncode e.encodeRet (.respScanWifiResult (sc.page startIndex count))), sc)
  | some .other => (some (-ENOTSUP, none), sc)

/-- The end of the wait of a blocking start: the semaphore, or the timeout.
mirrors src/wifi_scan_handler.c:193-203 -/
def scanWaitEnds (timedOut : Bool) (encodeRet : Int) (sc : Sc) :
    Option ((Int × Option ScanResp) × Sc) :=
  if !sc.blocked then none
  else if timedOut then
    some (scanEncode encodeRet (.respScanWifiStart .internalError), { sc with blocked := false })
  else if sc.doneSem = 0 then none
  else
    some (scanEncode encodeRet (.respScanWifiStart .success),
      { sc with doneSem := sc.doneSem - 1, blocked := false })

theorem onScanResult_cbRegistered (maxEntries : Nat) (r : WifiScanResult) (sc : Sc) :
    (onScanResult maxEntries r sc).cbRegistered = sc.cbRegistered := by
  unfold onScanResult
  split <;> rfl

theorem doScanStart_cbRegistered (e : ScanEnv) (sc : Sc) :
    (doScanStart e sc).2.cbRegistered = sc.cbRegistered := by
  unfold doScanStart
  split
  · rfl
  · dsimp only
    split <;> rfl

theorem scanHandler_cbRegistered (e : ScanEnv) (req : Option NetworkScanReq) (sc : Sc) :
    (networkProvWifiScanHandler e req sc).2.cbRegistered = sc.cbRegistered := by
  match req with
  | none => rfl
  | some .cmdScanWifiStatus => rfl
  | some (.cmdScanWifiResult _ _) => rfl
  | some .other => rfl
  | some (.cmdScanWifiStart blocking) =>
    have h := doScanStart_cbRegistered e { sc with doneSem := 0 }
    unfold networkProvWifiScanHandler
    dsimp only
    split <;> exact h

theorem scanWaitEnds_cbRegistered {timedOut : Bool} {encodeRet : Int} {sc : Sc}
    {r : (Int × Option ScanResp) × Sc} (h : scanWaitEnds timedOut encodeRet sc = some r) :
    r.2.cbRegistered = sc.cbRegistered := by
  unfold scanWaitEnds at h
  split at h
  · cases h
  split at h
  · cases h; rfl
  split at h
  · cases h
  · cases h; rfl

/-- The request makes the driver start a scan. -/
def ScanEnv.accepted (e : ScanEnv) (req : Option NetworkScanReq) : Bool :=
  match req with
  | some (.cmdScanWifiStart _) => e.iface && e.scanRet = 0
  | _ => false

end NetworkProv.Wifi
