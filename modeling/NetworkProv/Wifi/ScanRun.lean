import NetworkProv.Scan.Handler
import NetworkProv.Wifi.Scan

/-!
# The Wi-Fi scan handler in runs

`wifiScan_lawful`: the functions of `src/wifi_scan_handler.c` do to the entries
what a cache filled by sweeps does, and pages are read from it.
-/
namespace NetworkProv.Wifi
open NetworkProv.Core NetworkProv.Scan

theorem ssid_le (r : WifiScanResult) : (r.ssid.take SSID_MAX).length ≤ SSID_MAX := List.length_take_le _ _

/-- The entry that a result becomes. -/
def entryOf (r : WifiScanResult) : ScanEntry where
  ssid := ⟨r.ssid.take SSID_MAX, ssid_le r⟩
  bssid := r.mac
  channel := r.channel
  rssi := r.rssi
  auth := authFromZephyr r.security

/-- Without an interface no request is made of the driver. -/
def scanDrives (e : ScanEnv) : Option NetworkScanReq → SweepOp ScanEntry
  | some (.cmdScanWifiStart _) =>
    if !e.iface then .look else if e.scanRet ≠ 0 then .refuse else .accept
  | _ => .look

/-- What a client learns from a response: the status with the number of results, or a page. -/
def scanSeen : Option NetworkScanReq → ScanResp → Option (Seen ScanEntry)
  | _, .respScanWifiStatus finished count => some (.status finished count)
  | some (.cmdScanWifiResult start want), .respScanWifiResult entries => some (.page start want entries)
  | _, _ => none

def isScanStart : Option NetworkScanReq → Bool
  | some (.cmdScanWifiStart _) => true
  | _ => false

/-- The handler, by its functions and by what they stand for. -/
def wifiScan (maxEntries : Nat) : ScanHandler Sc ScanEnv NetworkScanReq ScanResp WifiScanResult ScanEntry where
  handle := networkProvWifiScanHandler
  waitEnds := scanWaitEnds
  onResult := onScanResult maxEntries
  onDone := onScanDone
  entries := Sc.entries
  finished := Sc.finished
  blocked := Sc.blocked
  isStart := isScanStart
  drives := scanDrives
  entryOf := entryOf
  seen := scanSeen
  resultReq := .cmdScanWifiResult
  encodes e := e.encodeRet = 0

/-- The loop of a page request reads the page. -/
theorem page_eq_scPage (sc : Sc) (start want : Nat) :
    sc.page start want = Core.page RESULT_PAGE sc.entries start want := (page_eq ..).symm

/-- A start does to the cache what the driver's answer makes it. -/
theorem wifi_handle {maxEntries : Nat} (e : ScanEnv) (req : Option NetworkScanReq) (s : ScanWorld Sc) :
    Sweep.step maxEntries ((wifiScan maxEntries).cache s) (scanDrives e req) =
      some ((wifiScan maxEntries).cache ⟨(networkProvWifiScanHandler e req s.sc).2,
        (wifiScan maxEntries).runningAfter e req s.running⟩, ()) := by
  match req with
  | none => rfl
  | some .cmdScanWifiStatus => rfl
  | some (.cmdScanWifiResult _ _) => rfl
  | some .other => rfl
  | some (.cmdScanWifiStart blocking) =>
    unfold networkProvWifiScanHandler doScanStart ScanHandler.runningAfter ScanHandler.cache wifiScan scanDrives
    cases hi : e.iface with
    | false => simp [Sweep.step, hi]
    | true =>
      by_cases hr : e.scanRet = 0
      · cases blocking <;> simp [Sweep.step, hi, hr]
      · simp [Sweep.step, hi, hr]

/-- The end of a wait leaves the entries to the sweep. -/
theorem wifi_waitEnds {timedOut : Bool} {encodeRet : Int} {sc : Sc}
    {r : (Int × Option ScanResp) × Sc} (h : scanWaitEnds timedOut encodeRet sc = some r) :
    r.2.entries = sc.entries ∧ r.2.finished = sc.finished := by
  unfold scanWaitEnds at h
  split at h
  · cases h
  split at h
  · cases h; exact ⟨rfl, rfl⟩
  split at h
  · cases h
  · cases h; exact ⟨rfl, rfl⟩

/-- What is shown is what the cache holds, and a request that shows something starts nothing. -/
theorem wifi_shows {maxEntries : Nat} {e : ScanEnv} {req : Option NetworkScanReq} {s : ScanWorld Sc}
    {n : Int} {resp : ScanResp} {x : Seen ScanEntry}
    (h : (networkProvWifiScanHandler e req s.sc).1 = some (n, some resp)) (hx : scanSeen req resp = some x) :
    View.Shows RESULT_PAGE ((wifiScan maxEntries).cache s) x ∧ scanDrives e req = .look := by
  match req with
  | none => cases h
  | some .other => cases h
  | some .cmdScanWifiStatus =>
    rw [pbEncodeMsg_some (Option.some.inj h)] at hx
    cases hx
    exact ⟨⟨rfl, rfl⟩, rfl⟩
  | some (.cmdScanWifiResult start want) =>
    rw [pbEncodeMsg_some (Option.some.inj h)] at hx
    cases hx
    exact ⟨page_eq_scPage s.sc start want, rfl⟩
  | some (.cmdScanWifiStart blocking) =>
    unfold networkProvWifiScanHandler at h
    dsimp only at h
    split at h
    · cases h
    · rw [pbEncodeMsg_some (Option.some.inj h)] at hx
      cases hx

/-- **The handler is a cache of sweeps**: it keeps to the rules of a `ScanHandler`, with room for
`maxEntries` and pages of `RESULT_PAGE`. -/
theorem wifiScan_lawful (maxEntries : Nat) : (wifiScan maxEntries).Lawful maxEntries RESULT_PAGE where
  handle := wifi_handle
  waitEnds _ _ _ _ h := wifi_waitEnds h
  onResult r sc := by
    by_cases hfull : sc.entries.length ≥ maxEntries <;> simp [wifiScan, onScanResult, entryOf, hfull]
  onDone _ := ⟨rfl, rfl⟩
  shows _ _ _ _ _ _ h hx := wifi_shows h hx
  items e req x := by
    change scanDrives e req ≠ .item x
    unfold scanDrives
    split
    · split
      · simp
      · split <;> simp
    · simp
  resultReq start want resp start' want' p h := by
    cases resp <;> cases h
    exact ⟨rfl, rfl⟩
  looks _ _ _ := rfl
  answers e start want sc h := by
    have hret : e.encodeRet = 0 := by simpa [wifiScan] using h
    simp [ScanHandler.ask, wifiScan, networkProvWifiScanHandler, scanEncode, hret, scanSeen]

end NetworkProv.Wifi
