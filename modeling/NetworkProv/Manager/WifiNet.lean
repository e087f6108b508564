import NetworkProv.Manager.Mgr
import NetworkProv.Wifi.Scan
import NetworkProv.Wifi.World

/-!
# The Wi-Fi handlers under the manager

The `prov-config` and `prov-ctrl` handlers (`World`) and the `prov-scan`
handler, as the manager sets them up and tears them down, and the scan requests
whose end has not been reported. A transport serves one request at a time, so
none is taken while a scan start waits.

* `wifiDevice`: as a device of the manager.
* `inStep_run`: the handlers are set up exactly while the service is started.
-/
namespace NetworkProv.Manager

open NetworkProv.Core NetworkProv.Wifi

structure Net where
  w : World
  sc : Sc
  /-- the accepted scan requests that have not ended -/
  scans : Nat

def Net.boot (store : WifiCredentials) : Net := ⟨.boot store, .boot, 0⟩

/-- mirrors src/network_prov_mgr.c:384-426 -/
def netEndpointsInit (e : NetEpEnv) (attempts : Nat) (net : Net) : Int × Net :=
  let net := { net with sc := networkProvWifiScanInit net.sc }
  if e.scan ≠ 0 then (e.scan, net)
  else
    let net := { net with w := { net.w with wc := networkProvWifiConfigInit attempts net.w.wc } }
    if e.config ≠ 0 then (e.config, net) else (e.ctrl, net)

/-- The handlers once a start has set them up. -/
def Net.started (attempts : Nat) (net : Net) : Net := (netEndpointsInit ⟨0, 0, 0⟩ attempts net).2

theorem netEndpointsInit_ok {e : NetEpEnv} {attempts : Nat} {net net' : Net}
    (h : netEndpointsInit e attempts net = (0, net')) : net' = net.started attempts := by
  unfold netEndpointsInit at h
  dsimp only at h
  split at h
  · rename_i hr
    exact absurd (congrArg Prod.fst h) hr
  split at h
  · rename_i hr
    exact absurd (congrArg Prod.fst h) hr
  · exact (congrArg Prod.snd h).symm

/-- mirrors src/network_prov_mgr.c:428-437 -/
def netEndpointsDeinit (net : Net) : Net :=
  { net with
    sc := networkProvWifiScanDeinit net.sc
    w := { net.w with wc := networkProvWifiConfigDeinit net.w.wc } }

/-- Requests, calls and events between a start and a stop. -/
inductive NetInput
  | wifi (i : Input)
  | scan (e : ScanEnv) (req : Option NetworkScanReq)
  | scanWaitEnds (timedOut : Bool) (encodeRet : Int)
  | scanResult (r : WifiScanResult)
  | scanDone

inductive NetResp
  | config (r : Resp)
  | scan (r : ScanResp)
  deriving DecidableEq

/-- What a step shows: to the client, to the application and to the driver. -/
structure NetOutput where
  ret : Int
  resp : Option NetResp
  events : List CredEvent
  connects : List ConnectReq
  deriving DecidableEq

def NetOutput.none : NetOutput := ⟨0, Option.none, [], []⟩

/-- The input is a request, and a request is being served. -/
def Net.busy (net : Net) : Input → Bool
  | .config _ _ => net.sc.blocked
  | .ctrl _ _ => net.sc.blocked
  | _ => false

def Net.scanAnswer (net : Net) (r : Int × Option ScanResp) (sc : Sc) : Net × NetOutput :=
  ({ net with sc := sc }, ⟨r.1, r.2.map .scan, [], []⟩)

def netInput (maxEntries : Nat) (net : Net) : NetInput → Option (Net × NetOutput)
  | .wifi i =>
    if isSetup i || net.busy i then none
    else (Wifi.step net.w i).map fun r =>
      ({ net with w := r.1 }, ⟨r.2.ret, r.2.resp.map .config, r.2.events, r.2.connects⟩)
  | .scan e req =>
    if !net.w.wc.cbRegistered || net.sc.blocked then none
    else
      let net := if e.accepted req then { net with scans := net.scans + 1 } else net
      match networkProvWifiScanHandler e req net.sc with
      | (some r, sc) => some (net.scanAnswer r sc)
      | (none, sc) => some ({ net with sc := sc }, .none)
  | .scanWaitEnds timedOut encodeRet =>
    (scanWaitEnds timedOut encodeRet net.sc).map fun r => net.scanAnswer r.1 r.2
  | .scanResult r =>
    if net.scans = 0 then none
    else some (if net.sc.cbRegistered then { net with sc := onScanResult maxEntries r net.sc } else net,
      .none)
  | .scanDone =>
    if net.scans = 0 then none
    else
      let net := { net with scans := net.scans - 1 }
      some (if net.sc.cbRegistered then { net with sc := onScanDone net.sc } else net, .none)

def inputMachine (maxEntries : Nat) : Machine Net NetInput NetOutput := ⟨netInput maxEntries⟩

/-! ## As a device of the manager -/

def netEvent : CredEvent → NetEvent
  | .credRecv => .credRecv
  | .credSuccess => .credSuccess
  | .credFail _ => .credFail

/-- The Wi-Fi handlers, with any transports. -/
def wifiDevice {S T E : Type} (maxEntries : Nat) (start : E → S → Nat → T → Int × T)
    (stop : S → T → T) : Device S T Net NetInput E where
  start := start
  stop := stop
  netInit := netEndpointsInit
  netDeinit := netEndpointsDeinit
  netStep net i := (netInput maxEntries net i).map fun r => (r.1, r.2.events.map netEvent)

/-! ## In step with the manager -/

/-- The handlers are set up exactly while the service is started. -/
structure Net.InStep (started : Bool) (net : Net) : Prop where
  config : net.w.wc.cbRegistered = started
  scan : net.sc.cbRegistered = started
  idle : started = false → net.w.wc.NoSnapshot

/-- What `netInput` does to the handlers: one step of the world, or of the scan handler. -/
theorem netInput_cases {maxEntries : Nat} {net net' : Net} {i : NetInput} {o : NetOutput}
    (h : netInput maxEntries net i = some (net', o)) :
    (∃ j w out, i = .wifi j ∧ isSetup j = false ∧ Wifi.step net.w j = some (w, out) ∧
      net' = { net with w := w } ∧ o.events = out.events) ∨
    (net'.w = net.w ∧ net'.sc.cbRegistered = net.sc.cbRegistered ∧ o.events = []) := by
  cases i with
  | wifi j =>
    simp only [netInput] at h
    split at h
    · cases h
    · rename_i hj
      obtain ⟨⟨w, out⟩, hs, he⟩ := Option.map_eq_some_iff.1 h
      cases he
      exact .inl ⟨j, w, out, rfl, by simp_all, hs, rfl, rfl⟩
  | scan e req =>
    simp only [netInput] at h
    split at h
    · cases h
    · refine .inr ?_
      have hk := scanHandler_cbRegistered e req net.sc
      have hw : (if e.accepted req then { net with scans := net.scans + 1 } else net).w = net.w := by
        split <;> rfl
      have hs : (if e.accepted req then { net with scans := net.scans + 1 } else net).sc = net.sc := by
        split <;> rfl
      rw [hs] at h
      split at h
      all_goals
        rename_i hh
        rw [hh] at hk
        cases h
        exact ⟨hw, hk, rfl⟩
  | scanWaitEnds timedOut encodeRet =>
    obtain ⟨r, hr, he⟩ := Option.map_eq_some_iff.1 h
    cases he
    exact .inr ⟨rfl, scanWaitEnds_cbRegistered hr, rfl⟩
  | scanResult r =>
    simp only [netInput] at h
    split at h
    · cases h
    · cases h
      refine .inr ⟨?_, ?_, rfl⟩ <;> split
      · rfl
      · rfl
      · exact onScanResult_cbRegistered maxEntries r net.sc
      · rfl
  | scanDone =>
    simp only [netInput] at h
    split at h
    · cases h
    · cases h
      refine .inr ⟨?_, ?_, rfl⟩ <;> split <;> rfl

theorem inStep_deinit (net : Net) : (netEndpointsDeinit net).InStep false :=
  ⟨rfl, rfl, fun _ => rfl⟩

theorem inStep_started (attempts : Nat) (net : Net) : (net.started attempts).InStep true :=
  ⟨rfl, rfl, fun hf => by cases hf⟩

theorem inStep_input {maxEntries : Nat} {started : Bool} {net net' : Net} {i : NetInput}
    {o : NetOutput} (h : netInput maxEntries net i = some (net', o)) (hi : net.InStep started) :
    net'.InStep started := by
  rcases netInput_cases h with ⟨j, w, out, -, hj, hst, rfl, -⟩ | ⟨hw, hsc, -⟩
  · have heff := Wifi.step_effect hst
    have hcb := heff.cbRegistered (by rw [op_isSetup, hj])
    have hidle := heff.noSnapshot fun hf => hi.idle (hi.config.symm.trans hf)
    exact ⟨hcb.trans hi.config, hi.scan, fun hf => hidle (hcb.trans (hi.config.trans hf))⟩
  · exact ⟨by rw [hw]; exact hi.config, by rw [hsc]; exact hi.scan, by rw [hw]; exact hi.idle⟩

variable {S T E : Type} {maxEntries : Nat} {start : E → S → Nat → T → Int × T} {stop : S → T → T}

theorem wifiDevice_tracks :
    (wifiDevice maxEntries start stop).Tracks (S := S) (T := T) (E := E) fun started net => net.InStep started where
  init _ attempts net _ h := by
    obtain rfl := netEndpointsInit_ok h
    exact inStep_started attempts net
  deinit := inStep_deinit
  step _ _ _ _ _ h hi := by
    obtain ⟨r, hr, he⟩ := Option.map_eq_some_iff.1 h
    cases he
    exact inStep_input hr hi

theorem inStep_run {trans : T} {store : WifiCredentials} {t : List (Step S T Net NetInput E)}
    {s : State S T Net}
    (h : (mgrMachine (wifiDevice maxEntries start stop)).Run (.boot trans (.boot store)) t s) :
    s.net.InStep s.mgr.started :=
  have hboot : (Net.boot store).InStep false := ⟨rfl, rfl, fun _ => rfl⟩
  tracked_run wifiDevice_tracks hboot h

/-! ## Values for concrete runs -/

/-- Two schemes that always start. -/
def wifiDemo : Device Bool Unit Net NetInput Unit := wifiDevice 16 (fun _ _ _ t => (0, t)) fun _ t => t

abbrev WifiStep := Step Bool Unit Net NetInput Unit

/-- Initialise with a scheme and no limit on the attempts. -/
def initWifi : Label NetInput Unit Bool := .init ⟨some ⟨true, true, true⟩, 0, 0⟩

/-- A `CmdSetWifiConfig` for "home". -/
def stageHome : Label NetInput Unit Bool :=
  .net (.wifi (.config okEnv (some (.cmdSetWifiConfig ⟨homeSsid.chars, passphrase.chars, [], 0⟩))))

/-- `configure_wifi_sta` for "home". -/
def configureHome : Label NetInput Unit Bool := .net (.wifi (configure okEnv homeSsid))

/-- The result of a connect request: it succeeded. -/
def connectedNow : Label NetInput Unit Bool := .net (.wifi (.connectResult ⟨0, 0⟩ 0))

/-- It failed. -/
def failedNow : Label NetInput Unit Bool := .net (.wifi (.connectResult ⟨1, 1⟩ 0))

/-- A control request. -/
def ctrlRequest (req : NetworkCtrlReq) : Label NetInput Unit Bool := .net (.wifi (.ctrl okEnv (some req)))

end NetworkProv.Manager
