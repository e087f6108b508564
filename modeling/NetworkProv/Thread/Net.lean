import NetworkProv.Manager.Mgr
import NetworkProv.Thread.Scan
import NetworkProv.Thread.World

/-!
# The Thread handlers under the manager

The `prov-config` and `prov-ctrl` handlers (`World`) and the `prov-scan`
handler of a Thread build, as the manager sets them up and tears them down, and
the sweeps that OpenThread has not ended. A transport serves one request at a
time, so none is taken while a scan start waits. Unlike the results of a Wi-Fi
scan those of a sweep reach the handler at any time: `discover_cb` is passed
with the call and not registered.

* `threadDevice`: as a device of the manager.
* `inStep_run`: OpenThread calls back exactly while the service is started, and no attach is
  waited for once it has stopped.
* `netInput_event`: what happens between requests does not end the service.
-/
namespace NetworkProv.Thread
open NetworkProv.Core
open NetworkProv.Wifi (CredEvent Status)

structure Net where
  w : World
  ts : Ts
  /-- the accepted scan requests that have not ended -/
  scans : Nat

def Net.boot (active : Option DatasetTlvs) : Net := ⟨.boot active, .boot, 0⟩

/-- mirrors src/network_prov_mgr.c:384-426 -/
def netEndpointsInit (e : Manager.NetEpEnv) (net : Net) : Int × Net :=
  let net := { net with ts := networkProvThreadScanInit net.ts }
  if e.scan ≠ 0 then (e.scan, net)
  else
    match networkProvThreadConfigInit e.config with
    | (ret, tc) =>
      let net := { net with w := { net.w with tc := tc } }
      if ret ≠ 0 then (ret, net) else (e.ctrl, net)

/-- The handlers once a start has set them up. -/
def Net.started (net : Net) : Net := (netEndpointsInit ⟨0, 0, 0⟩ net).2

theorem netEndpointsInit_ok {e : Manager.NetEpEnv} {net net' : Net}
    (h : netEndpointsInit e net = (0, net')) : net' = net.started := by
  unfold netEndpointsInit at h
  dsimp only at h
  split at h
  · rename_i hr
    exact absurd (congrArg Prod.fst h) hr
  unfold networkProvThreadConfigInit at h
  dsimp only at h
  by_cases hc : e.config = 0
  · simp only [hc, ne_eq, not_true_eq_false, if_false] at h
    exact (congrArg Prod.snd h).symm
  · simp only [hc, ne_eq, not_false_eq_true, if_true] at h
    exact absurd (congrArg Prod.fst h) hc

/-- mirrors src/network_prov_mgr.c:428-437 -/
def netEndpointsDeinit (net : Net) : Net :=
  { net with
    ts := networkProvThreadScanDeinit net.ts
    w := { net.w with tc := networkProvThreadConfigDeinit net.w.tc } }

/-- Requests, calls and events between a start and a stop. -/
inductive NetInput
  | thread (i : Input)
  | scan (e : ScanEnv) (req : Option NetworkScanReq)
  | scanWaitEnds (timedOut : Bool) (encodeRet : Int)
  /-- `none`: the end of a sweep -/
  | discovered (r : Option OtActiveScanResult)

inductive NetResp
  | config (r : Resp)
  | scan (r : ScanResp)
  deriving DecidableEq

/-- What a step shows to the client and to the application. -/
structure NetOutput where
  ret : Int
  resp : Option NetResp
  events : List CredEvent
  deriving DecidableEq

def NetOutput.none : NetOutput := ⟨0, Option.none, []⟩

/-- Inputs that a start or a stop of the service is made of. -/
def isSetup : Input → Bool
  | .start _ | .stop => true
  | _ => false

/-- The input is a request, and a request is being served. -/
def Net.busy (net : Net) : Input → Bool
  | .config _ _ => net.ts.blocked
  | .ctrl _ _ => net.ts.blocked
  | _ => false

/-- OpenThread takes the scan request. -/
def ScanEnv.accepted (e : ScanEnv) : Option NetworkScanReq → Bool
  | some (.cmdScanThreadStart _ channelMask) => e.discover (e.channels channelMask) = 0
  | _ => false

/-- The handler leaves `ts`, and one more sweep runs when OpenThread takes the request. -/
def scanned (e : ScanEnv) (req : Option NetworkScanReq) (net : Net) (ts : Ts) : Net :=
  { net with ts := ts, scans := if e.accepted req then net.scans + 1 else net.scans }

/-- What a request to the scan handler shows; nothing while it waits. -/
def scanShows : Option (Int × Option ScanResp) → NetOutput
  | some r => ⟨r.1, r.2.map .scan, []⟩
  | none => .none

def netInput (maxEntries : Nat) (net : Net) : NetInput → Option (Net × NetOutput)
  | .thread i =>
    if isSetup i || net.busy i then none
    else (step net.w i).map fun r => ({ net with w := r.1 }, ⟨r.2.ret, r.2.resp.map .config, r.2.events⟩)
  | .scan e req =>
    if !net.w.tc.cbRegistered || net.ts.blocked then none
    else
      match networkProvThreadScanHandler e req net.ts with
      | (o, ts) => some (scanned e req net ts, scanShows o)
  | .scanWaitEnds timedOut encodeRet =>
    (scanWaitEnds timedOut encodeRet net.ts).map fun r =>
      ({ net with ts := r.2 }, ⟨r.1.1, r.1.2.map .scan, []⟩)
  | .discovered r =>
    if net.scans = 0 then none
    else
      some ({ net with ts := discoverCb maxEntries r net.ts, scans := if r = none then net.scans - 1 else net.scans },
        .none)

def inputMachine (maxEntries : Nat) : Machine Net NetInput NetOutput := ⟨netInput maxEntries⟩

/-! ## As a device of the manager -/

def netEvent : CredEvent → Manager.NetEvent
  | .credRecv => .credRecv
  | .credSuccess => .credSuccess
  | .credFail _ => .credFail

/-- The Thread handlers, with any transports; a Thread build makes no use of the attempts. -/
def threadDevice {S T E : Type} (maxEntries : Nat) (start : E → S → Nat → T → Int × T)
    (stop : S → T → T) : Manager.Device S T Net NetInput E where
  start := start
  stop := stop
  netInit e _ := netEndpointsInit e
  netDeinit := netEndpointsDeinit
  netStep net i := (netInput maxEntries net i).map fun r => (r.1, r.2.events.map netEvent)

/-! ## Events -/

theorem Effect.cbRegistered {w w' : World} {op : Op} {evs : List CredEvent} (h : Effect w op w' evs)
    (hs : ∀ ret, op ≠ .start ret) (ht : op ≠ .stop) : w'.tc.cbRegistered = w.tc.cbRegistered := by
  cases h with
  | start ret _ => exact absurd rfl (hs ret)
  | stop => exact absurd rfl ht
  | _ => rfl

theorem op_not_setup {tc : Tc} {i : Input} (h : isSetup i = false) :
    (∀ ret, i.op tc ≠ .start ret) ∧ i.op tc ≠ .stop := by
  cases i with
  | start ret => cases h
  | stop => cases h
  | config e req =>
    rcases req with _ | q
    · simp [Input.op]
    cases q with
    | cmdGetThreadStatus => simp [Input.op]
    | cmdSetThreadConfig d =>
      simp only [Input.op]
      cases datasetOf d <;> simp
    | cmdApplyThreadConfig =>
      simp only [Input.op]
      split <;> simp
    | other => simp [Input.op]
  | ctrl e req =>
    rcases req with _ | q
    · simp [Input.op]
    cases q <;> simp [Input.op]
  | resetSmState =>
    simp only [Input.op]
    split <;> simp
  | setAndApply e dataset =>
    simp only [Input.op]
    cases dataset.bind datasetOf <;> simp
  | resetProvisioning inited e =>
    simp only [Input.op]
    split <;> simp
  | stateChanged roleChanged role =>
    simp only [Input.op]
    split <;> simp
  | attachTimeout => simp [Input.op]

theorem step_registered {w w' : World} {i : Input} {o : Output} (h : step w i = some (w', o))
    (hi : isSetup i = false) : w'.tc.cbRegistered = w.tc.cbRegistered :=
  (step_effect h).cbRegistered (op_not_setup hi).1 (op_not_setup hi).2

/-- No attach is waited for without the registration. -/
def Tc.Quiet (tc : Tc) : Prop := tc.cbRegistered = false → tc.attachTimeout = false

/-- The timer is armed by an Apply alone, which is taken by a started service. -/
theorem Effect.quiet {w w' : World} {op : Op} {evs : List CredEvent} (h : Effect w op w' evs) (hq : w.tc.Quiet) :
    w'.tc.Quiet := by
  cases h with
  | start ret hcb =>
    unfold networkProvThreadConfigInit
    split
    · exact fun _ => rfl
    · exact fun _ => rfl
  | attaching d e hcb => exact fun hf => by cases hcb.symm.trans hf
  | idle | unclaimed | stage | refused => exact hq
  | stop | reset | already | erase | attached | timedOut | lapsed => exact fun _ => rfl

theorem discoverCb_blocked (maxEntries : Nat) (r : Option OtActiveScanResult) (ts : Ts) :
    (discoverCb maxEntries r ts).blocked = ts.blocked := by
  unfold discoverCb
  split
  · rfl
  · split <;> rfl

/-- What happens between requests: the registration and the wait stay as they are. -/
theorem netInput_event {maxEntries : Nat} {net net' : Net} {i : NetInput} {o : NetOutput}
    (h : netInput maxEntries net i = some (net', o)) (hs : ∀ e r, i ≠ .scan e r)
    (hw : ∀ t r, i ≠ .scanWaitEnds t r) :
    net'.ts.blocked = net.ts.blocked ∧ net'.w.tc.cbRegistered = net.w.tc.cbRegistered := by
  cases i with
  | thread j =>
    simp only [netInput] at h
    split at h
    · cases h
    · rename_i hj
      obtain ⟨⟨w, out⟩, hst, he⟩ := Option.map_eq_some_iff.1 h
      cases he
      exact ⟨rfl, step_registered hst (by simp_all)⟩
  | scan e req => exact absurd rfl (hs e req)
  | scanWaitEnds timedOut encodeRet => exact absurd rfl (hw timedOut encodeRet)
  | discovered r =>
    simp only [netInput] at h
    split at h
    · cases h
    · cases h
      exact ⟨discoverCb_blocked maxEntries r net.ts, rfl⟩

/-! ## In step with the manager -/

/-- OpenThread calls the handlers back exactly while the service is started, and the attach
timeout is armed only then. -/
structure Net.InStep (started : Bool) (net : Net) : Prop where
  registered : net.w.tc.cbRegistered = started
  quiet : net.w.tc.Quiet

theorem inStep_deinit (net : Net) : (netEndpointsDeinit net).InStep false := ⟨rfl, fun _ => rfl⟩

theorem inStep_started (net : Net) : net.started.InStep true := ⟨rfl, fun hf => by cases hf⟩

/-- Requests and events leave the registration as it is. -/
theorem inStep_input {maxEntries : Nat} {started : Bool} {net net' : Net} {i : NetInput} {o : NetOutput}
    (h : netInput maxEntries net i = some (net', o)) (hi : net.InStep started) : net'.InStep started := by
  cases i with
  | thread j =>
    simp only [netInput] at h
    split at h
    · cases h
    · rename_i hj
      obtain ⟨⟨w, out⟩, hst, he⟩ := Option.map_eq_some_iff.1 h
      cases he
      exact ⟨(step_registered hst (by simp_all)).trans hi.registered, (step_effect hst).quiet hi.quiet⟩
  | scan e req =>
    simp only [netInput] at h
    split at h
    · cases h
    · cases h
      exact ⟨hi.registered, hi.quiet⟩
  | scanWaitEnds timedOut encodeRet =>
    obtain ⟨r, -, he⟩ := Option.map_eq_some_iff.1 h
    cases he
    exact ⟨hi.registered, hi.quiet⟩
  | discovered r =>
    simp only [netInput] at h
    split at h
    · cases h
    · cases h
      exact ⟨hi.registered, hi.quiet⟩

variable {S T E : Type} {maxEntries : Nat} {start : E → S → Nat → T → Int × T} {stop : S → T → T}

theorem threadDevice_tracks : (threadDevice maxEntries start stop).Tracks (S := S) (T := T) (E := E)
    fun started net => net.InStep started where
  init _ _ net _ h := by
    obtain rfl := netEndpointsInit_ok h
    exact inStep_started net
  deinit := inStep_deinit
  step _ _ _ _ _ h hi := by
    obtain ⟨r, hr, he⟩ := Option.map_eq_some_iff.1 h
    cases he
    exact inStep_input hr hi

/-- In every state of the manager with a Thread build, whatever transports it has. -/
theorem inStep_run {trans : T} {active : Option DatasetTlvs} {t : List (Manager.Step S T Net NetInput E)}
    {s : Manager.State S T Net}
    (h : (Manager.mgrMachine (threadDevice maxEntries start stop)).Run (.boot trans (.boot active)) t s) :
    s.net.InStep s.mgr.started :=
  Manager.tracked_run threadDevice_tracks ⟨rfl, fun _ => rfl⟩ h

end NetworkProv.Thread
