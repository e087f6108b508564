import NetworkProv.Core.Machine
import NetworkProv.Wifi.Config

/-!
# The Wi-Fi handler and its environment

A run of the device as the Wi-Fi handler sees it: starts and stops of the
service, requests, the manager's calls, the retry timer, and the results of
the accepted connect requests, delivered one each and in the order of the
requests. An event that finds the callback unregistered is lost.

Each outstanding request remembers the Apply it was issued for. That, the
count of Applies, the credentials reported successful and the store the run
began with are ghost state.

* `Input.op`: what an input comes to, once arguments are checked.
* `Effect`, `step_effect`: all a step can do.
* `attempts_within`: the attempt counter stays below its budget while an
  attempt is in flight.
-/
namespace NetworkProv.Wifi

open NetworkProv.Core

/-- An accepted connect request whose result has not been delivered. -/
structure Outstanding where
  params : ConnectReqParams
  /-- ghost: the Apply it was issued for -/
  apply : Nat
  deriving DecidableEq

structure World where
  wc : Wc
  store : WifiCredentials
  /-- oldest first -/
  outstanding : List Outstanding
  /-- ghost: the Applies that stored their credentials, so far -/
  applies : Nat
  /-- ghost: SSID and entry of the attempts reported successful, latest first -/
  proven : List (Bytes × WifiCred)
  /-- ghost: the store when the run began -/
  initial : WifiCredentials

def World.boot (store : WifiCredentials) : World := ⟨Wc.boot, store, [], 0, [], store⟩

inductive Input
  | start (connAttempts : Nat)
  | stop
  | config (e : WifiEnv) (req : Option NetworkConfigReq)
  | ctrl (e : WifiEnv) (req : Option NetworkCtrlReq)
  | resetSmState
  | configureWifiSta (e : WifiEnv) (ssid psk : Option CStr)
  | resetWifiProvisioning (inited : Bool) (ret : Int) (deleted : List Bytes)
  /-- `deleteRet`: what a deletion made for it answers -/
  | connectResult (st : WifiStatus) (deleteRet : Int)
  | retry (e : WifiEnv)

structure Output where
  ret : Int
  resp : Option Resp
  events : List CredEvent
  connects : List ConnectReq

def World.begin (w : World) : CallState := ⟨w.wc, w.store, [], []⟩

/-- The world after a call that left `c`. -/
def World.finish (w : World) (c : CallState) : World :=
  let applies := if .credRecv ∈ c.events then w.applies + 1 else w.applies
  { w with
    wc := c.wc
    store := c.store
    outstanding := w.outstanding ++
      (c.connects.filter fun r => r.ret = 0).map fun r => ⟨r.params, applies⟩
    applies := applies
    proven := if .credSuccess ∈ c.events
      then (w.wc.inflight.ssid.val, storedCred w.wc.inflight) :: w.proven else w.proven }

def World.answer (w : World) (r : Int × Option Resp) (c : CallState) : Option (World × Output) :=
  some (w.finish c, ⟨r.1, r.2, c.events, c.connects⟩)

def step (w : World) : Input → Option (World × Output)
  | .start n =>
    if w.wc.cbRegistered then none
    else w.answer (0, none) { w.begin with wc := networkProvWifiConfigInit n w.wc }
  | .stop =>
    if w.wc.cbRegistered then
      w.answer (0, none) { w.begin with wc := networkProvWifiConfigDeinit w.wc }
    else none
  | .config e req =>
    if w.wc.cbRegistered then
      match networkProvWifiConfigHandler e req w.begin with
      | (r, c) => w.answer r c
    else none
  | .ctrl e req =>
    if w.wc.cbRegistered then
      match networkProvWifiCtrlHandler e req w.begin with
      | (r, c) => w.answer r c
    else none
  | .resetSmState =>
    match networkProvMgrResetWifiSmState w.wc.cbRegistered w.begin with
    | (ret, c) => w.answer (ret, none) c
  | .configureWifiSta e ssid psk =>
    match networkProvMgrConfigureWifiSta w.wc.cbRegistered e ssid psk w.begin with
    | (ret, c) => w.answer (ret, none) c
  | .resetWifiProvisioning inited ret deleted =>
    match networkProvMgrResetWifiProvisioning inited ret deleted w.begin with
    | (ret, c) => w.answer (ret, none) c
  | .connectResult st deleteRet =>
    match w.outstanding with
    | [] => none
    | _ :: rest =>
      ({ w with outstanding := rest }).answer (0, none)
        (if w.wc.cbRegistered then onConnectResult st deleteRet w.begin else w.begin)
  | .retry e =>
    if w.wc.retryWork then
      w.answer (0, none)
        (retryWorkHandler e { w.begin with wc := { w.wc with retryWork := false } })
    else none

def wifiMachine : Machine World Input Output := ⟨step⟩

/-- A step of a run. -/
abbrev Step := Entry World Input Output

/-! ## What an input comes to -/

/-- The operations behind the inputs. -/
inductive Op
  | idle
  | start (connAttempts : Nat)
  | stop
  | reset
  | stage (c : ConnectConf)
  /-- `do_apply_config` with `c` staged, and an interface to connect with -/
  | apply (c : ConnectConf) (e : WifiEnv)
  | erase (ret : Int) (deleted : List Bytes)
  | result (st : WifiStatus) (deleteRet : Int)
  | retry (e : WifiEnv)

/-- What `network_prov_mgr_configure_wifi_sta` stages; `none`: it refuses. -/
def configured (wc : Wc) (ssid psk : Option CStr) : Option ConnectConf :=
  ssid.bind fun s =>
    if h : s.chars.length = 0 ∨ s.chars.length > SSID_MAX ∨ (charsOf psk).length > PASS_MAX then none
    else
      some { wc.staged with
        ssid := ⟨s.chars, by omega⟩, pass := ⟨charsOf psk, by omega⟩, hasBssid := false,
        channel := 0 }

def applyOp (c : ConnectConf) (e : WifiEnv) : Op := if e.iface then .apply c e else .stage c

def Input.op (wc : Wc) : Input → Op
  | .start n => .start n
  | .stop => .stop
  | .config e (some .cmdApplyWifiConfig) => applyOp wc.staged e
  | .config _ (some (.cmdSetWifiConfig cmd)) => .stage (doSetConfig cmd wc).2.staged
  | .config _ _ => .idle
  | .ctrl _ (some .cmdCtrlWifiReset) => .reset
  | .ctrl _ (some .cmdCtrlWifiReprov) => .reset
  | .ctrl _ _ => .idle
  | .resetSmState => if wc.cbRegistered then .reset else .idle
  | .configureWifiSta e ssid psk =>
    match wc.cbRegistered, configured wc ssid psk with
    | true, some c => applyOp c e
    | _, _ => .idle
  | .resetWifiProvisioning inited ret deleted => if inited then .erase ret deleted else .idle
  | .connectResult st deleteRet => .result st deleteRet
  | .retry e => .retry e

/-- The operation of a step. -/
def opOf (e : Step) : Op := e.lbl.op e.pre.wc

/-- What the store answers when the entry of a failed attempt is deleted. -/
def Op.deleteRet : Op → Int
  | .result _ deleteRet => deleteRet
  | .retry e | .apply _ e => e.deleteRet
  | _ => 0

/-- The store takes the credentials. -/
def Stores (c : ConnectConf) (e : WifiEnv) : Prop := c.ssid.val ≠ [] ∧ e.storeRet = 0

instance (c : ConnectConf) (e : WifiEnv) : Decidable (Stores c e) :=
  inferInstanceAs (Decidable (_ ∧ _))

/-- No attempt is pending. -/
def Wc.NoSnapshot (wc : Wc) : Prop := wc.inflight.ssid.val = []

instance (wc : Wc) : Decidable wc.NoSnapshot := inferInstanceAs (Decidable (_ = _))

/-- A failed result leaves an attempt. -/
def Wc.Retries (wc : Wc) : Prop := wc.attemptsCompleted + 1 < wc.attemptsMax

instance (wc : Wc) : Decidable wc.Retries := inferInstanceAs (Decidable (_ < _))

/-- `wc` once a failed result has been counted. -/
def Wc.charge (wc : Wc) (st : WifiStatus) : Wc :=
  { wc with
    lastConnStatus := st.connStatus
    attemptsCompleted :=
      if wc.attemptsMax > 0 then wc.attemptsCompleted + 1 else wc.attemptsCompleted }

/-- `wc` after a final failure. -/
def Wc.failed (wc : Wc) : Wc :=
  clearInflight { wc with staState := .connectionFailed, attemptFailed := false,
                          failReason := (failReasonOf wc.lastConnStatus).1 }

/-- `wc` once an Apply of `c` has its attempt under way. -/
def Wc.applied (wc : Wc) (c : ConnectConf) : Wc :=
  snapshot { wc with staged := c, staState := .connecting }

/-- `wc` after an Apply of `c` whose connect request was rejected. -/
def Wc.rejected (wc : Wc) (c : ConnectConf) : Wc :=
  clearInflight { wc.applied c with staState := .connectionFailed, failReason := .authError }

/-- All a step can do: operation, state after, events, connect requests. -/
inductive Effect (w : World) : Op → World → List CredEvent → List ConnectReq → Prop
  | idle : Effect w .idle w [] []
  | start (n : Nat) : w.wc.cbRegistered = false →
      Effect w (.start n) { w with wc := networkProvWifiConfigInit n w.wc } [] []
  | stop : w.wc.cbRegistered = true →
      Effect w .stop { w with wc := networkProvWifiConfigDeinit w.wc } [] []
  | reset : w.wc.cbRegistered = true →
      Effect w .reset { w with wc := networkProvWifiConfigReset w.wc } [] []
  | stage (c : ConnectConf) : w.wc.cbRegistered = true →
      Effect w (.stage c) { w with wc := { w.wc with staged := c } } [] []
  | refused (c : ConnectConf) (e : WifiEnv) : w.wc.cbRegistered = true → ¬ Stores c e →
      Effect w (.apply c e)
        { w with wc := { w.wc with staged := c },
                 store := (w.store.deleteBySsid e.replaceRet c.ssid.val).2 } [] []
  | rejected (c : ConnectConf) (e : WifiEnv) (hs : c.ssid.val ≠ []) : w.wc.cbRegistered = true →
      e.storeRet = 0 → e.connectRet ≠ 0 →
      Effect w (.apply c e)
        { w with wc := w.wc.rejected c,
                 store := ((w.store.put c.ssid.val hs (storedCred c)).deleteBySsid e.deleteRet
                   c.ssid.val).2,
                 applies := w.applies + 1 }
        [.credRecv, .credFail .wifiAuthError] [⟨connectParams c, e.connectRet⟩]
  | started (c : ConnectConf) (e : WifiEnv) (hs : c.ssid.val ≠ []) : w.wc.cbRegistered = true →
      e.storeRet = 0 → e.connectRet = 0 →
      Effect w (.apply c e)
        { w with wc := w.wc.applied c, store := w.store.put c.ssid.val hs (storedCred c),
                 outstanding := w.outstanding ++ [⟨connectParams c, w.applies + 1⟩],
                 applies := w.applies + 1 }
        [.credRecv] [⟨connectParams c, 0⟩]
  | erase (ret : Int) (deleted : List Bytes) :
      Effect w (.erase ret deleted) { w with store := (w.store.deleteAll ret deleted).2 } [] []
  | ignored (st : WifiStatus) (d : Int) (r : Outstanding) (rest : List Outstanding) :
      w.outstanding = r :: rest → (w.wc.cbRegistered = true → w.wc.NoSnapshot) →
      Effect w (.result st d) { w with outstanding := rest } [] []
  | connected (st : WifiStatus) (d : Int) (r : Outstanding) (rest : List Outstanding) :
      w.outstanding = r :: rest → w.wc.cbRegistered = true → ¬ w.wc.NoSnapshot → st.status = 0 →
      Effect w (.result st d)
        { w with wc := clearInflight { w.wc with staState := .connected, attemptFailed := false },
                 outstanding := rest,
                 proven := (w.wc.inflight.ssid.val, storedCred w.wc.inflight) :: w.proven }
        [.credSuccess] []
  | retrying (st : WifiStatus) (d : Int) (r : Outstanding) (rest : List Outstanding) :
      w.outstanding = r :: rest → w.wc.cbRegistered = true → ¬ w.wc.NoSnapshot → st.status ≠ 0 →
      w.wc.Retries →
      Effect w (.result st d)
        { w with wc := { w.wc.charge st with attemptFailed := true, staState := .connecting,
                                             retryWork := true },
                 outstanding := rest } [] []
  | failed (st : WifiStatus) (d : Int) (r : Outstanding) (rest : List Outstanding) :
      w.outstanding = r :: rest → w.wc.cbRegistered = true → ¬ w.wc.NoSnapshot → st.status ≠ 0 →
      ¬ w.wc.Retries →
      Effect w (.result st d)
        { w with wc := (w.wc.charge st).failed,
                 store := (w.store.deleteBySsid d w.wc.inflight.ssid.val).2, outstanding := rest }
        [.credFail (failReasonOf st.connStatus).2] []
  | lapsed (e : WifiEnv) : w.wc.retryWork = true → w.wc.NoSnapshot →
      Effect w (.retry e) { w with wc := { w.wc with retryWork := false } } [] []
  | retried (e : WifiEnv) : w.wc.retryWork = true → ¬ w.wc.NoSnapshot → e.iface = true →
      e.connectRet = 0 →
      Effect w (.retry e)
        { w with wc := { w.wc with retryWork := false },
                 outstanding := w.outstanding ++ [⟨connectParams w.wc.inflight, w.applies⟩] }
        [] [⟨connectParams w.wc.inflight, 0⟩]
  | abandoned (e : WifiEnv) (cs : List ConnectReq) : w.wc.retryWork = true → ¬ w.wc.NoSnapshot →
      (e.iface = false ∧ cs = [] ∨
        e.connectRet ≠ 0 ∧ cs = [⟨connectParams w.wc.inflight, e.connectRet⟩]) →
      Effect w (.retry e)
        { w with wc := { w.wc with retryWork := false }.failed,
                 store := (w.store.deleteBySsid e.deleteRet w.wc.inflight.ssid.val).2 }
        [.credFail (failReasonOf w.wc.lastConnStatus).2] cs

/-! ## Every step is one of these -/

@[simp] theorem connectParams_snapshot (wc : Wc) :
    connectParams (snapshot wc).inflight = connectParams wc.staged := by
  unfold connectParams snapshot
  cases wc.staged.hasBssid <;> simp

@[simp] theorem storedCred_snapshot (wc : Wc) :
    storedCred (snapshot wc).inflight = storedCred wc.staged := by
  unfold storedCred snapshot securityFromPass
  cases wc.staged.hasBssid <;> simp

@[simp] theorem rejected_staged (wc : Wc) (c : ConnectConf) :
    ({ wc with staged := c }).rejected c = wc.rejected c := rfl

theorem finish_wc (w : World) (wc : Wc) : w.finish { w.begin with wc := wc } = { w with wc := wc } := by
  simp [World.finish, World.begin]

theorem finish_begin (w : World) : w.finish w.begin = w := by
  simp [World.finish, World.begin]

theorem connectFromInflight_ok {e : WifiEnv} (hi : e.iface = true) (s : CallState) :
    connectFromInflight e s = (e.connectRet,
      { s with connects := s.connects ++ [⟨connectParams s.wc.inflight, e.connectRet⟩] }) := by
  simp [connectFromInflight, hi]

theorem doApplyConfig_noIface {e : WifiEnv} (hi : e.iface = false) (s : CallState) :
    doApplyConfig e s = (.internalError, s) := by
  simp [doApplyConfig, applyStore, hi]

theorem doApplyConfig_refused {e : WifiEnv} (hi : e.iface = true) (s : CallState)
    (hs : ¬ Stores s.wc.staged e) :
    doApplyConfig e s =
      (.internalError, { s with store := (s.store.deleteBySsid e.replaceRet s.wc.staged.ssid.val).2 }) := by
  obtain ⟨h1, h2⟩ := WifiCredentials.setPersonal_refused
    (s := (s.store.deleteBySsid e.replaceRet s.wc.staged.ssid.val).2) hs (storedCred s.wc.staged)
  simp [doApplyConfig, applyStore, hi, h1, h2]

/-- The state an accepted Apply leaves. -/
def CallState.applied (s : CallState) (hs : s.wc.staged.ssid.val ≠ []) (ret : Int) : CallState where
  wc := s.wc.applied s.wc.staged
  store := s.store.put s.wc.staged.ssid.val hs (storedCred s.wc.staged)
  events := s.events ++ [.credRecv]
  connects := s.connects ++ [⟨connectParams s.wc.staged, ret⟩]

theorem doApplyConfig_stores {e : WifiEnv} (hi : e.iface = true) (s : CallState)
    (hs : Stores s.wc.staged e) :
    doApplyConfig e s = (.success,
      if e.connectRet = 0 then s.applied hs.1 0
      else
        { wc := s.wc.rejected s.wc.staged
          store := ((s.store.put s.wc.staged.ssid.val hs.1 (storedCred s.wc.staged)).deleteBySsid e.deleteRet
            s.wc.staged.ssid.val).2
          events := s.events ++ [.credRecv, .credFail .wifiAuthError]
          connects := s.connects ++ [⟨connectParams s.wc.staged, e.connectRet⟩] }) := by
  unfold doApplyConfig applyStore applyConnect
  rw [if_neg (by simp [hi])]
  dsimp only
  rw [WifiCredentials.setPersonal_ok hs.1 hs.2]
  dsimp only
  rw [if_neg (by simp)]
  dsimp only
  rw [connectFromInflight_ok hi]
  dsimp only
  by_cases hr : e.connectRet = 0
  · rw [if_neg (by simpa using hr), if_pos hr, hr]
    simp [CallState.applied, CallState.emitEvent, Wc.applied]
  · rw [if_pos hr, if_neg hr]
    rw [connectParams_snapshot]
    simp [CallState.emitEvent, Wc.applied, Wc.rejected, clearInflight, snapshot]

theorem doApplyConfig_effect (w : World) (c : ConnectConf) (e : WifiEnv)
    (hcb : w.wc.cbRegistered = true) (r : CallState)
    (hr : r = (doApplyConfig e { w.begin with wc := { w.wc with staged := c } }).2) :
    Effect w (applyOp c e) (w.finish r) r.events r.connects := by
  unfold applyOp
  cases hi : e.iface with
  | false =>
    rw [doApplyConfig_noIface hi] at hr
    subst hr
    rw [finish_wc]
    exact .stage c hcb
  | true =>
    rw [if_pos rfl]
    by_cases hs : Stores c e
    · rw [doApplyConfig_stores hi _ hs] at hr
      by_cases hc : e.connectRet = 0
      · rw [if_pos hc] at hr
        subst hr
        exact .started c e hs.1 hcb hs.2 hc
      · rw [if_neg hc] at hr
        subst hr
        have h := Effect.rejected (w := w) c e hs.1 hcb hs.2 hc
        simpa [World.finish, World.begin, hc] using h
    · rw [doApplyConfig_refused hi _ hs] at hr
      subst hr
      have h := Effect.refused (w := w) c e hcb hs
      simpa [World.finish, World.begin] using h

theorem configureWifiSta_some {w : CallState} {e : WifiEnv} {ssid psk : Option CStr}
    {c : ConnectConf} (h : configured w.wc ssid psk = some c) :
    networkProvMgrConfigureWifiSta true e ssid psk w =
      (if (doApplyConfig e { w with wc := { w.wc with staged := c } }).1 = .success then 0 else - EIO,
        (doApplyConfig e { w with wc := { w.wc with staged := c } }).2) := by
  unfold configured at h
  cases ssid with
  | none => cases h
  | some s =>
    rw [Option.bind_some] at h
    split at h
    · cases h
    · rename_i hn
      cases h
      have hne : s.chars ≠ [] := by
        intro hs
        exact hn (.inl (by rw [hs]; rfl))
      unfold networkProvMgrConfigureWifiSta networkProvWifiConfigSetAndApply
      dsimp only [Option.getD_some]
      rw [if_neg (by simp), if_neg hne,
        dif_neg (by rintro (h | h | h | ⟨_, h⟩) <;> first | omega | cases h)]
      simp only [List.take_length]

theorem configureWifiSta_none {w : CallState} {e : WifiEnv} {ssid psk : Option CStr}
    (h : configured w.wc ssid psk = none) :
    networkProvMgrConfigureWifiSta true e ssid psk w = (-EINVAL, w) := by
  unfold configured at h
  cases ssid with
  | none => rfl
  | some s =>
    rw [Option.bind_some] at h
    split at h
    · rename_i hn
      unfold networkProvMgrConfigureWifiSta networkProvWifiConfigSetAndApply
      rw [if_neg (by simp)]
      dsimp only [Option.getD_some]
      by_cases hs : s.chars = []
      · rw [if_pos hs]
      · have hlen : s.chars.length ≠ 0 := by simpa using hs
        rw [if_neg hs, dif_pos (by omega)]
    · cases h

theorem doSetConfig_staged (cmd : CmdSetWifiConfig) (wc : Wc) :
    (doSetConfig cmd wc).2 = { wc with staged := (doSetConfig cmd wc).2.staged } := by
  unfold doSetConfig
  split
  · rfl
  · split <;> rfl

theorem noSnapshot_iff_length (wc : Wc) : wc.NoSnapshot ↔ wc.inflight.ssid.val.length = 0 := by
  rw [List.length_eq_zero_iff, Wc.NoSnapshot]

theorem onConnectResult_ignored {s : CallState} (h : s.wc.NoSnapshot) (st : WifiStatus) (d : Int) :
    onConnectResult st d s = s := by
  unfold onConnectResult
  rw [if_pos ((noSnapshot_iff_length _).1 h)]

theorem onConnectResult_connected {s : CallState} (h : ¬ s.wc.NoSnapshot) {st : WifiStatus}
    {d : Int} (hst : st.status = 0) :
    onConnectResult st d s =
      { s with wc := clearInflight { s.wc with staState := .connected, attemptFailed := false },
               events := s.events ++ [.credSuccess] } := by
  unfold onConnectResult
  rw [if_neg (mt (noSnapshot_iff_length _).2 h), if_pos hst]
  rfl

theorem onConnectResult_retrying {s : CallState} (h : ¬ s.wc.NoSnapshot) {st : WifiStatus}
    {d : Int} (hst : st.status ≠ 0) (hr : s.wc.Retries) :
    onConnectResult st d s =
      { s with wc := { s.wc.charge st with attemptFailed := true, staState := .connecting,
                                           retryWork := true } } := by
  unfold Wc.Retries at hr
  have hmax : s.wc.attemptsMax > 0 := by omega
  unfold onConnectResult Wc.charge
  rw [if_neg (mt (noSnapshot_iff_length _).2 h), if_neg hst]
  dsimp only
  rw [if_pos hmax, if_pos hmax, if_pos hr]

theorem onConnectResult_failed {s : CallState} (h : ¬ s.wc.NoSnapshot) {st : WifiStatus}
    {d : Int} (hst : st.status ≠ 0) (hr : ¬ s.wc.Retries) :
    onConnectResult st d s = finalFailure d { s with wc := s.wc.charge st } := by
  unfold Wc.Retries at hr
  unfold onConnectResult Wc.charge
  rw [if_neg (mt (noSnapshot_iff_length _).2 h), if_neg hst]
  dsimp only
  by_cases hmax : s.wc.attemptsMax > 0
  · rw [if_pos hmax, if_pos hmax, if_neg hr]
  · rw [if_neg hmax, if_neg hmax]

theorem finalFailure_eq (d : Int) (s : CallState) :
    finalFailure d s =
      { s with wc := s.wc.failed, store := (s.store.deleteBySsid d s.wc.inflight.ssid.val).2,
               events := s.events ++ [.credFail (failReasonOf s.wc.lastConnStatus).2] } := rfl

theorem onConnectResult_effect {w : World} (st : WifiStatus) (d : Int) {r : Outstanding}
    {rest : List Outstanding} (hw : w.outstanding = r :: rest) (s : CallState)
    (hs : s = if w.wc.cbRegistered then onConnectResult st d w.begin else w.begin) :
    Effect w (.result st d) (({ w with outstanding := rest }).finish s) s.events s.connects := by
  by_cases hi : w.wc.cbRegistered = true → w.wc.NoSnapshot
  · have hr : s = w.begin := by
      by_cases hcb : w.wc.cbRegistered = true
      · rw [hs, if_pos hcb, onConnectResult_ignored (hi hcb)]
      · rw [hs, if_neg hcb]
    subst hr
    have h := Effect.ignored (w := w) st d r rest hw hi
    simpa [World.finish, World.begin] using h
  · obtain ⟨hcb, hn⟩ := Classical.not_imp.1 hi
    rw [if_pos hcb] at hs
    by_cases hst : st.status = 0
    · rw [onConnectResult_connected hn hst] at hs
      subst hs
      have h := Effect.connected (w := w) st d r rest hw hcb hn hst
      simpa [World.finish, World.begin] using h
    · by_cases hret : w.wc.Retries
      · rw [onConnectResult_retrying hn hst hret] at hs
        subst hs
        have h := Effect.retrying (w := w) st d r rest hw hcb hn hst hret
        simpa [World.finish, World.begin] using h
      · rw [onConnectResult_failed hn hst hret, finalFailure_eq] at hs
        subst hs
        have h := Effect.failed (w := w) st d r rest hw hcb hn hst hret
        simpa [World.finish, World.begin, Wc.charge] using h

theorem retryWorkHandler_effect {w : World} (e : WifiEnv) (hret : w.wc.retryWork = true)
    (s : CallState)
    (hs : s = retryWorkHandler e { w.begin with wc := { w.wc with retryWork := false } }) :
    Effect w (.retry e) (w.finish s) s.events s.connects := by
  unfold retryWorkHandler at hs
  by_cases hn : w.wc.NoSnapshot
  · rw [if_pos ((noSnapshot_iff_length _).1 hn)] at hs
    subst hs
    have h := Effect.lapsed (w := w) e hret hn
    simpa [World.finish, World.begin] using h
  · rw [if_neg (mt (noSnapshot_iff_length _).2 hn)] at hs
    cases hi : e.iface with
    | false =>
      have hc : connectFromInflight e { w.begin with wc := { w.wc with retryWork := false } } =
          (- ENODEV, { w.begin with wc := { w.wc with retryWork := false } }) := by
        simp [connectFromInflight, hi]
      rw [hc] at hs
      dsimp only at hs
      rw [if_pos (by simp [ ENODEV]), finalFailure_eq] at hs
      subst hs
      have h := Effect.abandoned (w := w) e [] hret hn (.inl ⟨hi, rfl⟩)
      simpa [World.finish, World.begin] using h
    | true =>
      rw [connectFromInflight_ok hi] at hs
      dsimp only at hs
      by_cases hc : e.connectRet = 0
      · rw [if_neg (by simpa using hc)] at hs
        subst hs
        have h := Effect.retried (w := w) e hret hn hi hc
        simpa [World.finish, World.begin, hc] using h
      · rw [if_pos hc, finalFailure_eq] at hs
        subst hs
        have h := Effect.abandoned (w := w) e _ hret hn (.inr ⟨hc, rfl⟩)
        simpa [World.finish, World.begin, hc] using h

theorem answer_eq_some {w w' : World} {r : Int × Option Resp} {s : CallState} {o : Output}
    (h : w.answer r s = some (w', o)) :
    w' = w.finish s ∧ o = ⟨r.1, r.2, s.events, s.connects⟩ := by
  simp only [World.answer, Option.some.injEq, Prod.mk.injEq] at h
  exact ⟨h.1.symm, h.2.symm⟩

/-- All a step can do: the cases of `Effect`. -/
theorem step_effect {w w' : World} {i : Input} {o : Output} (h : step w i = some (w', o)) :
    Effect w (i.op w.wc) w' o.events o.connects := by
  cases i with
  | start n =>
    simp only [step] at h
    split at h
    · cases h
    · rename_i hcb
      obtain ⟨rfl, rfl⟩ := answer_eq_some h
      rw [finish_wc]
      exact .start n (by simpa using hcb)
  | stop =>
    simp only [step] at h
    split at h
    · rename_i hcb
      obtain ⟨rfl, rfl⟩ := answer_eq_some h
      rw [finish_wc]
      exact .stop hcb
    · cases h
  | config e req =>
    simp only [step] at h
    split at h
    · rename_i hcb
      obtain ⟨rfl, rfl⟩ := answer_eq_some h
      match req with
      | none => rw [networkProvWifiConfigHandler, finish_begin]; exact .idle
      | some .other => rw [networkProvWifiConfigHandler, finish_begin]; exact .idle
      | some .cmdGetWifiStatus => rw [networkProvWifiConfigHandler, finish_begin]; exact .idle
      | some (.cmdSetWifiConfig cmd) =>
        simp only [networkProvWifiConfigHandler]
        rw [finish_wc, show w.begin.wc = w.wc from rfl, doSetConfig_staged]
        exact .stage _ hcb
      | some .cmdApplyWifiConfig =>
        simp only [networkProvWifiConfigHandler]
        exact doApplyConfig_effect w w.wc.staged e hcb _ rfl
    · cases h
  | ctrl e req =>
    simp only [step] at h
    split at h
    · rename_i hcb
      obtain ⟨rfl, rfl⟩ := answer_eq_some h
      match req with
      | none => rw [networkProvWifiCtrlHandler, finish_begin]; exact .idle
      | some .other => rw [networkProvWifiCtrlHandler, finish_begin]; exact .idle
      | some .cmdCtrlWifiReset =>
        simp only [networkProvWifiCtrlHandler]
        rw [finish_wc]
        exact .reset hcb
      | some .cmdCtrlWifiReprov =>
        simp only [networkProvWifiCtrlHandler]
        rw [finish_wc]
        exact .reset hcb
    · cases h
  | resetSmState =>
    simp only [step] at h
    obtain ⟨rfl, rfl⟩ := answer_eq_some h
    simp only [networkProvMgrResetWifiSmState, Input.op]
    cases hcb : w.wc.cbRegistered with
    | false => simp only [Bool.not_false, if_true]; rw [finish_begin]; exact .idle
    | true =>
      simp only [Bool.not_true, Bool.false_eq_true, if_false, if_true]
      rw [finish_wc]
      exact .reset hcb
  | configureWifiSta e ssid psk =>
    simp only [step] at h
    obtain ⟨rfl, rfl⟩ := answer_eq_some h
    simp only [Input.op]
    cases hcb : w.wc.cbRegistered with
    | false =>
      simp only [networkProvMgrConfigureWifiSta, Bool.not_false, if_true]
      rw [finish_begin]
      exact .idle
    | true =>
      cases hc : configured w.wc ssid psk with
      | none =>
        rw [configureWifiSta_none (w := w.begin) hc, finish_begin]
        exact .idle
      | some c =>
        rw [configureWifiSta_some (w := w.begin) hc]
        exact doApplyConfig_effect w c e hcb _ rfl
  | resetWifiProvisioning inited ret deleted =>
    simp only [step] at h
    obtain ⟨rfl, rfl⟩ := answer_eq_some h
    simp only [networkProvMgrResetWifiProvisioning, Input.op]
    cases inited with
    | false => simp only [Bool.not_false, if_true]; rw [finish_begin]; exact .idle
    | true =>
      simp only [Bool.not_true, Bool.false_eq_true, if_false, if_true]
      have h := Effect.erase (w := w) ret deleted
      simpa [World.finish, World.begin] using h
  | connectResult st deleteRet =>
    simp only [step] at h
    split at h
    · cases h
    · rename_i r rest hw
      obtain ⟨rfl, rfl⟩ := answer_eq_some h
      exact onConnectResult_effect st deleteRet hw _ rfl
  | retry e =>
    simp only [step] at h
    split at h
    · rename_i hret
      obtain ⟨rfl, rfl⟩ := answer_eq_some h
      exact retryWorkHandler_effect e hret _ rfl
    · cases h

theorem op_result {i : Input} {wc : Wc} {st : WifiStatus} {d : Int} (h : i.op wc = .result st d) :
    i = .connectResult st d := by
  unfold Input.op applyOp at h
  split at h
  all_goals first
    | cases h; rfl
    | cases h
    | split at h <;> first | cases h | (split at h <;> cases h)

theorem op_retry {i : Input} {wc : Wc} {e : WifiEnv} (h : i.op wc = .retry e) : i = .retry e := by
  unfold Input.op applyOp at h
  split at h
  all_goals first
    | cases h; rfl
    | cases h
    | split at h <;> first | cases h | (split at h <;> cases h)

theorem ok_effect {e : Step} (h : wifiMachine.Ok e) :
    Effect e.pre (opOf e) e.post e.out.events e.out.connects := step_effect h

/-! ## Between stop and start -/

/-- The input is a start or a stop. -/
def isSetup : Input → Bool
  | .start _ => true
  | .stop => true
  | _ => false

def Op.isSetup : Op → Bool
  | .start _ => true
  | .stop => true
  | _ => false

theorem op_isSetup (i : Input) (wc : Wc) : (i.op wc).isSetup = isSetup i := by
  unfold Input.op applyOp
  split
  all_goals try rfl
  all_goals split
  all_goals try rfl
  all_goals split <;> rfl

theorem Effect.cbRegistered {w w' : World} {op : Op} {ev : List CredEvent} {cs : List ConnectReq}
    (h : Effect w op w' ev cs) (hop : op.isSetup = false) :
    w'.wc.cbRegistered = w.wc.cbRegistered := by
  cases h with
  | start n => cases hop
  | stop => cases hop
  | _ => rfl

/-- An attempt starts only with the callback registered, and ends before it is not. -/
theorem Effect.noSnapshot {w w' : World} {op : Op} {ev : List CredEvent} {cs : List ConnectReq}
    (h : Effect w op w' ev cs) (hs : w.wc.cbRegistered = false → w.wc.NoSnapshot) :
    w'.wc.cbRegistered = false → w'.wc.NoSnapshot := by
  cases h with
  | start n hcb => exact fun _ => hs hcb
  | stop | reset | connected | failed | abandoned | rejected => exact fun _ => rfl
  | started c e hne hcb =>
    intro hf
    have hcb' : w.wc.cbRegistered = false := hf
    rw [hcb] at hcb'
    cases hcb'
  | _ => exact hs

/-! ## The attempt counter -/

/-- With an attempt in flight the counter is below the budget. -/
def Wc.Within (wc : Wc) : Prop :=
  ¬ wc.NoSnapshot → 0 < wc.attemptsMax → wc.attemptsCompleted < wc.attemptsMax

theorem within_effect {w w' : World} {op : Op} {ev : List CredEvent} {cs : List ConnectReq}
    (h : Effect w op w' ev cs) (hs : w.wc.cbRegistered = false → w.wc.NoSnapshot)
    (hw : w.wc.Within) : w'.wc.Within := by
  cases h with
  | start n hcb => exact fun hn => absurd (hs hcb) hn
  | stop | reset | connected | failed | abandoned | rejected => exact fun hn => absurd rfl hn
  | started c e hne hcb => exact fun _ hm => hm
  | retrying st d r rest _ hcb hn _ hr =>
    intro _ hm
    have hm' : 0 < w.wc.attemptsMax := hm
    show (w.wc.charge st).attemptsCompleted < w.wc.attemptsMax
    unfold Wc.charge
    dsimp only
    rw [if_pos hm']
    exact hr
  | _ => exact hw

/-- So `attempts_completed`, incremented only here, never passes `attempts_max`
and does not wrap. -/
theorem attempts_within {store : WifiCredentials} {t : List Step} {w : World}
    (h : wifiMachine.Run (World.boot store) t w) : w.wc.Within := by
  refine (h.invariant (P := fun w => (w.wc.cbRegistered = false → w.wc.NoSnapshot) ∧ w.wc.Within)
    ⟨fun _ => rfl, fun hn => absurd rfl hn⟩ ?_).2
  intro e he ih
  exact ⟨(ok_effect he).noSnapshot ih.1, within_effect (ok_effect he) ih.1 ih.2⟩

/-! ## Delivered results -/

/-- The request whose result a step delivers. -/
def delivered (e : Step) : Option Outstanding :=
  match e.lbl with
  | .connectResult _ _ => e.pre.outstanding.head?
  | _ => none

theorem delivered_some {e : Step} {r : Outstanding} (h : delivered e = some r) :
    ∃ st d, e.lbl = .connectResult st d ∧ e.pre.outstanding.head? = some r := by
  unfold delivered at h
  split at h
  · exact ⟨_, _, ‹_›, h⟩
  · cases h

theorem delivered_result {e : Step} {st : WifiStatus} {d : Int} {r : Outstanding} {rest : List Outstanding}
    (ho : opOf e = .result st d) (hw : e.pre.outstanding = r :: rest) : delivered e = some r := by
  rw [delivered, op_result ho, hw]
  rfl

/-- The step reports a failure. -/
def CredFails (e : Step) : Prop := ∃ r, .credFail r ∈ e.out.events

/-! ## Applies answered Success -/

/-- The Apply of the step, or of the manager's call, is answered Success. -/
def Applies (e : Step) : Prop :=
  match e.lbl with
  | .config env (some .cmdApplyWifiConfig) => (doApplyConfig env e.pre.begin).1 = .success
  | .configureWifiSta _ _ _ => e.out.ret = 0
  | _ => False

instance (e : Step) : Decidable (Applies e) := by
  unfold Applies
  split <;> infer_instance

theorem doApplyConfig_success_iff (e : WifiEnv) {s : CallState} (hs : s.events = []) :
    (doApplyConfig e s).1 = .success ↔ .credRecv ∈ (doApplyConfig e s).2.events := by
  cases hi : e.iface with
  | false => simp [doApplyConfig_noIface hi, hs]
  | true =>
    by_cases hst : Stores s.wc.staged e
    · rw [doApplyConfig_stores hi s hst]
      by_cases hr : e.connectRet = 0 <;> simp [hr, CallState.applied]
    · simp [doApplyConfig_refused hi s hst, hs]

theorem Effect.noCredRecv {w w' : World} {op : Op} {ev : List CredEvent} {cs : List ConnectReq}
    (h : Effect w op w' ev cs) (hop : ∀ c e, op ≠ .apply c e) : .credRecv ∉ ev := by
  cases h with
  | refused c e | rejected c e | started c e => exact absurd rfl (hop c e)
  | _ => simp

/-- It is the Apply that reports the credentials as received. -/
theorem applies_iff {e : Step} (he : wifiMachine.Ok e) : Applies e ↔ .credRecv ∈ e.out.events := by
  have heff := ok_effect he
  obtain ⟨pre, lbl, out, post⟩ := e
  have hst : step pre lbl = some (post, out) := he
  have hother : ¬ Applies ⟨pre, lbl, out, post⟩ → (∀ c env, lbl.op pre.wc ≠ .apply c env) →
      (Applies ⟨pre, lbl, out, post⟩ ↔ .credRecv ∈ out.events) :=
    fun hn hop => iff_of_false hn (heff.noCredRecv hop)
  cases lbl with
  | config env req =>
    cases req with
    | none => exact hother id fun c env h => by cases h
    | some req =>
      cases req with
      | cmdApplyWifiConfig =>
        simp only [step] at hst
        split at hst
        · obtain ⟨-, rfl⟩ := answer_eq_some hst
          exact doApplyConfig_success_iff env rfl
        · cases hst
      | cmdGetWifiStatus | cmdSetWifiConfig | other => exact hother id fun c env h => by cases h
  | configureWifiSta env ssid psk =>
    simp only [step] at hst
    obtain ⟨-, rfl⟩ := answer_eq_some hst
    show (networkProvMgrConfigureWifiSta pre.wc.cbRegistered env ssid psk pre.begin).1 = 0 ↔ _
    cases hcb : pre.wc.cbRegistered with
    | false => simp [networkProvMgrConfigureWifiSta, EPERM, World.begin]
    | true =>
      cases hc : configured pre.wc ssid psk with
      | none =>
        rw [configureWifiSta_none (w := pre.begin) hc]
        simp [EINVAL, World.begin]
      | some c =>
        rw [configureWifiSta_some (w := pre.begin) hc]
        have hiff := doApplyConfig_success_iff env
          (s := { pre.begin with wc := { pre.begin.wc with staged := c } }) rfl
        rw [← hiff]
        simp [ EIO]
  | ctrl env req =>
    cases req with
    | none => exact hother id fun c env h => by cases h
    | some req => cases req <;> exact hother id fun c env h => by cases h
  | resetSmState =>
    refine hother id fun c env h => ?_
    simp only [Input.op] at h
    split at h <;> cases h
  | resetWifiProvisioning inited =>
    refine hother id fun c env h => ?_
    simp only [Input.op] at h
    split at h <;> cases h
  | start | stop | connectResult | retry => exact hother id fun c env h => by cases h

/-! ## Values for concrete runs -/

/-- Every call succeeds. -/
def okEnv : WifiEnv := ⟨true, true, 0, 0, 0, 0, none, none, 0⟩

/-- The connect request is rejected. -/
def rejectEnv : WifiEnv := { okEnv with connectRet := -EINVAL }

/-- `"home"` -/
def homeSsid : CStr := ⟨[0x68, 0x6f, 0x6d, 0x65], by decide⟩

/-- `"cafe"` -/
def cafeSsid : CStr := ⟨[0x63, 0x61, 0x66, 0x65], by decide⟩

/-- `"password"` -/
def passphrase : CStr := ⟨[0x70, 0x61, 0x73, 0x73, 0x77, 0x6f, 0x72, 0x64], by decide⟩

/-- The service, started with a budget of two. -/
def startedTwo : World := { World.boot .empty with wc := networkProvWifiConfigInit 2 Wc.boot }

/-- `configure_wifi_sta` with the passphrase. -/
def configure (e : WifiEnv) (ssid : CStr) : Input := .configureWifiSta e (some ssid) (some passphrase)

end NetworkProv.Wifi
