import NetworkProv.Wifi.Scan
import NetworkProv.Wifi.World

/-!
# States the Wi-Fi handlers cannot tell apart

Much of `wc` is read only after it has been written: the fields next to an
empty SSID, the fail reason unless the connection has failed, the last status
unless a retry is armed, the scan semaphore unless somebody waits for it. Two
states that agree on the rest answer every request alike.

* `WcAgree`, `ScAgree`: agreement on what is read.
* `doApplyConfig_agree`, `onConnectResult_agree` and so on: one lemma a function.
* `step_agree`: steps of the world from states that agree give the same output.
-/
namespace NetworkProv.Wifi

open NetworkProv.Core

/-- The same SSID, and with one the same credentials. -/
structure ConfAgree (c d : ConnectConf) : Prop where
  ssid : c.ssid = d.ssid
  pass : d.ssid.val ≠ [] → c.pass = d.pass
  hasBssid : d.ssid.val ≠ [] → c.hasBssid = d.hasBssid
  channel : d.ssid.val ≠ [] → c.channel = d.channel
  bssid : d.ssid.val ≠ [] → d.hasBssid = true → c.bssid = d.bssid

/-- The same `wc`, as far as it is read: the last status by an armed retry, the fail reason in a status
answer once the connection has failed. -/
structure WcAgree (a b : Wc) : Prop where
  staged : ConfAgree a.staged b.staged
  inflight : ConfAgree a.inflight b.inflight
  attemptsMax : a.attemptsMax = b.attemptsMax
  attemptsCompleted : a.attemptsCompleted = b.attemptsCompleted
  attemptFailed : a.attemptFailed = b.attemptFailed
  retryWork : a.retryWork = b.retryWork
  staState : a.staState = b.staState
  cbRegistered : a.cbRegistered = b.cbRegistered
  lastConnStatus : b.retryWork = true → a.lastConnStatus = b.lastConnStatus
  failReason : b.staState = .connectionFailed → a.failReason = b.failReason

/-- What a call finds and has done so far agrees. -/
structure CallAgree (a b : CallState) : Prop where
  wc : WcAgree a.wc b.wc
  store : a.store = b.store
  events : a.events = b.events
  connects : a.connects = b.connects

/-- Next to an empty SSID nothing is read. -/
theorem ConfAgree.empty {c d : ConnectConf} (hc : c.ssid.val = []) (hd : d.ssid.val = []) :
    ConfAgree c d :=
  ⟨Subtype.ext (hc.trans hd.symm), fun h => absurd hd h, fun h => absurd hd h,
    fun h => absurd hd h, fun h => absurd hd h⟩

theorem ConfAgree.refl (c : ConnectConf) : ConfAgree c c :=
  ⟨rfl, fun _ => rfl, fun _ => rfl, fun _ => rfl, fun _ _ => rfl⟩

/-- A connect request does not show the BSSID unless there is one. -/
theorem ConfAgree.connectParams {c d : ConnectConf} (h : ConfAgree c d) (hs : d.ssid.val ≠ []) :
    connectParams c = connectParams d := by
  unfold Wifi.connectParams
  rw [h.ssid, h.pass hs, h.hasBssid hs, h.channel hs]
  cases hb : d.hasBssid with
  | true => rw [h.bssid hs hb]
  | false => rfl

/-- Nor does the entry that is stored. -/
theorem ConfAgree.storedCred {c d : ConnectConf} (h : ConfAgree c d) (hs : d.ssid.val ≠ []) :
    storedCred c = storedCred d := by
  unfold Wifi.storedCred securityFromPass
  rw [h.pass hs, h.hasBssid hs, h.channel hs]
  cases hb : d.hasBssid with
  | true => rw [h.bssid hs hb]
  | false => rfl

/-! ## The pieces of the handler -/

theorem clearInflight_agree {a b : Wc} (h : WcAgree a b) : WcAgree (clearInflight a) (clearInflight b) :=
  { h with inflight := .empty rfl rfl }

/-- The snapshot is of what is staged; of what was in flight before nothing is kept. -/
theorem snapshot_agree {a b : Wc} (h : WcAgree a b) : WcAgree (snapshot a) (snapshot b) where
  staged := h.staged
  inflight :=
    { ssid := h.staged.ssid
      pass := h.staged.pass
      hasBssid := h.staged.hasBssid
      channel := h.staged.channel
      bssid := fun hs hb => by
        have hb' : b.staged.hasBssid = true := hb
        have ha' : a.staged.hasBssid = true := (h.staged.hasBssid hs).trans hb'
        simp only [snapshot, ha', hb', if_true]
        exact h.staged.bssid hs hb' }
  attemptsMax := h.attemptsMax
  attemptsCompleted := rfl
  attemptFailed := rfl
  retryWork := rfl
  staState := h.staState
  cbRegistered := h.cbRegistered
  lastConnStatus := fun hr => by cases hr
  failReason := h.failReason

theorem remainingAttempts_agree {a b : Wc} (h : WcAgree a b) :
    networkProvWifiConfigRemainingAttempts a = networkProvWifiConfigRemainingAttempts b := by
  unfold networkProvWifiConfigRemainingAttempts
  rw [h.attemptsMax, h.attemptsCompleted]

/-- `CmdGetStatus` reads the fail reason in one state only. -/
theorem getStatus_agree {a b : Wc} (h : WcAgree a b) (e : WifiEnv) : getStatus e a = getStatus e b := by
  unfold getStatus fillConnectedState
  rw [h.staState, h.attemptFailed, remainingAttempts_agree h, h.staged.ssid]
  by_cases hf : b.staState = .connectionFailed
  · rw [h.failReason hf]
  · rw [if_neg hf, if_neg hf]

/-- What is staged is written as a whole, with a BSSID of the right length or without one. -/
theorem doSetConfig_agree {a b : Wc} (h : WcAgree a b) (cmd : CmdSetWifiConfig) :
    (doSetConfig cmd a).1 = (doSetConfig cmd b).1 ∧
      WcAgree (doSetConfig cmd a).2 (doSetConfig cmd b).2 := by
  unfold doSetConfig
  split
  · exact ⟨rfl, h⟩
  split
  · exact ⟨rfl, h⟩
  refine ⟨rfl, { h with staged := ⟨rfl, fun _ => rfl, fun _ => rfl, fun _ => rfl, fun _ hb => ?_⟩ }⟩
  have hlen : cmd.bssid.length = WIFI_MAC_ADDR_LEN := by simpa using hb
  simp only [dif_pos hlen]

/-- A reset leaves nothing of the attempt behind. -/
theorem configReset_agree {a b : Wc} (h : WcAgree a b) :
    WcAgree (networkProvWifiConfigReset a) (networkProvWifiConfigReset b) where
  staged := .empty rfl rfl
  inflight := .empty rfl rfl
  attemptsMax := h.attemptsMax
  attemptsCompleted := rfl
  attemptFailed := rfl
  retryWork := rfl
  staState := rfl
  cbRegistered := h.cbRegistered
  lastConnStatus := fun hr => by cases hr
  failReason := fun hr => by cases hr

theorem configDeinit_agree {a b : Wc} (h : WcAgree a b) :
    WcAgree (networkProvWifiConfigDeinit a) (networkProvWifiConfigDeinit b) :=
  { clearInflight_agree h with
    retryWork := rfl, cbRegistered := rfl, lastConnStatus := fun hr => by cases hr }

/-- What `wc` held before matters for what is staged and in flight alone. -/
theorem configInit_agree {a b : Wc} (hs : ConfAgree a.staged b.staged)
    (hi : ConfAgree a.inflight b.inflight) (n : Nat) :
    WcAgree (networkProvWifiConfigInit n a) (networkProvWifiConfigInit n b) where
  staged := hs
  inflight := hi
  attemptsMax := rfl
  attemptsCompleted := rfl
  attemptFailed := rfl
  retryWork := rfl
  staState := rfl
  cbRegistered := rfl
  lastConnStatus := fun hr => by cases hr
  failReason := fun hr => by cases hr

/-! ## Calls -/

/-- The request shows the snapshot, which is not empty. -/
theorem connectFromInflight_agree {a b : CallState} (h : CallAgree a b)
    (hs : b.wc.inflight.ssid.val ≠ []) (e : WifiEnv) :
    (connectFromInflight e a).1 = (connectFromInflight e b).1 ∧
      CallAgree (connectFromInflight e a).2 (connectFromInflight e b).2 := by
  unfold connectFromInflight
  split
  · exact ⟨rfl, h⟩
  · exact ⟨rfl, { h with connects := by simp [h.connects, h.wc.inflight.connectParams hs] }⟩

/-- The status that is reported is the last one, so here it has to be the same. -/
theorem finalFailure_agree {a b : CallState} (h : CallAgree a b)
    (hl : a.wc.lastConnStatus = b.wc.lastConnStatus) (ret : Int) :
    CallAgree (finalFailure ret a) (finalFailure ret b) := by
  rw [finalFailure_eq, finalFailure_eq]
  have hw := h.wc
  refine ⟨?_, by simp [h.store, hw.inflight.ssid], by simp [h.events, hl], h.connects⟩
  exact clearInflight_agree { hw with
    staState := rfl, attemptFailed := rfl, failReason := fun _ => by simp only [hl] }

/-- An armed retry is what makes the last status count. -/
theorem retryWorkHandler_agree {a b : CallState} (h : CallAgree a b)
    (hl : a.wc.lastConnStatus = b.wc.lastConnStatus) (e : WifiEnv) :
    CallAgree (retryWorkHandler e a) (retryWorkHandler e b) := by
  unfold retryWorkHandler
  rw [h.wc.inflight.ssid]
  by_cases hs : b.wc.inflight.ssid.val.length = 0
  · rw [if_pos hs, if_pos hs]
    exact h
  · rw [if_neg hs, if_neg hs]
    have hne : b.wc.inflight.ssid.val ≠ [] := fun hn => hs (by rw [hn]; rfl)
    obtain ⟨hr, hc⟩ := connectFromInflight_agree h hne e
    have hkeep : ∀ w : CallState, (connectFromInflight e w).2.wc = w.wc := fun w => by
      unfold connectFromInflight; split <;> rfl
    dsimp only
    rw [hr]
    split
    · exact finalFailure_agree hc (by rw [hkeep, hkeep, hl]) _
    · exact hc

/-- One more attempt counted; the status is overwritten. -/
theorem charge_agree {a b : Wc} (h : WcAgree a b) (st : WifiStatus) :
    WcAgree (a.charge st) (b.charge st) :=
  { h with
    attemptsCompleted := by simp [Wc.charge, h.attemptsMax, h.attemptsCompleted]
    lastConnStatus := fun _ => rfl }

/-- Which of the four ways a result takes is decided by what agrees. -/
theorem onConnectResult_agree {a b : CallState} (h : CallAgree a b) (st : WifiStatus) (d : Int) :
    CallAgree (onConnectResult st d a) (onConnectResult st d b) := by
  have hn : a.wc.NoSnapshot ↔ b.wc.NoSnapshot := by unfold Wc.NoSnapshot; rw [h.wc.inflight.ssid]
  have hr : a.wc.Retries ↔ b.wc.Retries := by
    unfold Wc.Retries; rw [h.wc.attemptsCompleted, h.wc.attemptsMax]
  by_cases hb : b.wc.NoSnapshot
  · rw [onConnectResult_ignored (hn.2 hb), onConnectResult_ignored hb]
    exact h
  by_cases hst : st.status = 0
  · rw [onConnectResult_connected (mt hn.1 hb) hst, onConnectResult_connected hb hst]
    refine { h with wc := clearInflight_agree ?_, events := by simp [h.events] }
    exact { h.wc with staState := rfl, attemptFailed := rfl, failReason := fun hf => by cases hf }
  by_cases hret : b.wc.Retries
  · rw [onConnectResult_retrying (mt hn.1 hb) hst (hr.2 hret), onConnectResult_retrying hb hst hret]
    refine { h with wc := { charge_agree h.wc st with
      attemptFailed := rfl, staState := rfl, retryWork := rfl, lastConnStatus := fun _ => rfl,
      failReason := fun hf => by cases hf } }
  · rw [onConnectResult_failed (mt hn.1 hb) hst (mt hr.1 hret), onConnectResult_failed hb hst hret]
    exact finalFailure_agree (a := { a with wc := a.wc.charge st }) (b := { b with wc := b.wc.charge st })
      { h with wc := charge_agree h.wc st } rfl d

/-- An entry for an SSID, found equal only after a rewrite of the argument that says it is not empty. -/
theorem put_congr (s : WifiCredentials) {k k' : Bytes} (hk : k ≠ []) (hk' : k' ≠ []) (h : k = k')
    (c : WifiCred) : s.put k hk c = s.put k' hk' c := by
  subst h; rfl

/-- An Apply stores, asks to connect or refuses by what is staged alone. -/
theorem doApplyConfig_agree {a b : CallState} (h : CallAgree a b) (e : WifiEnv) :
    (doApplyConfig e a).1 = (doApplyConfig e b).1 ∧
      CallAgree (doApplyConfig e a).2 (doApplyConfig e b).2 := by
  have hst := h.wc.staged
  have hssid : a.wc.staged.ssid.val = b.wc.staged.ssid.val := by rw [hst.ssid]
  have hstores : Stores a.wc.staged e ↔ Stores b.wc.staged e := by unfold Stores; rw [hssid]
  cases hi : e.iface with
  | false =>
    rw [doApplyConfig_noIface hi, doApplyConfig_noIface hi]
    exact ⟨rfl, h⟩
  | true =>
    by_cases hs : Stores b.wc.staged e
    -- it is stored and asked for; the request may still be refused
    · rw [doApplyConfig_stores hi a (hstores.2 hs), doApplyConfig_stores hi b hs]
      have happ : WcAgree (a.wc.applied a.wc.staged) (b.wc.applied b.wc.staged) :=
        snapshot_agree { h.wc with staState := rfl, failReason := fun hf => by cases hf }
      refine ⟨rfl, ?_⟩
      by_cases hc : e.connectRet = 0
      · rw [if_pos hc, if_pos hc]
        refine ⟨happ, ?_, by simp [CallState.applied, h.events],
          by simp [CallState.applied, h.connects, hst.connectParams hs.1]⟩
        unfold CallState.applied
        dsimp only
        rw [h.store, hst.storedCred hs.1]
        exact put_congr _ _ _ hssid _
      · rw [if_neg hc, if_neg hc]
        refine ⟨clearInflight_agree ?_, by simp [h.store, hssid, hst.storedCred hs.1], by simp [h.events],
          by simp [h.connects, hst.connectParams hs.1]⟩
        exact { happ with staState := rfl, failReason := fun _ => rfl }
    · rw [doApplyConfig_refused hi a (mt hstores.1 hs), doApplyConfig_refused hi b hs]
      exact ⟨rfl, { h with store := by simp [h.store, hssid] }⟩

/-- `set_and_apply` stages no BSSID, so that of before may differ. -/
theorem setAndApply_agree {a b : CallState} (h : CallAgree a b) (e : WifiEnv)
    (ssid psk : Option Bytes) (pskLen : Nat) :
    (networkProvWifiConfigSetAndApply e ssid psk pskLen a).1 =
        (networkProvWifiConfigSetAndApply e ssid psk pskLen b).1 ∧
      CallAgree (networkProvWifiConfigSetAndApply e ssid psk pskLen a).2
        (networkProvWifiConfigSetAndApply e ssid psk pskLen b).2 := by
  unfold networkProvWifiConfigSetAndApply
  split
  · exact ⟨rfl, h⟩
  split
  · exact ⟨rfl, h⟩
  dsimp only
  refine (fun hd : _ ∧ _ => ⟨by rw [hd.1], hd.2⟩) (doApplyConfig_agree ?_ e)
  refine { h with wc := { h.wc with staged := ⟨rfl, fun _ => rfl, fun _ => rfl, fun _ => rfl, ?_⟩ } }
  intro _ hb
  cases hb

theorem configHandler_agree {a b : CallState} (h : CallAgree a b) (e : WifiEnv)
    (req : Option NetworkConfigReq) :
    (networkProvWifiConfigHandler e req a).1 = (networkProvWifiConfigHandler e req b).1 ∧
      CallAgree (networkProvWifiConfigHandler e req a).2 (networkProvWifiConfigHandler e req b).2 := by
  match req with
  | none => exact ⟨rfl, h⟩
  | some .other => exact ⟨rfl, h⟩
  | some .cmdGetWifiStatus =>
    simp only [networkProvWifiConfigHandler, getStatus_agree h.wc]
    exact ⟨trivial, h⟩
  | some (.cmdSetWifiConfig cmd) =>
    obtain ⟨hs, hw⟩ := doSetConfig_agree h.wc cmd
    simp only [networkProvWifiConfigHandler, hs]
    exact ⟨trivial, { h with wc := hw }⟩
  | some .cmdApplyWifiConfig =>
    obtain ⟨hs, hc⟩ := doApplyConfig_agree h e
    simp only [networkProvWifiConfigHandler, hs]
    exact ⟨trivial, hc⟩

theorem ctrlHandler_agree {a b : CallState} (h : CallAgree a b) (e : WifiEnv)
    (req : Option NetworkCtrlReq) :
    (networkProvWifiCtrlHandler e req a).1 = (networkProvWifiCtrlHandler e req b).1 ∧
      CallAgree (networkProvWifiCtrlHandler e req a).2 (networkProvWifiCtrlHandler e req b).2 := by
  match req with
  | none => exact ⟨rfl, h⟩
  | some .other => exact ⟨rfl, h⟩
  | some .cmdCtrlWifiReset => exact ⟨rfl, { h with wc := configReset_agree h.wc }⟩
  | some .cmdCtrlWifiReprov => exact ⟨rfl, { h with wc := configReset_agree h.wc }⟩

theorem resetSmState_agree {a b : CallState} (h : CallAgree a b) (started : Bool) :
    (networkProvMgrResetWifiSmState started a).1 = (networkProvMgrResetWifiSmState started b).1 ∧
      CallAgree (networkProvMgrResetWifiSmState started a).2
        (networkProvMgrResetWifiSmState started b).2 := by
  cases started with
  | false => exact ⟨rfl, h⟩
  | true => exact ⟨rfl, { h with wc := configReset_agree h.wc }⟩

/-- The checks come before anything is read of `wc`. -/
theorem configureWifiSta_agree {a b : CallState} (h : CallAgree a b) (started : Bool) (e : WifiEnv)
    (ssid psk : Option CStr) :
    (networkProvMgrConfigureWifiSta started e ssid psk a).1 =
        (networkProvMgrConfigureWifiSta started e ssid psk b).1 ∧
      CallAgree (networkProvMgrConfigureWifiSta started e ssid psk a).2
        (networkProvMgrConfigureWifiSta started e ssid psk b).2 := by
  unfold networkProvMgrConfigureWifiSta
  split
  · exact ⟨rfl, h⟩
  split
  · exact ⟨rfl, h⟩
  split
  · exact ⟨rfl, h⟩
  · exact setAndApply_agree h e _ _ _

theorem resetWifiProvisioning_agree {a b : CallState} (h : CallAgree a b) (inited : Bool) (ret : Int)
    (deleted : List Bytes) :
    (networkProvMgrResetWifiProvisioning inited ret deleted a).1 =
        (networkProvMgrResetWifiProvisioning inited ret deleted b).1 ∧
      CallAgree (networkProvMgrResetWifiProvisioning inited ret deleted a).2
        (networkProvMgrResetWifiProvisioning inited ret deleted b).2 := by
  unfold networkProvMgrResetWifiProvisioning
  split
  · exact ⟨rfl, h⟩
  · simp only [h.store]
    exact ⟨trivial, { h with store := rfl }⟩

/-! ## Steps of the world -/

/-- Of the requests that are out, only how many there are: a result does not say which it answers. -/
structure WorldAgree (a b : World) : Prop where
  wc : WcAgree a.wc b.wc
  store : a.store = b.store
  outstanding : a.outstanding.length = b.outstanding.length

theorem WorldAgree.begin {a b : World} (h : WorldAgree a b) : CallAgree a.begin b.begin :=
  ⟨h.wc, h.store, rfl, rfl⟩

/-- The same call, from states that agree, leads to the same answer and worlds that agree. -/
theorem answer_agree {a b : World} (ho : a.outstanding.length = b.outstanding.length)
    {r s : (Int × Option Resp) × CallState} (h : r.1 = s.1 ∧ CallAgree r.2 s.2) :
    Option.Rel (fun p q => p.2 = q.2 ∧ WorldAgree p.1 q.1) (a.answer r.1 r.2) (b.answer s.1 s.2) := by
  obtain ⟨hr, hc⟩ := h
  refine .some ⟨by rw [hr, hc.events, hc.connects], hc.wc, hc.store, ?_⟩
  simp [World.finish, ho, hc.connects]

/-- Steps from worlds that agree are both impossible, or show the same and lead to worlds that agree;
one case an input. -/
theorem step_agree {a b : World} (h : WorldAgree a b) (i : Input) :
    Option.Rel (fun p q => p.2 = q.2 ∧ WorldAgree p.1 q.1) (step a i) (step b i) := by
  have hcb := h.wc.cbRegistered
  have hb := h.begin
  cases i with
  | start n =>
    simp only [step, hcb]
    split
    · exact .none
    · exact answer_agree (r := ((0, none), _)) (s := ((0, none), _)) h.outstanding
        ⟨rfl, { hb with wc := configInit_agree h.wc.staged h.wc.inflight n }⟩
  | stop =>
    simp only [step, hcb]
    split
    · exact answer_agree (r := ((0, none), _)) (s := ((0, none), _)) h.outstanding
        ⟨rfl, { hb with wc := configDeinit_agree h.wc }⟩
    · exact .none
  | config e req =>
    simp only [step, hcb]
    split
    · exact answer_agree h.outstanding (configHandler_agree hb e req)
    · exact .none
  | ctrl e req =>
    simp only [step, hcb]
    split
    · exact answer_agree h.outstanding (ctrlHandler_agree hb e req)
    · exact .none
  | resetSmState =>
    obtain ⟨hr, hc⟩ := resetSmState_agree hb b.wc.cbRegistered
    simp only [step, hcb]
    exact answer_agree (r := ((_, none), _)) (s := ((_, none), _)) h.outstanding ⟨by simp [hr], hc⟩
  | configureWifiSta e ssid psk =>
    obtain ⟨hr, hc⟩ := configureWifiSta_agree hb b.wc.cbRegistered e ssid psk
    simp only [step, hcb]
    exact answer_agree (r := ((_, none), _)) (s := ((_, none), _)) h.outstanding ⟨by simp [hr], hc⟩
  | resetWifiProvisioning inited ret deleted =>
    obtain ⟨hr, hc⟩ := resetWifiProvisioning_agree hb inited ret deleted
    simp only [step]
    exact answer_agree (r := ((_, none), _)) (s := ((_, none), _)) h.outstanding ⟨by simp [hr], hc⟩
  | connectResult st d =>
    have ho := h.outstanding
    simp only [step, hcb]
    cases ha : a.outstanding with
    | nil =>
      have hb' : b.outstanding = [] := List.eq_nil_of_length_eq_zero (by rw [← ho, ha]; rfl)
      rw [hb']
      exact .none
    | cons x rest =>
      cases hb' : b.outstanding with
      | nil => rw [ha, hb'] at ho; cases ho
      | cons y rest' =>
        -- both have one to answer, and are left with as many
        have hrest : rest.length = rest'.length := by simpa [ha, hb'] using ho
        have hcall : CallAgree (if b.wc.cbRegistered then onConnectResult st d a.begin else a.begin)
            (if b.wc.cbRegistered then onConnectResult st d b.begin else b.begin) := by
          split
          · exact onConnectResult_agree hb st d
          · exact hb
        exact answer_agree (a := { a with outstanding := rest }) (b := { b with outstanding := rest' })
          (r := ((0, none), _)) (s := ((0, none), _)) hrest ⟨rfl, hcall⟩
  | retry e =>
    have hr := h.wc.retryWork
    simp only [step, hr]
    split
    · rename_i hw
      refine answer_agree (r := ((0, none), _)) (s := ((0, none), _)) h.outstanding ⟨rfl, ?_⟩
      refine retryWorkHandler_agree ?_ (h.wc.lastConnStatus hw) e
      exact { hb with wc := { h.wc with retryWork := rfl, lastConnStatus := fun hf => by cases hf } }
    · exact .none

/-! ## The scan handler -/

/-- The same scan state, but for the semaphore while nobody waits for it. -/
structure ScAgree (a b : Sc) : Prop where
  entries : a.entries = b.entries
  finished : a.finished = b.finished
  cbRegistered : a.cbRegistered = b.cbRegistered
  blocked : a.blocked = b.blocked
  doneSem : b.blocked = true → a.doneSem = b.doneSem

theorem onScanResult_agree {a b : Sc} (h : ScAgree a b) (maxEntries : Nat) (r : WifiScanResult) :
    ScAgree (onScanResult maxEntries r a) (onScanResult maxEntries r b) := by
  unfold onScanResult
  rw [h.entries]
  split
  · exact h
  · exact { h with entries := rfl }

theorem onScanDone_agree {a b : Sc} (h : ScAgree a b) : ScAgree (onScanDone a) (onScanDone b) :=
  { h with finished := rfl, doneSem := fun _ => rfl }

/-- A start resets the semaphore first, whence the hypothesis. -/
theorem doScanStart_agree {a b : Sc} (h : ScAgree a b) (hd : a.doneSem = b.doneSem) (e : ScanEnv) :
    (doScanStart e a).1 = (doScanStart e b).1 ∧ ScAgree (doScanStart e a).2 (doScanStart e b).2 ∧
      (doScanStart e a).2.doneSem = (doScanStart e b).2.doneSem := by
  unfold doScanStart
  split
  · exact ⟨rfl, h, hd⟩
  dsimp only
  split
  · exact ⟨rfl, { h with entries := rfl, finished := rfl }, hd⟩
  · exact ⟨rfl, { h with entries := rfl, finished := rfl }, hd⟩

theorem scanHandler_agree {a b : Sc} (h : ScAgree a b) (e : ScanEnv) (req : Option NetworkScanReq) :
    (networkProvWifiScanHandler e req a).1 = (networkProvWifiScanHandler e req b).1 ∧
      ScAgree (networkProvWifiScanHandler e req a).2 (networkProvWifiScanHandler e req b).2 := by
  match req with
  | none => exact ⟨rfl, h⟩
  | some .other => exact ⟨rfl, h⟩
  | some .cmdScanWifiStatus =>
    simp only [networkProvWifiScanHandler, h.finished, h.entries]
    exact ⟨trivial, h⟩
  | some (.cmdScanWifiResult _ _) =>
    simp only [networkProvWifiScanHandler, Sc.page, h.entries]
    exact ⟨trivial, h⟩
  | some (.cmdScanWifiStart blocking) =>
    have hreset : ScAgree { a with doneSem := 0 } { b with doneSem := 0 } :=
      { h with doneSem := fun _ => rfl }
    obtain ⟨hs, hsc, hd⟩ := doScanStart_agree hreset rfl e
    unfold networkProvWifiScanHandler
    dsimp only
    rw [hs]
    split
    · exact ⟨rfl, { hsc with blocked := rfl, doneSem := fun _ => hd }⟩
    · exact ⟨rfl, hsc⟩

/-- The waiting start is the reader of the semaphore. -/
theorem scanWaitEnds_agree {a b : Sc} (h : ScAgree a b) (timedOut : Bool) (encodeRet : Int) :
    Option.Rel (fun p q => p.1 = q.1 ∧ ScAgree p.2 q.2) (scanWaitEnds timedOut encodeRet a)
      (scanWaitEnds timedOut encodeRet b) := by
  unfold scanWaitEnds
  rw [h.blocked]
  split
  · exact .none
  rename_i hb
  have hd := h.doneSem (by simpa using hb)
  split
  · exact .some ⟨rfl, { h with blocked := rfl, doneSem := fun hf => by cases hf }⟩
  rw [hd]
  split
  · exact .none
  · exact .some ⟨rfl, { h with blocked := rfl, doneSem := fun hf => by cases hf }⟩

end NetworkProv.Wifi
