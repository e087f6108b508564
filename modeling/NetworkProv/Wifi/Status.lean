import NetworkProv.Wifi.Attempts

/-!
# The status polls tell what happened

A poll is answered from `sta_state`, `fail_reason`, `attempt_failed` and, once
connected, from the interface or else the staging fields. `Truthful` says what
the answer has to be after a history: only the steps since the last Apply
answered Success count (`sinceApply`), and none after a reset.

* `told_step`: with one connect request at a time, the state keeps to that
  history.
* `status_truthful_iff`: the polls of a run are truthful exactly if none is
  answered from staging fields that name another network than the connected one.
-/
namespace NetworkProv.Wifi

open NetworkProv.Core

/-! ## The history that counts -/

/-- Nothing before the step counts any more. -/
def Op.clears : Op → Bool
  | .start _ | .stop | .reset => true
  | _ => false

/-- The history `t` that counted before the step `e`, with `e`. -/
def extend (t : List Step) (e : Step) : List Step :=
  if Applies e then [e]
  else if (opOf e).clears || t.isEmpty then []
  else t ++ [e]

/-- The steps since the last Apply answered Success, with that one first; none after a reset, a
stop or a start. -/
def sinceApply (t : List Step) : List Step := t.foldl extend []

theorem sinceApply_snoc (t : List Step) (e : Step) :
    sinceApply (t ++ [e]) = extend (sinceApply t) e := by
  simp [sinceApply]

/-- The status of a failed result. -/
def failedStatus (e : Step) : Option Int :=
  match e.lbl with
  | .connectResult st _ => if st.status = 0 then none else some st.connStatus
  | _ => none

/-- The status of the most recent failed result. -/
def lastFailure (t : List Step) : Option Int := (t.filterMap failedStatus).getLast?

/-- A connect request of the step is rejected, or the retry finds no interface to issue it. -/
def RequestFails (e : Step) : Prop :=
  (∃ r ∈ e.out.connects, r.ret ≠ 0) ∨ ∃ env, e.lbl = .retry env ∧ env.iface = false

/-- No attempt is left of a budget of `n`, or the request of one could not be issued. -/
def FinalFailure (n : Nat) (t : List Step) : Prop :=
  (∃ x ∈ t, RequestFails x) ∨ failures t = max 1 n

/-- A failed result that is followed by a retry: it is armed. -/
def RetryFollows (e : Step) : Prop := failedResult e = true ∧ e.post.wc.retryWork = true

/-- A request for the network `ssid` has succeeded. -/
def ConnectedTo (t : List Step) (ssid : Bytes) : Prop :=
  ∃ x ∈ t, ZeroResult x ∧ (delivered x).map (·.params.ssid) = some ssid

/-- What a poll has to be answered after the history `t` of an Apply with a budget of `n`. -/
inductive Truthful (n : Nat) (t : List Step) : RespGetWifiStatus → Prop
  | disconnected : t = [] → Truthful n t ⟨.success, .disconnected, .unset⟩
  | connecting : t ≠ [] → (∀ x ∈ t, ¬ ZeroResult x) → ¬ FinalFailure n t →
      (∀ x ∈ t, ¬ RetryFollows x) → Truthful n t ⟨.success, .connecting, .unset⟩
  | retrying (left : Nat) : (∀ x ∈ t, ¬ ZeroResult x) → ¬ FinalFailure n t →
      (∃ x ∈ t, RetryFollows x) → Truthful n t ⟨.success, .connecting, .attemptFailed left⟩
  | failed : (∀ x ∈ t, ¬ ZeroResult x) → FinalFailure n t →
      Truthful n t ⟨.success, .connectionFailed, .wifiFailReason
        (if lastFailure t = some WIFI_STATUS_CONN_AP_NOT_FOUND then .wifiNetworkNotFound
          else .authError)⟩
  | connected (c : WifiConnectedState) : ¬ FinalFailure n t → ConnectedTo t c.ssid →
      Truthful n t ⟨.success, .connected, .wifiConnected c⟩

/-- The step is a status poll. -/
def PollWith (e : Step) (env : WifiEnv) : Prop := e.lbl = .config env (some .cmdGetWifiStatus)

/-- The answer to a poll agrees with the history. -/
def PollTruthful (t : List Step) (e : Step) : Prop :=
  ∀ env r, PollWith e env → e.out.resp = some (.respGetWifiStatus r) →
    Truthful e.pre.wc.attemptsMax (sinceApply t) r

/-- The interface status, where it answers, names the connected network. -/
def StatusNames (t : List Step) (e : Step) : Prop :=
  ∀ env status, PollWith e env → env.staIface = true → env.status = some status →
    ∀ ssid, ConnectedTo (sinceApply t) ssid → status.ssid = ssid

/-- The interface status does not answer. -/
def WifiEnv.silent (e : WifiEnv) : Prop := e.staIface = false ∨ e.status = none

/-- Where the interface status does not answer, the connected network is still the one staged. -/
def StagedStill (t : List Step) (e : Step) : Prop :=
  ∀ env, PollWith e env → env.encodeRet = 0 → env.silent → (∃ x ∈ sinceApply t, ZeroResult x) →
    ConnectedTo (sinceApply t) e.pre.wc.staged.ssid.val

instance (e : Step) : Decidable (ZeroResult e) :=
  decidable_of_iff ((match e.lbl with | .connectResult st _ => decide (st.status = 0) | _ => false) = true) <| by
    unfold ZeroResult
    cases e.lbl <;> simp

instance (t : List Step) (ssid : Bytes) : Decidable (ConnectedTo t ssid) :=
  inferInstanceAs (Decidable (∃ x ∈ t, _ ∧ _))

/-! ## One more step of the history -/

theorem lastFailure_snoc (t : List Step) (e : Step) :
    lastFailure (t ++ [e]) = (failedStatus e).or (lastFailure t) := by
  unfold lastFailure
  rw [List.filterMap_append, List.getLast?_append]
  cases h : failedStatus e <;> simp [h]

theorem failedStatus_isSome (e : Step) : (failedStatus e).isSome = failedResult e := by
  unfold failedStatus failedResult
  cases e.lbl with
  | connectResult st d => by_cases h : st.status = 0 <;> simp [h]
  | _ => rfl

/-- No status to report is no failure that counts. -/
theorem lastFailure_eq_none {t : List Step} : lastFailure t = none ↔ failures t = 0 := by
  unfold lastFailure failures
  rw [List.getLast?_eq_none_iff, List.filterMap_eq_nil_iff, List.countP_eq_zero]
  constructor
  · intro h x hx
    simp [← failedStatus_isSome, h x hx]
  · intro h x hx
    have hf := h x hx
    rw [← failedStatus_isSome] at hf
    simpa using hf

/-- The step delivers no result and no request of it fails. -/
structure Eventless (e : Step) : Prop where
  zero : ¬ ZeroResult e
  failed : failedStatus e = none
  request : ¬ RequestFails e

theorem Eventless.failedResult {e : Step} (h : Eventless e) : failedResult e = false := by
  simp [← failedStatus_isSome, h.failed]

/-- A step that is no failure leaves the attempt as final as it was. -/
theorem finalFailure_keep {n : Nat} {t : List Step} {e : Step} (hf : failedResult e = false)
    (hr : ¬ RequestFails e) : FinalFailure n (t ++ [e]) ↔ FinalFailure n t := by
  unfold FinalFailure
  simp [hf, hr]

theorem Eventless.finalFailure {n : Nat} {t : List Step} {e : Step} (h : Eventless e) :
    FinalFailure n (t ++ [e]) ↔ FinalFailure n t :=
  finalFailure_keep h.failedResult h.request

theorem Eventless.failures {t : List Step} {e : Step} (h : Eventless e) :
    failures (t ++ [e]) = failures t := by
  simp [h.failedResult]

theorem Eventless.lastFailure {t : List Step} {e : Step} (h : Eventless e) :
    lastFailure (t ++ [e]) = lastFailure t := by
  simp [lastFailure_snoc, h.failed]

theorem Eventless.noZero {t : List Step} {e : Step} (h : Eventless e)
    (ht : ∀ x ∈ t, ¬ ZeroResult x) : ∀ x ∈ t ++ [e], ¬ ZeroResult x := by
  rw [forall_mem_snoc]
  exact ⟨ht, h.zero⟩

theorem ConnectedTo.snoc {t : List Step} {ssid : Bytes} (h : ConnectedTo t ssid) (e : Step) :
    ConnectedTo (t ++ [e]) ssid := by
  obtain ⟨x, hx, hz⟩ := h
  exact ⟨x, by simp [hx], hz⟩

/-! ## What the state keeps of it -/

/-- The attempt of the history `t` goes on. -/
structure Trying (t : List Step) (wc : Wc) : Prop where
  applied : t ≠ []
  registered : wc.cbRegistered = true
  snapshot : ¬ wc.NoSnapshot
  state : wc.staState = .connecting
  failed : wc.attemptFailed = decide (failures t ≠ 0)
  count : 0 < wc.attemptsMax → wc.attemptsCompleted = failures t
  left : failures t < max 1 wc.attemptsMax
  cause : ∀ s, lastFailure t = some s → wc.lastConnStatus = s
  noZero : ∀ x ∈ t, ¬ ZeroResult x
  noReject : ∀ x ∈ t, ¬ RequestFails x
  armed : ∀ x ∈ t, failedResult x = true → x.post.wc.retryWork = true

/-- The attempt of the history `t` is over. -/
structure Over (t : List Step) (w : World) : Prop where
  applied : t ≠ []
  drained : w.outstanding = []
  disarmed : w.wc.retryWork = false
  snapshot : w.wc.NoSnapshot

/-- The state after the history `t`. -/
inductive Told (t : List Step) (w : World) : Prop
  | resting : t = [] → w.wc.NoSnapshot →
      (w.wc.cbRegistered = true → w.wc.staState = .disconnected) → Told t w
  | awaiting (r : Outstanding) : w.outstanding = [r] → r.params.ssid.length ≤ SSID_MAX →
      w.wc.retryWork = false → Trying t w.wc → Told t w
  | retrying : w.outstanding = [] → w.wc.retryWork = true → Trying t w.wc → failures t ≠ 0 →
      Told t w
  | connected (ssid : Bytes) : Over t w → w.wc.staState = .connected →
      ¬ FinalFailure w.wc.attemptsMax t → ConnectedTo t ssid → ssid.length ≤ SSID_MAX → Told t w
  | failed : Over t w → w.wc.staState = .connectionFailed →
      w.wc.failReason = (if lastFailure t = some WIFI_STATUS_CONN_AP_NOT_FOUND
        then .wifiNetworkNotFound else .authError) →
      (∀ x ∈ t, ¬ ZeroResult x) → FinalFailure w.wc.attemptsMax t → Told t w

theorem Told.noSnapshot {t : List Step} {w : World} (h : Told t w)
    (hcb : w.wc.cbRegistered = false) : w.wc.NoSnapshot := by
  cases h with
  | resting _ hn => exact hn
  | awaiting r _ _ _ ht | retrying _ _ ht =>
    have hcb' := ht.registered
    rw [hcb] at hcb'
    cases hcb'
  | connected _ ho | failed ho => exact ho.snapshot

/-- A result or a retry that finds no snapshot is from before a reset, a stop or a start. -/
theorem Told.stale {t : List Step} {w : World} (h : Told t w) (hn : w.wc.NoSnapshot)
    (hs : w.outstanding ≠ [] ∨ w.wc.retryWork = true) :
    t = [] ∧ (w.wc.cbRegistered = true → w.wc.staState = .disconnected) := by
  cases h with
  | resting ht _ hd => exact ⟨ht, hd⟩
  | awaiting _ _ _ _ ht | retrying _ _ ht => exact absurd hn ht.snapshot
  | connected _ ho | failed ho =>
    rcases hs with hw | hr
    · exact absurd ho.drained hw
    · rw [ho.disarmed] at hr
      cases hr

/-- A result comes in while one is awaited, or is stale. -/
theorem Told.result {t : List Step} {w : World} (h : Told t w) {r : Outstanding}
    {rest : List Outstanding} (hw : w.outstanding = r :: rest) (hn : ¬ w.wc.NoSnapshot) :
    rest = [] ∧ r.params.ssid.length ≤ SSID_MAX ∧ w.wc.retryWork = false ∧ Trying t w.wc := by
  cases h with
  | resting _ hn' => exact absurd hn' hn
  | awaiting r' ho hlen hr ht =>
    rw [hw] at ho
    obtain ⟨rfl, rfl⟩ := List.cons.inj ho
    exact ⟨rfl, hlen, hr, ht⟩
  | retrying ho => rw [hw] at ho; cases ho
  | connected _ ho | failed ho => exact absurd ho.snapshot hn

/-- A retry that is armed finds the attempt going on, after a failure. -/
theorem Told.retry {t : List Step} {w : World} (h : Told t w) (hr : w.wc.retryWork = true)
    (hn : ¬ w.wc.NoSnapshot) : w.outstanding = [] ∧ Trying t w.wc ∧ failures t ≠ 0 := by
  cases h with
  | resting _ hn' => exact absurd hn' hn
  | awaiting r' ho _ hr' => rw [hr] at hr'; cases hr'
  | retrying ho _ ht hk => exact ⟨ho, ht, hk⟩
  | connected _ ho | failed ho => exact absurd ho.snapshot hn

/-- While the attempt goes on each failed result has been followed by a retry. -/
theorem Trying.retryFollows_iff {t : List Step} {wc : Wc} (h : Trying t wc) :
    (∃ x ∈ t, RetryFollows x) ↔ failures t ≠ 0 := by
  rw [← Nat.pos_iff_ne_zero, failures, List.countP_pos_iff]
  constructor
  · intro hx
    obtain ⟨x, hx, hf, -⟩ := hx
    exact ⟨x, hx, hf⟩
  · intro hx
    obtain ⟨x, hx, hf⟩ := hx
    exact ⟨x, hx, hf, h.armed x hx hf⟩

/-- While the attempt goes on, the budget has something left. -/
theorem Trying.notFinal {t : List Step} {wc : Wc} (h : Trying t wc) :
    ¬ FinalFailure wc.attemptsMax t := by
  intro hx
  rcases hx with ⟨x, hx, hr⟩ | hk
  · exact h.noReject x hx hr
  · have hleft := h.left
    omega

theorem Trying.quiet {t : List Step} {wc wc' : Wc} {e : Step} (h : Trying t wc) (he : Eventless e)
    (hwc : wc' = { wc with staged := wc'.staged, retryWork := wc'.retryWork }) :
    Trying (t ++ [e]) wc' := by
  rw [hwc]
  refine ⟨by simp, h.registered, h.snapshot, h.state, ?_, ?_, ?_, ?_, he.noZero h.noZero, ?_, ?_⟩
  · rw [he.failures]
    exact h.failed
  · rw [he.failures]
    exact h.count
  · rw [he.failures]
    exact h.left
  · rw [he.lastFailure]
    exact h.cause
  · rw [forall_mem_snoc]
    exact ⟨h.noReject, he.request⟩
  · rw [forall_mem_snoc]
    exact ⟨h.armed, fun hf => by simp [he.failedResult] at hf⟩

/-! ## A step keeps to it -/

theorem extend_applies {t : List Step} {e : Step} (h : Applies e) : extend t e = [e] := by
  simp [extend, h]

theorem extend_clears {t : List Step} {e : Step} (h : ¬ Applies e) (hc : (opOf e).clears = true) :
    extend t e = [] := by
  simp [extend, h, hc]

theorem extend_nil {e : Step} (h : ¬ Applies e) : extend [] e = [] := by
  simp [extend, h]

theorem extend_snoc {t : List Step} {e : Step} (h : ¬ Applies e) (hc : (opOf e).clears = false)
    (ht : t ≠ []) : extend t e = t ++ [e] := by
  simp [extend, h, hc, ht]

theorem failedStatus_result {e : Step} {st : WifiStatus} {d : Int} (h : opOf e = .result st d) :
    failedStatus e = if st.status = 0 then none else some st.connStatus := by
  rw [failedStatus, op_result h]

theorem failedStatus_other {e : Step} (h : ∀ st d, opOf e ≠ .result st d) : failedStatus e = none := by
  have hf := failedResult_other h
  rw [← failedStatus_isSome] at hf
  simpa using hf

/-- In terms of the operation: only a retry can find no interface. -/
theorem requestFails_iff {e : Step} : RequestFails e ↔
    (∃ r ∈ e.out.connects, r.ret ≠ 0) ∨ ∃ env, opOf e = .retry env ∧ env.iface = false := by
  have hl : ∀ env, e.lbl = .retry env ↔ opOf e = .retry env := by
    intro env
    constructor
    · intro h
      rw [opOf, h]
      rfl
    · exact op_retry
  unfold RequestFails
  simp only [hl]

theorem eventless_of {e : Step} (hr : ∀ st d, opOf e ≠ .result st d) (hc : ∀ r ∈ e.out.connects, r.ret = 0)
    (hi : ∀ env, opOf e = .retry env → env.iface = true) : Eventless e where
  zero := by
    rw [zeroResult_iff]
    intro hx
    obtain ⟨st, d, ho, -⟩ := hx
    exact hr st d ho
  failed := failedStatus_other hr
  request := by
    rw [requestFails_iff]
    intro hx
    rcases hx with ⟨r, hm, hn⟩ | ⟨env, ho, hn⟩
    · exact hn (hc r hm)
    · rw [hi env ho] at hn
      cases hn

/-- The step delivers a failed result, and no request of it fails. -/
structure Failure (e : Step) (st : WifiStatus) : Prop where
  zero : ¬ ZeroResult e
  failed : failedResult e = true
  status : failedStatus e = some st.connStatus
  request : ¬ RequestFails e

theorem failure_of {e : Step} {st : WifiStatus} {d : Int} (hop : opOf e = .result st d) (hst : st.status ≠ 0)
    (hc : e.out.connects = []) : Failure e st where
  zero := by simp [zeroResult_iff, hop, hst]
  failed := by simp [failedResult_result hop, hst]
  status := by rw [failedStatus_result hop, if_neg hst]
  request := by simp [requestFails_iff, hc, hop]

/-- A failed result with an attempt left: it is charged, and a retry is armed. -/
theorem Trying.charged {t : List Step} {wc : Wc} {e : Step} {st : WifiStatus} (h : Trying t wc)
    (he : Failure e st) (hret : wc.Retries)
    (hpost : e.post.wc = { wc.charge st with
      attemptFailed := true, staState := .connecting, retryWork := true }) :
    Trying (t ++ [e]) e.post.wc := by
  have hmore := (wc.retries_iff h.count h.left).1 hret
  have hleft := h.left
  have hmax : e.post.wc.attemptsMax = wc.attemptsMax := by rw [hpost]; rfl
  have harmed : e.post.wc.retryWork = true := by rw [hpost]
  refine ⟨by simp, ?_, ?_, by rw [hpost], ?_, ?_, ?_, ?_, ?_, ?_, ?_⟩
  · rw [hpost]
    exact h.registered
  · rw [hpost]
    exact h.snapshot
  · simp [hpost, he.failed]
  · intro h0
    rw [hmax] at h0
    simp [hpost, Wc.charge, h0, h.count h0, he.failed]
  · rw [hmax, failures_snoc, he.failed, if_pos rfl]
    omega
  · intro s hs
    rw [lastFailure_snoc, he.status] at hs
    rw [hpost]
    exact Option.some.inj hs
  · rw [forall_mem_snoc]
    exact ⟨h.noZero, he.zero⟩
  · rw [forall_mem_snoc]
    exact ⟨h.noReject, he.request⟩
  · rw [forall_mem_snoc]
    exact ⟨h.armed, fun _ => harmed⟩

theorem Told.quiet {t : List Step} {w w' : World} {e : Step} (h : Told t w) (he : Eventless e)
    (ha : ¬ Applies e) (hc : (opOf e).clears = false) (ho : w'.outstanding = w.outstanding)
    (hwc : w'.wc = { w.wc with staged := w'.wc.staged }) : Told (extend t e) w' := by
  have hcb : w'.wc.cbRegistered = w.wc.cbRegistered := by rw [hwc]
  have hst : w'.wc.staState = w.wc.staState := by rw [hwc]
  have hns : w'.wc.NoSnapshot ↔ w.wc.NoSnapshot := by rw [Wc.NoSnapshot, hwc, Wc.NoSnapshot]
  have hrw : w'.wc.retryWork = w.wc.retryWork := by rw [hwc]
  have hmax : w'.wc.attemptsMax = w.wc.attemptsMax := by rw [hwc]
  have hfr : w'.wc.failReason = w.wc.failReason := by rw [hwc]
  have htry : Trying t w.wc → Trying (t ++ [e]) w'.wc := fun ht => ht.quiet he (by rw [hwc])
  have hover : Over t w → Over (t ++ [e]) w' := fun hv =>
    ⟨by simp, ho.trans hv.drained, hrw.trans hv.disarmed, hns.2 hv.snapshot⟩
  cases h with
  | resting ht hn hd =>
    subst ht
    rw [extend_nil ha]
    exact .resting rfl (hns.2 hn) fun hb => hst.trans (hd (hcb.symm.trans hb))
  | awaiting r hout hlen hr ht =>
    rw [extend_snoc ha hc ht.applied]
    exact .awaiting r (ho.trans hout) hlen (hrw.trans hr) (htry ht)
  | retrying hout hr ht hk =>
    rw [extend_snoc ha hc ht.applied]
    exact .retrying (ho.trans hout) (hrw.trans hr) (htry ht) (by rw [he.failures]; exact hk)
  | connected ssid hv hs hf hto hlen =>
    rw [extend_snoc ha hc hv.applied]
    refine .connected ssid (hover hv) (hst.trans hs) ?_ (hto.snoc e) hlen
    rw [he.finalFailure, hmax]
    exact hf
  | failed hv hs hr hz hf =>
    rw [extend_snoc ha hc hv.applied]
    refine .failed (hover hv) (hst.trans hs) ?_ (he.noZero hz) ?_
    · rw [he.lastFailure, hfr]
      exact hr
    · rw [he.finalFailure, hmax]
      exact hf

theorem failReasonOf_eq (s : Int) : (failReasonOf s).1 =
    if some s = some WIFI_STATUS_CONN_AP_NOT_FOUND then .wifiNetworkNotFound else .authError := by
  unfold failReasonOf
  by_cases h : s = WIFI_STATUS_CONN_AP_NOT_FOUND <;> simp [h]

/-- Each step leaves a state that tells the history; one case an operation. -/
theorem told_step {t : List Step} {e : Step} (h : Told t e.pre) (he : wifiMachine.Ok e)
    (hal : Applies e → e.pre.outstanding = []) : Told (extend t e) e.post := by
  have heff := ok_effect he
  have ha := applies_iff he
  rw [ha] at hal
  generalize hop : opOf e = op at heff
  generalize e.out.events = ev at heff hal ha
  generalize hcs : e.out.connects = cs at heff
  generalize hpost : e.post = post at heff ⊢
  cases heff with
  | idle | stage | refused | erase =>
    have hev : Eventless e := eventless_of (by simp [hop]) (by simp [hcs]) (by simp [hop])
    exact h.quiet hev (by simp [ha]) (by rw [hop]; rfl) rfl rfl
  | start n hcb =>
    rw [extend_clears (by simp [ha]) (by rw [hop]; rfl)]
    exact .resting rfl (h.noSnapshot hcb) fun _ => rfl
  | stop =>
    rw [extend_clears (by simp [ha]) (by rw [hop]; rfl)]
    exact .resting rfl rfl fun hb => by cases hb
  | reset =>
    rw [extend_clears (by simp [ha]) (by rw [hop]; rfl)]
    exact .resting rfl rfl fun _ => rfl
  | rejected c env hs hcb hst hr =>
    have hf : failedStatus e = none := failedStatus_other (by simp [hop])
    have hrf : RequestFails e := .inl ⟨_, by rw [hcs]; exact List.mem_singleton_self _, hr⟩
    have hz : ¬ ZeroResult e := by simp [zeroResult_iff, hop]
    rw [extend_applies (by simp [ha])]
    refine .failed ⟨by simp, hal (by simp), rfl, rfl⟩ rfl ?_ (by simpa using hz) (.inl ⟨e, by simp, hrf⟩)
    simp [lastFailure, hf, Wc.rejected, clearInflight]
  | started c env hne hcb hsr hcr =>
    have hev : Eventless e := eventless_of (by simp [hop]) (by simp [hcs]) (by simp [hop])
    have hk : failures ([] ++ [e]) = 0 := hev.failures
    have hl : lastFailure ([] ++ [e]) = none := hev.lastFailure
    rw [extend_applies (by simp [ha])]
    refine .awaiting ⟨connectParams c, e.pre.applies + 1⟩ (by simp [hal]) c.ssid.property rfl ?_
    refine ⟨by simp, hcb, hne, rfl, ?_, fun _ => hk.symm, ?_, ?_, by simpa using hev.zero,
      by simpa using hev.request, by simp [hev.failedResult]⟩
    · rw [List.nil_append] at hk
      simp [hk, Wc.applied, snapshot]
    · rw [List.nil_append] at hk
      omega
    · rw [List.nil_append] at hl
      simp [hl]
  | ignored st d r rest hw hi =>
    have hns : e.pre.wc.NoSnapshot := by
      by_contra hn
      obtain ⟨-, -, -, ht⟩ := h.result hw hn
      exact hn (hi ht.registered)
    obtain ⟨rfl, hd⟩ := h.stale hns (.inl (by simp [hw]))
    rw [extend_nil (by simp [ha])]
    exact .resting rfl hns hd
  | connected st d r rest hw hcb hn hst =>
    obtain ⟨rfl, hlen, hr, ht⟩ := h.result hw hn
    have hz : ZeroResult e := zeroResult_iff.2 ⟨st, d, hop, hst⟩
    have hf : failedResult e = false := by rw [failedResult_result hop]; simp [hst]
    have hrf : ¬ RequestFails e := by simp [requestFails_iff, hcs, hop]
    rw [extend_snoc (by simp [ha]) (by rw [hop]; rfl) ht.applied]
    refine .connected r.params.ssid ⟨by simp, rfl, hr, rfl⟩ rfl ?_
      ⟨e, by simp, hz, by rw [delivered_result hop hw]; rfl⟩ hlen
    rw [finalFailure_keep hf hrf]
    exact ht.notFinal
  | retrying st d r rest hw hcb hn hst hret =>
    obtain ⟨rfl, -, -, ht⟩ := h.result hw hn
    have hf := failure_of hop hst hcs
    have ht' := ht.charged hf hret (by rw [hpost])
    rw [hpost] at ht'
    rw [extend_snoc (by simp [ha]) (by rw [hop]; rfl) ht.applied]
    exact .retrying rfl rfl ht' (by simp [hf.failed])
  | failed st d r rest hw hcb hn hst hret =>
    obtain ⟨rfl, -, hr, ht⟩ := h.result hw hn
    have hf := failure_of hop hst hcs
    have hlast := not_not.1 (mt (e.pre.wc.retries_iff ht.count ht.left).2 hret)
    rw [extend_snoc (by simp [ha]) (by rw [hop]; rfl) ht.applied]
    refine .failed ⟨by simp, rfl, hr, rfl⟩ rfl ?_ ?_ (.inr ?_)
    · rw [lastFailure_snoc, hf.status]
      exact failReasonOf_eq st.connStatus
    · rw [forall_mem_snoc]
      exact ⟨ht.noZero, hf.zero⟩
    · rw [failures_snoc, hf.failed, if_pos rfl]
      exact hlast
  | lapsed env hret hn =>
    obtain ⟨rfl, hd⟩ := h.stale hn (.inr hret)
    rw [extend_nil (by simp [ha])]
    exact .resting rfl hn hd
  | retried env hret hn hi hcr =>
    obtain ⟨ho, ht, -⟩ := h.retry hret hn
    have hev : Eventless e := eventless_of (by simp [hop]) (by simp [hcs]) (by simp [hop, hi])
    rw [extend_snoc (by simp [ha]) (by rw [hop]; rfl) ht.applied]
    exact .awaiting ⟨connectParams e.pre.wc.inflight, e.pre.applies⟩ (by simp [ho])
      e.pre.wc.inflight.ssid.property rfl (ht.quiet hev rfl)
  | abandoned env cs hret hn hcr =>
    obtain ⟨ho, ht, hk⟩ := h.retry hret hn
    have hf : failedStatus e = none := failedStatus_other (by simp [hop])
    have hz : ¬ ZeroResult e := by simp [zeroResult_iff, hop]
    have hrf : RequestFails e := by
      rw [requestFails_iff, hcs]
      rcases hcr with ⟨hi, -⟩ | ⟨hr, rfl⟩
      · exact .inr ⟨env, hop, hi⟩
      · exact .inl ⟨_, List.mem_singleton_self _, hr⟩
    rw [extend_snoc (by simp [ha]) (by rw [hop]; rfl) ht.applied]
    refine .failed ⟨by simp, ho, rfl, rfl⟩ rfl ?_ ?_ (.inl ⟨e, by simp, hrf⟩)
    · -- a retry comes after a failed result, the last of which is remembered
      obtain ⟨s, hs⟩ := Option.ne_none_iff_exists'.1 (mt lastFailure_eq_none.1 hk)
      rw [lastFailure_snoc, hf, Option.none_or, hs, ← failReasonOf_eq, ← ht.cause s hs]
      rfl
    · rw [forall_mem_snoc]
      exact ⟨ht.noZero, hz⟩

theorem told_run {store : WifiCredentials} {t : List Step} {w : World}
    (h : wifiMachine.Run (World.boot store) t w) (hal : ∀ e ∈ t, Applies e → e.pre.outstanding = []) :
    Told (sinceApply t) w := by
  refine (h.always (C := fun e => Applies e → e.pre.outstanding = [])
    (P := fun t w => Told (sinceApply t) w) (Q := fun _ _ => True)
    (.resting rfl rfl fun hb => by cases hb) ?_ hal).1
  intro t e _ he ht hc
  rw [sinceApply_snoc]
  exact ⟨told_step ht he hc, trivial⟩

/-! ## What a poll is answered -/

theorem poll_resp {e : Step} {env : WifiEnv} (he : wifiMachine.Ok e) (hl : PollWith e env) :
    e.pre.wc.cbRegistered = true ∧
      e.out.resp = if env.encodeRet = 0 then some (.respGetWifiStatus (getStatus env e.pre.wc))
        else none := by
  have hst : step e.pre e.lbl = some (e.post, e.out) := he
  rw [hl] at hst
  simp only [step, networkProvWifiConfigHandler] at hst
  split at hst
  · rename_i hcb
    obtain ⟨-, hout⟩ := answer_eq_some hst
    refine ⟨hcb, ?_⟩
    rw [hout]
    by_cases h0 : env.encodeRet = 0 <;> simp [pbEncode, h0, World.begin]
  · cases hst

theorem fillConnectedState_silent {env : WifiEnv} (h : env.silent) (wc : Wc) :
    (fillConnectedState env wc).ssid = wc.staged.ssid.val := by
  unfold fillConnectedState
  rcases h with hi | hs
  · simp [hi]
  · cases hi : env.staIface <;> cases ha : env.ip4Addr <;> simp [hs]

theorem fillConnectedState_answered {env : WifiEnv} {status : WifiIfaceStatus}
    (hi : env.staIface = true) (hs : env.status = some status) (wc : Wc) :
    (fillConnectedState env wc).ssid = status.ssid.take (SSID_MAX + 1) := by
  unfold fillConnectedState
  cases ha : env.ip4Addr <;> simp [hi, hs]

theorem Trying.truthful {t : List Step} {wc : Wc} (h : Trying t wc) (env : WifiEnv) :
    Truthful wc.attemptsMax t (getStatus env wc) := by
  by_cases hk : failures t = 0
  · have hr : getStatus env wc = ⟨.success, .connecting, .unset⟩ := by
      simp [getStatus, h.state, h.failed, hk]
    rw [hr]
    refine .connecting h.applied h.noZero h.notFinal fun x hx hr => ?_
    exact absurd hk (h.retryFollows_iff.1 ⟨x, hx, hr⟩)
  · have hr : getStatus env wc =
        ⟨.success, .connecting, .attemptFailed (networkProvWifiConfigRemainingAttempts wc)⟩ := by
      simp [getStatus, h.state, h.failed, hk]
    rw [hr]
    exact .retrying _ h.noZero h.notFinal (h.retryFollows_iff.2 hk)

theorem Told.truthful_iff {t : List Step} {w : World} (h : Told t w)
    (hcb : w.wc.cbRegistered = true) {env : WifiEnv}
    (hnames : ∀ status, env.staIface = true → env.status = some status →
      ∀ ssid, ConnectedTo t ssid → status.ssid = ssid) :
    Truthful w.wc.attemptsMax t (getStatus env w.wc) ↔
      (env.silent → (∃ x ∈ t, ZeroResult x) → ConnectedTo t w.wc.staged.ssid.val) := by
  have hno : (∀ x ∈ t, ¬ ZeroResult x) → Truthful w.wc.attemptsMax t (getStatus env w.wc) →
      (Truthful w.wc.attemptsMax t (getStatus env w.wc) ↔
        (env.silent → (∃ x ∈ t, ZeroResult x) → ConnectedTo t w.wc.staged.ssid.val)) :=
    fun hz ht => iff_of_true ht fun _ ⟨x, hx, h0⟩ => absurd h0 (hz x hx)
  cases h with
  | resting ht _ hd =>
    have hr : getStatus env w.wc = ⟨.success, .disconnected, .unset⟩ := by simp [getStatus, hd hcb]
    refine hno (by simp [ht]) ?_
    rw [hr]
    exact .disconnected ht
  | awaiting _ _ _ _ ht | retrying _ _ ht => exact hno ht.noZero (ht.truthful env)
  | failed hv hs hr hz hf =>
    have hg : getStatus env w.wc = ⟨.success, .connectionFailed, .wifiFailReason w.wc.failReason⟩ := by
      simp [getStatus, hs]
    refine hno hz ?_
    rw [hg, hr]
    exact .failed hz hf
  | connected ssid hv hs hf hto hlen =>
    have hg : getStatus env w.wc =
        ⟨.success, .connected, .wifiConnected (fillConnectedState env w.wc)⟩ := by
      simp [getStatus, hs]
    rw [hg]
    by_cases hsil : env.silent
    · constructor
      · intro htr _ _
        cases htr with
        | connected c _ hc =>
          rw [← fillConnectedState_silent hsil]
          exact hc
      · intro hst
        refine .connected _ hf ?_
        rw [fillConnectedState_silent hsil]
        obtain ⟨x, hx, hz, -⟩ := hto
        exact hst hsil ⟨x, hx, hz⟩
    · obtain ⟨hi, hstatus⟩ := not_or.1 hsil
      obtain ⟨status, hstatus⟩ := Option.ne_none_iff_exists'.1 hstatus
      have hi' : env.staIface = true := by simpa using hi
      have hname := hnames status hi' hstatus ssid hto
      refine iff_of_true (.connected _ hf ?_) fun hx => absurd hx hsil
      rw [fillConnectedState_answered hi' hstatus, hname, List.take_of_length_le (by omega)]
      exact hto

/-- One poll, after a run with one request at a time. -/
theorem pollTruthful_iff {t : List Step} {e : Step} (h : Told (sinceApply t) e.pre)
    (he : wifiMachine.Ok e) (hn : StatusNames t e) : PollTruthful t e ↔ StagedStill t e := by
  constructor
  · intro hp env hl henc
    obtain ⟨hcb, hresp⟩ := poll_resp he hl
    rw [if_pos henc] at hresp
    exact (h.truthful_iff hcb (hn env · hl)).1 (hp env _ hl hresp)
  · intro hs env r hl hr
    obtain ⟨hcb, hresp⟩ := poll_resp he hl
    rw [hr] at hresp
    by_cases henc : env.encodeRet = 0
    · rw [if_pos henc] at hresp
      cases hresp
      exact (h.truthful_iff hcb (hn env · hl)).2 (hs env hl henc)
    · rw [if_neg henc] at hresp
      cases hresp

/-- In every run in which each Apply answered Success finds no request outstanding, and the
interface status names the connected network where it answers. -/
theorem status_truthful_iff {store : WifiCredentials} {t : List Step} {w : World}
    (h : wifiMachine.Run (World.boot store) t w) (hal : ∀ e ∈ t, Applies e → e.pre.outstanding = [])
    (hnames : Always StatusNames t) : Always PollTruthful t ↔ Always StagedStill t := by
  have hiff : ∀ t₁ e t₂, t = t₁ ++ e :: t₂ → (PollTruthful t₁ e ↔ StagedStill t₁ e) := by
    intro t₁ e t₂ heq
    subst heq
    obtain ⟨hrun, hok, -⟩ := h.at
    have htold := told_run hrun fun x hx => hal x (by simp [hx])
    exact pollTruthful_iff htold hok (hnames t₁ e t₂ rfl)
  constructor
  · exact fun hp t₁ e t₂ heq => (hiff t₁ e t₂ heq).1 (hp t₁ e t₂ heq)
  · exact fun hs t₁ e t₂ heq => (hiff t₁ e t₂ heq).2 (hs t₁ e t₂ heq)

/-! ## On concrete runs -/

/-- A poll that learns nothing from the interface. -/
def poll : Input := .config okEnv (some .cmdGetWifiStatus)

theorem statusNames_of_lbl {t : List Step}
    (h : ∀ l ∈ t.map (·.lbl), ∀ env, l = .config env (some .cmdGetWifiStatus) → env.status = none) :
    Always StatusNames t := by
  intro t₁ e t₂ heq env status hl _ hs
  have hnone := h e.lbl (by simp [heq]) env hl
  rw [hs] at hnone
  cases hnone

/-- A failure, its retry and a success, with polls in between. -/
theorem status_truthful_iff_test : ∃ t w, wifiMachine.Run (World.boot .empty) t w ∧
    t.map (·.lbl) = [.start 2, poll, configure okEnv homeSsid, .connectResult ⟨1, 1⟩ 0, poll,
      .retry okEnv, .connectResult ⟨0, 0⟩ 0, poll] ∧
    (Always PollTruthful t ↔ Always StagedStill t) := by
  have hr := wifiMachine.run_get (World.boot .empty)
    [.start 2, poll, configure okEnv homeSsid, .connectResult ⟨1, 1⟩ 0, poll, .retry okEnv,
      .connectResult ⟨0, 0⟩ 0, poll] (by rfl)
  refine ⟨_, _, hr, by rfl, status_truthful_iff hr (by decide +kernel) (statusNames_of_lbl ?_)⟩
  have hl : ∀ l ∈ [.start 2, poll, configure okEnv homeSsid, .connectResult ⟨1, 1⟩ 0, poll,
      .retry okEnv, .connectResult ⟨0, 0⟩ 0, poll], ∀ env,
      l = .config env (some .cmdGetWifiStatus) → env.status = none := by
    simp [poll, configure, okEnv]
  exact hl

/-- "cafe" is staged after "home" has been connected, and reported as the connected network. -/
theorem status_untruthful : ∃ t w, wifiMachine.Run (World.boot .empty) t w ∧
    t.map (·.lbl) = [.start 2, configure okEnv homeSsid, .connectResult ⟨0, 0⟩ 0,
      .config okEnv (some (.cmdSetWifiConfig ⟨cafeSsid.chars, [], [], 0⟩)), poll] ∧
    (∀ e ∈ t, Applies e → e.pre.outstanding = []) ∧ Always StatusNames t ∧
    ¬ Always PollTruthful t := by
  let r := (wifiMachine.exec (World.boot .empty) [.start 2, configure okEnv homeSsid,
    .connectResult ⟨0, 0⟩ 0, .config okEnv (some (.cmdSetWifiConfig ⟨cafeSsid.chars, [], [], 0⟩))]).get
    (by rfl)
  have hr : wifiMachine.Run (World.boot .empty) r.1 r.2 := wifiMachine.run_get _ _ (by rfl)
  have hsome : (step r.2 poll).isSome = true := by rfl
  let e : Step := ⟨r.2, poll, ((step r.2 poll).get hsome).2, ((step r.2 poll).get hsome).1⟩
  have he : wifiMachine.Ok e := (Option.some_get hsome).symm
  have hal : ∀ x ∈ r.1, Applies x → x.pre.outstanding = [] := by decide +kernel
  have hl : ∀ l ∈ [.start 2, configure okEnv homeSsid, .connectResult ⟨0, 0⟩ 0,
      .config okEnv (some (.cmdSetWifiConfig ⟨cafeSsid.chars, [], [], 0⟩)), poll], ∀ env,
      l = .config env (some .cmdGetWifiStatus) → env.status = none := by
    simp [poll, configure, okEnv]
  have hnames : Always StatusNames (r.1 ++ [e]) := statusNames_of_lbl hl
  have hstaged : ¬ ConnectedTo (sinceApply r.1) r.2.wc.staged.ssid.val := by decide +kernel
  refine ⟨r.1 ++ [e], _, .snoc hr he, by rfl, ?_, hnames, fun hall => ?_⟩
  · rw [forall_mem_snoc]
    exact ⟨hal, False.elim⟩
  · have hiff := pollTruthful_iff (told_run hr hal) he (always_snoc.1 hnames).2
    have hs := hiff.1 (always_snoc.1 hall).2 okEnv rfl rfl (.inr rfl)
    exact hstaged (hs (by decide +kernel))

end NetworkProv.Wifi
