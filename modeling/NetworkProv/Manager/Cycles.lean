import NetworkProv.Manager.WifiNet
import NetworkProv.Wifi.Agree

/-!
# Whether a start remembers earlier cycles

What a start of the service finds in `wc` and `sc` are the fields that neither
`net_endpoints_deinit` clears nor `net_endpoints_init` sets. Most of them are
not read before they are written. The staged credentials, the scan entries and
`finished` are: an Apply without a Set connects with the credentials of an
earlier cycle, and a scan status reports its scan.

* `netInput_agree`: nets that agree answer every input alike.
* `cycles_independent_iff`: a started service is like that of a freshly booted
  device exactly if it found nothing staged and no scan.
-/
namespace NetworkProv.Manager

open NetworkProv.Core NetworkProv.Wifi

structure NetAgree (a b : Net) : Prop where
  w : WorldAgree a.w b.w
  sc : ScAgree a.sc b.sc
  scans : a.scans = b.scans

/-- Equal outputs, and nets that agree again. -/
abbrev SameAnswer (p q : Net × NetOutput) : Prop := p.2 = q.2 ∧ NetAgree p.1 q.1

theorem wifi_agree {maxEntries : Nat} {a b : Net} (h : NetAgree a b) (i : Input) :
    Option.Rel SameAnswer (netInput maxEntries a (.wifi i)) (netInput maxEntries b (.wifi i)) := by
  have hbusy : a.busy i = b.busy i := by
    cases i with
    | config | ctrl => exact h.sc.blocked
    | _ => rfl
  simp only [netInput, hbusy]
  split
  · exact .none
  generalize hp : Wifi.step a.w i = p
  generalize hq : Wifi.step b.w i = q
  have hrel := step_agree h.w i
  rw [hp, hq] at hrel
  cases hrel with
  | none => exact .none
  | some hr => exact .some ⟨by simp only [hr.1], { h with w := hr.2 }⟩

theorem scan_agree {maxEntries : Nat} {a b : Net} (h : NetAgree a b) (e : ScanEnv)
    (req : Option NetworkScanReq) :
    Option.Rel SameAnswer (netInput maxEntries a (.scan e req)) (netInput maxEntries b (.scan e req)) := by
  simp only [netInput, h.w.wc.cbRegistered, h.sc.blocked]
  split
  · exact .none
  have hnet : NetAgree (if e.accepted req then { a with scans := a.scans + 1 } else a)
      (if e.accepted req then { b with scans := b.scans + 1 } else b) := by
    split
    · exact { h with scans := congrArg (· + 1) h.scans }
    · exact h
  generalize (if e.accepted req then { a with scans := a.scans + 1 } else a) = a' at hnet ⊢
  generalize (if e.accepted req then { b with scans := b.scans + 1 } else b) = b' at hnet ⊢
  obtain ⟨ha, hsc⟩ := scanHandler_agree hnet.sc e req
  generalize networkProvWifiScanHandler e req a'.sc = p at ha hsc ⊢
  generalize networkProvWifiScanHandler e req b'.sc = q at ha hsc ⊢
  obtain ⟨r, sc⟩ := p
  obtain ⟨r', sc'⟩ := q
  obtain rfl : r = r' := ha
  cases r with
  | none => exact .some ⟨rfl, { hnet with sc := hsc }⟩
  | some r => exact .some ⟨rfl, { hnet with sc := hsc }⟩

/-- Nets that agree answer every input alike, and agree after. -/
theorem netInput_agree {maxEntries : Nat} {a b : Net} (h : NetAgree a b) (i : NetInput) :
    Option.Rel SameAnswer (netInput maxEntries a i) (netInput maxEntries b i) := by
  cases i with
  | wifi i => exact wifi_agree h i
  | scan e req => exact scan_agree h e req
  | scanWaitEnds timedOut encodeRet =>
    simp only [netInput]
    generalize hp : scanWaitEnds timedOut encodeRet a.sc = p
    generalize hq : scanWaitEnds timedOut encodeRet b.sc = q
    have hrel := scanWaitEnds_agree h.sc timedOut encodeRet
    rw [hp, hq] at hrel
    cases hrel with
    | none => exact .none
    | some hr => exact .some ⟨by simp only [Net.scanAnswer, hr.1], { h with sc := hr.2 }⟩
  | scanResult r =>
    simp only [netInput, h.scans, h.sc.cbRegistered]
    split
    · exact .none
    refine .some ⟨rfl, ?_⟩
    split
    · exact { h with sc := onScanResult_agree h.sc maxEntries r, scans := rfl }
    · exact h
  | scanDone =>
    simp only [netInput, h.scans, h.sc.cbRegistered]
    split
    · exact .none
    refine .some ⟨rfl, ?_⟩
    split
    · exact { h with sc := onScanDone_agree h.sc, scans := rfl }
    · exact { h with scans := rfl }

/-! ## After a start -/

/-- No connect or scan request is outstanding, and none is being served. -/
structure Net.Quiescent (net : Net) : Prop where
  outstanding : net.w.outstanding = []
  scans : net.scans = 0
  blocked : net.sc.blocked = false

/-- Nothing is staged, and there has been no scan. -/
structure Net.Untouched (net : Net) : Prop where
  staged : net.w.wc.staged.ssid.val = []
  entries : net.sc.entries = []
  finished : net.sc.finished = false

/-- What the inputs come to: outputs and, after each, the store. -/
def observe (maxEntries : Nat) (net : Net) (is : List NetInput) :
    Option (List (NetOutput × WifiCredentials)) :=
  (inputMachine maxEntries).observe (·.w.store) net is

theorem observe_agree {maxEntries : Nat} {a b : Net} (h : NetAgree a b) (is : List NetInput) :
    observe maxEntries a is = observe maxEntries b is :=
  Machine.observe_lockstep (R := NetAgree) (fun _ _ h => h.w.store) (fun _ _ i h => netInput_agree h i)
    is h

/-- A start that finds nothing makes the handlers those of a freshly booted device. -/
theorem started_agree {net : Net} (hi : net.InStep false) (hq : net.Quiescent) (hu : net.Untouched)
    (attempts : Nat) :
    NetAgree (net.started attempts) ((Net.boot net.w.store).started attempts) where
  w :=
    { wc := configInit_agree (.empty hu.staged rfl) (.empty (hi.idle rfl) rfl) attempts
      store := rfl
      outstanding := congrArg List.length hq.outstanding }
  sc :=
    { entries := hu.entries
      finished := hu.finished
      cbRegistered := rfl
      blocked := hq.blocked
      doneSem := fun hb => by cases hb }
  scans := hq.scans

/-! ## Telling them apart -/

/-- An Apply in which every call succeeds. -/
def applyNow : NetInput := .wifi (.config okEnv (some .cmdApplyWifiConfig))

def scanStatus : NetInput := .scan ⟨true, 0, 0⟩ (some .cmdScanWifiStatus)

theorem observe_one (maxEntries : Nat) (net : Net) (i : NetInput) :
    observe maxEntries net [i] = (netInput maxEntries net i).map fun r => [(r.2, r.1.w.store)] := by
  rw [observe, Machine.observe_cons]
  cases h : netInput maxEntries net i with
  | none => simp [inputMachine, h]
  | some r => simp [inputMachine, h, Machine.observe, Machine.exec]

/-- The two start differently. -/
theorem apart_of_answers {maxEntries : Nat} {a b : Net} {i : NetInput}
    (h : (netInput maxEntries a i).map (·.2.resp) ≠ (netInput maxEntries b i).map (·.2.resp)) :
    observe maxEntries a [i] ≠ observe maxEntries b [i] := by
  intro he
  rw [observe_one, observe_one] at he
  cases hp : netInput maxEntries a i <;> cases hq : netInput maxEntries b i <;> simp_all

theorem applyNow_resp (maxEntries : Nat) (net : Net) (hc : net.w.wc.cbRegistered = true)
    (hb : net.sc.blocked = false) :
    (netInput maxEntries net applyNow).map (·.2.resp) =
      some (some (.config (.respApplyWifiConfig
        (if net.w.wc.staged.ssid.val = [] then .internalError else .success)))) := by
  have hstatus : (doApplyConfig okEnv net.w.begin).1 =
      if net.w.wc.staged.ssid.val = [] then .internalError else .success := by
    by_cases hs : net.w.wc.staged.ssid.val = []
    · rw [doApplyConfig_refused rfl _ fun h => h.1 hs, if_pos hs]
    · rw [doApplyConfig_stores rfl _ ⟨hs, rfl⟩, if_neg hs]
  have henc : okEnv.encodeRet = 0 := rfl
  simp [netInput, applyNow, isSetup, Net.busy, hb, Wifi.step, hc, networkProvWifiConfigHandler,
    World.answer, pbEncode, henc, hstatus]

theorem scanStatus_resp (maxEntries : Nat) (net : Net) (hc : net.w.wc.cbRegistered = true)
    (hb : net.sc.blocked = false) :
    (netInput maxEntries net scanStatus).map (·.2.resp) =
      some (some (.scan (.respScanWifiStatus net.sc.finished net.sc.entries.length))) := by
  simp [netInput, scanStatus, hc, hb, ScanEnv.accepted, networkProvWifiScanHandler, scanEncode,
    Net.scanAnswer]

/-- A start that finds something can be told from a start on a freshly booted device. -/
theorem untouched_of_observe {maxEntries attempts : Nat} {net : Net} (hq : net.Quiescent)
    (h : ∀ is, observe maxEntries (net.started attempts) is =
      observe maxEntries ((Net.boot net.w.store).started attempts) is) : net.Untouched := by
  have hstaged : net.w.wc.staged.ssid.val = [] := by
    by_contra hne
    refine apart_of_answers (i := applyNow) ?_ (h [applyNow])
    rw [applyNow_resp _ (net.started attempts) rfl hq.blocked,
      applyNow_resp _ ((Net.boot net.w.store).started attempts) rfl rfl]
    rw [if_neg (show (net.started attempts).w.wc.staged.ssid.val ≠ [] from hne),
      if_pos (show ((Net.boot net.w.store).started attempts).w.wc.staged.ssid.val = [] from rfl)]
    decide
  have hscan : net.sc.finished = false ∧ net.sc.entries.length = 0 := by
    by_contra hne
    refine apart_of_answers (i := scanStatus) ?_ (h [scanStatus])
    rw [scanStatus_resp _ (net.started attempts) rfl hq.blocked,
      scanStatus_resp _ ((Net.boot net.w.store).started attempts) rfl rfl]
    intro he
    simp only [Option.some.injEq, NetResp.scan.injEq, ScanResp.respScanWifiStatus.injEq] at he
    exact hne he
  exact ⟨hstaged, List.eq_nil_of_length_eq_zero hscan.2, hscan.1⟩

variable {S T E : Type} {maxEntries : Nat} {start : E → S → Nat → T → Int × T} {stop : S → T → T}

/-- What a start that returns 0 does to the handlers. -/
theorem begun_net {s s' : State S T Net} {env : StartEnv E} {o : Output S}
    (h : Effect (wifiDevice maxEntries start stop) s (.start env) s' o) (hr : o.ret = 0) :
    s.mgr.started = false ∧ s'.net = s.net.started s.mgr.wifiConnAttempts := by
  cases h with
  | idle _ ret hi => exact absurd hr hi.1
  | noInstance => exact absurd hr (by decide : -ENOMEM ≠ 0)
  | failed _ ret _ _ _ _ hret => exact absurd hr hret
  | begun _ scheme tr net _ hs _ hn => exact ⟨hs, netEndpointsInit_ok hn⟩

/-- After the next start the handlers are those of a freshly booted device with the
same store, to every sequence of requests and events, exactly if nothing was left staged
and no scan was left behind. -/
theorem cycles_independent_iff {trans : T} {store : WifiCredentials}
    {t : List (Step S T Net NetInput E)} {e : Step S T Net NetInput E} {env : StartEnv E}
    (h : (mgrMachine (wifiDevice maxEntries start stop)).Run (.boot trans (.boot store)) t e.pre)
    (he : (mgrMachine (wifiDevice maxEntries start stop)).Ok e) (hl : e.lbl = .start env)
    (hr : e.out.ret = 0) (hq : e.pre.net.Quiescent) :
    (∀ is, observe maxEntries e.post.net is =
        observe maxEntries ((Net.boot e.pre.net.w.store).started e.pre.mgr.wifiConnAttempts) is) ↔
      e.pre.net.Untouched := by
  obtain ⟨hs, hnet⟩ := begun_net (hl ▸ ok_effect he) hr
  have hstep := inStep_run h
  rw [hs] at hstep
  rw [hnet]
  constructor
  · exact untouched_of_observe hq
  · intro hu is
    exact observe_agree (started_agree hstep hq hu _) is

/-- A cycle that ends with a reset leaves nothing to the next. -/
theorem cycles_independent_iff_test : ∃ (t : List WifiStep) (e : WifiStep),
    (mgrMachine wifiDemo).Run (.boot () (.boot .empty)) t e.pre ∧
    t.map (·.lbl) = [initWifi, .start goodStart, configureHome, connectedNow, .ret 0,
      ctrlRequest .cmdCtrlWifiReset, .stop] ∧
    e.lbl = .start goodStart ∧ e.pre.net.Untouched ∧
    ((∀ is, observe 16 e.post.net is =
        observe 16 ((Net.boot e.pre.net.w.store).started e.pre.mgr.wifiConnAttempts) is) ↔
      e.pre.net.Untouched) := by
  have hr := (mgrMachine wifiDemo).run_get (.boot () (.boot .empty))
    [initWifi, .start goodStart, configureHome, connectedNow, .ret 0, ctrlRequest .cmdCtrlWifiReset,
      .stop, .start goodStart] (by rfl)
  obtain ⟨hr, he⟩ := hr.last rfl
  exact ⟨_, _, hr, by rfl, by rfl, ⟨by rfl, by rfl, by rfl⟩,
    cycles_independent_iff hr he (by rfl) (by rfl) ⟨by rfl, by rfl, by rfl⟩⟩

/-- **Credentials outlive their cycle.** "home" is staged and never applied; after a stop
and a start an Apply alone connects with it. -/
theorem staged_credentials_survive : ∃ (t : List WifiStep) (e : WifiStep),
    (mgrMachine wifiDemo).Run (.boot () (.boot .empty)) t e.pre ∧ (mgrMachine wifiDemo).Ok e ∧
    t.map (·.lbl) = [initWifi, .start goodStart, stageHome, .stop] ∧ e.lbl = .start goodStart ∧
    e.out.ret = 0 ∧ e.pre.net.Quiescent ∧
    (observe 16 e.post.net [applyNow]).map (·.map fun r => r.1.connects.map (·.params.ssid)) =
      some [[homeSsid.chars]] ∧
    ¬ ∀ is, observe 16 e.post.net is =
      observe 16 ((Net.boot e.pre.net.w.store).started e.pre.mgr.wifiConnAttempts) is := by
  have hr := (mgrMachine wifiDemo).run_get (.boot () (.boot .empty))
    [initWifi, .start goodStart, stageHome, .stop, .start goodStart] (by rfl)
  obtain ⟨hr, he⟩ := hr.last rfl
  refine ⟨_, _, hr, he, by rfl, by rfl, by rfl, ⟨by rfl, by rfl, by rfl⟩, by rfl, fun h => ?_⟩
  exact apart_of_answers (i := applyNow) (by decide +kernel) (h [applyNow])

end NetworkProv.Manager
