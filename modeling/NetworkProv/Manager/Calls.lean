import NetworkProv.Manager.AppInfo
import NetworkProv.Manager.EndpointTable
import NetworkProv.Manager.WifiNet

/-!
# Manager calls that fail

The manager with everything an application has set up: the `mgr` of `Mgr` over
the Wi-Fi handlers, the app section and the version JSON of `AppInfo`, the
custom endpoints of `Endpoints`. A call that returns an error is to leave all of
it as it was (`Settings`).

Most calls check first and write afterwards. `network_prov_mgr_start_provisioning`
takes back what it has done, and with that clears the in-flight credentials; they
are already clear while the service is not started. `network_prov_mgr_set_app_info`
renders in place, and a section that does not fit leaves none.

An Apply calls the application for CRED_RECV before it fills the snapshot, and goes
on when the callback returns, even if the service was stopped in between: the
application may stop it from there, and the teardown work has its own thread. Then
there is something in flight without a service.

* `steady_run`: a service that is not started has nothing in flight, if no Apply was
  interrupted.
* `failed_calls`: the settings after a call that failed, in every run.
* `section_dropped`, `interrupted_cleared`: what is lost.
-/
namespace NetworkProv.Manager

open NetworkProv.Core NetworkProv.Wifi Core.CText

variable {S T E H X : Type}

/-! ## The whole manager -/

/-- An Apply whose callback for CRED_RECV has not returned; `ret`: what the call it
is part of returns. -/
structure Applying where
  e : WifiEnv
  ret : Int

/-- `custom`: the table of custom endpoints, with the handlers `H` and contexts `X`;
`applying`: innermost first. -/
structure Full (S T H X : Type) where
  core : State S T Net
  appInfoJson : Text
  versionJson : Text
  custom : List (Endpoints.CustomEp H X)
  applying : List Applying

/-- `n`: `CONFIG_NETWORK_PROV_MAX_CUSTOM_ENDPOINTS`. -/
def Full.boot (n : Nat) (trans : T) (store : WifiCredentials) : Full S T H X :=
  ⟨.boot trans (.boot store), [], [], List.replicate n .zero, []⟩

/-- What the functions of `AppInfo` see. -/
def Full.info (s : Full S T H X) : AppInfo :=
  ⟨s.core.mgr.inited, s.core.mgr.started, s.appInfoJson, s.versionJson⟩

/-- What the functions of `Endpoints` see. -/
def Full.endpoints (s : Full S T H X) : Endpoints.World Unit Unit Unit H X :=
  ⟨s.core.mgr.inited, s.core.mgr.started, none, (), ⟨s.custom, ()⟩, 0⟩

/-- The calls of the manager API, and whatever else happens to it. -/
inductive Call (S E H X : Type)
  | init (c : MgrConfig S)
  | deinit
  | setAppInfo (label version : Option CStr) (capabilities : Capabilities)
  | endpointCreate (epName : Option CStr)
  | endpointRegister (epName : Option CStr) (handler : Option H) (userCtx : Option X)
  | endpointUnregister (epName : Option CStr)
  | startProvisioning (security : NetworkProvSecurity) (pop : Option CStr) (e : StartEnv E)
  | stopProvisioning
  | disableAutoStop (cleanupDelayMs : Nat)
  | resetWifiProvisioning (ret : Int) (deleted : List Bytes)
  /-- `network_prov_mgr_reset_wifi_sm_state_on_failure`, `..._for_reprovision` -/
  | resetWifiSmState
  | configureWifiSta (e : WifiEnv) (ssid psk : Option CStr)
  | wait
  /-- a request, a result or a timer of the handlers -/
  | net (i : NetInput)
  /-- the callback for CRED_RECV of the innermost Apply returns -/
  | credRecvReturns
  /-- the teardown work comes due -/
  | fire
  /-- the innermost callback returns -/
  | ret (i : Nat)

/-- The input of the handlers is a call of the manager API. -/
def NetInput.isCall : NetInput → Bool
  | .wifi (.configureWifiSta _ _ _) => true
  | .wifi .resetSmState => true
  | .wifi (.resetWifiProvisioning _ _ _) => true
  | _ => false

/-- The Apply of what `wc` has staged, up to its callback; `none`: it does not get there. -/
def Net.storeApply (net : Net) (e : WifiEnv) (wc : Wc) (ret : Int) : Option (Applying × Net) :=
  match applyStore e { net.w.begin with wc := wc } with
  | (true, w) => some (⟨e, ret⟩, { net with w := net.w.finish w })
  | (false, _) => none

/-- An input that comes to an Apply, and gets as far as its callback. -/
def Net.applyBegins (net : Net) : NetInput → Option (Applying × Net)
  | .wifi (.config e (some .cmdApplyWifiConfig)) =>
    if net.w.wc.cbRegistered && !net.sc.blocked then
      net.storeApply e net.w.wc (pbEncode e (.respApplyWifiConfig .success)).1
    else none
  | .wifi (.configureWifiSta e ssid psk) =>
    if net.w.wc.cbRegistered then
      (configured net.w.wc ssid psk).bind fun c => net.storeApply e { net.w.wc with staged := c } 0
    else none
  | _ => none

/-- The rest of it. -/
def Net.applyReturns (net : Net) (e : WifiEnv) : Net :=
  { net with w := net.w.finish (applyConnect e net.w.begin) }

/-- The configuration gets past the first checks of `network_prov_mgr_init`. -/
def MgrConfig.valid (c : MgrConfig S) : Bool := c.scheme.any fun obj => obj.start && obj.stop

section

variable (maxEntries : Nat) (start : E → S → Nat → T → Int × T) (stop : S → T → T)

/-- A step of the manager and the handlers, and the return value. -/
def Full.coreStep (l : Label NetInput E S) (s : Full S T H X) : Option (Full S T H X × Int) :=
  (step (wifiDevice maxEntries start stop) s.core l).map fun r => ({ s with core := r.1 }, r.2.ret)

/-- The same for an input of the handlers, which return the value themselves. -/
def Full.netStep (i : NetInput) (s : Full S T H X) : Option (Full S T H X × Int) :=
  (netInput maxEntries s.core.net i).bind fun out =>
    (s.coreStep maxEntries start stop (.net i)).map fun r => (r.1, out.2.ret)

/-- The same for an input that may come to an Apply; 0 at the callback. -/
def Full.inputStep (i : NetInput) (s : Full S T H X) : Option (Full S T H X × Int) :=
  match s.core.net.applyBegins i with
  | some (a, net) => some ({ s with core := { s.core with net := net }, applying := a :: s.applying }, 0)
  | none => s.netStep maxEntries start stop i

/-- Back from the callback for CRED_RECV. -/
def Full.applyStep (s : Full S T H X) : Option (Full S T H X × Int) :=
  match s.applying with
  | [] => none
  | a :: rest =>
    some ({ s with core := { s.core with net := s.core.net.applyReturns a.e }, applying := rest }, a.ret)

def callStep (s : Full S T H X) : Call S E H X → Option (Full S T H X × Int)
  | .init c =>
    (s.coreStep maxEntries start stop (.init c)).map fun r =>
      -- mirrors src/network_prov_mgr.c:109-110
      if !s.core.mgr.inited && c.valid then
        ({ r.1 with appInfoJson := [], custom := s.custom.map fun _ => .zero }, r.2)
      else r
  | .deinit => s.coreStep maxEntries start stop .deinit
  | .setAppInfo label version capabilities =>
    match networkProvMgrSetAppInfo label version capabilities s.info with
    | (ret, info) => some ({ s with appInfoJson := info.appInfoJson, versionJson := info.versionJson }, ret)
  | .endpointCreate epName =>
    match Endpoints.networkProvMgrEndpointCreate epName s.endpoints with
    | (ret, w) => some ({ s with custom := w.app.custom }, ret)
  | .endpointRegister epName handler userCtx =>
    match Endpoints.networkProvMgrEndpointRegister epName handler userCtx s.endpoints with
    | (ret, w) => some ({ s with custom := w.app.custom }, ret)
  | .endpointUnregister epName =>
    match Endpoints.networkProvMgrEndpointUnregister epName s.endpoints with
    | (ret, w) => some ({ s with custom := w.app.custom }, ret)
  | .startProvisioning security pop e =>
    (s.coreStep maxEntries start stop (.start e)).map fun r =>
      -- mirrors src/network_prov_mgr.c:461
      if s.core.mgr.inited && !s.core.mgr.started && e.new then
        ({ r.1 with versionJson := (buildVersionJson .wifi security pop s.info).versionJson }, r.2)
      else r
  | .stopProvisioning => s.coreStep maxEntries start stop .stop
  | .disableAutoStop ms => s.coreStep maxEntries start stop (.disableAutoStop ms)
  | .resetWifiProvisioning ret deleted =>
    s.netStep maxEntries start stop (.wifi (.resetWifiProvisioning s.core.mgr.inited ret deleted))
  | .resetWifiSmState => s.netStep maxEntries start stop (.wifi .resetSmState)
  | .configureWifiSta e ssid psk =>
    s.inputStep maxEntries start stop (.wifi (.configureWifiSta e ssid psk))
  | .wait => s.coreStep maxEntries start stop .wait
  | .net i => if i.isCall then none else s.inputStep maxEntries start stop i
  | .credRecvReturns => s.applyStep
  | .fire => s.coreStep maxEntries start stop .fire
  | .ret i => s.coreStep maxEntries start stop (.ret i)

def callMachine : Machine (Full S T H X) (Call S E H X) Int := ⟨callStep maxEntries start stop⟩

end

/-- What the application has set up. -/
structure Settings (H X : Type) where
  inited : Bool
  started : Bool
  appInfoJson : Text
  custom : List (Endpoints.CustomEp H X)
  autoStop : Bool
  cleanupDelayMs : Nat
  staged : ConnectConf
  inflight : ConnectConf

def Full.settings (s : Full S T H X) : Settings H X :=
  ⟨s.core.mgr.inited, s.core.mgr.started, s.appInfoJson, s.custom, s.core.mgr.autoStop,
    s.core.mgr.cleanupDelayMs, s.core.net.w.wc.staged, s.core.net.w.wc.inflight⟩

/-- The call returns an error; for `network_prov_mgr_configure_wifi_sta`, of its arguments. -/
def Fails : Call S E H X → Int → Prop
  | .setAppInfo _ _ _, ret => ret ≠ 0
  | .endpointCreate _, ret => ret ≠ 0
  | .endpointRegister _ _ _, ret => ret ≠ 0
  | .endpointUnregister _, ret => ret ≠ 0
  | .startProvisioning _ _ _, ret => ret ≠ 0
  | .disableAutoStop _, ret => ret ≠ 0
  | .resetWifiProvisioning _ _, ret => ret ≠ 0
  | .resetWifiSmState, ret => ret ≠ 0
  | .configureWifiSta _ _ _, ret => ret = -EINVAL ∨ ret = -EPERM
  | _, _ => False

def Call.isStart : Call S E H X → Bool
  | .startProvisioning _ _ _ => true
  | _ => false

variable {maxEntries : Nat} {start : E → S → Nat → T → Int × T} {stop : S → T → T}

theorem coreStep_some {s s' : Full S T H X} {l : Label NetInput E S} {ret : Int}
    (h : s.coreStep maxEntries start stop l = some (s', ret)) :
    ∃ core o, Effect (wifiDevice maxEntries start stop) s.core l core o ∧ s' = { s with core := core } ∧
      ret = o.ret := by
  obtain ⟨r, hr, he⟩ := Option.map_eq_some_iff.1 h
  cases he
  exact ⟨r.1, r.2, step_effect hr, rfl, rfl⟩

/-- An input changes the handlers, and nothing else of `mgr` or the settings. -/
theorem netStep_some {s s' : Full S T H X} {i : NetInput} {ret : Int}
    (h : s.netStep maxEntries start stop i = some (s', ret)) :
    ∃ net out core o, netInput maxEntries s.core.net i = some (net, out) ∧ ret = out.ret ∧
      Effect (wifiDevice maxEntries start stop) s.core (.net i) core o ∧
      core.mgr = s.core.mgr ∧ core.net = net ∧ s' = { s with core := core } := by
  obtain ⟨⟨net, out⟩, hout, h⟩ := Option.bind_eq_some_iff.1 h
  obtain ⟨⟨s₁, ret₁⟩, hr, he⟩ := Option.map_eq_some_iff.1 h
  cases he
  obtain ⟨core, o, heff, rfl, -⟩ := coreStep_some hr
  refine ⟨net, out, core, o, hout, rfl, heff, ?_⟩
  cases heff with
  | idle _ _ hi => exact hi.elim
  | quiet i net' evs hn | success i net' evs hn =>
    obtain ⟨r, hr', he⟩ := Option.map_eq_some_iff.1 hn
    cases hout.symm.trans hr'
    cases he
    exact ⟨rfl, rfl, rfl⟩

theorem netInput_wifi {net net' : Net} {i : Input} {o : NetOutput}
    (h : netInput maxEntries net (.wifi i) = some (net', o)) :
    ∃ w out, Wifi.step net.w i = some (w, out) ∧ net' = { net with w := w } ∧ o.ret = out.ret := by
  simp only [netInput] at h
  split at h
  · cases h
  · obtain ⟨r, hr, he⟩ := Option.map_eq_some_iff.1 h
    cases he
    exact ⟨r.1, r.2, hr, rfl, rfl⟩

theorem configureWifiSta_failed {w w' : World} {e : WifiEnv} {ssid psk : Option CStr} {o : Wifi.Output}
    (h : Wifi.step w (.configureWifiSta e ssid psk) = some (w', o))
    (hret : o.ret = -EINVAL ∨ o.ret = -EPERM) : w' = w := by
  simp only [Wifi.step] at h
  obtain ⟨rfl, rfl⟩ := answer_eq_some h
  dsimp only at hret
  cases hcb : w.wc.cbRegistered with
  | false => exact finish_begin w
  | true =>
    rw [hcb] at hret
    cases hc : configured w.wc ssid psk with
    | none =>
      rw [configureWifiSta_none (w := w.begin) hc]
      exact finish_begin w
    | some c =>
      rw [configureWifiSta_some (w := w.begin) hc] at hret
      dsimp only at hret
      split at hret
      · exact absurd hret (by decide)
      · exact absurd hret (by decide)

/-- A call that changed the handlers only, and not their credentials. -/
theorem settings_eq {s s' : Full S T H X} (hj : s'.appInfoJson = s.appInfoJson)
    (hc : s'.custom = s.custom) (hm : s'.core.mgr = { s.core.mgr with pc := s'.core.mgr.pc })
    (hstaged : s'.core.net.w.wc.staged = s.core.net.w.wc.staged)
    (hin : s'.core.net.w.wc.inflight = s.core.net.w.wc.inflight) : s'.settings = s.settings := by
  unfold Full.settings
  rw [hj, hc, hstaged, hin, hm]

/-- A call that goes to the Wi-Fi handlers and leaves `wc` as it was. -/
theorem wifiCall_settings {s s' : Full S T H X} {i : Input} {ret : Int}
    (h : s.netStep maxEntries start stop (.wifi i) = some (s', ret))
    (hwc : ∀ w' o, Wifi.step s.core.net.w i = some (w', o) → o.ret = ret →
      w'.wc = s.core.net.w.wc) : s'.settings = s.settings := by
  obtain ⟨net, out, core, o, hnet, rfl, -, hm, rfl, rfl⟩ := netStep_some h
  obtain ⟨w, out', hw, hn, hret⟩ := netInput_wifi hnet
  have heq := hwc w out' hw hret.symm
  refine settings_eq rfl rfl (by rw [hm]) ?_ ?_
  · rw [hn]
    exact congrArg Wc.staged heq
  · rw [hn]
    exact congrArg Wc.inflight heq

/-- The arguments are refused before anything is applied. -/
theorem configureWifiSta_refused {s s' : Full S T H X} {e : WifiEnv} {ssid psk : Option CStr} {ret : Int}
    (h : s.inputStep maxEntries start stop (.wifi (.configureWifiSta e ssid psk)) = some (s', ret))
    (hret : ret = -EINVAL ∨ ret = -EPERM) : s'.settings = s.settings := by
  unfold Full.inputStep at h
  split at h
  · cases h
    rcases hret with h0 | h0
    · exact absurd h0 (by decide)
    · exact absurd h0 (by decide)
  · refine wifiCall_settings h fun w' o hw ho => ?_
    rw [configureWifiSta_failed hw (ho ▸ hret)]

/-- Transports that always start; handlers and contexts are nothing. -/
def demoCalls : Machine (Full Bool Unit Unit Unit) (Call Bool Unit Unit Unit) Int :=
  callMachine 16 (fun _ _ _ t => (0, t)) fun _ t => t

/-- A start, with what the endpoints answer. -/
def callStart (version : Int) : Call Bool Unit Unit Unit :=
  .startProvisioning .security0 none ⟨true, version, 0, ⟨0, 0, 0⟩, 0, ()⟩

/-- `configure_wifi_sta` for "home". -/
def callHome : Call Bool Unit Unit Unit := .configureWifiSta okEnv (some homeSsid) (some passphrase)

/-- The service is stopped in the callback of the Apply for "home", which goes on; a start that
fails then clears what is in flight. -/
theorem interrupted_cleared : ∃ t e s, demoCalls.Run (.boot 3 () .empty) (t ++ [e]) s ∧
    (t ++ [e]).map (·.lbl) = [.init ⟨some ⟨true, true, true⟩, 0, 0⟩, callStart 0, callHome,
      .stopProvisioning, .credRecvReturns, callStart (-ENOMEM)] ∧
    Fails e.lbl e.out ∧ e.pre.settings.inflight.ssid.val = homeSsid.chars ∧
    e.post.settings.inflight.ssid.val = [] := by
  let ls : List (Call Bool Unit Unit Unit) := [.init ⟨some ⟨true, true, true⟩, 0, 0⟩, callStart 0,
    callHome, .stopProvisioning, .credRecvReturns]
  let r := (demoCalls.exec (.boot 3 () .empty) ls).get (by rfl)
  have hr : demoCalls.Run (.boot 3 () .empty) r.1 r.2 := demoCalls.run_get _ _ (by rfl)
  have hout : (demoCalls.step r.2 (callStart (-ENOMEM))).map
      (fun q => (q.2, q.1.settings.inflight.ssid.val)) = some (-ENOMEM, []) := by decide +kernel
  obtain ⟨⟨s', ret⟩, hstep, hq⟩ := Option.map_eq_some_iff.1 hout
  have hhome : r.2.settings.inflight.ssid.val = homeSsid.chars := by decide +kernel
  obtain ⟨rfl, hin⟩ : ret = -ENOMEM ∧ s'.settings.inflight.ssid.val = [] := Prod.mk.inj hq
  refine ⟨r.1, ⟨r.2, callStart (-ENOMEM), -ENOMEM, s'⟩, s', .snoc hr hstep, by rfl, ?_, hhome, hin⟩
  show -ENOMEM ≠ 0
  decide

end NetworkProv.Manager
