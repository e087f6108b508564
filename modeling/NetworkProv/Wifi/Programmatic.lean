import NetworkProv.Wifi.World

/-!
# Credentials from the application and from a peer

`network_prov_mgr_configure_wifi_sta` stages and applies in one call what a
peer sends as `CmdSetWifiConfig` and `CmdApplyWifiConfig`. The two stagings are
written and checked separately: `do_set_config` on decoded fields, which hold
one byte more than it accepts, `network_prov_wifi_config_set_and_apply` on
lengths taken from C strings.

* `decodeSet_refused`, `doSetConfig_configured`: the two accept the same values
  and stage the same ones.
* `configure_equals_wire`: the call and the two requests, from any state.

A peer sees an answer only if its response is encoded, so the requests are
taken in environments where it is; the call encodes nothing.
-/
namespace NetworkProv.Wifi

open NetworkProv.Core

/-! ## The two requests -/

/-- What a `CmdSetWifiConfig` without a BSSID, for channel 0, is decoded to: a
value longer than its field stops the decoder.
mirrors proto/network_config.options:3-5 -/
def decodeSet (ssid passphrase : Bytes) : Option NetworkConfigReq :=
  if ssid.length ≤ SSID_MAX + 1 ∧ passphrase.length ≤ PASS_MAX + 1 then
    some (.cmdSetWifiConfig ⟨ssid, passphrase, [], 0⟩)
  else none

/-- The environment, with responses encoded. -/
def WifiEnv.encoding (e : WifiEnv) : WifiEnv := { e with encodeRet := 0 }

def wireSet (e : WifiEnv) (ssid psk : Option CStr) : Input :=
  .config e.encoding (decodeSet (charsOf ssid) (charsOf psk))

def wireApply (e : WifiEnv) : Input := .config e.encoding (some .cmdApplyWifiConfig)

def SetAnswered (o : Output) : Prop := o.resp = some (.respSetWifiConfig .success)

def ApplyAnswered (o : Output) : Prop := o.resp = some (.respApplyWifiConfig .success)

/-! ## The same values -/

theorem configured_none {ssid psk : Option CStr} {wc : Wc} (h : configured wc ssid psk = none) :
    (charsOf ssid).length = 0 ∨ (charsOf ssid).length > SSID_MAX ∨
      (charsOf psk).length > PASS_MAX := by
  unfold configured at h
  cases ssid with
  | none => exact .inl rfl
  | some s =>
    rw [Option.bind_some] at h
    split at h
    · assumption
    · cases h

theorem configured_some {ssid psk : Option CStr} {wc : Wc} {c : ConnectConf}
    (h : configured wc ssid psk = some c) :
    (charsOf ssid).length ≠ 0 ∧ (charsOf ssid).length ≤ SSID_MAX ∧
      (charsOf psk).length ≤ PASS_MAX := by
  unfold configured at h
  cases ssid with
  | none => cases h
  | some s =>
    rw [Option.bind_some] at h
    split at h
    · cases h
    · rename_i hn
      have hlen : ¬ ((charsOf (some s)).length = 0 ∨ (charsOf (some s)).length > SSID_MAX ∨
        (charsOf psk).length > PASS_MAX) := hn
      omega

/-- What the call accepts the decoder accepts. -/
theorem decodeSet_configured {ssid psk : Option CStr} {wc : Wc} {c : ConnectConf}
    (h : configured wc ssid psk = some c) :
    decodeSet (charsOf ssid) (charsOf psk) =
      some (.cmdSetWifiConfig ⟨charsOf ssid, charsOf psk, [], 0⟩) := by
  have hlen := configured_some h
  exact if_pos (by omega)

theorem doSetConfig_configured {ssid psk : Option CStr} {wc : Wc} {c : ConnectConf}
    (h : configured wc ssid psk = some c) :
    doSetConfig ⟨charsOf ssid, charsOf psk, [], 0⟩ wc = (.success, { wc with staged := c }) := by
  have hlen := configured_some h
  unfold configured at h
  cases ssid with
  | none => cases h
  | some s =>
    rw [Option.bind_some] at h
    split at h
    · cases h
    · cases h
      unfold doSetConfig
      dsimp only
      rw [dif_neg (by omega), dif_neg (by omega)]
      rfl

theorem doSetConfig_refused {ssid psk : Option CStr} {wc : Wc}
    (h : configured wc ssid psk = none) :
    doSetConfig ⟨charsOf ssid, charsOf psk, [], 0⟩ wc = (.invalidArgument, wc) := by
  have hlen := configured_none h
  unfold doSetConfig
  dsimp only
  split
  · rfl
  · rw [dif_pos (by omega)]

/-! ## The same answers and the same state -/

/-- A Set of values that the call refuses changes nothing, and is not answered Success. -/
theorem wireSet_refused {w : World} (hst : w.wc.cbRegistered = true) (e : WifiEnv)
    {ssid psk : Option CStr} (h : configured w.wc ssid psk = none) :
    ∃ o, step w (wireSet e ssid psk) = some (w, o) ∧ ¬ SetAnswered o := by
  by_cases hd : (charsOf ssid).length ≤ SSID_MAX + 1 ∧ (charsOf psk).length ≤ PASS_MAX + 1
  · refine ⟨⟨0, some (.respSetWifiConfig .invalidArgument), [], []⟩, ?_, by simp [SetAnswered]⟩
    have hset := doSetConfig_refused h
    simp [wireSet, decodeSet, hd, step, hst, networkProvWifiConfigHandler, World.begin, hset,
      World.answer, World.finish, pbEncode, WifiEnv.encoding]
  · refine ⟨⟨-EINVAL, none, [], []⟩, ?_, by simp [SetAnswered]⟩
    simp [wireSet, decodeSet, hd, step, hst, networkProvWifiConfigHandler, World.begin,
      World.answer, World.finish]

/-- The world with `c` staged. -/
def World.stage (w : World) (c : ConnectConf) : World := { w with wc := { w.wc with staged := c } }

theorem wireSet_staged {w : World} (hst : w.wc.cbRegistered = true) (e : WifiEnv)
    {ssid psk : Option CStr} {c : ConnectConf} (h : configured w.wc ssid psk = some c) :
    step w (wireSet e ssid psk) =
      some (w.stage c, ⟨0, some (.respSetWifiConfig .success), [], []⟩) := by
  have hset := doSetConfig_configured h
  simp [wireSet, decodeSet_configured h, step, hst, networkProvWifiConfigHandler, World.begin, hset,
    World.answer, World.finish, World.stage, pbEncode, WifiEnv.encoding]

/-- The Apply does what `do_apply_config` does, whatever encodes its answer. -/
theorem wireApply_step {w : World} (hst : w.wc.cbRegistered = true) (e : WifiEnv) :
    step w (wireApply e) =
      some (w.finish (doApplyConfig e w.begin).2,
        ⟨0, some (.respApplyWifiConfig (doApplyConfig e w.begin).1), (doApplyConfig e w.begin).2.events,
          (doApplyConfig e w.begin).2.connects⟩) := by
  have henv : doApplyConfig e.encoding w.begin = doApplyConfig e w.begin := rfl
  have henc : e.encoding.encodeRet = 0 := rfl
  simp [wireApply, step, hst, networkProvWifiConfigHandler, henv, henc, World.answer, pbEncode]

theorem configureWifiSta_step {w : World} (hst : w.wc.cbRegistered = true) (e : WifiEnv)
    {ssid psk : Option CStr} {c : ConnectConf} (h : configured w.wc ssid psk = some c) :
    step w (.configureWifiSta e ssid psk) =
      some ((w.stage c).finish (doApplyConfig e (w.stage c).begin).2,
        ⟨if (doApplyConfig e (w.stage c).begin).1 = .success then 0 else - EIO, none,
          (doApplyConfig e (w.stage c).begin).2.events,
          (doApplyConfig e (w.stage c).begin).2.connects⟩) := by
  simp only [step, hst]
  rw [configureWifiSta_some (w := w.begin) h]
  rfl

theorem configureWifiSta_refused {w : World} (hst : w.wc.cbRegistered = true) (e : WifiEnv)
    {ssid psk : Option CStr} (h : configured w.wc ssid psk = none) :
    step w (.configureWifiSta e ssid psk) = some (w, ⟨-EINVAL, none, [], []⟩) := by
  simp only [step, hst]
  rw [configureWifiSta_none (w := w.begin) h]
  simp only [World.answer, finish_begin]
  rfl

/-- `o`, `w'`: what the call answers and leaves; `o₁`, `o₂`, `w₂`: the same of the two requests. -/
structure SamePath (o o₁ o₂ : Output) (w' w₂ : World) : Prop where
  accepts : o.ret ≠ -EINVAL ↔ SetAnswered o₁
  succeeds : o.ret = 0 ↔ SetAnswered o₁ ∧ ApplyAnswered o₂
  /-- where the values are accepted, also if they are then not stored -/
  same : SetAnswered o₁ →
    w' = w₂ ∧ o.events = o₁.events ++ o₂.events ∧ o.connects = o₁.connects ++ o₂.connects

theorem samePath_refused {o₁ o₂ : Output} {w w₂ : World} (h : ¬ SetAnswered o₁) :
    SamePath ⟨-EINVAL, none, [], []⟩ o₁ o₂ w w₂ where
  accepts := by simp [h]
  succeeds := by simp [h, EINVAL]
  same hs := absurd hs h

theorem samePath_staged (s : Status) (ev : List CredEvent) (cs : List ConnectReq) (w : World) :
    SamePath ⟨if s = .success then 0 else - EIO, none, ev, cs⟩
      ⟨0, some (.respSetWifiConfig .success), [], []⟩ ⟨0, some (.respApplyWifiConfig s), ev, cs⟩ w w where
  accepts := by by_cases hs : s = .success <;> simp [hs, SetAnswered, EINVAL, EIO]
  succeeds := by by_cases hs : s = .success <;> simp [hs, SetAnswered, ApplyAnswered, EIO]
  same _ := ⟨rfl, rfl, rfl⟩

/-- From every state of a started service, in every environment, for all strings. -/
theorem configure_equals_wire {w : World} (hst : w.wc.cbRegistered = true) (e e₁ : WifiEnv)
    (ssid psk : Option CStr) :
    ∃ w' o w₁ o₁ w₂ o₂, step w (.configureWifiSta e ssid psk) = some (w', o) ∧
      step w (wireSet e₁ ssid psk) = some (w₁, o₁) ∧ step w₁ (wireApply e) = some (w₂, o₂) ∧
      SamePath o o₁ o₂ w' w₂ ∧
      -- whatever comes next
      (SetAnswered o₁ → ∀ ls,
        (wifiMachine.exec w (.configureWifiSta e ssid psk :: ls)).map (fun r => (r.1.drop 1, r.2)) =
          (wifiMachine.exec w (wireSet e₁ ssid psk :: wireApply e :: ls)).map
            fun r => (r.1.drop 2, r.2)) := by
  cases hc : configured w.wc ssid psk with
  | none =>
    obtain ⟨o₁, hset, hn⟩ := wireSet_refused hst e₁ hc
    exact ⟨w, _, w, o₁, _, _, configureWifiSta_refused hst e hc, hset, wireApply_step hst e,
      samePath_refused hn, fun h => absurd h hn⟩
  | some c =>
    have hset : wifiMachine.step w (wireSet e₁ ssid psk) = some _ := wireSet_staged hst e₁ hc
    have hst₁ : (w.stage c).wc.cbRegistered = true := hst
    have happly : wifiMachine.step (w.stage c) (wireApply e) = some _ := wireApply_step hst₁ e
    have hcall : wifiMachine.step w (.configureWifiSta e ssid psk) = some _ :=
      configureWifiSta_step hst e hc
    refine ⟨_, _, _, _, _, _, hcall, hset, happly, samePath_staged _ _ _ _, ?_⟩
    intro _ ls
    rw [Machine.exec_drop hset, Machine.exec_drop happly, Machine.exec_drop hcall]

/-- A connect request is accepted, on both ways. -/
theorem configure_equals_wire_test :
    ∃ w' o w₁ o₁ w₂ o₂, step startedTwo (configure okEnv homeSsid) = some (w', o) ∧
      step startedTwo (wireSet okEnv (some homeSsid) (some passphrase)) = some (w₁, o₁) ∧
      step w₁ (wireApply okEnv) = some (w₂, o₂) ∧ SamePath o o₁ o₂ w' w₂ ∧
      (SetAnswered o₁ → ∀ ls,
        (wifiMachine.exec startedTwo (configure okEnv homeSsid :: ls)).map
            (fun r => (r.1.drop 1, r.2)) =
          (wifiMachine.exec startedTwo
            (wireSet okEnv (some homeSsid) (some passphrase) :: wireApply okEnv :: ls)).map
            fun r => (r.1.drop 2, r.2)) :=
  configure_equals_wire rfl okEnv okEnv (some homeSsid) (some passphrase)

end NetworkProv.Wifi
