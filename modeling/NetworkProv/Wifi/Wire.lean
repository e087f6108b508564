import NetworkProv.Manager.WifiNet
import NetworkProv.Proto.Payload

/-!
# The Wi-Fi handlers, from bytes to bytes

What the `switch` makes of a request that nanopb has decoded, and the messages
that the handlers fill in for their responses.

* `resp_fits`, `scanResp_fits`: every response a handler builds can be encoded,
  whatever the driver and the network stack report.
* `configHandler_sound`, `ctrlHandler_sound`, `scanHandler_sound`: so every answer
  is an error or a message that fits.
-/
namespace NetworkProv.Wifi
open Core.Protobuf Proto

/-! ## Requests -/

/-- mirrors src/wifi_config_handler.c:542-559 -/
def NetworkConfigReq.ofRead (r : ConfigRead) : NetworkConfigReq :=
  if r.msg = typeCmdSetWifiConfig then .cmdSetWifiConfig r.cmdSetWifiConfig
  else if r.msg = typeCmdApplyWifiConfig then .cmdApplyWifiConfig
  else if r.msg = typeCmdGetWifiStatus then .cmdGetWifiStatus
  else .other

/-- mirrors src/wifi_ctrl_handler.c:39-57 -/
def NetworkCtrlReq.ofRead (msg : Nat) : NetworkCtrlReq :=
  if msg = typeCmdCtrlWifiReset then .cmdCtrlWifiReset
  else if msg = typeCmdCtrlWifiReprov then .cmdCtrlWifiReprov
  else .other

/-- `NetworkScanPayload_cmd_scan_wifi_start_tag` -/
def cmdScanWifiStartTag : Nat := 10

/-- mirrors src/wifi_scan_handler.c:178-241 -/
def NetworkScanReq.ofRead (r : ScanRead) : NetworkScanReq :=
  if r.msg = typeCmdScanWifiStart then
    .cmdScanWifiStart (r.whichPayload == cmdScanWifiStartTag && r.cmdScanWifiStart.blocking)
  else if r.msg = typeCmdScanWifiStatus then .cmdScanWifiStatus
  else if r.msg = typeCmdScanWifiResult then
    -- whichever member is set, the memory is read as this one
    .cmdScanWifiResult r.cmdScanWifiResult.1 r.cmdScanWifiResult.2
  else .other

def decodeConfig (pb : PayloadPb) (inbuf : Bytes) : Option NetworkConfigReq := (pb.config inbuf).map .ofRead

def decodeCtrl (pb : PayloadPb) (inbuf : Bytes) : Option NetworkCtrlReq := (pb.ctrl inbuf).map .ofRead

def decodeScan (pb : PayloadPb) (inbuf : Bytes) : Option NetworkScanReq := (pb.scan inbuf).map .ofRead

/-! ## Responses -/

def staStateOf : WifiStationState → Nat
  | .connected => 0
  | .connecting => 1
  | .disconnected => 2
  | .connectionFailed => 3

def failReasonWire : WifiConnectFailedReason → Nat
  | .authError => 0
  | .wifiNetworkNotFound => 1

def authModeOf : WifiAuthMode → Nat
  | .open_ => 0
  | .wep => 1
  | .wpaPsk => 2
  | .wpa2Psk => 3
  | .wpa3Psk => 6

/-- mirrors src/wifi_config_handler.c:457-479, the assignments -/
def WifiConnectedState.wire (c : WifiConnectedState) : Proto.WifiConnectedState :=
  ⟨toChars 16 c.ip4Addr, c.authMode, c.ssid, c.bssid, toI32 c.channel⟩

def WifiStatusOneof.wire : WifiStatusOneof → Option WifiState
  | .unset => none
  | .wifiFailReason r => some (.wifiFailReason (failReasonWire r))
  | .wifiConnected c => some (.wifiConnected c.wire)
  | .attemptFailed n => some (.attemptFailed (toU32 n))

/-- mirrors src/wifi_config_handler.c:486-508 -/
def RespGetWifiStatus.wire (r : RespGetWifiStatus) : Proto.RespGetWifiStatus :=
  ⟨statusOf r.status, staStateOf r.wifiStaState, r.state.wire⟩

/-- mirrors src/wifi_scan_handler.c:224-231 -/
def ScanEntry.wire (e : ScanEntry) : WiFiScanResult :=
  ⟨e.ssid.val, e.channel.toNat, toI32 e.rssi, e.bssid.val, authModeOf e.auth⟩

/-- mirrors src/wifi_scan_handler.c:200-237 -/
def ScanResp.wire : ScanResp → NetworkScanPayload
  | .respScanWifiStart s => ⟨typeRespScanWifiStart, statusOf s, some .respScanWifiStart⟩
  | .respScanWifiStatus f n =>
    ⟨typeRespScanWifiStatus, statusOf .success, some (.respScanWifiStatus f (toU32 n))⟩
  | .respScanWifiResult es =>
    ⟨typeRespScanWifiResult, statusOf .success, some (.respScanWifiResult (es.map (·.wire)))⟩

/-- mirrors src/wifi_config_handler.c:514-526, src/wifi_ctrl_handler.c:40-52 -/
def Resp.wire : Resp → Payload
  | .respGetWifiStatus r => .config ⟨typeRespGetWifiStatus, some (.respGetWifiStatus r.wire)⟩
  | .respSetWifiConfig s => .config ⟨typeRespSetWifiConfig, some (.respSetWifiConfig (statusOf s))⟩
  | .respApplyWifiConfig s => .config ⟨typeRespApplyWifiConfig, some (.respApplyWifiConfig (statusOf s))⟩
  | .respCtrlWifiReset => .ctrl ⟨typeRespCtrlWifiReset, statusOf .success, some .respCtrlWifiReset⟩
  | .respCtrlWifiReprov => .ctrl ⟨typeRespCtrlWifiReprov, statusOf .success, some .respCtrlWifiReprov⟩

/-! ## What the handlers build fits -/

/-- The state of a connection keeps to the sizes of its message. -/
def WifiConnectedState.Bounded (c : WifiConnectedState) : Prop :=
  c.authMode < 2 ^ 32 ∧ c.ssid.length ≤ 33 ∧ c.bssid.length ≤ 6

def Resp.Bounded : Resp → Prop
  | .respGetWifiStatus r => ∀ c, r.state = .wifiConnected c → c.Bounded
  | _ => True

theorem fillConnectedState_bounded (e : WifiEnv) (wc : Wc) : (fillConnectedState e wc).Bounded := by
  have hs : wc.staged.ssid.val.length ≤ 32 := wc.staged.ssid.property
  have hopen : (⟨[], wifiAuthModeOpen, wc.staged.ssid.val, [], 0⟩ : WifiConnectedState).Bounded :=
    ⟨(by decide : wifiAuthModeOpen < 2 ^ 32), by dsimp only; omega, by simp⟩
  unfold fillConnectedState
  cases e.staIface with
  | false => exact hopen
  | true =>
    cases e.status with
    | none => cases e.ip4Addr <;> exact hopen
    | some st =>
      have hb : st.bssid.val.length ≤ 6 := Nat.le_of_eq st.bssid.property
      have ht : (st.ssid.take (SSID_MAX + 1)).length ≤ 33 := List.length_take_le _ _
      cases e.ip4Addr <;> exact ⟨(by decide : wifiAuthModeWpa2Psk < 2 ^ 32), ht, hb⟩

theorem wire_connected_fits {c : WifiConnectedState} (h : c.Bounded) : wifiConnectedState.Fits c.wire := by
  obtain ⟨ha, hs, hb⟩ := h
  simp only [wifiConnectedState_fits, WifiConnectedState.wire]
  exact ⟨toChars_fits (by decide) c.ip4Addr, ha, hs, hb, toI32_bounds c.channel⟩

theorem staStateOf_lt (s : WifiStationState) : staStateOf s < 2 ^ 32 := by cases s <;> decide

theorem failReasonWire_lt (r : WifiConnectFailedReason) : failReasonWire r < 2 ^ 32 := by
  cases r <;> decide

theorem authModeOf_lt (a : WifiAuthMode) : authModeOf a < 2 ^ 32 := by cases a <;> decide

theorem status_fits {r : RespGetWifiStatus} (h : ∀ c, r.state = .wifiConnected c → c.Bounded) :
    Proto.respGetWifiStatus.Fits r.wire := by
  refine ⟨statusOf_lt _, staStateOf_lt _, ?_⟩
  show (Message.oneOf wifiStateMembers).Fits (wifiState.symm r.state.wire)
  cases hs : r.state with
  | unset => exact fits_oneOf_none
  | wifiFailReason f => exact fits_oneOf_some.2 (failReasonWire_lt f)
  | wifiConnected c => exact fits_oneOf_some.2 (wire_connected_fits (h c hs))
  | attemptFailed n => exact fits_oneOf_some.2 (toU32_lt n)

theorem resp_fits {r : Resp} (h : r.Bounded) : r.wire.Fits := by
  cases r with
  | respGetWifiStatus r => exact fits_config (by decide) (fits_oneOf_some.2 (status_fits h))
  | respSetWifiConfig s => exact fits_config (by decide) (fits_oneOf_some.2 (statusOf_lt s))
  | respApplyWifiConfig s => exact fits_config (by decide) (fits_oneOf_some.2 (statusOf_lt s))
  | respCtrlWifiReset => exact fits_ctrl (by decide) (by decide) (fits_oneOf_some.2 trivial)
  | respCtrlWifiReprov => exact fits_ctrl (by decide) (by decide) (fits_oneOf_some.2 trivial)

def ScanResp.Bounded : ScanResp → Prop
  | .respScanWifiResult es => es.length ≤ RESULT_PAGE
  | _ => True

theorem entry_fits (e : ScanEntry) : wiFiScanResult.Fits e.wire := by
  have hs : e.ssid.val.length ≤ 33 := Nat.le_succ_of_le e.ssid.property
  have hc : e.channel.toNat < 2 ^ 32 := by
    have := e.channel.toNat_lt
    omega
  simp only [wiFiScanResult_fits, ScanEntry.wire]
  exact ⟨hs, hc, toI32_bounds e.rssi, Nat.le_of_eq e.bssid.property, authModeOf_lt _⟩

theorem scanResp_fits {r : ScanResp} (h : r.Bounded) : networkScanPayload.Fits r.wire := by
  cases r with
  | respScanWifiStart s => exact fits_scan (by decide) (statusOf_lt s) (fits_oneOf_some.2 trivial)
  | respScanWifiStatus f n =>
    exact fits_scan (by decide) (by decide) (fits_oneOf_some.2 ⟨trivial, toU32_lt n⟩)
  | respScanWifiResult es =>
    refine fits_scan (by decide) (by decide) (fits_oneOf_some.2 ⟨?_, ?_⟩)
    · rw [List.length_map]
      exact h
    · intro w hw
      obtain ⟨e, -, rfl⟩ := List.mem_map.1 hw
      exact entry_fits e

/-- mirrors src/wifi_config_handler.c:482-511, of which this is the response -/
theorem getStatus_bounded (e : WifiEnv) (wc : Wc) : (Resp.respGetWifiStatus (getStatus e wc)).Bounded := by
  intro c hc
  simp only [getStatus] at hc
  split at hc
  · cases hc
    exact fillConnectedState_bounded e wc
  · split at hc
    · cases hc
    · split at hc <;> cases hc

/-! ## Every answer is sound -/

def Resp.answer (r : Int × Option Resp) : Int × Option Payload := (r.1, r.2.map (·.wire))

def ScanResp.answer (r : Int × Option ScanResp) : Int × Option Payload := (r.1, r.2.map fun r => .scan r.wire)

theorem pbEncode_sound (e : WifiEnv) {r : Resp} (h : r.Bounded) : Sound (Resp.answer (pbEncode e r)) := by
  unfold pbEncode
  split
  · rename_i hret
    exact .failed hret
  · exact .sent (resp_fits h)

theorem configHandler_sound (e : WifiEnv) (req : Option NetworkConfigReq) (w : CallState) :
    Sound (Resp.answer (networkProvWifiConfigHandler e req w).1) := by
  cases req with
  | none => exact .failed (by decide : -EINVAL ≠ 0)
  | some q =>
    cases q with
    | cmdGetWifiStatus => exact pbEncode_sound e (getStatus_bounded e w.wc)
    | cmdSetWifiConfig cmd => exact pbEncode_sound e trivial
    | cmdApplyWifiConfig => exact pbEncode_sound e trivial
    | other => exact .failed (by decide : -ENOTSUP ≠ 0)

theorem ctrlHandler_sound (e : WifiEnv) (req : Option NetworkCtrlReq) (w : CallState) :
    Sound (Resp.answer (networkProvWifiCtrlHandler e req w).1) := by
  cases req with
  | none => exact .failed (by decide : -EINVAL ≠ 0)
  | some q =>
    cases q with
    | cmdCtrlWifiReset => exact pbEncode_sound e trivial
    | cmdCtrlWifiReprov => exact pbEncode_sound e trivial
    | other => exact .failed (by decide : -ENOTSUP ≠ 0)

theorem scanEncode_sound (encodeRet : Int) {r : ScanResp} (h : r.Bounded) :
    Sound (ScanResp.answer (scanEncode encodeRet r)) := by
  unfold scanEncode
  split
  · rename_i hret
    exact .failed hret
  · exact .sent (scanResp_fits h)

theorem page_length (sc : Sc) (startIndex count : Nat) : (sc.page startIndex count).length ≤ RESULT_PAGE :=
  (List.length_take_le _ _).trans (Nat.min_le_left _ _)

theorem scanHandler_sound {e : ScanEnv} {req : Option NetworkScanReq} {sc : Sc} {r : Int × Option ScanResp}
    (h : (networkProvWifiScanHandler e req sc).1 = some r) : Sound (ScanResp.answer r) := by
  cases req with
  | none =>
    cases h
    exact .failed (by decide)
  | some q =>
    cases q with
    | cmdScanWifiStart blocking =>
      unfold networkProvWifiScanHandler at h
      dsimp only at h
      split at h
      · cases h
      · cases h
        exact scanEncode_sound _ trivial
    | cmdScanWifiStatus =>
      cases h
      exact scanEncode_sound _ trivial
    | cmdScanWifiResult startIndex count =>
      cases h
      exact scanEncode_sound _ (page_length sc startIndex count)
    | other =>
      cases h
      exact .failed (by decide)

theorem scanWaitEnds_sound {timedOut : Bool} {encodeRet : Int} {sc sc' : Sc} {r : Int × Option ScanResp}
    (h : scanWaitEnds timedOut encodeRet sc = some (r, sc')) : Sound (ScanResp.answer r) := by
  unfold scanWaitEnds at h
  split at h
  · cases h
  split at h
  · cases h
    exact scanEncode_sound _ trivial
  split at h
  · cases h
  · cases h
    exact scanEncode_sound _ trivial

end NetworkProv.Wifi
