import NetworkProv.Proto.Payload
import NetworkProv.Thread.Net

/-!
# The Thread handlers, from bytes to bytes

What the `switch` makes of a request that nanopb has decoded, and the messages
that the handlers fill in for their responses.

* `configHandler_sound`, `ctrlHandler_sound`, `scanHandler_sound`: every answer
  can be encoded, whatever OpenThread reports.
-/
namespace NetworkProv.Thread
open Core.Protobuf Proto
open NetworkProv.Wifi (Status)

/-! ## Requests -/

/-- mirrors src/thread_config_handler.c:339-355 -/
def NetworkConfigReq.ofRead (r : ConfigRead) : NetworkConfigReq :=
  if r.msg = typeCmdSetThreadConfig then .cmdSetThreadConfig r.cmdSetThreadConfig
  else if r.msg = typeCmdApplyThreadConfig then .cmdApplyThreadConfig
  else if r.msg = typeCmdGetThreadStatus then .cmdGetThreadStatus
  else .other

/-- mirrors src/thread_ctrl_handler.c:38-60 -/
def NetworkCtrlReq.ofRead (msg : Nat) : NetworkCtrlReq :=
  if msg = typeCmdCtrlThreadReset then .cmdCtrlThreadReset
  else if msg = typeCmdCtrlThreadReprov then .cmdCtrlThreadReprov
  else .other

/-- `NetworkScanPayload_cmd_scan_thread_start_tag` -/
def cmdScanThreadStartTag : Nat := 16

/-- mirrors src/thread_scan_handler.c:177-258 -/
def NetworkScanReq.ofRead (r : ScanRead) : NetworkScanReq :=
  if r.msg = typeCmdScanThreadStart then
    if r.whichPayload = cmdScanThreadStartTag then
      .cmdScanThreadStart r.cmdScanThreadStart.blocking (UInt32.ofNat r.cmdScanThreadStart.channelMask)
    else .cmdScanThreadStart false 0
  else if r.msg = typeCmdScanThreadStatus then .cmdScanThreadStatus
  else if r.msg = typeCmdScanThreadResult then
    .cmdScanThreadResult r.cmdScanThreadResult.1 r.cmdScanThreadResult.2
  else .other

def decodeConfig (pb : PayloadPb) (inbuf : Bytes) : Option NetworkConfigReq := (pb.config inbuf).map .ofRead

def decodeCtrl (pb : PayloadPb) (inbuf : Bytes) : Option NetworkCtrlReq := (pb.ctrl inbuf).map .ofRead

def decodeScan (pb : PayloadPb) (inbuf : Bytes) : Option NetworkScanReq := (pb.scan inbuf).map .ofRead

/-! ## Responses -/

def threadStateOf : ThreadNetworkState → Nat
  | .attached => 0
  | .attaching => 1
  | .dettached => 2
  | .attachingFailed => 3

def failReasonWire : ThreadAttachFailedReason → Nat
  | .datasetInvalid => 0
  | .threadNetworkNotFound => 1

/-- mirrors src/thread_config_handler.c:266-286, the assignments -/
def ThreadAttachState.wire (a : ThreadAttachState) : Proto.ThreadAttachState :=
  ⟨toU32 a.panId, a.extPanId.val, toU32 a.channel, toChars (NETWORK_NAME_MAX + 1) a.name⟩

def ThreadStatusOneof.wire : ThreadStatusOneof → Option ThreadState
  | .unset => none
  | .threadFailReason r => some (.threadFailReason (failReasonWire r))
  | .threadAttached a => some (.threadAttached a.wire)

/-- mirrors src/thread_config_handler.c:292-305 -/
def RespGetThreadStatus.wire (r : RespGetThreadStatus) : Proto.RespGetThreadStatus :=
  ⟨statusOf r.status, threadStateOf r.threadState, r.state.wire⟩

/-- mirrors src/thread_config_handler.c:310-324, src/thread_ctrl_handler.c:39-55 -/
def Resp.wire : Resp → Payload
  | .respGetThreadStatus r => .config ⟨typeRespGetThreadStatus, some (.respGetThreadStatus r.wire)⟩
  | .respSetThreadConfig s => .config ⟨typeRespSetThreadConfig, some (.respSetThreadConfig (statusOf s))⟩
  | .respApplyThreadConfig s => .config ⟨typeRespApplyThreadConfig, some (.respApplyThreadConfig (statusOf s))⟩
  | .respCtrlThreadReset => .ctrl ⟨typeRespCtrlThreadReset, statusOf .success, some .respCtrlThreadReset⟩
  | .respCtrlThreadReprov => .ctrl ⟨typeRespCtrlThreadReprov, statusOf .success, some .respCtrlThreadReprov⟩

/-- mirrors src/thread_scan_handler.c:233-247 -/
def ThreadScanEntry.wire (e : ThreadScanEntry) : ThreadScanResult :=
  ⟨e.panId.toNat, e.channel.toNat, toI32 e.rssi, e.lqi.toNat, e.extAddr.val, e.networkName.val.chars,
    e.extPanId.val⟩

/-- mirrors src/thread_scan_handler.c:202-252 -/
def ScanResp.wire : ScanResp → NetworkScanPayload
  | .respScanThreadStart s => ⟨typeRespScanThreadStart, statusOf s, some .respScanThreadStart⟩
  | .respScanThreadStatus f n =>
    ⟨typeRespScanThreadStatus, statusOf .success, some (.respScanThreadStatus f (toU32 n))⟩
  | .respScanThreadResult es =>
    ⟨typeRespScanThreadResult, statusOf .success, some (.respScanThreadResult (es.map (·.wire)))⟩

/-! ## What the handlers build fits -/

theorem threadStateOf_lt (s : ThreadNetworkState) : threadStateOf s < 2 ^ 32 := by cases s <;> decide

theorem failReasonWire_lt (r : ThreadAttachFailedReason) : failReasonWire r < 2 ^ 32 := by
  cases r <;> decide

theorem wire_attached_fits (a : ThreadAttachState) : threadAttachState.Fits a.wire := by
  simp only [threadAttachState_fits, ThreadAttachState.wire]
  exact ⟨toU32_lt _, Nat.le_of_eq a.extPanId.property, toU32_lt _, toChars_fits (by decide) a.name⟩

theorem status_fits (r : RespGetThreadStatus) : Proto.respGetThreadStatus.Fits r.wire := by
  refine ⟨statusOf_lt _, threadStateOf_lt _, ?_⟩
  show (Message.oneOf threadStateMembers).Fits (threadState.symm r.state.wire)
  cases r.state with
  | unset => exact fits_oneOf_none
  | threadFailReason f => exact fits_oneOf_some.2 (failReasonWire_lt f)
  | threadAttached a => exact fits_oneOf_some.2 (wire_attached_fits a)

theorem resp_fits (r : Resp) : r.wire.Fits := by
  cases r with
  | respGetThreadStatus r => exact fits_config (by decide) (fits_oneOf_some.2 (status_fits r))
  | respSetThreadConfig s => exact fits_config (by decide) (fits_oneOf_some.2 (statusOf_lt s))
  | respApplyThreadConfig s => exact fits_config (by decide) (fits_oneOf_some.2 (statusOf_lt s))
  | respCtrlThreadReset => exact fits_ctrl (by decide) (by decide) (fits_oneOf_some.2 trivial)
  | respCtrlThreadReprov => exact fits_ctrl (by decide) (by decide) (fits_oneOf_some.2 trivial)

theorem entry_fits (e : ThreadScanEntry) : threadScanResult.Fits e.wire := by
  have hp : e.panId.toNat < 2 ^ 16 := e.panId.toNat_lt
  have hc : e.channel.toNat < 2 ^ 8 := e.channel.toNat_lt
  have hl : e.lqi.toNat < 2 ^ 8 := e.lqi.toNat_lt
  have hn : e.networkName.val.chars.length ≤ 16 := e.networkName.property
  simp only [threadScanResult_fits, ThreadScanEntry.wire]
  exact ⟨by omega, by omega, toI32_bounds e.rssi, by omega, Nat.le_of_eq e.extAddr.property,
    ⟨by omega, e.networkName.val.noNul⟩, Nat.le_of_eq e.extPanId.property⟩

def ScanResp.Bounded : ScanResp → Prop
  | .respScanThreadResult es => es.length ≤ RESULT_PAGE
  | _ => True

theorem scanResp_fits {r : ScanResp} (h : r.Bounded) : networkScanPayload.Fits r.wire := by
  cases r with
  | respScanThreadStart s => exact fits_scan (by decide) (statusOf_lt s) (fits_oneOf_some.2 trivial)
  | respScanThreadStatus f n =>
    exact fits_scan (by decide) (by decide) (fits_oneOf_some.2 ⟨trivial, toU32_lt n⟩)
  | respScanThreadResult es =>
    refine fits_scan (by decide) (by decide) (fits_oneOf_some.2 ⟨?_, ?_⟩)
    · rw [List.length_map]
      exact h
    · intro w hw
      obtain ⟨e, -, rfl⟩ := List.mem_map.1 hw
      exact entry_fits e

/-! ## Every answer is sound -/

def Resp.answer (r : Int × Option Resp) : Int × Option Payload := (r.1, r.2.map (·.wire))

def ScanResp.answer (r : Int × Option ScanResp) : Int × Option Payload := (r.1, r.2.map fun r => .scan r.wire)

theorem pbEncode_sound (e : OtEnv) (r : Resp) : Sound (Resp.answer (pbEncode e r)) := by
  unfold pbEncode
  split
  · rename_i hret
    exact .failed hret
  · exact .sent (resp_fits r)

theorem configHandler_sound (e : OtEnv) (req : Option NetworkConfigReq) (s : CallState) :
    Sound (Resp.answer (networkProvThreadConfigHandler e req s).1) := by
  cases req with
  | none => exact .failed (by decide : -EINVAL ≠ 0)
  | some q =>
    cases q with
    | cmdGetThreadStatus => exact pbEncode_sound e _
    | cmdSetThreadConfig d => exact pbEncode_sound e _
    | cmdApplyThreadConfig => exact pbEncode_sound e _
    | other => exact .failed (by decide : -ENOTSUP ≠ 0)

theorem ctrlHandler_sound (e : OtEnv) (req : Option NetworkCtrlReq) (s : CallState) :
    Sound (Resp.answer (networkProvThreadCtrlHandler e req s).1) := by
  cases req with
  | none => exact .failed (by decide : -EINVAL ≠ 0)
  | some q =>
    cases q with
    | cmdCtrlThreadReset => exact pbEncode_sound e _
    | cmdCtrlThreadReprov => exact pbEncode_sound e _
    | other => exact .failed (by decide : -ENOTSUP ≠ 0)

theorem scanEncode_sound (encodeRet : Int) {r : ScanResp} (h : r.Bounded) :
    Sound (ScanResp.answer (pbEncodeMsg encodeRet r)) := by
  unfold pbEncodeMsg
  split
  · rename_i hret
    exact .failed hret
  · exact .sent (scanResp_fits h)

theorem page_length (l : List ThreadScanEntry) (startIndex count : Nat) :
    ((Core.page RESULT_PAGE l startIndex count).map toResult).length ≤ RESULT_PAGE := by
  rw [List.length_map]
  exact (Core.length_page_le RESULT_PAGE l startIndex count).trans (Nat.min_le_right _ _)

theorem scanHandler_sound {e : ScanEnv} {req : Option NetworkScanReq} {ts : Ts} {r : Int × Option ScanResp}
    (h : (networkProvThreadScanHandler e req ts).1 = some r) : Sound (ScanResp.answer r) := by
  cases req with
  | none =>
    cases h
    exact .failed (by decide)
  | some q =>
    cases q with
    | cmdScanThreadStart blocking channelMask =>
      unfold networkProvThreadScanHandler at h
      dsimp only at h
      split at h
      · cases h
      · cases h
        exact scanEncode_sound _ trivial
    | cmdScanThreadStatus =>
      cases h
      exact scanEncode_sound _ trivial
    | cmdScanThreadResult startIndex count =>
      cases h
      exact scanEncode_sound _ (page_length ts.entries startIndex count)
    | other =>
      cases h
      exact .failed (by decide)

theorem scanWaitEnds_sound {timedOut : Bool} {encodeRet : Int} {ts ts' : Ts} {r : Int × Option ScanResp}
    (h : scanWaitEnds timedOut encodeRet ts = some (r, ts')) : Sound (ScanResp.answer r) := by
  unfold scanWaitEnds at h
  split at h
  · cases h
  split at h
  · cases h
    exact scanEncode_sound _ trivial
  split at h
  · cases h
  · cases h
    exact scanEncode_sound _ trivial

end NetworkProv.Thread
