import NetworkProv.Core.Message
import NetworkProv.Security.Session
import NetworkProv.Security.Wire
import NetworkProv.Wifi.Config

/-!
# The messages on the wire

`SessionData` of `prov-session` (`proto/session.proto`, `proto/sec0.proto`,
`proto/sec1.proto`), then `NetworkConfigPayload`, `NetworkCtrlPayload` and
`NetworkScanPayload` of the data endpoints (`proto/network_*.proto`), with all they
contain and the bounds of the `.options` files. Enumerations are open in proto3, so
they are numbers here.

nanopb itself is a parameter of the model. `protoPb` is a proto3 codec in its place,
for runs on concrete bytes. It reads what encoders write; where an encoder writes no
such thing (a flag of more than 32 bits, an unknown number of more than ten bytes) it
is not nanopb.

* `protoPb_codec`: the messages carry the security 1 handshake.
* `networkConfigPayload_size`, `networkCtrlPayload_size`,
  `networkScanPayload_size`: how long each can get.
-/
namespace NetworkProv.Proto
open Core.Protobuf Session Security1

/-- An enumeration, or a `uint32`. -/
def u32 : Scalar Nat := .uint (2 ^ 32) (by decide) (by decide)

def enumField (n : Nat) (hn : 0 < n ∧ n < 2 ^ 29) : Message Nat := .scalar n u32 hn

def bytesField (n max : Nat) (hn : 0 < n ∧ n < 2 ^ 29) (hm : max < 2 ^ 32) : Message Bytes :=
  .scalar n (.bytes max hm) hn

@[simp] theorem fits_u32 {n : Nat} : u32.Fits n ↔ n < 2 ^ 32 := Iff.rfl

@[simp] theorem fits_enumField {n a : Nat} {hn} : (enumField n hn).Fits a ↔ a < 2 ^ 32 := Iff.rfl

@[simp] theorem fits_bytesField {n max : Nat} {hn hm} {b : Bytes} :
    (bytesField n max hn hm).Fits b ↔ b.length ≤ max := Iff.rfl

/-! ## `SessionData`: security 0 -/

/-- mirrors proto/sec0.proto:11-13 -/
def s0SessionResp : Message Nat := enumField 1 (by decide)

def sec0Members : Members (Unit ⊕ Nat) :=
  (Members.message 20 .empty (by decide) (by decide)).or
    (.message 21 s0SessionResp (by decide) (by decide)) (by decide)

def sec0Oneof : Option (Unit ⊕ Nat) ≃ Sec0Oneof where
  toFun
    | none => .unset
    | some (.inl _) => .sc
    | some (.inr st) => .sr st
  invFun
    | .unset => none
    | .sc => some (.inl ())
    | .sr st => some (.inr st)
  left_inv := by rintro (_ | _ | _) <;> rfl
  right_inv := by rintro (_ | _ | _) <;> rfl

/-- mirrors proto/sec0.proto:22-28 -/
def sec0Payload : Message Sec0Payload :=
  ((enumField 1 (by decide)).and ((Message.oneOf sec0Members).equiv sec0Oneof) (by decide)).equiv
    ⟨fun p => ⟨p.1, p.2⟩, fun p => (p.msg, p.payload), fun _ => rfl, fun _ => rfl⟩

/-! ## Security 1 -/

/-- mirrors proto/sec1.proto:17-19 -/
def sessionCmd0 : Message Bytes := bytesField 1 32 (by decide) (by decide)

/-- mirrors proto/sec1.proto:22-26 -/
def sessionResp0 : Message (Nat × Bytes × Bytes) :=
  (enumField 1 (by decide)).and
    ((bytesField 2 32 (by decide) (by decide)).and (bytesField 3 16 (by decide) (by decide)) (by decide))
    (by decide)

/-- mirrors proto/sec1.proto:6-8 -/
def sessionCmd1 : Message Bytes := bytesField 2 32 (by decide) (by decide)

/-- mirrors proto/sec1.proto:11-14 -/
def sessionResp1 : Message (Nat × Bytes) :=
  (enumField 1 (by decide)).and (bytesField 3 32 (by decide) (by decide)) (by decide)

def sec1Members : Members (Bytes ⊕ (Nat × Bytes × Bytes) ⊕ Bytes ⊕ (Nat × Bytes)) :=
  (Members.message 20 sessionCmd0 (by decide) (by decide)).or
    ((Members.message 21 sessionResp0 (by decide) (by decide)).or
      ((Members.message 22 sessionCmd1 (by decide) (by decide)).or
        (.message 23 sessionResp1 (by decide) (by decide)) (by decide)) (by decide)) (by decide)

def sec1Oneof : Option (Bytes ⊕ (Nat × Bytes × Bytes) ⊕ Bytes ⊕ (Nat × Bytes)) ≃ Sec1Oneof where
  toFun
    | none => .unset
    | some (.inl pk) => .sc0 pk
    | some (.inr (.inl (st, pk, rnd))) => .sr0 st pk rnd
    | some (.inr (.inr (.inl v))) => .sc1 v
    | some (.inr (.inr (.inr (st, v)))) => .sr1 st v
  invFun
    | .unset => none
    | .sc0 pk => some (.inl pk)
    | .sr0 st pk rnd => some (.inr (.inl (st, pk, rnd)))
    | .sc1 v => some (.inr (.inr (.inl v)))
    | .sr1 st v => some (.inr (.inr (.inr (st, v))))
  left_inv := by rintro (_ | _ | _ | _ | _) <;> rfl
  right_inv := by rintro (_ | _ | _ | _ | _) <;> rfl

/-- mirrors proto/sec1.proto:37-45 -/
def sec1Payload : Message Sec1Payload :=
  ((enumField 1 (by decide)).and ((Message.oneOf sec1Members).equiv sec1Oneof) (by decide)).equiv
    ⟨fun p => ⟨p.1, p.2⟩, fun p => (p.msg, p.payload), fun _ => rfl, fun _ => rfl⟩

/-! ## `SessionData` -/

def sessionMembers : Members (Sec0Payload ⊕ Sec1Payload) :=
  (Members.message 10 sec0Payload (by decide) (by decide)).or
    (.message 11 sec1Payload (by decide) (by decide)) (by decide)

def sessionOneof : Option (Sec0Payload ⊕ Sec1Payload) ≃ SessionOneof where
  toFun
    | none => .unset
    | some (.inl p) => .sec0 p
    | some (.inr p) => .sec1 p
  invFun
    | .unset => none
    | .sec0 p => some (.inl p)
    | .sec1 p => some (.inr p)
  left_inv := by rintro (_ | _ | _) <;> rfl
  right_inv := by rintro (_ | _ | _) <;> rfl

/-- mirrors proto/session.proto:20-26 -/
def sessionData : Message SessionData :=
  ((enumField 2 (by decide)).and ((Message.oneOf sessionMembers).equiv sessionOneof) (by decide)).equiv
    ⟨fun p => ⟨p.1, p.2⟩, fun p => (p.secVer, p.proto), fun _ => rfl, fun _ => rfl⟩

theorem sessionData_size : sessionData.size ≤ 128 := by decide +kernel

/-- These messages in nanopb's place. What C reads from a union member that is not set is `pb`'s. -/
def protoPb (pb : Nanopb) : Nanopb := { pb with decode := sessionData.decode, encode := sessionData.encode }

theorem sessionData_roundtrip {m : SessionData} (h : sessionData.Fits m) :
    ∃ b, sessionData.encode m = some b ∧ b.length ≤ 128 ∧ sessionData.decode b = some m := by
  obtain ⟨b, hb⟩ := sessionData.encode_isSome h
  exact ⟨b, hb, (sessionData.encode_length hb).trans sessionData_size, sessionData.decode_encode hb⟩

theorem fits_sec1 {msg : Nat} {o : Sec1Oneof} (hm : msg < 2 ^ 32)
    (ho : (Message.oneOf sec1Members).Fits (sec1Oneof.symm o)) :
    sessionData.Fits ⟨secScheme1, .sec1 ⟨msg, o⟩⟩ := by
  have hp : sec1Payload.Fits ⟨msg, o⟩ := ⟨hm, ho⟩
  exact ⟨(by decide : secScheme1 < 2 ^ 32), fits_oneOf_some.2 hp⟩

theorem protoPb_codec (pb : Nanopb) : Codec (protoPb pb) where
  cmd0 pk := sessionData_roundtrip <| fits_sec1 (by decide) <| fits_oneOf_some.2 <|
    Nat.le_of_eq pk.property
  resp0 pk rnd := by
    have hf : sessionResp0.Fits (statusSuccess, pk.val, rnd.val) :=
      ⟨(by decide : statusSuccess < 2 ^ 32), Nat.le_of_eq pk.property, Nat.le_of_eq rnd.property⟩
    obtain ⟨b, h1, -, h2⟩ := sessionData_roundtrip (fits_sec1 (by decide : sessionResponse0 < 2 ^ 32)
      (o := .sr0 statusSuccess pk.val rnd.val) (fits_oneOf_some.2 hf))
    exact ⟨b, h1, h2⟩
  cmd1 v := sessionData_roundtrip <| fits_sec1 (by decide) <| fits_oneOf_some.2 <|
    Nat.le_of_eq v.property
  resp1 v := by
    have hf : sessionResp1.Fits (statusSuccess, v.val) :=
      ⟨(by decide : statusSuccess < 2 ^ 32), Nat.le_of_eq v.property⟩
    obtain ⟨b, h1, -, h2⟩ := sessionData_roundtrip (fits_sec1 (by decide : sessionResponse1 < 2 ^ 32)
      (o := .sr1 statusSuccess v.val) (fits_oneOf_some.2 hf))
    exact ⟨b, h1, h2⟩

/-! ## Bytes -/

example : sessionData.encode (resp0 devicePub deviceRandom.val) =
    some (resp0Head ++ (devicePub ++ (resp0Mid ++ deviceRandom.val))) := by decide +kernel

example : sessionData.decode (cmd1Head ++ clientPub) = some (cmd1 clientPub) := by decide +kernel

end NetworkProv.Proto

/-! ## The messages of the data endpoints -/

namespace NetworkProv.Proto
open Core.Protobuf
open Wifi (CmdSetWifiConfig)

def u32Field (n : Nat) (hn : 0 < n ∧ n < 2 ^ 29) : Message Nat := .scalar n u32 hn

def int32Field (n : Nat) (hn : 0 < n ∧ n < 2 ^ 29) : Message Int := .scalar n .int32 hn

def boolField (n : Nat) (hn : 0 < n ∧ n < 2 ^ 29) : Message Bool := .scalar n .bool hn

def stringField (n max : Nat) (hn : 0 < n ∧ n < 2 ^ 29) (hm : max < 2 ^ 32) : Message Bytes :=
  .scalar n (.string max hm) hn

@[simp] theorem fits_u32Field {n a : Nat} {hn} : (u32Field n hn).Fits a ↔ a < 2 ^ 32 := Iff.rfl

@[simp] theorem fits_int32Field {n : Nat} {i : Int} {hn} :
    (int32Field n hn).Fits i ↔ -2 ^ 31 ≤ i ∧ i < 2 ^ 31 := Iff.rfl

@[simp] theorem fits_boolField {n : Nat} {b : Bool} {hn} : (boolField n hn).Fits b := trivial

@[simp] theorem fits_stringField {n max : Nat} {hn hm} {b : Bytes} :
    (stringField n max hn hm).Fits b ↔ b.length < max ∧ 0 ∉ b := Iff.rfl

/-! ## The message types

mirrors proto/network_config.proto:64-78, proto/network_ctrl.proto:29-40,
proto/network_scan.proto:77-90, those that requests and responses use -/

def typeCmdGetWifiStatus : Nat := 0
def typeRespGetWifiStatus : Nat := 1
def typeCmdSetWifiConfig : Nat := 2
def typeRespSetWifiConfig : Nat := 3
def typeCmdApplyWifiConfig : Nat := 4
def typeRespApplyWifiConfig : Nat := 5
def typeCmdGetThreadStatus : Nat := 6
def typeRespGetThreadStatus : Nat := 7
def typeCmdSetThreadConfig : Nat := 8
def typeRespSetThreadConfig : Nat := 9
def typeCmdApplyThreadConfig : Nat := 10
def typeRespApplyThreadConfig : Nat := 11

def typeCmdCtrlWifiReset : Nat := 1
def typeRespCtrlWifiReset : Nat := 2
def typeCmdCtrlWifiReprov : Nat := 3
def typeRespCtrlWifiReprov : Nat := 4
def typeCmdCtrlThreadReset : Nat := 5
def typeRespCtrlThreadReset : Nat := 6
def typeCmdCtrlThreadReprov : Nat := 7
def typeRespCtrlThreadReprov : Nat := 8

def typeCmdScanWifiStart : Nat := 0
def typeRespScanWifiStart : Nat := 1
def typeCmdScanWifiStatus : Nat := 2
def typeRespScanWifiStatus : Nat := 3
def typeCmdScanWifiResult : Nat := 4
def typeRespScanWifiResult : Nat := 5
def typeCmdScanThreadStart : Nat := 6
def typeRespScanThreadStart : Nat := 7
def typeCmdScanThreadStatus : Nat := 8
def typeRespScanThreadStatus : Nat := 9
def typeCmdScanThreadResult : Nat := 10
def typeRespScanThreadResult : Nat := 11

/-- `Status_Success`, `Status_InvalidArgument`, `Status_InternalError` -/
def statusOf : Wifi.Status → Nat
  | .success => 0
  | .invalidArgument => 4
  | .internalError => 5

theorem statusOf_lt (s : Wifi.Status) : statusOf s < 2 ^ 32 := by cases s <;> decide

/-- A submessage as a member of a `oneof`. -/
def sub {α : Type} (n : Nat) (M : Message α) (h : (0 < n ∧ n < 2 ^ 29) ∧ M.size < 2 ^ 32) : Members α :=
  .message n M h.1 h.2

@[simp] theorem fits_sub {α : Type} {n : Nat} {M : Message α} {h} {a : α} :
    (sub n M h).Fits a ↔ M.Fits a := Iff.rfl

/-! ## `proto/network_constants.proto` -/

structure WifiConnectedState where
  ip4Addr : Bytes
  authMode : Nat
  ssid : Bytes
  bssid : Bytes
  channel : Int
  deriving DecidableEq

/-- mirrors proto/network_constants.proto:26-32, proto/network_constants.options:3-5 -/
def wifiConnectedState : Message WifiConnectedState :=
  ((stringField 1 16 (by decide) (by decide)).and ((enumField 2 (by decide)).and
    ((bytesField 3 33 (by decide) (by decide)).and ((bytesField 4 6 (by decide) (by decide)).and
      (int32Field 5 (by decide)) (by decide)) (by decide)) (by decide)) (by decide)).equiv
    ⟨fun p => ⟨p.1, p.2.1, p.2.2.1, p.2.2.2.1, p.2.2.2.2⟩,
     fun s => (s.ip4Addr, s.authMode, s.ssid, s.bssid, s.channel), fun _ => rfl, fun _ => rfl⟩

theorem wifiConnectedState_fits {s : WifiConnectedState} : wifiConnectedState.Fits s ↔
    (s.ip4Addr.length < 16 ∧ 0 ∉ s.ip4Addr) ∧ s.authMode < 2 ^ 32 ∧ s.ssid.length ≤ 33 ∧
      s.bssid.length ≤ 6 ∧ -2 ^ 31 ≤ s.channel ∧ s.channel < 2 ^ 31 := Iff.rfl

/-- mirrors proto/network_constants.proto:34-36 -/
def wifiAttemptFailed : Message Nat := u32Field 1 (by decide)

structure ThreadAttachState where
  panId : Nat
  extPanId : Bytes
  channel : Nat
  name : Bytes
  deriving DecidableEq

/-- mirrors proto/network_constants.proto:50-55, proto/network_constants.options:8-9 -/
def threadAttachState : Message ThreadAttachState :=
  ((u32Field 1 (by decide)).and ((bytesField 2 8 (by decide) (by decide)).and
    ((u32Field 3 (by decide)).and (stringField 4 17 (by decide) (by decide)) (by decide)) (by decide))
    (by decide)).equiv
    ⟨fun p => ⟨p.1, p.2.1, p.2.2.1, p.2.2.2⟩, fun s => (s.panId, s.extPanId, s.channel, s.name),
     fun _ => rfl, fun _ => rfl⟩

theorem threadAttachState_fits {s : ThreadAttachState} : threadAttachState.Fits s ↔
    s.panId < 2 ^ 32 ∧ s.extPanId.length ≤ 8 ∧ s.channel < 2 ^ 32 ∧ s.name.length < 17 ∧ 0 ∉ s.name := Iff.rfl

/-! ## `proto/network_config.proto` -/

inductive WifiState
  | wifiFailReason (r : Nat)
  | wifiConnected (s : WifiConnectedState)
  | attemptFailed (attemptsRemaining : Nat)
  deriving DecidableEq

structure RespGetWifiStatus where
  status : Nat
  wifiStaState : Nat
  state : Option WifiState
  deriving DecidableEq

def wifiStateMembers : Members (Nat ⊕ WifiConnectedState ⊕ Nat) :=
  (Members.scalar 10 u32 (by decide)).or
    ((sub 11 wifiConnectedState (by decide)).or (sub 12 wifiAttemptFailed (by decide)) (by decide))
    (by decide)

def wifiState : Option (Nat ⊕ WifiConnectedState ⊕ Nat) ≃ Option WifiState where
  toFun := Option.map (Sum.elim .wifiFailReason (Sum.elim .wifiConnected .attemptFailed))
  invFun := Option.map fun
    | .wifiFailReason r => .inl r
    | .wifiConnected s => .inr (.inl s)
    | .attemptFailed n => .inr (.inr n)
  left_inv := by rintro (_ | _ | _ | _) <;> rfl
  right_inv := by rintro (_ | _ | _ | _) <;> rfl

/-- mirrors proto/network_config.proto:9-17 -/
def respGetWifiStatus : Message RespGetWifiStatus :=
  ((enumField 1 (by decide)).and ((enumField 2 (by decide)).and
    ((Message.oneOf wifiStateMembers).equiv wifiState) (by decide)) (by decide)).equiv
    ⟨fun p => ⟨p.1, p.2.1, p.2.2⟩, fun s => (s.status, s.wifiStaState, s.state), fun _ => rfl, fun _ => rfl⟩

inductive ThreadState
  | threadFailReason (r : Nat)
  | threadAttached (s : ThreadAttachState)
  deriving DecidableEq

structure RespGetThreadStatus where
  status : Nat
  threadState : Nat
  state : Option ThreadState
  deriving DecidableEq

def threadStateMembers : Members (Nat ⊕ ThreadAttachState) :=
  (Members.scalar 10 u32 (by decide)).or (sub 11 threadAttachState (by decide)) (by decide)

def threadState : Option (Nat ⊕ ThreadAttachState) ≃ Option ThreadState where
  toFun := Option.map (Sum.elim .threadFailReason .threadAttached)
  invFun := Option.map fun
    | .threadFailReason r => .inl r
    | .threadAttached s => .inr s
  left_inv := by rintro (_ | _ | _) <;> rfl
  right_inv := by rintro (_ | _ | _) <;> rfl

/-- mirrors proto/network_config.proto:22-29 -/
def respGetThreadStatus : Message RespGetThreadStatus :=
  ((enumField 1 (by decide)).and ((enumField 2 (by decide)).and
    ((Message.oneOf threadStateMembers).equiv threadState) (by decide)) (by decide)).equiv
    ⟨fun p => ⟨p.1, p.2.1, p.2.2⟩, fun s => (s.status, s.threadState, s.state), fun _ => rfl, fun _ => rfl⟩

/-- mirrors proto/network_config.proto:31-36, proto/network_config.options:3-5 -/
def cmdSetWifiConfig : Message CmdSetWifiConfig :=
  ((bytesField 1 33 (by decide) (by decide)).and ((bytesField 2 64 (by decide) (by decide)).and
    ((bytesField 3 6 (by decide) (by decide)).and (int32Field 4 (by decide)) (by decide)) (by decide))
    (by decide)).equiv
    ⟨fun p => ⟨p.1, p.2.1, p.2.2.1, p.2.2.2⟩, fun c => (c.ssid, c.passphrase, c.bssid, c.channel),
     fun _ => rfl, fun _ => rfl⟩

/-- mirrors proto/network_config.proto:38-40, proto/network_config.options:10 -/
def cmdSetThreadConfig : Message Bytes := bytesField 1 254 (by decide) (by decide)

/-- `RespSetWifiConfig`, `RespApplyWifiConfig` and their Thread counterparts.
mirrors proto/network_config.proto:42-44, 46-48, 56-58, 60-62 -/
def statusOnly : Message Nat := enumField 1 (by decide)

inductive ConfigOneof
  | cmdGetWifiStatus
  | respGetWifiStatus (r : RespGetWifiStatus)
  | cmdSetWifiConfig (c : CmdSetWifiConfig)
  | respSetWifiConfig (status : Nat)
  | cmdApplyWifiConfig
  | respApplyWifiConfig (status : Nat)
  | cmdGetThreadStatus
  | respGetThreadStatus (r : RespGetThreadStatus)
  | cmdSetThreadConfig (dataset : Bytes)
  | respSetThreadConfig (status : Nat)
  | cmdApplyThreadConfig
  | respApplyThreadConfig (status : Nat)
  deriving DecidableEq

abbrev WifiConfigSum := Unit ⊕ RespGetWifiStatus ⊕ CmdSetWifiConfig ⊕ Nat ⊕ Unit ⊕ Nat

abbrev ThreadConfigSum := Unit ⊕ RespGetThreadStatus ⊕ Bytes ⊕ Nat ⊕ Unit ⊕ Nat

def wifiConfigMembers : Members WifiConfigSum :=
  (sub 10 .empty (by decide)).or ((sub 11 respGetWifiStatus (by decide)).or
    ((sub 12 cmdSetWifiConfig (by decide)).or ((sub 13 statusOnly (by decide)).or
      ((sub 14 .empty (by decide)).or (sub 15 statusOnly (by decide)) (by decide)) (by decide)) (by decide))
    (by decide)) (by decide)

def threadConfigMembers : Members ThreadConfigSum :=
  (sub 16 .empty (by decide)).or ((sub 17 respGetThreadStatus (by decide)).or
    ((sub 18 cmdSetThreadConfig (by decide)).or ((sub 19 statusOnly (by decide)).or
      ((sub 20 .empty (by decide)).or (sub 21 statusOnly (by decide)) (by decide)) (by decide)) (by decide))
    (by decide)) (by decide)

def ConfigOneof.toSum : ConfigOneof → WifiConfigSum ⊕ ThreadConfigSum
  | .cmdGetWifiStatus => .inl (.inl ())
  | .respGetWifiStatus r => .inl (.inr (.inl r))
  | .cmdSetWifiConfig c => .inl (.inr (.inr (.inl c)))
  | .respSetWifiConfig s => .inl (.inr (.inr (.inr (.inl s))))
  | .cmdApplyWifiConfig => .inl (.inr (.inr (.inr (.inr (.inl ())))))
  | .respApplyWifiConfig s => .inl (.inr (.inr (.inr (.inr (.inr s)))))
  | .cmdGetThreadStatus => .inr (.inl ())
  | .respGetThreadStatus r => .inr (.inr (.inl r))
  | .cmdSetThreadConfig d => .inr (.inr (.inr (.inl d)))
  | .respSetThreadConfig s => .inr (.inr (.inr (.inr (.inl s))))
  | .cmdApplyThreadConfig => .inr (.inr (.inr (.inr (.inr (.inl ())))))
  | .respApplyThreadConfig s => .inr (.inr (.inr (.inr (.inr (.inr s)))))

def ConfigOneof.ofSum : WifiConfigSum ⊕ ThreadConfigSum → ConfigOneof
  | .inl (.inl _) => .cmdGetWifiStatus
  | .inl (.inr (.inl r)) => .respGetWifiStatus r
  | .inl (.inr (.inr (.inl c))) => .cmdSetWifiConfig c
  | .inl (.inr (.inr (.inr (.inl s)))) => .respSetWifiConfig s
  | .inl (.inr (.inr (.inr (.inr (.inl _))))) => .cmdApplyWifiConfig
  | .inl (.inr (.inr (.inr (.inr (.inr s))))) => .respApplyWifiConfig s
  | .inr (.inl _) => .cmdGetThreadStatus
  | .inr (.inr (.inl r)) => .respGetThreadStatus r
  | .inr (.inr (.inr (.inl d))) => .cmdSetThreadConfig d
  | .inr (.inr (.inr (.inr (.inl s)))) => .respSetThreadConfig s
  | .inr (.inr (.inr (.inr (.inr (.inl _))))) => .cmdApplyThreadConfig
  | .inr (.inr (.inr (.inr (.inr (.inr s))))) => .respApplyThreadConfig s

def configOneof : Option (WifiConfigSum ⊕ ThreadConfigSum) ≃ Option ConfigOneof where
  toFun := Option.map ConfigOneof.ofSum
  invFun := Option.map ConfigOneof.toSum
  left_inv := by rintro (_ | (_ | _ | _ | _ | _ | _) | (_ | _ | _ | _ | _ | _)) <;> rfl
  right_inv := by rintro (_ | _ | _ | _ | _ | _ | _ | _ | _ | _ | _ | _ | _) <;> rfl

structure NetworkConfigPayload where
  msg : Nat
  payload : Option ConfigOneof
  deriving DecidableEq

def configMembers : Members (WifiConfigSum ⊕ ThreadConfigSum) :=
  wifiConfigMembers.or threadConfigMembers (by decide)

/-- mirrors proto/network_config.proto:80-96 -/
def networkConfigPayload : Message NetworkConfigPayload :=
  ((enumField 1 (by decide)).and ((Message.oneOf configMembers).equiv configOneof) (by decide)).equiv
    ⟨fun p => ⟨p.1, p.2⟩, fun p => (p.msg, p.payload), fun _ => rfl, fun _ => rfl⟩

/-! ## `proto/network_ctrl.proto` -/

/-- The members of the `oneof`, all of them empty messages. -/
inductive CtrlOneof
  | cmdCtrlWifiReset
  | respCtrlWifiReset
  | cmdCtrlWifiReprov
  | respCtrlWifiReprov
  | cmdCtrlThreadReset
  | respCtrlThreadReset
  | cmdCtrlThreadReprov
  | respCtrlThreadReprov
  deriving DecidableEq

abbrev CtrlSum := (Unit ⊕ Unit ⊕ Unit ⊕ Unit) ⊕ (Unit ⊕ Unit ⊕ Unit ⊕ Unit)

def ctrlMembers : Members CtrlSum :=
  ((sub 11 .empty (by decide)).or ((sub 12 .empty (by decide)).or ((sub 13 .empty (by decide)).or
    (sub 14 .empty (by decide)) (by decide)) (by decide)) (by decide)).or
  ((sub 15 .empty (by decide)).or ((sub 16 .empty (by decide)).or ((sub 17 .empty (by decide)).or
    (sub 18 .empty (by decide)) (by decide)) (by decide)) (by decide)) (by decide)

def CtrlOneof.toSum : CtrlOneof → CtrlSum
  | .cmdCtrlWifiReset => .inl (.inl ())
  | .respCtrlWifiReset => .inl (.inr (.inl ()))
  | .cmdCtrlWifiReprov => .inl (.inr (.inr (.inl ())))
  | .respCtrlWifiReprov => .inl (.inr (.inr (.inr ())))
  | .cmdCtrlThreadReset => .inr (.inl ())
  | .respCtrlThreadReset => .inr (.inr (.inl ()))
  | .cmdCtrlThreadReprov => .inr (.inr (.inr (.inl ())))
  | .respCtrlThreadReprov => .inr (.inr (.inr (.inr ())))

def CtrlOneof.ofSum : CtrlSum → CtrlOneof
  | .inl (.inl _) => .cmdCtrlWifiReset
  | .inl (.inr (.inl _)) => .respCtrlWifiReset
  | .inl (.inr (.inr (.inl _))) => .cmdCtrlWifiReprov
  | .inl (.inr (.inr (.inr _))) => .respCtrlWifiReprov
  | .inr (.inl _) => .cmdCtrlThreadReset
  | .inr (.inr (.inl _)) => .respCtrlThreadReset
  | .inr (.inr (.inr (.inl _))) => .cmdCtrlThreadReprov
  | .inr (.inr (.inr (.inr _))) => .respCtrlThreadReprov

def ctrlOneof : Option CtrlSum ≃ Option CtrlOneof where
  toFun := Option.map CtrlOneof.ofSum
  invFun := Option.map CtrlOneof.toSum
  left_inv := by rintro (_ | (_ | _ | _ | _) | (_ | _ | _ | _)) <;> rfl
  right_inv := by rintro (_ | _ | _ | _ | _ | _ | _ | _ | _) <;> rfl

structure NetworkCtrlPayload where
  msg : Nat
  status : Nat
  payload : Option CtrlOneof
  deriving DecidableEq

/-- mirrors proto/network_ctrl.proto:42-55 -/
def networkCtrlPayload : Message NetworkCtrlPayload :=
  ((enumField 1 (by decide)).and ((enumField 2 (by decide)).and
    ((Message.oneOf ctrlMembers).equiv ctrlOneof) (by decide)) (by decide)).equiv
    ⟨fun p => ⟨p.1, p.2.1, p.2.2⟩, fun p => (p.msg, p.status, p.payload), fun _ => rfl, fun _ => rfl⟩

/-! ## `proto/network_scan.proto` -/

structure CmdScanWifiStart where
  blocking : Bool
  passive : Bool
  groupChannels : Nat
  periodMs : Nat
  deriving DecidableEq

/-- mirrors proto/network_scan.proto:6-11 -/
def cmdScanWifiStart : Message CmdScanWifiStart :=
  ((boolField 1 (by decide)).and ((boolField 2 (by decide)).and
    ((u32Field 3 (by decide)).and (u32Field 4 (by decide)) (by decide)) (by decide)) (by decide)).equiv
    ⟨fun p => ⟨p.1, p.2.1, p.2.2.1, p.2.2.2⟩, fun c => (c.blocking, c.passive, c.groupChannels, c.periodMs),
     fun _ => rfl, fun _ => rfl⟩

structure CmdScanThreadStart where
  blocking : Bool
  channelMask : Nat
  deriving DecidableEq

/-- mirrors proto/network_scan.proto:13-16 -/
def cmdScanThreadStart : Message CmdScanThreadStart :=
  ((boolField 1 (by decide)).and (u32Field 2 (by decide)) (by decide)).equiv
    ⟨fun p => ⟨p.1, p.2⟩, fun c => (c.blocking, c.channelMask), fun _ => rfl, fun _ => rfl⟩

/-- `RespScanWifiStatus`, `RespScanThreadStatus`: scan_finished, result_count.
mirrors proto/network_scan.proto:30-33, 35-38 -/
def respScanStatus : Message (Bool × Nat) := (boolField 1 (by decide)).and (u32Field 2 (by decide)) (by decide)

/-- `CmdScanWifiResult`, `CmdScanThreadResult`: start_index, count.
mirrors proto/network_scan.proto:40-43, 45-48 -/
def cmdScanResult : Message (Nat × Nat) := (u32Field 1 (by decide)).and (u32Field 2 (by decide)) (by decide)

structure WiFiScanResult where
  ssid : Bytes
  channel : Nat
  rssi : Int
  bssid : Bytes
  auth : Nat
  deriving DecidableEq

/-- mirrors proto/network_scan.proto:50-56, proto/network_scan.options:3-4 -/
def wiFiScanResult : Message WiFiScanResult :=
  ((bytesField 1 33 (by decide) (by decide)).and ((u32Field 2 (by decide)).and
    ((int32Field 3 (by decide)).and ((bytesField 4 6 (by decide) (by decide)).and
      (enumField 5 (by decide)) (by decide)) (by decide)) (by decide)) (by decide)).equiv
    ⟨fun p => ⟨p.1, p.2.1, p.2.2.1, p.2.2.2.1, p.2.2.2.2⟩,
     fun r => (r.ssid, r.channel, r.rssi, r.bssid, r.auth), fun _ => rfl, fun _ => rfl⟩

theorem wiFiScanResult_fits {r : WiFiScanResult} : wiFiScanResult.Fits r ↔
    r.ssid.length ≤ 33 ∧ r.channel < 2 ^ 32 ∧ (-2 ^ 31 ≤ r.rssi ∧ r.rssi < 2 ^ 31) ∧
      r.bssid.length ≤ 6 ∧ r.auth < 2 ^ 32 := Iff.rfl

structure ThreadScanResult where
  panId : Nat
  channel : Nat
  rssi : Int
  lqi : Nat
  extAddr : Bytes
  networkName : Bytes
  extPanId : Bytes
  deriving DecidableEq

/-- mirrors proto/network_scan.proto:58-66, proto/network_scan.options:9-11 -/
def threadScanResult : Message ThreadScanResult :=
  ((u32Field 1 (by decide)).and ((u32Field 2 (by decide)).and ((int32Field 3 (by decide)).and
    ((u32Field 4 (by decide)).and ((bytesField 5 8 (by decide) (by decide)).and
      ((stringField 6 17 (by decide) (by decide)).and (bytesField 7 8 (by decide) (by decide)) (by decide))
      (by decide)) (by decide)) (by decide)) (by decide)) (by decide)).equiv
    ⟨fun p => ⟨p.1, p.2.1, p.2.2.1, p.2.2.2.1, p.2.2.2.2.1, p.2.2.2.2.2.1, p.2.2.2.2.2.2⟩,
     fun r => (r.panId, r.channel, r.rssi, r.lqi, r.extAddr, r.networkName, r.extPanId),
     fun _ => rfl, fun _ => rfl⟩

theorem threadScanResult_fits {r : ThreadScanResult} : threadScanResult.Fits r ↔
    r.panId < 2 ^ 32 ∧ r.channel < 2 ^ 32 ∧ (-2 ^ 31 ≤ r.rssi ∧ r.rssi < 2 ^ 31) ∧ r.lqi < 2 ^ 32 ∧
      r.extAddr.length ≤ 8 ∧ (r.networkName.length < 17 ∧ 0 ∉ r.networkName) ∧ r.extPanId.length ≤ 8 :=
  Iff.rfl

/-- mirrors proto/network_scan.proto:68-70, proto/network_scan.options:5 -/
def respScanWifiResult : Message (List WiFiScanResult) :=
  .repeated 1 4 wiFiScanResult (by decide) (by decide)

/-- mirrors proto/network_scan.proto:72-74, proto/network_scan.options:12 -/
def respScanThreadResult : Message (List ThreadScanResult) :=
  .repeated 1 4 threadScanResult (by decide) (by decide)

inductive ScanOneof
  | cmdScanWifiStart (c : CmdScanWifiStart)
  | respScanWifiStart
  | cmdScanWifiStatus
  | respScanWifiStatus (scanFinished : Bool) (resultCount : Nat)
  | cmdScanWifiResult (startIndex count : Nat)
  | respScanWifiResult (entries : List WiFiScanResult)
  | cmdScanThreadStart (c : CmdScanThreadStart)
  | respScanThreadStart
  | cmdScanThreadStatus
  | respScanThreadStatus (scanFinished : Bool) (resultCount : Nat)
  | cmdScanThreadResult (startIndex count : Nat)
  | respScanThreadResult (entries : List ThreadScanResult)
  deriving DecidableEq

abbrev WifiScanSum :=
  CmdScanWifiStart ⊕ Unit ⊕ Unit ⊕ (Bool × Nat) ⊕ (Nat × Nat) ⊕ List WiFiScanResult

abbrev ThreadScanSum :=
  CmdScanThreadStart ⊕ Unit ⊕ Unit ⊕ (Bool × Nat) ⊕ (Nat × Nat) ⊕ List ThreadScanResult

def wifiScanMembers : Members WifiScanSum :=
  (sub 10 cmdScanWifiStart (by decide)).or ((sub 11 .empty (by decide)).or
    ((sub 12 .empty (by decide)).or ((sub 13 respScanStatus (by decide)).or
      ((sub 14 cmdScanResult (by decide)).or (sub 15 respScanWifiResult (by decide)) (by decide))
      (by decide)) (by decide)) (by decide)) (by decide)

def threadScanMembers : Members ThreadScanSum :=
  (sub 16 cmdScanThreadStart (by decide)).or ((sub 17 .empty (by decide)).or
    ((sub 18 .empty (by decide)).or ((sub 19 respScanStatus (by decide)).or
      ((sub 20 cmdScanResult (by decide)).or (sub 21 respScanThreadResult (by decide)) (by decide))
      (by decide)) (by decide)) (by decide)) (by decide)

def ScanOneof.toSum : ScanOneof → WifiScanSum ⊕ ThreadScanSum
  | .cmdScanWifiStart c => .inl (.inl c)
  | .respScanWifiStart => .inl (.inr (.inl ()))
  | .cmdScanWifiStatus => .inl (.inr (.inr (.inl ())))
  | .respScanWifiStatus f n => .inl (.inr (.inr (.inr (.inl (f, n)))))
  | .cmdScanWifiResult i n => .inl (.inr (.inr (.inr (.inr (.inl (i, n))))))
  | .respScanWifiResult es => .inl (.inr (.inr (.inr (.inr (.inr es)))))
  | .cmdScanThreadStart c => .inr (.inl c)
  | .respScanThreadStart => .inr (.inr (.inl ()))
  | .cmdScanThreadStatus => .inr (.inr (.inr (.inl ())))
  | .respScanThreadStatus f n => .inr (.inr (.inr (.inr (.inl (f, n)))))
  | .cmdScanThreadResult i n => .inr (.inr (.inr (.inr (.inr (.inl (i, n))))))
  | .respScanThreadResult es => .inr (.inr (.inr (.inr (.inr (.inr es)))))

def ScanOneof.ofSum : WifiScanSum ⊕ ThreadScanSum → ScanOneof
  | .inl (.inl c) => .cmdScanWifiStart c
  | .inl (.inr (.inl _)) => .respScanWifiStart
  | .inl (.inr (.inr (.inl _))) => .cmdScanWifiStatus
  | .inl (.inr (.inr (.inr (.inl (f, n))))) => .respScanWifiStatus f n
  | .inl (.inr (.inr (.inr (.inr (.inl (i, n)))))) => .cmdScanWifiResult i n
  | .inl (.inr (.inr (.inr (.inr (.inr es))))) => .respScanWifiResult es
  | .inr (.inl c) => .cmdScanThreadStart c
  | .inr (.inr (.inl _)) => .respScanThreadStart
  | .inr (.inr (.inr (.inl _))) => .cmdScanThreadStatus
  | .inr (.inr (.inr (.inr (.inl (f, n))))) => .respScanThreadStatus f n
  | .inr (.inr (.inr (.inr (.inr (.inl (i, n)))))) => .cmdScanThreadResult i n
  | .inr (.inr (.inr (.inr (.inr (.inr es))))) => .respScanThreadResult es

def scanOneof : Option (WifiScanSum ⊕ ThreadScanSum) ≃ Option ScanOneof where
  toFun := Option.map ScanOneof.ofSum
  invFun := Option.map ScanOneof.toSum
  left_inv := by rintro (_ | (_ | _ | _ | _ | _ | _) | (_ | _ | _ | _ | _ | _)) <;> rfl
  right_inv := by rintro (_ | _ | _ | _ | _ | _ | _ | _ | _ | _ | _ | _ | _) <;> rfl

structure NetworkScanPayload where
  msg : Nat
  status : Nat
  payload : Option ScanOneof
  deriving DecidableEq

def scanMembers : Members (WifiScanSum ⊕ ThreadScanSum) := wifiScanMembers.or threadScanMembers (by decide)

/-- mirrors proto/network_scan.proto:92-109 -/
def networkScanPayload : Message NetworkScanPayload :=
  ((enumField 1 (by decide)).and ((enumField 2 (by decide)).and
    ((Message.oneOf scanMembers).equiv scanOneof) (by decide)) (by decide)).equiv
    ⟨fun p => ⟨p.1, p.2.1, p.2.2⟩, fun p => (p.msg, p.status, p.payload), fun _ => rfl, fun _ => rfl⟩

/-! ## Values assigned to the members -/

/-- A value assigned to a `uint32_t`. -/
def toU32 (n : Nat) : Nat := n % 2 ^ 32

/-- A value assigned to an `int32_t`. -/
def toI32 (i : Int) : Int := Int.bmod i (2 ^ 32)

/-- A text written into a `char[n]`: what is in front of the NUL. -/
def toChars (n : Nat) (b : Bytes) : Bytes := (b.takeWhile (· ≠ 0)).take (n - 1)

theorem toU32_lt (n : Nat) : toU32 n < 2 ^ 32 := Nat.mod_lt _ (by decide)

theorem toI32_bounds (i : Int) : -2 ^ 31 ≤ toI32 i ∧ toI32 i < 2 ^ 31 := by
  have hpos : 0 < 2 ^ 32 := by decide
  have h1 := Int.le_bmod (x := i) hpos
  have h2 := Int.bmod_lt (x := i) hpos
  unfold toI32
  omega

theorem toChars_fits {n : Nat} (hn : 0 < n) (b : Bytes) : (toChars n b).length < n ∧ 0 ∉ toChars n b := by
  refine ⟨?_, fun h => ?_⟩
  · have := List.length_take_le (n - 1) (b.takeWhile (· ≠ 0))
    unfold toChars
    omega
  · simpa using List.mem_takeWhile_imp (List.mem_of_mem_take h)

/-! ## Sizes -/

/-- The longest message of a data endpoint, a page of Thread scan results. -/
def MAX_PAYLOAD : Nat := 292

theorem networkConfigPayload_size : networkConfigPayload.size ≤ MAX_PAYLOAD := by decide +kernel

theorem networkCtrlPayload_size : networkCtrlPayload.size ≤ MAX_PAYLOAD := by decide +kernel

theorem networkScanPayload_size : networkScanPayload.size ≤ MAX_PAYLOAD := by decide +kernel

end NetworkProv.Proto
