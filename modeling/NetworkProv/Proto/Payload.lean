import NetworkProv.Proto.Messages

/-!
# nanopb on the messages of the data endpoints

What `pb_decode` leaves of a request for its handler to read, and how an answer goes
out through `network_prov_pb_encode` (`src/pb_util.c`). nanopb and the client's own
protobuf library are a parameter, `PayloadPb`. The members of a union share their
memory, so what a handler reads of a member that is not set is whatever the bytes of
the request have left there, and is left open.

* `PayloadCodec`, `EmptyRead`: what is relied on.
* `Sound.encoded`: an answer that fits reaches the client, as short as `MAX_PAYLOAD`.
* `protoPayload_codec`, `protoPayload_empty`: a proto3 codec is one such.
-/
namespace NetworkProv.Proto
open Core.Protobuf
open Wifi (CmdSetWifiConfig)

/-- A message of one of the data endpoints. -/
inductive Payload
  | config (p : NetworkConfigPayload)
  | ctrl (p : NetworkCtrlPayload)
  | scan (p : NetworkScanPayload)
  deriving DecidableEq

/-- It keeps to the bounds of the `.options` files and to the C types. -/
def Payload.Fits : Payload → Prop
  | .config p => networkConfigPayload.Fits p
  | .ctrl p => networkCtrlPayload.Fits p
  | .scan p => networkScanPayload.Fits p

theorem fits_config {msg : Nat} {o : Option ConfigOneof} (hm : msg < 2 ^ 32)
    (ho : (Message.oneOf configMembers).Fits (configOneof.symm o)) : networkConfigPayload.Fits ⟨msg, o⟩ :=
  ⟨hm, ho⟩

theorem fits_ctrl {msg status : Nat} {o : Option CtrlOneof} (hm : msg < 2 ^ 32) (hs : status < 2 ^ 32)
    (ho : (Message.oneOf ctrlMembers).Fits (ctrlOneof.symm o)) :
    networkCtrlPayload.Fits ⟨msg, status, o⟩ := ⟨hm, hs, ho⟩

theorem fits_scan {msg status : Nat} {o : Option ScanOneof} (hm : msg < 2 ^ 32) (hs : status < 2 ^ 32)
    (ho : (Message.oneOf scanMembers).Fits (scanOneof.symm o)) :
    networkScanPayload.Fits ⟨msg, status, o⟩ := ⟨hm, hs, ho⟩

/-! ## nanopb -/

/-- What the handlers read of a decoded `NetworkConfigPayload`: its type, and the
memory of the union as one member and as another. -/
structure ConfigRead where
  msg : Nat
  cmdSetWifiConfig : CmdSetWifiConfig
  cmdSetThreadConfig : Bytes

/-- The same of a `NetworkScanPayload`; here the starts are read by `which_payload`. -/
structure ScanRead where
  msg : Nat
  whichPayload : Nat
  cmdScanWifiStart : CmdScanWifiStart
  cmdScanWifiResult : Nat × Nat
  cmdScanThreadStart : CmdScanThreadStart
  cmdScanThreadResult : Nat × Nat

/-- `pb_decode` and `pb_encode` on the messages of the data endpoints, and what a
client makes of an answer. Of a `NetworkCtrlPayload` the handlers read the type. -/
structure PayloadPb where
  config : Bytes → Option ConfigRead
  ctrl : Bytes → Option Nat
  scan : Bytes → Option ScanRead
  encode : Payload → Option Bytes
  readConfig : Bytes → Option NetworkConfigPayload
  readCtrl : Bytes → Option NetworkCtrlPayload
  readScan : Bytes → Option NetworkScanPayload

/-- A client that expects a message of its endpoint reads the bytes as `p`. -/
def PayloadPb.ReadFrom (pb : PayloadPb) (b : Bytes) : Payload → Prop
  | .config p => pb.readConfig b = some p
  | .ctrl p => pb.readCtrl b = some p
  | .scan p => pb.readScan b = some p

/-- What the answers need of nanopb: a message that fits is encoded, in no more bytes
than the generator allows for the longest, and survives the way to the client. -/
structure PayloadCodec (pb : PayloadPb) : Prop where
  answer : ∀ p : Payload, p.Fits → ∃ b, pb.encode p = some b ∧ b.length ≤ MAX_PAYLOAD ∧ pb.ReadFrom b p

/-- No bytes are a message with nothing set: it keeps what `_init_default` has. -/
structure EmptyRead (pb : PayloadPb) : Prop where
  config : ∃ r, pb.config [] = some r ∧ r.msg = 0
  ctrl : pb.ctrl [] = some 0
  scan : ∃ r, pb.scan [] = some r ∧ r.msg = 0 ∧ r.whichPayload = 0

/-! ## What a handler returns -/

/-- A response as bytes; `NULL` reads as no bytes.
mirrors src/pb_util.c:13-38 -/
def encoded (pb : PayloadPb) : Int × Option Payload → Int × Bytes
  | (ret, none) => (ret, [])
  | (ret, some p) =>
    match pb.encode p with
    | none => (-EINVAL, [])
    | some b => (ret, b)

/-- An answer is an error or a message, never both; the message fits. -/
structure Sound (r : Int × Option Payload) : Prop where
  error : r.2 = none → r.1 ≠ 0
  message : ∀ p, r.2 = some p → r.1 = 0 ∧ p.Fits

theorem Sound.failed {ret : Int} (h : ret ≠ 0) : Sound (ret, none) :=
  ⟨fun _ => h, fun _ hp => (by cases hp)⟩

theorem Sound.sent {p : Payload} (h : p.Fits) : Sound (0, some p) :=
  ⟨fun hn => (by cases hn), fun _ hp => (by cases hp; exact ⟨rfl, h⟩)⟩

/-- `out` is an answer as bytes: an error has none, and a success has the
encoding of its message, which is short and is read as that message. -/
structure AnswerBytes (pb : PayloadPb) (r : Int × Option Payload) (out : Bytes) : Prop where
  error : r.2 = none → r.1 ≠ 0 ∧ out = []
  message : ∀ p, r.2 = some p →
    r.1 = 0 ∧ pb.encode p = some out ∧ out.length ≤ MAX_PAYLOAD ∧ pb.ReadFrom out p

theorem Sound.encoded {pb : PayloadPb} (hpb : PayloadCodec pb) {r : Int × Option Payload} (h : Sound r) :
    ∃ out, encoded pb r = (r.1, out) ∧ AnswerBytes pb r out := by
  obtain ⟨ret, p⟩ := r
  cases p with
  | none => exact ⟨[], rfl, fun _ => ⟨h.error rfl, rfl⟩, fun p hp => by cases hp⟩
  | some p =>
    obtain ⟨h0, hf⟩ := h.message p rfl
    obtain ⟨b, hb, hlen, hread⟩ := hpb.answer p hf
    refine ⟨b, by simp only [Proto.encoded, hb], fun hn => (by cases hn), fun p' hp' => ?_⟩
    cases hp'
    exact ⟨h0, hb, hlen, hread⟩

/-! ## A proto3 codec in nanopb's place -/

/-- `which_payload`.
mirrors proto/network_scan.proto:95-108 -/
def ScanOneof.tag : ScanOneof → Nat
  | .cmdScanWifiStart _ => 10
  | .respScanWifiStart => 11
  | .cmdScanWifiStatus => 12
  | .respScanWifiStatus _ _ => 13
  | .cmdScanWifiResult _ _ => 14
  | .respScanWifiResult _ => 15
  | .cmdScanThreadStart _ => 16
  | .respScanThreadStart => 17
  | .cmdScanThreadStatus => 18
  | .respScanThreadStatus _ _ => 19
  | .cmdScanThreadResult _ _ => 20
  | .respScanThreadResult _ => 21

/-- A member that is not set reads as zero. -/
def ConfigRead.ofPayload (p : NetworkConfigPayload) : ConfigRead where
  msg := p.msg
  cmdSetWifiConfig :=
    match p.payload with
    | some (.cmdSetWifiConfig c) => c
    | _ => ⟨[], [], [], 0⟩
  cmdSetThreadConfig :=
    match p.payload with
    | some (.cmdSetThreadConfig d) => d
    | _ => []

def ScanRead.ofPayload (p : NetworkScanPayload) : ScanRead where
  msg := p.msg
  whichPayload := (p.payload.map ScanOneof.tag).getD 0
  cmdScanWifiStart :=
    match p.payload with
    | some (.cmdScanWifiStart c) => c
    | _ => ⟨false, false, 0, 0⟩
  cmdScanWifiResult :=
    match p.payload with
    | some (.cmdScanWifiResult startIndex count) => (startIndex, count)
    | _ => (0, 0)
  cmdScanThreadStart :=
    match p.payload with
    | some (.cmdScanThreadStart c) => c
    | _ => ⟨false, 0⟩
  cmdScanThreadResult :=
    match p.payload with
    | some (.cmdScanThreadResult startIndex count) => (startIndex, count)
    | _ => (0, 0)

def protoPayload : PayloadPb where
  config b := (networkConfigPayload.decode b).map ConfigRead.ofPayload
  ctrl b := (networkCtrlPayload.decode b).map NetworkCtrlPayload.msg
  scan b := (networkScanPayload.decode b).map ScanRead.ofPayload
  encode
    | .config p => networkConfigPayload.encode p
    | .ctrl p => networkCtrlPayload.encode p
    | .scan p => networkScanPayload.encode p
  readConfig := networkConfigPayload.decode
  readCtrl := networkCtrlPayload.decode
  readScan := networkScanPayload.decode

theorem protoPayload_codec : PayloadCodec protoPayload where
  answer p h := by
    cases p with
    | config p =>
      obtain ⟨b, hb⟩ := networkConfigPayload.encode_isSome h
      exact ⟨b, hb, (networkConfigPayload.encode_length hb).trans networkConfigPayload_size,
        networkConfigPayload.decode_encode hb⟩
    | ctrl p =>
      obtain ⟨b, hb⟩ := networkCtrlPayload.encode_isSome h
      exact ⟨b, hb, (networkCtrlPayload.encode_length hb).trans networkCtrlPayload_size,
        networkCtrlPayload.decode_encode hb⟩
    | scan p =>
      obtain ⟨b, hb⟩ := networkScanPayload.encode_isSome h
      exact ⟨b, hb, (networkScanPayload.encode_length hb).trans networkScanPayload_size,
        networkScanPayload.decode_encode hb⟩

theorem protoPayload_empty : EmptyRead protoPayload where
  config := by
    have h : networkConfigPayload.decode [] = some ⟨0, none⟩ := by decide +kernel
    exact ⟨_, congrArg (Option.map ConfigRead.ofPayload) h, rfl⟩
  ctrl := by
    have h : networkCtrlPayload.decode [] = some ⟨0, 0, none⟩ := by decide +kernel
    exact congrArg (Option.map NetworkCtrlPayload.msg) h
  scan := by
    have h : networkScanPayload.decode [] = some ⟨0, 0, none⟩ := by decide +kernel
    exact ⟨_, congrArg (Option.map ScanRead.ofPayload) h, rfl, rfl⟩

end NetworkProv.Proto
