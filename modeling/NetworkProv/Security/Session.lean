import NetworkProv.Basic

/-!
# `SessionData`, the `prov-session` messages

The messages of `proto/session.proto`, `proto/sec0.proto` and
`proto/sec1.proto`. Enumerations are open in proto3, so they are numbers here.
nanopb and the code it generates are not part of the repository: decoding and
encoding are parameters (`Nanopb`), and so is what C reads from a union member
other than the one that was set.
-/
namespace NetworkProv.Session

/-! `proto/constants.proto`, `proto/session.proto`, `proto/sec1.proto` -/

def statusSuccess : Nat := 0

def secScheme1 : Nat := 1

def sessionCommand0 : Nat := 0
def sessionResponse0 : Nat := 1
def sessionCommand1 : Nat := 2
def sessionResponse1 : Nat := 3

inductive Sec0Oneof where
  | unset
  | sc
  | sr (status : Nat)
  deriving DecidableEq

structure Sec0Payload where
  msg : Nat
  payload : Sec0Oneof
  deriving DecidableEq

inductive Sec1Oneof where
  | unset
  | sc0 (clientPubkey : Bytes)
  | sr0 (status : Nat) (devicePubkey deviceRandom : Bytes)
  | sc1 (clientVerifyData : Bytes)
  | sr1 (status : Nat) (deviceVerifyData : Bytes)
  deriving DecidableEq

structure Sec1Payload where
  msg : Nat
  payload : Sec1Oneof
  deriving DecidableEq

inductive SessionOneof where
  | unset
  | sec0 (p : Sec0Payload)
  | sec1 (p : Sec1Payload)
  deriving DecidableEq

structure SessionData where
  secVer : Nat
  proto : SessionOneof
  deriving DecidableEq

/-- nanopb on `SessionData_fields`. The `pun` functions are what reading a
union member yields when another one (or none) is set. -/
structure Nanopb where
  decode : Bytes → Option SessionData
  encode : SessionData → Option Bytes
  punSc0 : Sec1Oneof → Bytes
  punSc1 : Sec1Oneof → Bytes
  punSr0 : Sec1Oneof → Nat × Bytes × Bytes
  punSr1 : Sec1Oneof → Nat × Bytes
  punSec1 : SessionOneof → Sec1Payload

/-- `payload.sc0.client_pubkey`. -/
def Nanopb.sc0 (pb : Nanopb) : Sec1Oneof → Bytes
  | .sc0 pk => pk
  | o => pb.punSc0 o

/-- `payload.sc1.client_verify_data`. -/
def Nanopb.sc1 (pb : Nanopb) : Sec1Oneof → Bytes
  | .sc1 v => v
  | o => pb.punSc1 o

/-- `payload.sr0`: status, device_pubkey, device_random. -/
def Nanopb.sr0 (pb : Nanopb) : Sec1Oneof → Nat × Bytes × Bytes
  | .sr0 st pk rnd => (st, pk, rnd)
  | o => pb.punSr0 o

/-- `payload.sr1`: status, device_verify_data. -/
def Nanopb.sr1 (pb : Nanopb) : Sec1Oneof → Nat × Bytes
  | .sr1 st v => (st, v)
  | o => pb.punSr1 o

/-- `proto.sec1`. -/
def Nanopb.sec1 (pb : Nanopb) : SessionOneof → Sec1Payload
  | .sec1 p => p
  | o => pb.punSec1 o

/-- mirrors src/pb_util.c:13-38; `alloc`: the buffer was allocated. -/
def networkProvPbEncode (pb : Nanopb) (alloc : Bool) (m : SessionData) : Except Int Bytes :=
  match pb.encode m with
  | none => .error (-EINVAL)
  | some b => if alloc then .ok b else .error (-ENOMEM)

/-! ## The four messages of the security 1 handshake -/

def cmd0 (clientPubkey : Bytes) : SessionData :=
  ⟨secScheme1, .sec1 ⟨sessionCommand0, .sc0 clientPubkey⟩⟩

def resp0 (devicePubkey deviceRandom : Bytes) : SessionData :=
  ⟨secScheme1, .sec1 ⟨sessionResponse0, .sr0 statusSuccess devicePubkey deviceRandom⟩⟩

def cmd1 (clientVerifyData : Bytes) : SessionData :=
  ⟨secScheme1, .sec1 ⟨sessionCommand1, .sc1 clientVerifyData⟩⟩

def resp1 (deviceVerifyData : Bytes) : SessionData :=
  ⟨secScheme1, .sec1 ⟨sessionResponse1, .sr1 statusSuccess deviceVerifyData⟩⟩

end NetworkProv.Session
