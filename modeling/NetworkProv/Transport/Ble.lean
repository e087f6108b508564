import NetworkProv.Protocomm

/-!
# The BLE transport (`src/protocomm_ble.c`)

Each endpoint is a characteristic: a write is a request, and what a read
returns is the response to the last one. The attribute table, advertising and
the connection callbacks are left out.
-/
namespace NetworkProv.Ble
open Protocomm

variable {σ C W : Type}

/-- `BT_GATT_ERR(BT_ATT_ERR_...)` -/
def INVALID_OFFSET : Int := -0x07
def NOT_SUPPORTED : Int := -0x06
def UNLIKELY : Int := -0x0e
def INSUFFICIENT_RESOURCES : Int := -0x11

/-- mirrors src/protocomm_ble.c:103-107; `resp` is its first `resp_len` bytes. -/
structure EpIo where
  name : CStr
  resp : Bytes
  deriving DecidableEq

/-- The arguments of a write, with the answers of what it calls; `prepare` is the flag of a
queued write. -/
structure BleWrite where
  buf : Bytes
  offset : Nat
  prepare : Bool
  req : ReqEnv

/-- mirrors src/protocomm_ble.c:156-162 -/
def readEp (io : EpIo) (len offset : Nat) : Except Int Bytes :=
  if offset > io.resp.length then .error INVALID_OFFSET else .ok ((io.resp.drop offset).take len)

/-- `maxResp`: `CONFIG_NETWORK_PROV_BLE_MAX_RESP_LEN`.
mirrors src/protocomm_ble.c:164-207 -/
def writeEp (maxResp : Nat) (a : BleWrite) (io : EpIo) (s : Session σ C W) : Int × EpIo × Session σ C W :=
  if a.prepare then (a.buf.length, io, s)
  else if a.offset ≠ 0 then (NOT_SUPPORTED, io, s)
  else
    match protocommReqHandle a.req s (some io.name) a.buf with
    | (s, r) =>
      if r.ret ≠ 0 then (UNLIKELY, { io with resp := [] }, s)
      else if r.out.length > maxResp then (INSUFFICIENT_RESOURCES, { io with resp := [] }, s)
      else (a.buf.length, { io with resp := r.out }, s)

/-- A write and, if it succeeds, a read of all there is: what the client gets. -/
def transact (maxResp : Nat) (a : BleWrite) (io : EpIo) (s : Session σ C W) : Session σ C W × Bytes :=
  match writeEp maxResp a io s with
  | (ret, io, s) =>
    if ret < 0 then (s, [])
    else match readEp io maxResp 0 with
      | .error _ => (s, [])
      | .ok resp => (s, resp)

theorem transact_taken {maxResp : Nat} {a : BleWrite} (io : EpIo) (s : Session σ C W) (hp : a.prepare = false)
    (ho : a.offset = 0) : transact maxResp a io s =
      ((protocommReqHandle a.req s (some io.name) a.buf).1,
        (protocommReqHandle a.req s (some io.name) a.buf).2.delivered maxResp) := by
  unfold transact writeEp Reply.delivered
  rw [if_neg (by simp [hp]), if_neg (by simp [ho])]
  generalize protocommReqHandle a.req s (some io.name) a.buf = q
  obtain ⟨s', r⟩ := q
  by_cases hr : r.ret = 0
  · by_cases hl : r.out.length > maxResp
    · simp [hr, hl, INSUFFICIENT_RESOURCES]
    · have hlen : ¬ ((a.buf.length : Int) < 0) := by omega
      simp only [hr, ne_eq, not_true_eq_false, if_false, hl, hlen, readEp, false_or]
      rw [if_neg (Nat.not_lt_zero _), List.drop_zero, List.take_of_length_le (Nat.le_of_not_lt hl)]
  · simp [hr, UNLIKELY]

/-- A write at an offset is refused. -/
theorem transact_refused {maxResp : Nat} {a : BleWrite} (io : EpIo) (s : Session σ C W)
    (hp : a.prepare = false) (ho : a.offset ≠ 0) : transact maxResp a io s = (s, []) := by
  unfold transact writeEp
  rw [if_neg (by simp [hp]), if_pos ho]
  exact if_pos (by decide)

end NetworkProv.Ble
