import NetworkProv.Core.Paging
import NetworkProv.Thread.Config

/-!
# The Thread scan handler (`src/thread_scan_handler.c`)

The functions of the `prov-scan` endpoint of a Thread build over their static
state `ts`. Of the array of entries only the first `count` are ever read; they
are the list `entries`. As in the Wi-Fi handler a blocking start is two steps,
the request and the end of the wait.

Limitations: the lock `ts_lock` makes each access to `ts` atomic; here a whole
call is. `SCAN_MAX_ENTRIES` fits a `uint32_t`.
-/
namespace NetworkProv.Thread
open NetworkProv.Core
open NetworkProv.Wifi (Status)

/-- `RespScanThreadResult.entries` holds so many. -/
abbrev RESULT_PAGE := 4

abbrev OT_EXT_ADDRESS_SIZE := 8
abbrev OT_EXT_PAN_ID_SIZE := 8

/-- `char network_name[OT_NETWORK_NAME_MAX_SIZE + 1]`, with a NUL in it. -/
abbrev NetworkName := { s : CStr // s.chars.length ≤ NETWORK_NAME_MAX }

/-- `strncpy` of all but the last byte, and the NUL after it. -/
def strncpyName (s : CStr) : NetworkName :=
  ⟨⟨s.chars.take NETWORK_NAME_MAX, fun h => s.noNul (List.mem_of_mem_take h)⟩, List.length_take_le _ _⟩

/-- A name that fits is copied as it is. -/
theorem strncpyName_chars {s : CStr} (h : s.chars.length ≤ NETWORK_NAME_MAX) :
    (strncpyName s).val.chars = s.chars := List.take_of_length_le h

@[simp] theorem strncpyName_val (n : NetworkName) : strncpyName n.val = n :=
  Subtype.ext (CStr.ext (strncpyName_chars n.property))

/-- The members of `otActiveScanResult` that are read; `otNetworkName` holds a string of the same size. -/
structure OtActiveScanResult where
  panId : UInt16
  channel : UInt8
  rssi : Int
  lqi : UInt8
  extAddress : Buf OT_EXT_ADDRESS_SIZE
  extendedPanId : Buf OT_EXT_PAN_ID_SIZE
  networkName : NetworkName
  deriving DecidableEq

/-- mirrors src/thread_scan_handler.c:40-48; also the `ThreadScanResult` of a response, whose
members are the same. -/
structure ThreadScanEntry where
  panId : UInt16
  channel : UInt8
  rssi : Int
  lqi : UInt8
  extAddr : Buf OT_EXT_ADDRESS_SIZE
  extPanId : Buf OT_EXT_PAN_ID_SIZE
  networkName : NetworkName
  deriving DecidableEq

/-- mirrors src/thread_scan_handler.c:50-67; `doneSem`: the count of `scan_done_sem`. -/
structure Ts where
  entries : List ThreadScanEntry
  finished : Bool
  inProgress : Bool
  doneSem : Nat
  blocked : Bool
  deriving DecidableEq

def Ts.boot : Ts := ⟨[], false, false, 0, false⟩

/-- `none`: the end of the sweep. `maxEntries`: `CONFIG_NETWORK_PROV_SCAN_MAX_ENTRIES`.
mirrors src/thread_scan_handler.c:72-105 -/
def discoverCb (maxEntries : Nat) (result : Option OtActiveScanResult) (ts : Ts) : Ts :=
  match result with
  | none => { ts with finished := true, inProgress := false, doneSem := 1 }
  | some r =>
    if ts.entries.length < maxEntries then
      { ts with entries := ts.entries ++
          [{ panId := r.panId, channel := r.channel, rssi := r.rssi, lqi := r.lqi,
             extAddr := r.extAddress, extPanId := r.extendedPanId,
             networkName := strncpyName r.networkName.val }] }
    else ts

/-- mirrors src/thread_scan_handler.c:107-111 -/
def networkProvThreadScanInit (ts : Ts) : Ts :=
  { ts with entries := [], finished := false, inProgress := false }

/-- mirrors src/thread_scan_handler.c:113-116 -/
def networkProvThreadScanDeinit (ts : Ts) : Ts := { ts with inProgress := false }

/-- What the calls made during one request answer; `discover`: `otThreadDiscover`
for a channel mask, 0 is `OT_ERROR_NONE`. -/
structure ScanEnv where
  supportedChannelMask : UInt32
  discover : UInt32 → Int
  encodeRet : Int

/-- The channels that are swept: all that are supported for a mask of 0. -/
def ScanEnv.channels (e : ScanEnv) (channelMask : UInt32) : UInt32 :=
  if channelMask ≠ 0 then channelMask else e.supportedChannelMask

/-- mirrors src/thread_scan_handler.c:118-154 -/
def doScanStart (e : ScanEnv) (channelMask : UInt32) (ts : Ts) : Status × Ts :=
  let ts := { ts with entries := [], finished := false, inProgress := true }
  if e.discover (e.channels channelMask) ≠ 0 then
    (.internalError, { ts with inProgress := false, finished := true })
  else (.success, ts)

/-- A decoded request; a start without a payload of its own carries `false` and 0. -/
inductive NetworkScanReq
  | cmdScanThreadStart (blocking : Bool) (channelMask : UInt32)
  | cmdScanThreadStatus
  | cmdScanThreadResult (startIndex count : Nat)
  | other
  deriving DecidableEq

inductive ScanResp
  | respScanThreadStart (status : Status)
  | respScanThreadStatus (scanFinished : Bool) (resultCount : Nat)
  | respScanThreadResult (entries : List ThreadScanEntry)
  deriving DecidableEq

/-- One entry of a result response.
mirrors src/thread_scan_handler.c:233-247 -/
def toResult (e : ThreadScanEntry) : ThreadScanEntry :=
  { e with networkName := strncpyName e.networkName.val }

theorem toResult_eq (e : ThreadScanEntry) : toResult e = e := by
  unfold toResult
  rw [strncpyName_val]

/-- The answer, or `none` for a start that waits for the end of the sweep.
mirrors src/thread_scan_handler.c:162-259 -/
def networkProvThreadScanHandler (e : ScanEnv) (req : Option NetworkScanReq) (ts : Ts) :
    Option (Int × Option ScanResp) × Ts :=
  match req with
  | none => (some (-EINVAL, none), ts)
  | some (.cmdScanThreadStart blocking channelMask) =>
    match doScanStart e channelMask { ts with doneSem := 0 } with
    | (s, ts) =>
      if s = .success ∧ blocking then (none, { ts with blocked := true })
      else (some (pbEncodeMsg e.encodeRet (.respScanThreadStart s)), ts)
  | some .cmdScanThreadStatus =>
    (some (pbEncodeMsg e.encodeRet (.respScanThreadStatus ts.finished ts.entries.length)), ts)
  | some (.cmdScanThreadResult startIndex count) =>
    (some (pbEncodeMsg e.encodeRet
      (.respScanThreadResult ((page RESULT_PAGE ts.entries startIndex count).map toResult))), ts)
  | some .other => (some (-ENOTSUP, none), ts)

/-- The end of the wait of a blocking start: the semaphore, or the timeout.
mirrors src/thread_scan_handler.c:197-207 -/
def scanWaitEnds (timedOut : Bool) (encodeRet : Int) (ts : Ts) :
    Option ((Int × Option ScanResp) × Ts) :=
  if !ts.blocked then none
  else if timedOut then
    some (pbEncodeMsg encodeRet (.respScanThreadStart .internalError), { ts with blocked := false })
  else if ts.doneSem = 0 then none
  else
    some (pbEncodeMsg encodeRet (.respScanThreadStart .success),
      { ts with doneSem := ts.doneSem - 1, blocked := false })

end NetworkProv.Thread
