import NetworkProv.Scan.Handler
import NetworkProv.Thread.Scan

/-!
# The Thread scan handler in runs

`threadScan_lawful`: the functions of `src/thread_scan_handler.c` do to the
entries what a cache filled by sweeps does, and pages are read from it.
-/
namespace NetworkProv.Thread
open NetworkProv.Core NetworkProv.Scan

/-- The entry that a result becomes. -/
def entryOf (r : OtActiveScanResult) : ThreadScanEntry where
  panId := r.panId
  channel := r.channel
  rssi := r.rssi
  lqi := r.lqi
  extAddr := r.extAddress
  extPanId := r.extendedPanId
  networkName := strncpyName r.networkName.val

/-- A start goes to OpenThread with the channels of its mask. -/
def scanDrives (e : ScanEnv) : Option NetworkScanReq → SweepOp ThreadScanEntry
  | some (.cmdScanThreadStart _ channelMask) =>
    if e.discover (e.channels channelMask) ≠ 0 then .refuse else .accept
  | _ => .look

/-- What a client learns from a response: the status with the number of results, or a page. -/
def scanSeen : Option NetworkScanReq → ScanResp → Option (Seen ThreadScanEntry)
  | _, .respScanThreadStatus finished count => some (.status finished count)
  | some (.cmdScanThreadResult start want), .respScanThreadResult entries => some (.page start want entries)
  | _, _ => none

def isScanStart : Option NetworkScanReq → Bool
  | some (.cmdScanThreadStart _ _) => true
  | _ => false

/-- The handler, by its functions and by what they stand for. -/
def threadScan (maxEntries : Nat) :
    ScanHandler Ts ScanEnv NetworkScanReq ScanResp OtActiveScanResult ThreadScanEntry where
  handle := networkProvThreadScanHandler
  waitEnds := scanWaitEnds
  onResult r := discoverCb maxEntries (some r)
  onDone := discoverCb maxEntries none
  entries := Ts.entries
  finished := Ts.finished
  blocked := Ts.blocked
  isStart := isScanStart
  drives := scanDrives
  entryOf := entryOf
  seen := scanSeen
  resultReq := .cmdScanThreadResult
  encodes e := e.encodeRet = 0

/-- A result is copied field by field. -/
theorem map_toResult (l : List ThreadScanEntry) : l.map toResult = l := by
  induction l with
  | nil => rfl
  | cons e l ih => rw [List.map_cons, toResult_eq, ih]

/-- A start does to the cache what the answer of `otThreadDiscover` makes it. -/
theorem thread_handle {maxEntries : Nat} (e : ScanEnv) (req : Option NetworkScanReq) (s : ScanWorld Ts) :
    Sweep.step maxEntries ((threadScan maxEntries).cache s) (scanDrives e req) =
      some ((threadScan maxEntries).cache ⟨(networkProvThreadScanHandler e req s.sc).2,
        (threadScan maxEntries).runningAfter e req s.running⟩, ()) := by
  match req with
  | none => rfl
  | some .cmdScanThreadStatus => rfl
  | some (.cmdScanThreadResult _ _) => rfl
  | some .other => rfl
  | some (.cmdScanThreadStart blocking channelMask) =>
    unfold networkProvThreadScanHandler doScanStart ScanHandler.runningAfter ScanHandler.cache threadScan
      scanDrives
    by_cases hr : e.discover (e.channels channelMask) = 0
    · cases blocking <;> simp [Sweep.step, hr]
    · simp [Sweep.step, hr]

/-- The end of a wait leaves the entries to the sweep. -/
theorem thread_waitEnds {timedOut : Bool} {encodeRet : Int} {ts : Ts}
    {r : (Int × Option ScanResp) × Ts} (h : scanWaitEnds timedOut encodeRet ts = some r) :
    r.2.entries = ts.entries ∧ r.2.finished = ts.finished := by
  unfold scanWaitEnds at h
  split at h
  · cases h
  split at h
  · cases h; exact ⟨rfl, rfl⟩
  split at h
  · cases h
  · cases h; exact ⟨rfl, rfl⟩

/-- What is shown is what the cache holds, and a request that shows something starts nothing. -/
theorem thread_shows {maxEntries : Nat} {e : ScanEnv} {req : Option NetworkScanReq} {s : ScanWorld Ts}
    {n : Int} {resp : ScanResp} {x : Seen ThreadScanEntry}
    (h : (networkProvThreadScanHandler e req s.sc).1 = some (n, some resp)) (hx : scanSeen req resp = some x) :
    View.Shows RESULT_PAGE ((threadScan maxEntries).cache s) x ∧ scanDrives e req = .look := by
  match req with
  | none => cases h
  | some .other => cases h
  | some .cmdScanThreadStatus =>
    rw [pbEncodeMsg_some (Option.some.inj h)] at hx
    cases hx
    exact ⟨⟨rfl, rfl⟩, rfl⟩
  | some (.cmdScanThreadResult start want) =>
    rw [pbEncodeMsg_some (Option.some.inj h)] at hx
    cases hx
    exact ⟨map_toResult _, rfl⟩
  | some (.cmdScanThreadStart blocking channelMask) =>
    unfold networkProvThreadScanHandler at h
    dsimp only at h
    split at h
    · cases h
    · rw [pbEncodeMsg_some (Option.some.inj h)] at hx
      cases hx

/-- **The handler is a cache of sweeps**: it keeps to the rules of a `ScanHandler`, with room for
`maxEntries` and pages of `RESULT_PAGE`. -/
theorem threadScan_lawful (maxEntries : Nat) : (threadScan maxEntries).Lawful maxEntries RESULT_PAGE where
  handle := thread_handle
  waitEnds _ _ _ _ h := thread_waitEnds h
  onResult r ts := by
    change (discoverCb maxEntries (some r) ts).entries = _ ∧ (discoverCb maxEntries (some r) ts).finished = _
    by_cases hroom : ts.entries.length < maxEntries <;>
      simp [threadScan, discoverCb, entryOf, hroom, Nat.not_le.mpr, Nat.not_lt.mp]
  onDone _ := ⟨rfl, rfl⟩
  shows _ _ _ _ _ _ h hx := thread_shows h hx
  items e req x := by
    change scanDrives e req ≠ .item x
    unfold scanDrives
    split
    · split <;> simp
    · simp
  resultReq start want resp start' want' p h := by
    cases resp <;> cases h
    exact ⟨rfl, rfl⟩
  looks _ _ _ := rfl
  answers e start want ts h := by
    have hret : e.encodeRet = 0 := by simpa [threadScan] using h
    simp [ScanHandler.ask, threadScan, networkProvThreadScanHandler, pbEncodeMsg, hret, scanSeen]

end NetworkProv.Thread
