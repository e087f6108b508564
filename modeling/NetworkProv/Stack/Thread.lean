import NetworkProv.Stack.Serve
import NetworkProv.Thread.Wire

/-!
# The stack of a Thread device

The three handlers of a Thread build as a `Kind`, over the machine of
`Thread.Net`: what the bytes of a request say is read by nanopb (`pb`), then the
handler runs on the request.

* `threadKind_lawful`: it is one, for every `pb` that is a codec of the messages.
-/
namespace NetworkProv.Stack.OnThread
open NetworkProv.Core Protocomm Endpoints Thread Proto

/-- What the calls made during a request answer. -/
structure NetCalls where
  ot : OtEnv
  scan : ScanEnv

/-- A request, by the handler it is for; `none`: its bytes do not decode. -/
inductive NetReq
  | config (r : Option NetworkConfigReq)
  | ctrl (r : Option NetworkCtrlReq)
  | scan (r : Option NetworkScanReq)
  deriving DecidableEq

/-- What the bytes of a request to `ep` say. -/
def netDecode (pb : PayloadPb) (ep : CStr) (inbuf : Bytes) : NetReq :=
  if ep = EP_SCAN then .scan (decodeScan pb inbuf)
  else if ep = EP_CONFIG then .config (decodeConfig pb inbuf)
  else .ctrl (decodeCtrl pb inbuf)

/-- What a call leaves. -/
def finish (net : Net) (s : CallState) : Net := { net with w := ⟨s.tc, s.active⟩ }

/-- The handler, and what it leaves; no answer yet from a scan start that waits. -/
def netHandle (e : NetCalls) (q : NetReq) (net : Net) : Option (Int × Option NetResp) × Net :=
  match q with
  | .config req =>
    match networkProvThreadConfigHandler e.ot req net.w.begin with
    | (r, s) => (some (r.1, r.2.map .config), finish net s)
  | .ctrl req =>
    match networkProvThreadCtrlHandler e.ot req net.w.begin with
    | (r, s) => (some (r.1, r.2.map .config), finish net s)
  | .scan req =>
    match networkProvThreadScanHandler e.scan req net.ts with
    | (o, ts) => (o.map fun r => (r.1, r.2.map .scan), scanned e.scan req net ts)

/-- mirrors src/thread_scan_handler.c:197-207 -/
def netWaitEnds (timedOut : Bool) (e : NetCalls) (net : Net) : Option ((Int × Option NetResp) × Net) :=
  (scanWaitEnds timedOut e.scan.encodeRet net.ts).map fun r =>
    ((r.1.1, r.1.2.map .scan), { net with ts := r.2 })

/-- The wait runs out: the answer is an internal error, and the next request can be served. -/
def netTimeOut (e : NetCalls) (net : Net) : (Int × Option NetResp) × Net :=
  match pbEncodeMsg e.scan.encodeRet (.respScanThreadStart .internalError) with
  | r => ((r.1, r.2.map .scan), { net with ts := { net.ts with blocked := false } })

/-- The message of a response. -/
def netMessage : NetResp → Payload
  | .config r => r.wire
  | .scan r => .scan r.wire

/-- The request as an input of the machine, -/
def netRequest (e : NetCalls) : NetReq → NetInput
  | .config r => .thread (.config e.ot r)
  | .ctrl r => .thread (.ctrl e.ot r)
  | .scan r => .scan e.scan r

/-- and the request that an input is. -/
def netAsked : NetInput → Option NetReq
  | .thread (.config _ r) => some (.config r)
  | .thread (.ctrl _ r) => some (.ctrl r)
  | .scan _ r => some (.scan r)
  | _ => none

def netIsWaitEnd : NetInput → Bool
  | .scanWaitEnds _ _ => true
  | _ => false

/-- The handlers as the transports see them. A request is served while they are set up and no scan start
waits. -/
def threadKind (maxEntries : Nat) (pb : PayloadPb) : Kind Net NetInput NetOutput NetCalls NetReq NetResp where
  machine := inputMachine maxEntries
  pb := pb
  decode := netDecode pb
  handle := netHandle
  waitEnds := netWaitEnds
  timeOut := netTimeOut
  message := netMessage
  request := netRequest
  waitEnd t e := .scanWaitEnds t e.scan.encodeRet
  asked := netAsked
  isWaitEnd := netIsWaitEnd
  answer o := (o.ret, o.resp)
  Started net := net.w.tc.cbRegistered = true
  waiting net := net.ts.blocked

/-- A start sets the handlers up. -/
theorem started_threadKind (maxEntries : Nat) (pb : PayloadPb) (net : Net) :
    (threadKind maxEntries pb).Started net.started := rfl

/-! ## The scan handler -/

/-- It is the handler that waits, not the start of the scan. -/
theorem doScanStart_blocked (e : ScanEnv) (channelMask : UInt32) (ts : Ts) :
    (doScanStart e channelMask ts).2.blocked = ts.blocked := by
  unfold doScanStart
  dsimp only
  split <;> rfl

/-- A request that is answered leaves no one waiting who did not wait before. -/
theorem scanHandler_blocked (e : ScanEnv) (req : Option NetworkScanReq) {ts : Ts} (hf : ts.blocked = false) :
    (networkProvThreadScanHandler e req ts).2.blocked = (networkProvThreadScanHandler e req ts).1.isNone := by
  cases req with
  | none => exact hf
  | some q =>
    cases q with
    | cmdScanThreadStart blocking channelMask =>
      have hb := doScanStart_blocked e channelMask { ts with doneSem := 0 }
      unfold networkProvThreadScanHandler
      dsimp only
      split
      · rfl
      · exact hb.trans hf
    | cmdScanThreadStatus => exact hf
    | cmdScanThreadResult startIndex count => exact hf
    | other => exact hf

/-- However a wait ends, the next request can be served. -/
theorem waitEnds_free {timedOut : Bool} {encodeRet : Int} {ts ts' : Ts} {r : Int × Option ScanResp}
    (h : scanWaitEnds timedOut encodeRet ts = some (r, ts')) : ts'.blocked = false := by
  unfold scanWaitEnds at h
  split at h
  · cases h
  split at h
  · cases h; rfl
  split at h
  · cases h
  · cases h; rfl

/-! ## The machine -/

/-- A request to the handlers of `World`. -/
theorem thread_handle (maxEntries : Nat) {net : Net} {i : Input} {r : Int × Option Resp} {s : CallState}
    (hs : net.w.tc.cbRegistered = true) (hf : net.ts.blocked = false)
    (hw : Thread.step net.w i = World.answer r s) (hi : isSetup i = false) :
    netInput maxEntries net (.thread i) = some (finish net s, ⟨r.1, r.2.map .config, s.events⟩) ∧
      (finish net s).w.tc.cbRegistered = true := by
  have hbusy : net.busy i = false := by
    unfold Net.busy
    split
    · exact hf
    · exact hf
    · rfl
  exact ⟨by simp [netInput, hi, hbusy, hw, World.answer, finish], (step_registered hw hi).trans hs⟩

/-- A request to the scan handler, as the machine takes it. -/
theorem netInput_scan (maxEntries : Nat) {net : Net} (e : ScanEnv) (req : Option NetworkScanReq)
    (hs : net.w.tc.cbRegistered = true) (hf : net.ts.blocked = false) :
    netInput maxEntries net (.scan e req) =
      some (scanned e req net (networkProvThreadScanHandler e req net.ts).2,
        scanShows (networkProvThreadScanHandler e req net.ts).1) := by
  unfold netInput
  dsimp only
  rw [hs, hf]
  rfl

/-- The answers of `prov-config` and `prov-ctrl` go out as they are, -/
theorem sound_config {maxEntries : Nat} {pb : PayloadPb} {r : Int × Option Resp} (h : Sound (Resp.answer r)) :
    Sound ((threadKind maxEntries pb).messageOf (r.1, r.2.map .config)) := by
  unfold Kind.messageOf
  rw [Option.map_map]
  exact h

/-- and so do those of `prov-scan`. -/
theorem sound_scan {maxEntries : Nat} {pb : PayloadPb} {r : Int × Option ScanResp}
    (h : Sound (ScanResp.answer r)) : Sound ((threadKind maxEntries pb).messageOf (r.1, r.2.map .scan)) := by
  unfold Kind.messageOf
  rw [Option.map_map]
  exact h

/-- **The handlers keep to the rules of a `Kind`**: each request is one step of the machine with the same
answer, a wait ends in one more, the other inputs start and end neither, and the answers can be encoded. -/
theorem threadKind_lawful (maxEntries : Nat) {pb : PayloadPb} (hpb : PayloadCodec pb) :
    (threadKind maxEntries pb).Lawful where
  codec := hpb
  asked e q := by cases q <;> exact ⟨rfl, rfl⟩
  waitEnd t e := ⟨rfl, rfl⟩
  handle e q net hst hfree := by
    have hs : net.w.tc.cbRegistered = true := hst
    have hf : net.ts.blocked = false := hfree
    cases q with
    | config req =>
      obtain ⟨hin, hcb⟩ := thread_handle maxEntries hs hf
        (i := .config e.ot req) (r := (networkProvThreadConfigHandler e.ot req net.w.begin).1)
        (s := (networkProvThreadConfigHandler e.ot req net.w.begin).2) (by simp [Thread.step, hs]) rfl
      exact ⟨_, hin, fun r hr => Option.some.inj hr, hf, hcb⟩
    | ctrl req =>
      obtain ⟨hin, hcb⟩ := thread_handle maxEntries hs hf
        (i := .ctrl e.ot req) (r := (networkProvThreadCtrlHandler e.ot req net.w.begin).1)
        (s := (networkProvThreadCtrlHandler e.ot req net.w.begin).2) (by simp [Thread.step, hs]) rfl
      exact ⟨_, hin, fun r hr => Option.some.inj hr, hf, hcb⟩
    | scan req =>
      have hb := scanHandler_blocked e.scan req hf
      refine ⟨_, netInput_scan maxEntries e.scan req hs hf, fun r hr => ?_, hb.trans Option.isNone_map.symm, hs⟩
      obtain ⟨r', hr', rfl⟩ := Option.map_eq_some_iff.1
        (show (networkProvThreadScanHandler e.scan req net.ts).1.map _ = some r from hr)
      rw [hr']
      rfl
  ends t e net net' r h := by
    obtain ⟨⟨r', ts'⟩, hr, he⟩ := Option.map_eq_some_iff.1 (show netWaitEnds t e net = some (r, net') from h)
    cases he
    refine ⟨⟨r'.1, r'.2.map .scan, []⟩, ?_, rfl, waitEnds_free hr, id⟩
    change netInput maxEntries net (.scanWaitEnds t e.scan.encodeRet) = _
    simp [netInput, hr]
  timeOut e net hw := by
    have hb : net.ts.blocked = true := hw
    change netWaitEnds true e net = some (netTimeOut e net)
    simp [netWaitEnds, netTimeOut, scanWaitEnds, hb]
  event net net' i o h hi := by
    have hne : (∀ e r, i ≠ .scan e r) ∧ ∀ t r, i ≠ .scanWaitEnds t r :=
      ⟨fun e r he => by (subst he; cases hi), fun t r he => by (subst he; cases hi)⟩
    obtain ⟨hb, hw⟩ := netInput_event h hne.1 hne.2
    exact ⟨hb, fun hs => hw.trans hs⟩
  sound e q net r h := by
    cases q with
    | config req =>
      obtain rfl := Option.some.inj h
      exact sound_config (configHandler_sound e.ot req net.w.begin)
    | ctrl req =>
      obtain rfl := Option.some.inj h
      exact sound_config (ctrlHandler_sound e.ot req net.w.begin)
    | scan req =>
      obtain ⟨r', hr, rfl⟩ := Option.map_eq_some_iff.1
        (show (networkProvThreadScanHandler e.scan req net.ts).1.map _ = some r from h)
      exact sound_scan (scanHandler_sound hr)
  soundEnd t e net net' r h := by
    obtain ⟨⟨r', ts'⟩, hr, he⟩ := Option.map_eq_some_iff.1 (show netWaitEnds t e net = some (r, net') from h)
    cases he
    exact sound_scan (scanWaitEnds_sound hr)

end NetworkProv.Stack.OnThread
