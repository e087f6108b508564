import NetworkProv.Stack.Serve
import NetworkProv.Wifi.Wire

/-!
# The stack of a Wi-Fi device

The three handlers of a Wi-Fi build as a `Kind`, over the machine of
`Manager.WifiNet`: what the bytes of a request say is read by nanopb (`pb`), then the
handler runs on the request.

* `wifiKind_lawful`: it is one, for every `pb` that is a codec of the messages.
-/
namespace NetworkProv.Stack.OnWifi
open NetworkProv.Core Protocomm Security1 Endpoints Manager Wifi Proto

/-- What the calls made during a request answer. -/
structure NetCalls where
  wifi : WifiEnv
  scan : ScanEnv

/-- A request, by the handler it is for; `none`: its bytes do not decode. -/
inductive NetReq
  | config (r : Option NetworkConfigReq)
  | ctrl (r : Option NetworkCtrlReq)
  | scan (r : Option NetworkScanReq)
  deriving DecidableEq

/-- What the bytes of a request to `ep` say. -/
def netDecode (pb : PayloadPb) (ep : CStr) (inbuf : Bytes) : NetReq :=
  if ep = EP_SCAN then .scan (decodeScan pb inbuf)
  else if ep = EP_CONFIG then .config (decodeConfig pb inbuf)
  else .ctrl (decodeCtrl pb inbuf)

/-- The handler leaves `sc`, and one more scan runs when the driver takes the request. -/
def scanned (e : ScanEnv) (req : Option NetworkScanReq) (net : Net) (sc : Sc) : Net :=
  { net with sc := sc, scans := if e.accepted req then net.scans + 1 else net.scans }

/-- The handler, and what it leaves; no answer yet from a scan start that waits. -/
def netHandle (e : NetCalls) (q : NetReq) (net : Net) : Option (Int × Option NetResp) × Net :=
  match q with
  | .config req =>
    match networkProvWifiConfigHandler e.wifi req net.w.begin with
    | (r, c) => (some (r.1, r.2.map .config), { net with w := net.w.finish c })
  | .ctrl req =>
    match networkProvWifiCtrlHandler e.wifi req net.w.begin with
    | (r, c) => (some (r.1, r.2.map .config), { net with w := net.w.finish c })
  | .scan req =>
    match networkProvWifiScanHandler e.scan req net.sc with
    | (o, sc) => (o.map fun r => (r.1, r.2.map .scan), scanned e.scan req net sc)

/-- mirrors src/wifi_scan_handler.c:193-203 -/
def netWaitEnds (timedOut : Bool) (e : NetCalls) (net : Net) : Option ((Int × Option NetResp) × Net) :=
  (scanWaitEnds timedOut e.scan.encodeRet net.sc).map fun r =>
    ((r.1.1, r.1.2.map .scan), { net with sc := r.2 })

/-- The wait runs out: the answer is an internal error, and the next request can be served. -/
def netTimeOut (e : NetCalls) (net : Net) : (Int × Option NetResp) × Net :=
  match scanEncode e.scan.encodeRet (.respScanWifiStart .internalError) with
  | r => ((r.1, r.2.map .scan), { net with sc := { net.sc with blocked := false } })

/-- The message of a response. -/
def netMessage : NetResp → Payload
  | .config r => r.wire
  | .scan r => .scan r.wire

/-- The request as an input of the machine, -/
def netRequest (e : NetCalls) : NetReq → NetInput
  | .config r => .wifi (.config e.wifi r)
  | .ctrl r => .wifi (.ctrl e.wifi r)
  | .scan r => .scan e.scan r

/-- and the request that an input is. -/
def netAsked : NetInput → Option NetReq
  | .wifi (.config _ r) => some (.config r)
  | .wifi (.ctrl _ r) => some (.ctrl r)
  | .scan _ r => some (.scan r)
  | _ => none

def netIsWaitEnd : NetInput → Bool
  | .scanWaitEnds _ _ => true
  | _ => false

/-- The handlers as the transports see them. A request is served while they are set up and no scan start
waits. -/
def wifiKind (maxEntries : Nat) (pb : PayloadPb) : Kind Net NetInput NetOutput NetCalls NetReq NetResp where
  machine := inputMachine maxEntries
  pb := pb
  decode := netDecode pb
  handle := netHandle
  waitEnds := netWaitEnds
  timeOut := netTimeOut
  message := netMessage
  request := netRequest
  waitEnd t e := .scanWaitEnds t e.scan.encodeRet
  asked := netAsked
  isWaitEnd := netIsWaitEnd
  answer o := (o.ret, o.resp)
  Started net := net.w.wc.cbRegistered = true ∧ net.sc.cbRegistered = true
  waiting net := net.sc.blocked

/-- A start sets the handlers up. -/
theorem started_wifiKind (maxEntries : Nat) (pb : PayloadPb) (attempts : Nat) (net : Net) :
    (wifiKind maxEntries pb).Started (net.started attempts) := ⟨rfl, rfl⟩

/-! ## The scan handler -/

/-- It is the handler that waits, not the start of the scan. -/
theorem doScanStart_blocked (e : ScanEnv) (sc : Sc) : (doScanStart e sc).2.blocked = sc.blocked := by
  unfold doScanStart
  split
  · rfl
  · dsimp only
    split <;> rfl

/-- A request that is answered leaves no one waiting who did not wait before. -/
theorem scanHandler_blocked (e : ScanEnv) (req : Option NetworkScanReq) {sc : Sc} (hf : sc.blocked = false) :
    (networkProvWifiScanHandler e req sc).2.blocked = (networkProvWifiScanHandler e req sc).1.isNone := by
  cases req with
  | none => exact hf
  | some q =>
    cases q with
    | cmdScanWifiStart blocking =>
      have hb := doScanStart_blocked e { sc with doneSem := 0 }
      unfold networkProvWifiScanHandler
      dsimp only
      split
      · rfl
      · exact hb.trans hf
    | cmdScanWifiStatus => exact hf
    | cmdScanWifiResult startIndex count => exact hf
    | other => exact hf

/-- However a wait ends, the next request can be served. -/
theorem waitEnds_free {timedOut : Bool} {encodeRet : Int} {sc sc' : Sc} {r : Int × Option ScanResp}
    (h : scanWaitEnds timedOut encodeRet sc = some (r, sc')) : sc'.blocked = false := by
  unfold scanWaitEnds at h
  split at h
  · cases h
  split at h
  · cases h; rfl
  split at h
  · cases h
  · cases h; rfl

/-! ## The machine -/

/-- A request to the handlers of `World`. -/
theorem wifi_handle (maxEntries : Nat) {net : Net} {i : Input} {ret : Int} {resp : Option Resp} {c : CallState}
    (hs : net.w.wc.cbRegistered = true) (hf : net.sc.blocked = false)
    (hw : Wifi.step net.w i = some (net.w.finish c, ⟨ret, resp, c.events, c.connects⟩))
    (hi : isSetup i = false) :
    netInput maxEntries net (.wifi i) =
        some ({ net with w := net.w.finish c }, ⟨ret, resp.map .config, c.events, c.connects⟩) ∧
      (net.w.finish c).wc.cbRegistered = true := by
  have hbusy : net.busy i = false := by
    unfold Net.busy
    split
    · exact hf
    · exact hf
    · rfl
  exact ⟨by simp [netInput, hi, hbusy, hw],
    ((Wifi.step_effect hw).cbRegistered (by rw [op_isSetup, hi])).trans hs⟩

/-- What a request to the scan handler shows; nothing while it waits. -/
def scanShows : Option (Int × Option ScanResp) → NetOutput
  | some r => ⟨r.1, r.2.map .scan, [], []⟩
  | none => .none

/-- A request to the scan handler, as the machine takes it. -/
theorem netInput_scan (maxEntries : Nat) {net : Net} (e : ScanEnv) (req : Option NetworkScanReq)
    (hs : net.w.wc.cbRegistered = true) (hf : net.sc.blocked = false) :
    netInput maxEntries net (.scan e req) =
      some (scanned e req net (networkProvWifiScanHandler e req net.sc).2,
        scanShows (networkProvWifiScanHandler e req net.sc).1) := by
  unfold netInput scanned
  dsimp only
  rw [hs, hf]
  generalize hh : networkProvWifiScanHandler e req net.sc = q
  obtain ⟨_ | r, sc⟩ := q <;> cases ha : e.accepted req <;> simp [hh, Net.scanAnswer, scanShows]

/-- Results of connect requests, of scans and the retry timer: none of them ends a wait or the service. -/
theorem wifi_event {maxEntries : Nat} {pb : PayloadPb} {net net' : Net} {i : NetInput} {o : NetOutput}
    (h : netInput maxEntries net i = some (net', o)) (hi : (wifiKind maxEntries pb).isEvent i = true) :
    net'.sc.blocked = net.sc.blocked ∧ net'.w.wc.cbRegistered = net.w.wc.cbRegistered ∧
      net'.sc.cbRegistered = net.sc.cbRegistered := by
  cases i with
  | wifi j =>
    simp only [netInput] at h
    split at h
    · cases h
    · rename_i hj
      obtain ⟨⟨w, out⟩, hs, he⟩ := Option.map_eq_some_iff.1 h
      cases he
      have hset : isSetup j = false := by simp_all
      exact ⟨rfl, (Wifi.step_effect hs).cbRegistered (by rw [op_isSetup, hset]), rfl⟩
  | scan e req => cases hi
  | scanWaitEnds timedOut encodeRet => cases hi
  | scanResult r =>
    simp only [netInput] at h
    split at h
    · cases h
    · cases h
      split
      · refine ⟨?_, rfl, onScanResult_cbRegistered maxEntries r net.sc⟩
        unfold onScanResult
        split <;> rfl
      · exact ⟨rfl, rfl, rfl⟩
  | scanDone =>
    simp only [netInput] at h
    split at h
    · cases h
    · cases h
      split <;> exact ⟨rfl, rfl, rfl⟩

/-- `prov-config`: the machine takes the request as the handler does. -/
theorem config_handle (maxEntries : Nat) (e : NetCalls) (req : Option NetworkConfigReq) {net : Net}
    (hs : net.w.wc.cbRegistered = true) (hf : net.sc.blocked = false) : ∃ o,
    netInput maxEntries net (.wifi (.config e.wifi req)) = some ((netHandle e (.config req) net).2, o) ∧
      (netHandle e (.config req) net).1 = some (o.ret, o.resp) ∧
      (netHandle e (.config req) net).2.sc = net.sc ∧
      (netHandle e (.config req) net).2.w.wc.cbRegistered = true := by
  unfold netHandle
  dsimp only
  generalize hh : networkProvWifiConfigHandler e.wifi req net.w.begin = q
  obtain ⟨⟨ret, resp⟩, c⟩ := q
  have hw : Wifi.step net.w (.config e.wifi req) =
      some (net.w.finish c, ⟨ret, resp, c.events, c.connects⟩) := by
    simp [Wifi.step, hs, hh, World.answer]
  obtain ⟨hin, hcb⟩ := wifi_handle maxEntries hs hf hw rfl
  exact ⟨_, hin, rfl, rfl, hcb⟩

/-- `prov-ctrl` likewise. -/
theorem ctrl_handle (maxEntries : Nat) (e : NetCalls) (req : Option NetworkCtrlReq) {net : Net}
    (hs : net.w.wc.cbRegistered = true) (hf : net.sc.blocked = false) : ∃ o,
    netInput maxEntries net (.wifi (.ctrl e.wifi req)) = some ((netHandle e (.ctrl req) net).2, o) ∧
      (netHandle e (.ctrl req) net).1 = some (o.ret, o.resp) ∧
      (netHandle e (.ctrl req) net).2.sc = net.sc ∧
      (netHandle e (.ctrl req) net).2.w.wc.cbRegistered = true := by
  unfold netHandle
  dsimp only
  generalize hh : networkProvWifiCtrlHandler e.wifi req net.w.begin = q
  obtain ⟨⟨ret, resp⟩, c⟩ := q
  have hw : Wifi.step net.w (.ctrl e.wifi req) =
      some (net.w.finish c, ⟨ret, resp, c.events, c.connects⟩) := by
    simp [Wifi.step, hs, hh, World.answer]
  obtain ⟨hin, hcb⟩ := wifi_handle maxEntries hs hf hw rfl
  exact ⟨_, hin, rfl, rfl, hcb⟩

/-- The answers of `prov-config` and `prov-ctrl` go out as they are, -/
theorem sound_config {maxEntries : Nat} {pb : PayloadPb} {r : Int × Option Resp} (h : Sound (Resp.answer r)) :
    Sound ((wifiKind maxEntries pb).messageOf (r.1, r.2.map .config)) := by
  unfold Kind.messageOf
  rw [Option.map_map]
  exact h

/-- and so do those of `prov-scan`. -/
theorem sound_scan {maxEntries : Nat} {pb : PayloadPb} {r : Int × Option ScanResp}
    (h : Sound (ScanResp.answer r)) : Sound ((wifiKind maxEntries pb).messageOf (r.1, r.2.map .scan)) := by
  unfold Kind.messageOf
  rw [Option.map_map]
  exact h

/-- **The handlers keep to the rules of a `Kind`**: each request is one step of the machine with the same
answer, a wait ends in one more, the other inputs start and end neither, and the answers can be encoded. -/
theorem wifiKind_lawful (maxEntries : Nat) {pb : PayloadPb} (hpb : PayloadCodec pb) :
    (wifiKind maxEntries pb).Lawful where
  codec := hpb
  asked e q := by cases q <;> exact ⟨rfl, rfl⟩
  waitEnd t e := ⟨rfl, rfl⟩
  handle e q net hst hfree := by
    obtain ⟨hw, hs⟩ : net.w.wc.cbRegistered = true ∧ net.sc.cbRegistered = true := hst
    have hf : net.sc.blocked = false := hfree
    cases q with
    | config req =>
      obtain ⟨o, hin, ho, hsc, hcb⟩ := config_handle maxEntries e req hw hf
      refine ⟨o, hin, fun r hr => Option.some.inj (ho.symm.trans hr), ?_, hcb, ?_⟩
      · change (netHandle e (.config req) net).2.sc.blocked = (netHandle e (.config req) net).1.isNone
        rw [hsc, hf, ho]
        rfl
      · exact (congrArg Sc.cbRegistered hsc).trans hs
    | ctrl req =>
      obtain ⟨o, hin, ho, hsc, hcb⟩ := ctrl_handle maxEntries e req hw hf
      refine ⟨o, hin, fun r hr => Option.some.inj (ho.symm.trans hr), ?_, hcb, ?_⟩
      · change (netHandle e (.ctrl req) net).2.sc.blocked = (netHandle e (.ctrl req) net).1.isNone
        rw [hsc, hf, ho]
        rfl
      · exact (congrArg Sc.cbRegistered hsc).trans hs
    | scan req =>
      have hb := scanHandler_blocked e.scan req hf
      have hk := scanHandler_cbRegistered e.scan req net.sc
      refine ⟨_, netInput_scan maxEntries e.scan req hw hf, fun r hr => ?_, ?_, hw, hk.trans hs⟩
      · change ((networkProvWifiScanHandler e.scan req net.sc).1.map fun r => (r.1, r.2.map NetResp.scan)) =
          some r at hr
        obtain ⟨r', hr', rfl⟩ := Option.map_eq_some_iff.1 hr
        rw [hr']
        rfl
      · exact hb.trans Option.isNone_map.symm
  ends t e net net' r h := by
    obtain ⟨⟨r', sc'⟩, hr, he⟩ := Option.map_eq_some_iff.1 (show netWaitEnds t e net = some (r, net') from h)
    cases he
    refine ⟨⟨r'.1, r'.2.map .scan, [], []⟩, ?_, rfl, waitEnds_free hr, fun hs => ⟨hs.1, ?_⟩⟩
    · change netInput maxEntries net (.scanWaitEnds t e.scan.encodeRet) = _
      simp [netInput, hr, Net.scanAnswer]
    · exact (scanWaitEnds_cbRegistered hr).trans hs.2
  timeOut e net hw := by
    have hb : net.sc.blocked = true := hw
    change netWaitEnds true e net = some (netTimeOut e net)
    simp [netWaitEnds, netTimeOut, scanWaitEnds, hb]
  event net net' i o h hi := by
    obtain ⟨hb, hw, hs⟩ := wifi_event h hi
    exact ⟨hb, fun h => ⟨hw.trans h.1, hs.trans h.2⟩⟩
  sound e q net r h := by
    cases q with
    | config req =>
      obtain rfl := Option.some.inj h
      exact sound_config (configHandler_sound e.wifi req net.w.begin)
    | ctrl req =>
      obtain rfl := Option.some.inj h
      exact sound_config (ctrlHandler_sound e.wifi req net.w.begin)
    | scan req =>
      obtain ⟨r', hr, rfl⟩ := Option.map_eq_some_iff.1
        (show (networkProvWifiScanHandler e.scan req net.sc).1.map _ = some r from h)
      exact sound_scan (scanHandler_sound hr)
  soundEnd t e net net' r h := by
    obtain ⟨⟨r', sc'⟩, hr, he⟩ := Option.map_eq_some_iff.1 (show netWaitEnds t e net = some (r, net') from h)
    cases he
    exact sound_scan (scanWaitEnds_sound hr)

end NetworkProv.Stack.OnWifi
