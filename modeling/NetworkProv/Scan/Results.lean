import NetworkProv.Thread.ScanRun
import NetworkProv.Wifi.ScanRun

/-!
# What clients see of a scan

* `finished_final`: in runs where no start reaches the driver while an accepted
  scan is running, and none that is refused finds entries, a scan that is
  reported finished has ended, and its results stay until the next one.
* `refused_start_finishes`: a start that is refused because a scan is running
  reports that scan finished.
* `pages_lossless`: the pages that a client reads are the results of the scan.
-/
namespace NetworkProv.Scan
open NetworkProv.Core

variable {C E Q P R α : Type} {H : ScanHandler C E Q P R α} {cap pageCap : Nat}

/-! ## Finished scans -/

theorem ScanHandler.Lawful.final (h : H.Lawful cap pageCap) {s₀ s : ScanWorld C}
    {t : List (Entry (ScanWorld C) (ScanOp E Q R) (ScanOut P))} (hr : H.machine.Run s₀ t s)
    (h0 : s₀.running = 0) (hc : ∀ e ∈ t, H.view.Orderly e) : Always (H.view.Final pageCap) t := by
  refine View.run_final h.faithful hr ⟨?_, fun _ => h0⟩ hc
  change s₀.running ≤ 1
  omega

theorem finished_final (maxEntries : Nat) :
    (∀ s₀ s t, (Wifi.wifiScan maxEntries).machine.Run s₀ t s → s₀.running = 0 →
      (∀ e ∈ t, (Wifi.wifiScan maxEntries).view.Orderly e) →
      Always ((Wifi.wifiScan maxEntries).view.Final Wifi.RESULT_PAGE) t) ∧
    (∀ s₀ s t, (Thread.threadScan maxEntries).machine.Run s₀ t s → s₀.running = 0 →
      (∀ e ∈ t, (Thread.threadScan maxEntries).view.Orderly e) →
      Always ((Thread.threadScan maxEntries).view.Final Thread.RESULT_PAGE) t) :=
  ⟨fun _ _ _ hr h0 hc => (Wifi.wifiScan_lawful maxEntries).final hr h0 hc,
    fun _ _ _ hr h0 hc => (Thread.threadScan_lawful maxEntries).final hr h0 hc⟩

abbrev WifiOp := ScanOp Wifi.ScanEnv Wifi.NetworkScanReq Wifi.WifiScanResult
abbrev ThreadOp := ScanOp Thread.ScanEnv Thread.NetworkScanReq Thread.OtActiveScanResult

def wifiBoot : ScanWorld Wifi.Sc := ⟨Wifi.Sc.boot, 0⟩
def threadBoot : ScanWorld Thread.Ts := ⟨Thread.Ts.boot, 0⟩

/-- The driver answers `scanRet`. -/
def wifiEnv (scanRet : Int) : Wifi.ScanEnv := ⟨true, scanRet, 0⟩

/-- `otThreadDiscover` answers `err`. -/
def threadEnv (err : Int) : Thread.ScanEnv := ⟨0x07fff800, fun _ => err, 0⟩

def wifiResult : Wifi.WifiScanResult := ⟨[0x61, 0x70], Buf.zero 6, 6, -50, .psk⟩

def threadResult : Thread.OtActiveScanResult :=
  ⟨0x1234, 15, -60, 3, Buf.zero 8, Buf.zero 8, ⟨⟨[0x6f, 0x74], by decide⟩, by decide⟩⟩

/-- Two scans, one after the other; the first start waits, in vain. -/
def wifiOps : List WifiOp :=
  [.request (wifiEnv 0) (some (.cmdScanWifiStart true)), .result wifiResult, .waitEnds true 0,
    .request (wifiEnv 0) (some .cmdScanWifiStatus), .done, .request (wifiEnv 0) (some .cmdScanWifiStatus),
    .request (wifiEnv 0) (some (.cmdScanWifiResult 0 4)),
    .request (wifiEnv 0) (some (.cmdScanWifiStart false)), .done]

def threadOps : List ThreadOp :=
  [.request (threadEnv 0) (some (.cmdScanThreadStart true 0)), .result threadResult, .waitEnds true 0,
    .request (threadEnv 0) (some .cmdScanThreadStatus), .done,
    .request (threadEnv 0) (some .cmdScanThreadStatus),
    .request (threadEnv 0) (some (.cmdScanThreadResult 0 4)),
    .request (threadEnv 0) (some (.cmdScanThreadStart false 0)), .done]

theorem finished_final_test :
    Always ((Wifi.wifiScan 16).view.Final Wifi.RESULT_PAGE)
      (((Wifi.wifiScan 16).machine.exec wifiBoot wifiOps).get (by decide)).1 ∧
    Always ((Thread.threadScan 16).view.Final Thread.RESULT_PAGE)
      (((Thread.threadScan 16).machine.exec threadBoot threadOps).get (by decide)).1 :=
  ⟨(finished_final 16).1 wifiBoot _ _ (Machine.run_get wifiBoot wifiOps (by decide)) rfl (by decide),
    (finished_final 16).2 threadBoot _ _ (Machine.run_get threadBoot threadOps (by decide)) rfl (by decide)⟩

theorem not_final_of_told {S L O : Type} {v : View S L O α} {t : List (Entry S L O)} {e : Entry S L O}
    (he : e ∈ t) (ht : v.Told e) (hr : (v.cache e.pre).running ≠ 0) : ¬ Always (v.Final pageCap) t := by
  intro h
  obtain ⟨t₁, t₂, rfl⟩ := List.append_of_mem he
  exact hr ((h t₁ e t₂ rfl).1 ht)

/-- A scan that has brought a result, and a start that the driver refuses; then a status request. -/
def wifiRefused : List WifiOp :=
  [.request (wifiEnv 0) (some (.cmdScanWifiStart false)), .result wifiResult,
    .request (wifiEnv (- EBUSY)) (some (.cmdScanWifiStart false)),
    .request (wifiEnv 0) (some .cmdScanWifiStatus)]

def threadRefused : List ThreadOp :=
  [.request (threadEnv 0) (some (.cmdScanThreadStart false 0)), .result threadResult,
    .request (threadEnv 5) (some (.cmdScanThreadStart false 0)),
    .request (threadEnv 0) (some .cmdScanThreadStatus)]

/-- A start that is refused because a scan is running has that scan reported finished. -/
theorem refused_start_finishes :
    (∃ s t, (Wifi.wifiScan 16).machine.Run wifiBoot t s ∧
      (∃ e ∈ t, (Wifi.wifiScan 16).view.Told e ∧ e.pre.running = 1) ∧
      ¬ Always ((Wifi.wifiScan 16).view.Final Wifi.RESULT_PAGE) t) ∧
    (∃ s t, (Thread.threadScan 16).machine.Run threadBoot t s ∧
      (∃ e ∈ t, (Thread.threadScan 16).view.Told e ∧ e.pre.running = 1) ∧
      ¬ Always ((Thread.threadScan 16).view.Final Thread.RESULT_PAGE) t) := by
  constructor
  · refine ⟨_, _, Machine.run_get wifiBoot wifiRefused (by decide), ?_⟩
    have hlast : (⟨⟨⟨[], true, false, 0, false⟩, 1⟩, .request (wifiEnv 0) (some .cmdScanWifiStatus),
        some (0, some (.respScanWifiStatus true 0)), ⟨⟨[], true, false, 0, false⟩, 1⟩⟩ : Entry _ _ _) ∈
        (((Wifi.wifiScan 16).machine.exec wifiBoot wifiRefused).get (by decide)).1 :=
      .tail _ (.tail _ (.tail _ (.head _)))
    exact ⟨⟨_, hlast, ⟨0, rfl⟩, rfl⟩, not_final_of_told hlast ⟨0, rfl⟩ (by decide)⟩
  · refine ⟨_, _, Machine.run_get threadBoot threadRefused (by decide), ?_⟩
    have hlast : (⟨⟨⟨[], true, false, 0, false⟩, 1⟩, .request (threadEnv 0) (some .cmdScanThreadStatus),
        some (0, some (.respScanThreadStatus true 0)), ⟨⟨[], true, false, 0, false⟩, 1⟩⟩ : Entry _ _ _) ∈
        (((Thread.threadScan 16).machine.exec threadBoot threadRefused).get (by decide)).1 :=
      .tail _ (.tail _ (.tail _ (.head _)))
    exact ⟨⟨_, hlast, ⟨0, rfl⟩, rfl⟩, not_final_of_told hlast ⟨0, rfl⟩ (by decide)⟩

/-! ## Pages -/

/-- A client that reads the results after a start that the driver has accepted, and before the next:
it comes to an end once enough requests are answered, and it has each of the results that there is room
for, once and in order; a status response gives their number. -/
def ScanHandler.PagesLossless (H : ScanHandler C E Q P R α) (cap : Nat) (Carries : R → α → Prop) : Prop :=
  ∀ s₀ s t₁ x t₂, H.machine.Run s₀ (t₁ ++ x :: t₂) s → H.sweepOp x.lbl = .accept →
    (∀ y ∈ t₂, ¬ Sweep.IsStart (H.sweepOp y.lbl)) → ∀ qs : List (E × Nat), (∀ q ∈ qs, 0 < q.2) →
      (cap < qs.countP (fun q => H.encodes q.1) → (fetch H.ask qs 0 s.sc).isSome) ∧
      ∀ pages, fetch H.ask qs 0 s.sc = some pages →
        List.Forall₂ Carries ((H.resultsOf t₂).take cap) pages.flatten ∧
        ∀ e req n resp finished count, (H.handle e req s.sc).1 = some (n, some resp) →
          H.seen req resp = some (.status finished count) → count = pages.flatten.length

/-- Pages of any state, for any numbers. -/
def ScanHandler.PagesBounded (H : ScanHandler C E Q P R α) (pageCap : Nat) : Prop :=
  ∀ c e start want p, (H.ask c e start want).1 = some p →
    p.length ≤ min want pageCap ∧ ((H.entries c).length ≤ start → p = [])

theorem ScanHandler.Lawful.pagesLossless (h : H.Lawful cap pageCap) (hc : 0 < pageCap)
    {Carries : R → α → Prop} (hcarries : ∀ r, Carries r (H.entryOf r)) : H.PagesLossless cap Carries := by
  intro s₀ s t₁ x t₂ hr hx hno qs hq
  have hentries : H.entries s.sc = ((H.resultsOf t₂).take cap).map H.entryOf := by
    rw [List.map_take, ← h.items_eq]
    exact View.run_pages h.faithful hr hx hno
  constructor
  · intro hn
    have hlen : (H.entries s.sc).length ≤ cap := by
      rw [hentries, List.length_map]
      exact List.length_take_le _ _
    exact fetch_isSome h.serves hc H.encodes (fun c e start want he => h.answers e start want c he) hq
      (by omega) (Nat.zero_le _)
  · intro pages hpages
    have hflat : pages.flatten = H.entries s.sc := fetch_flatten h.serves hc hq hpages
    constructor
    · rw [hflat, hentries, List.forall₂_map_right_iff, List.forall₂_same]
      exact fun r _ => hcarries r
    · intro e req n resp finished count hresp hseen
      rw [hflat]
      exact (h.shows e req s n resp _ hresp hseen).1.2

theorem ScanHandler.Lawful.pagesBounded (h : H.Lawful cap pageCap) : H.PagesBounded pageCap := by
  intro c e start want p hp
  rw [h.serves.page c e start want p hp]
  exact ⟨length_page_le .., page_past_end⟩

/-- The entry has what the result brought. An SSID has at most `SSID_MAX` bytes. -/
structure WifiCarries (r : Wifi.WifiScanResult) (e : Wifi.ScanEntry) : Prop where
  ssid : r.ssid.length ≤ Wifi.SSID_MAX → e.ssid.val = r.ssid
  bssid : e.bssid = r.mac
  channel : e.channel = r.channel
  rssi : e.rssi = r.rssi
  auth : e.auth = Wifi.authFromZephyr r.security

structure ThreadCarries (r : Thread.OtActiveScanResult) (e : Thread.ThreadScanEntry) : Prop where
  panId : e.panId = r.panId
  channel : e.channel = r.channel
  rssi : e.rssi = r.rssi
  lqi : e.lqi = r.lqi
  extAddr : e.extAddr = r.extAddress
  extPanId : e.extPanId = r.extendedPanId
  networkName : e.networkName = r.networkName

theorem pages_lossless (maxEntries : Nat) :
    ((Wifi.wifiScan maxEntries).PagesLossless maxEntries WifiCarries ∧
      (Wifi.wifiScan maxEntries).PagesBounded Wifi.RESULT_PAGE) ∧
    ((Thread.threadScan maxEntries).PagesLossless maxEntries ThreadCarries ∧
      (Thread.threadScan maxEntries).PagesBounded Thread.RESULT_PAGE) :=
  ⟨⟨(Wifi.wifiScan_lawful maxEntries).pagesLossless (by decide) fun r =>
      ⟨fun hle => List.take_of_length_le hle, rfl, rfl, rfl, rfl⟩,
      (Wifi.wifiScan_lawful maxEntries).pagesBounded⟩,
    ⟨(Thread.threadScan_lawful maxEntries).pagesLossless (by decide) fun r =>
      ⟨rfl, rfl, rfl, rfl, rfl, rfl, Thread.strncpyName_val r.networkName⟩,
      (Thread.threadScan_lawful maxEntries).pagesBounded⟩⟩

def apOn (channel : UInt8) : Wifi.WifiScanResult := { wifiResult with channel := channel }

/-- A scan with four results. -/
def sweepOps : List WifiOp :=
  [.request (wifiEnv 0) (some (.cmdScanWifiStart false)), .result (apOn 1), .result (apOn 6), .result (apOn 11),
    .result (apOn 36), .done]

def sweepRun : List (Entry (ScanWorld Wifi.Sc) WifiOp (ScanOut Wifi.ScanResp)) × ScanWorld Wifi.Sc :=
  ((Wifi.wifiScan 3).machine.exec wifiBoot sweepOps).get (by decide)

/-- The page requests of a client: 2 results, then 9, then 1. -/
def pageRequests : List (Wifi.ScanEnv × Nat) := [(wifiEnv 0, 2), (wifiEnv 0, 9), (wifiEnv 0, 1)]

/-- It gets the three results that there is room for. -/
theorem pages_lossless_test : ∃ pages, fetch (Wifi.wifiScan 3).ask pageRequests 0 sweepRun.2.sc = some pages ∧
    pages.map (·.map (·.channel)) = [[1, 6], [11]] ∧
    List.Forall₂ WifiCarries [apOn 1, apOn 6, apOn 11] pages.flatten := by
  have hsplit : sweepRun.1 = [] ++ sweepRun.1.head (by decide) :: sweepRun.1.tail := (List.cons_head_tail _).symm
  have hrun : (Wifi.wifiScan 3).machine.Run wifiBoot sweepRun.1 sweepRun.2 :=
    Machine.run_get wifiBoot sweepOps (by decide)
  rw [hsplit] at hrun
  obtain ⟨-, hpages⟩ := (pages_lossless 3).1.1 _ _ _ _ _ hrun (by decide) (by decide) pageRequests (by decide)
  obtain ⟨pages, hf⟩ : ∃ pages, fetch (Wifi.wifiScan 3).ask pageRequests 0 sweepRun.2.sc = some pages :=
    Option.isSome_iff_exists.1 (by decide)
  refine ⟨pages, hf, ?_, (hpages pages hf).1⟩
  obtain rfl : (fetch (Wifi.wifiScan 3).ask pageRequests 0 sweepRun.2.sc).get (by decide) = pages := by simp [hf]
  decide

end NetworkProv.Scan
