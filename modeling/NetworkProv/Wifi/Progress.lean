import NetworkProv.Wifi.World

/-!
# What the handler waits for

Nothing times a connect attempt out: a client that polls is answered
`Connecting` until a result or the retry timer brings the outcome. So while
`Connecting` is reported one of the two must be on its way, and after a reset
neither may change anything any more, however late it comes.

* `connecting_awaits`: in every state reached that reports `Connecting` a
  result is outstanding or the retry is armed, and its attempt is in flight.
* `reset_final`: after a reset or a deinit, results and retries have no effect.
-/
namespace NetworkProv.Wifi

open NetworkProv.Core

/-! ## While connecting -/

/-- An initialised handler that reports `Connecting` has an attempt in flight,
and is waiting for a result or for the retry timer. -/
def Awaits (w : World) : Prop :=
  w.wc.cbRegistered = true → w.wc.staState = .connecting →
    ¬ w.wc.NoSnapshot ∧ (w.outstanding ≠ [] ∨ w.wc.retryWork = true)

theorem awaits_effect {w w' : World} {op : Op} {ev : List CredEvent} {cs : List ConnectReq}
    (heff : Effect w op w' ev cs) (h : Awaits w) : Awaits w' := by
  intro hcb hst
  cases heff with
  | idle => exact h hcb hst
  | start | reset | rejected | connected | failed | abandoned => cases hst
  | stop => cases hcb
  | stage => exact h hcb hst
  | refused => exact h hcb hst
  | started c e hs => exact ⟨hs, .inl (by simp)⟩
  | erase => exact h hcb hst
  | ignored st d r rest hw hi => exact absurd (hi hcb) (h hcb hst).1
  | retrying st d r rest hw hcb' hn => exact ⟨hn, .inr rfl⟩
  | lapsed e hret hn => exact absurd hn (h hcb hst).1
  | retried e hret hn => exact ⟨hn, .inl (by simp)⟩

/-- **Connecting is no dead end.** Whatever has overtaken what: an outstanding
result or the retry timer ends the wait. -/
theorem connecting_awaits {store : WifiCredentials} {t : List Step} {w : World}
    (h : wifiMachine.Run (World.boot store) t w) (hcb : w.wc.cbRegistered = true)
    (hst : w.wc.staState = .connecting) :
    ¬ w.wc.NoSnapshot ∧ (w.outstanding ≠ [] ∨ w.wc.retryWork = true) := by
  have hinv : Awaits w := by
    refine h.invariant (P := Awaits) (fun hf => by cases hf) ?_
    intro e he ih
    exact awaits_effect (ok_effect he) ih
  exact hinv hcb hst

/-- The result of an overtaken request arms the retry of the attempt in flight. -/
theorem connecting_awaits_test : ∃ t w, wifiMachine.Run (World.boot .empty) t w ∧
    t.map (·.lbl) = [.start 2, configure okEnv homeSsid, configure okEnv cafeSsid,
      .connectResult ⟨1, 1⟩ 0] ∧
    ¬ w.wc.NoSnapshot ∧ (w.outstanding ≠ [] ∨ w.wc.retryWork = true) := by
  have hr := wifiMachine.run_get (World.boot .empty)
    [.start 2, configure okEnv homeSsid, configure okEnv cafeSsid, .connectResult ⟨1, 1⟩ 0] (by rfl)
  exact ⟨_, _, hr, by rfl, connecting_awaits hr (by rfl) (by rfl)⟩

/-! ## After a reset -/

/-- What may still come in: a result, a firing of the retry timer, a request
other than an Apply. -/
inductive Late
  | result (st : WifiStatus) (deleteRet : Int)
  | retry (e : WifiEnv)
  | config (e : WifiEnv) (req : Option NetworkConfigReq) (h : req ≠ some .cmdApplyWifiConfig)

/-- The handler called, whether or not a result is outstanding, the timer armed
or the callback registered. -/
def Late.call : Late → CallState → (Int × Option Resp) × CallState
  | .result st d, s => ((0, none), onConnectResult st d s)
  | .retry e, s => ((0, none), retryWorkHandler e { s with wc := { s.wc with retryWork := false } })
  | .config e req _, s => networkProvWifiConfigHandler e req s

def lateRun (s : CallState) : List Late → CallState
  | [] => s
  | l :: ls => lateRun (l.call s).2 ls

def CallState.reset (s : CallState) : CallState := { s with wc := networkProvWifiConfigReset s.wc }

def CallState.deinit (s : CallState) : CallState := { s with wc := networkProvWifiConfigDeinit s.wc }

/-- No event and no connect request in between, and the store is the same. -/
structure Quiet (s s' : CallState) : Prop where
  events : s'.events = s.events
  connects : s'.connects = s.connects
  store : s'.store = s.store

theorem Quiet.trans {a b c : CallState} (h₁ : Quiet a b) (h₂ : Quiet b c) : Quiet a c :=
  ⟨h₂.events.trans h₁.events, h₂.connects.trans h₁.connects, h₂.store.trans h₁.store⟩

/-- What a poll is answered from is the same, and no attempt is in flight. -/
structure Rests (wc wc' : Wc) : Prop where
  snapshot : wc'.NoSnapshot
  state : wc'.staState = wc.staState
  max : wc'.attemptsMax = wc.attemptsMax
  completed : wc'.attemptsCompleted = wc.attemptsCompleted

theorem Rests.trans {a b c : Wc} (h₁ : Rests a b) (h₂ : Rests b c) : Rests a c :=
  ⟨h₂.snapshot, h₂.state.trans h₁.state, h₂.max.trans h₁.max, h₂.completed.trans h₁.completed⟩

theorem late_call (l : Late) (s : CallState) (hn : s.wc.NoSnapshot) :
    Quiet s (l.call s).2 ∧ Rests s.wc (l.call s).2.wc := by
  have hsame : Quiet s s ∧ Rests s.wc s.wc := ⟨⟨rfl, rfl, rfl⟩, ⟨hn, rfl, rfl, rfl⟩⟩
  cases l with
  | result st d =>
    simp only [Late.call]
    rw [onConnectResult_ignored hn]
    exact hsame
  | retry e =>
    simp only [Late.call, retryWorkHandler]
    rw [if_pos ((noSnapshot_iff_length _).1 hn)]
    exact ⟨⟨rfl, rfl, rfl⟩, ⟨hn, rfl, rfl, rfl⟩⟩
  | config e req h =>
    match req, h with
    | none, _ => exact hsame
    | some .other, _ => exact hsame
    | some .cmdGetWifiStatus, _ => exact hsame
    | some .cmdApplyWifiConfig, h => exact absurd rfl h
    | some (.cmdSetWifiConfig cmd), _ =>
      simp only [Late.call, networkProvWifiConfigHandler]
      rw [doSetConfig_staged]
      exact ⟨⟨rfl, rfl, rfl⟩, ⟨hn, rfl, rfl, rfl⟩⟩

theorem late_run (ls : List Late) (s : CallState) (hn : s.wc.NoSnapshot) :
    Quiet s (lateRun s ls) ∧ Rests s.wc (lateRun s ls).wc := by
  induction ls generalizing s with
  | nil => exact ⟨⟨rfl, rfl, rfl⟩, ⟨hn, rfl, rfl, rfl⟩⟩
  | cons l ls ih =>
    obtain ⟨hq, hr⟩ := late_call l s hn
    obtain ⟨hqs, hrs⟩ := ih (l.call s).2 hr.snapshot
    exact ⟨hq.trans hqs, hr.trans hrs⟩

/-- The handler reports `Disconnected`, with `n` attempts left. -/
def Disconnected (wc : Wc) (n : Nat) : Prop :=
  (∀ e, getStatus e wc = ⟨.success, .disconnected, .unset⟩) ∧
    networkProvWifiConfigRemainingAttempts wc = n

theorem Rests.disconnected {wc wc' : Wc} (h : Rests (networkProvWifiConfigReset wc) wc') :
    Disconnected wc' wc.attemptsMax := by
  have hst : wc'.staState = .disconnected := h.state
  have hmax : wc'.attemptsMax = wc.attemptsMax := h.max
  have hzero : wc'.attemptsCompleted = 0 := h.completed
  constructor
  · intro e
    simp [getStatus, hst]
  · unfold networkProvWifiConfigRemainingAttempts
    rw [hmax, hzero]
    split <;> omega

/-- **A reset is final.** Whatever the state before it and whatever comes in
after it, short of an Apply: no connect request is issued, no event emitted,
the store stays, and every poll is answered `Disconnected` with the whole
budget left. After a deinit likewise, up to what is reported. -/
theorem reset_final (s : CallState) (ls : List Late) :
    (Quiet s (lateRun s.reset ls) ∧ Disconnected (lateRun s.reset ls).wc s.wc.attemptsMax) ∧
      Quiet s (lateRun s.deinit ls) := by
  obtain ⟨hq, hr⟩ := late_run ls s.reset rfl
  obtain ⟨hd, -⟩ := late_run ls s.deinit rfl
  exact ⟨⟨⟨hq.events, hq.connects, hq.store⟩, hr.disconnected⟩, ⟨hd.events, hd.connects, hd.store⟩⟩

end NetworkProv.Wifi
