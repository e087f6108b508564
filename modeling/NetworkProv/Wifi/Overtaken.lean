import NetworkProv.Wifi.World

/-!
# Connect results and the Apply they belong to

The handler tells a stale connect result from a due one by the in-flight
snapshot alone: empty, and the result is ignored. An Apply that overtakes an
outstanding request fills the snapshot again, and the old result is then
charged to the new attempt.

* `overtaken_ignored_iff`: in a run, the results of overtaken requests are all
  ignored exactly when each of them is delivered with no attempt in flight.
* `failures_counted`: in such a run the attempt counter counts the failed
  results of the current Apply's own requests.
* `overtaken_result_charged`: an Apply whose credentials and snapshot are
  dropped by the failure of an earlier one.
-/
namespace NetworkProv.Wifi

open NetworkProv.Core

/-- A result of a request that a later Apply has overtaken has no effect. -/
def OvertakenIgnored (e : Step) : Prop :=
  ∀ r, delivered e = some r → r.apply < e.pre.applies →
    e.post.wc = e.pre.wc ∧ e.post.store = e.pre.store ∧ e.out.events = [] ∧ e.out.connects = []

/-- No attempt is in flight when the result of an overtaken request comes in
(or provisioning is stopped). -/
def OvertakenIdle (e : Step) : Prop :=
  ∀ r, delivered e = some r → r.apply < e.pre.applies →
    e.pre.wc.cbRegistered = true → e.pre.wc.NoSnapshot

theorem clearInflight_noSnapshot (wc : Wc) : (clearInflight wc).NoSnapshot := rfl

theorem failed_noSnapshot (wc : Wc) : wc.failed.NoSnapshot := rfl

/-- A result is ignored, or changes the state of the attempt in flight. -/
theorem result_cases {w w' : World} {st : WifiStatus} {d : Int} {ev : List CredEvent}
    {cs : List ConnectReq} (h : Effect w (.result st d) w' ev cs) :
    ((w.wc.cbRegistered = true → w.wc.NoSnapshot) ∧
      w'.wc = w.wc ∧ w'.store = w.store ∧ ev = [] ∧ cs = []) ∨
    (w.wc.cbRegistered = true ∧ ¬ w.wc.NoSnapshot ∧ w'.wc ≠ w.wc) := by
  cases h with
  | ignored _ _ _ _ _ hi => exact .inl ⟨hi, rfl, rfl, rfl, rfl⟩
  | connected _ _ _ _ _ hcb hn _ =>
    refine .inr ⟨hcb, hn, fun heq => hn ?_⟩
    rw [← heq]
    exact clearInflight_noSnapshot _
  | retrying _ _ _ _ _ hcb hn _ hr =>
    refine .inr ⟨hcb, hn, fun heq => ?_⟩
    have hmax : w.wc.attemptsMax > 0 := by
      unfold Wc.Retries at hr
      omega
    have hc := congrArg Wc.attemptsCompleted heq
    simp [Wc.charge, hmax] at hc
  | failed _ _ _ _ _ hcb hn _ _ =>
    refine .inr ⟨hcb, hn, fun heq => hn ?_⟩
    rw [← heq]
    exact failed_noSnapshot _

theorem overtaken_step {e : Step} (he : wifiMachine.Ok e) : OvertakenIgnored e ↔ OvertakenIdle e := by
  unfold OvertakenIgnored OvertakenIdle
  constructor
  · intro h r hd hlt hcb
    obtain ⟨st, d, hl, _⟩ := delivered_some hd
    have heff := ok_effect he
    rw [show opOf e = .result st d by rw [opOf, hl]; rfl] at heff
    rcases result_cases heff with ⟨hi, _⟩ | ⟨_, _, hne⟩
    · exact hi hcb
    · exact absurd (h r hd hlt).1 hne
  · intro h r hd hlt
    obtain ⟨st, d, hl, _⟩ := delivered_some hd
    have heff := ok_effect he
    rw [show opOf e = .result st d by rw [opOf, hl]; rfl] at heff
    rcases result_cases heff with ⟨_, hs⟩ | ⟨hcb, hn, _⟩
    · exact hs
    · exact absurd (h r hd hlt hcb) hn

/-! ## The attempt counter -/

/-- The step delivers a failed result of a request issued for Apply `n`. -/
def ownFailure (n : Nat) (e : Step) : Bool :=
  match e.lbl, e.pre.outstanding with
  | .connectResult st _, r :: _ => decide (st.status ≠ 0 ∧ r.apply = n)
  | _, _ => false

def ownFailures (t : List Step) (n : Nat) : Nat := t.countP (ownFailure n)

theorem ownFailures_snoc (t : List Step) (e : Step) (n : Nat) :
    ownFailures (t ++ [e]) n = ownFailures t n + if ownFailure n e then 1 else 0 := by
  simp [ownFailures, List.countP_append]

theorem ownFailure_other {e : Step} (h : ∀ st d, opOf e ≠ .result st d) (n : Nat) :
    ownFailure n e = false := by
  unfold ownFailure
  split
  · rename_i st d _ _ hl _
    exact absurd (by rw [opOf, hl]; rfl) (h st d)
  · rfl

theorem ownFailure_result {e : Step} {st : WifiStatus} {d : Int} {r : Outstanding}
    {rest : List Outstanding} (ho : opOf e = .result st d) (hw : e.pre.outstanding = r :: rest) (n : Nat) :
    ownFailure n e = decide (st.status ≠ 0 ∧ r.apply = n) := by
  unfold ownFailure
  rw [op_result ho, hw]

/-- The counter of the attempt in flight is the number of its own failures. -/
structure Counted (t : List Step) (w : World) : Prop where
  stopped : w.wc.cbRegistered = false → w.wc.NoSnapshot
  issued : ∀ r ∈ w.outstanding, r.apply ≤ w.applies
  later : ∀ n, w.applies < n → ownFailures t n = 0
  count : ¬ w.wc.NoSnapshot → 0 < w.wc.attemptsMax →
    w.wc.attemptsCompleted = ownFailures t w.applies

/-- A step that delivers no result and starts no Apply. -/
theorem Counted.frame {t : List Step} {e : Step} (h : Counted t e.pre)
    (ho : ∀ st d, opOf e ≠ .result st d) (ha : e.post.applies = e.pre.applies)
    (hs : e.post.wc.cbRegistered = false → e.post.wc.NoSnapshot)
    (hi : ∀ r ∈ e.post.outstanding, r.apply ≤ e.pre.applies)
    (hc : ¬ e.post.wc.NoSnapshot → ¬ e.pre.wc.NoSnapshot ∧
      e.post.wc.attemptsMax = e.pre.wc.attemptsMax ∧
      e.post.wc.attemptsCompleted = e.pre.wc.attemptsCompleted) : Counted (t ++ [e]) e.post := by
  have hq : ∀ n, ownFailures (t ++ [e]) n = ownFailures t n := by
    intro n
    rw [ownFailures_snoc, ownFailure_other ho]
    rfl
  refine ⟨hs, by rw [ha]; exact hi, ?_, ?_⟩
  · intro n hn
    rw [hq, h.later n (by omega)]
  · intro hn hm
    obtain ⟨h1, h2, h3⟩ := hc hn
    rw [hq, ha, h3, h.count h1 (by omega)]

/-- A step that starts an Apply: its own requests have not failed yet. -/
theorem Counted.started {t : List Step} {e : Step} (h : Counted t e.pre)
    (ho : ∀ st d, opOf e ≠ .result st d) (ha : e.post.applies = e.pre.applies + 1)
    (hcb : e.post.wc.cbRegistered = true)
    (hi : ∀ r ∈ e.post.outstanding, r.apply ≤ e.pre.applies + 1)
    (hc : e.post.wc.attemptsCompleted = 0) : Counted (t ++ [e]) e.post := by
  have hq : ∀ n, e.pre.applies < n → ownFailures (t ++ [e]) n = 0 := by
    intro n hn
    rw [ownFailures_snoc, ownFailure_other ho, h.later n hn]
    rfl
  refine ⟨fun hf => absurd hf (by simp [hcb]), by rw [ha]; exact hi, ?_, ?_⟩
  · intro n hn
    exact hq n (by omega)
  · intro _ _
    rw [hc, hq _ (by omega)]

/-- A step that delivers a result of the current Apply, or ignores one. -/
theorem Counted.result {t : List Step} {e : Step} {st : WifiStatus} {d : Int} {r : Outstanding}
    {rest : List Outstanding} (h : Counted t e.pre) (ho : opOf e = .result st d)
    (hw : e.pre.outstanding = r :: rest) (hr : e.post.outstanding = rest)
    (ha : e.post.applies = e.pre.applies)
    (hs : e.post.wc.cbRegistered = false → e.post.wc.NoSnapshot)
    (hc : ¬ e.post.wc.NoSnapshot → 0 < e.post.wc.attemptsMax →
      e.post.wc.attemptsCompleted = ownFailures (t ++ [e]) e.post.applies) :
    Counted (t ++ [e]) e.post := by
  have hle : r.apply ≤ e.pre.applies := h.issued r (by simp [hw])
  refine ⟨hs, ?_, ?_, hc⟩
  · intro x hx
    rw [ha]
    exact h.issued x (by rw [hr] at hx; simp [hw, hx])
  · intro n hn
    rw [ownFailures_snoc, ownFailure_result ho hw, h.later n (by omega)]
    have hne : ¬ r.apply = n := by omega
    simp [hne]

theorem counted_step {t : List Step} {e : Step} (h : Counted t e.pre) (he : wifiMachine.Ok e)
    (hidle : OvertakenIdle e) : Counted (t ++ [e]) e.post := by
  have heff := ok_effect he
  obtain ⟨pre, lbl, out, post⟩ := e
  generalize hop : opOf (⟨pre, lbl, out, post⟩ : Step) = op at heff
  dsimp only at heff h ⊢
  generalize out.events = ev at heff
  generalize out.connects = cs at heff
  cases heff with
  | idle => exact h.frame (by simp [hop]) rfl h.stopped h.issued fun hn => ⟨hn, rfl, rfl⟩
  | start n hcb =>
    refine h.frame (by simp [hop]) rfl (fun hf => by simp [networkProvWifiConfigInit] at hf) h.issued ?_
    intro hn
    exact absurd (h.stopped hcb) hn
  | stop hcb =>
    exact h.frame (by simp [hop]) rfl (fun _ => clearInflight_noSnapshot _) h.issued
      fun hn => absurd (clearInflight_noSnapshot _) hn
  | reset hcb =>
    exact h.frame (by simp [hop]) rfl (fun _ => clearInflight_noSnapshot _) h.issued
      fun hn => absurd (clearInflight_noSnapshot _) hn
  | stage c hcb =>
    exact h.frame (by simp [hop]) rfl h.stopped h.issued fun hn => ⟨hn, rfl, rfl⟩
  | refused c e hcb hs =>
    exact h.frame (by simp [hop]) rfl h.stopped h.issued fun hn => ⟨hn, rfl, rfl⟩
  | rejected c e hs hcb hs0 hr =>
    refine h.started (by simp [hop]) rfl hcb ?_ rfl
    intro r hr
    have := h.issued r hr
    dsimp only
    omega
  | started c e hs hcb hs0 hr =>
    refine h.started (by simp [hop]) rfl hcb ?_ rfl
    intro r hr
    rcases List.mem_append.1 hr with hr | hr
    · have := h.issued r hr
      dsimp only
      omega
    · obtain rfl := List.mem_singleton.1 hr
      exact Nat.le_refl _
  | erase ret deleted =>
    exact h.frame (by simp [hop]) rfl h.stopped h.issued fun hn => ⟨hn, rfl, rfl⟩
  | ignored st d r rest hw hi =>
    refine h.result hop hw rfl rfl h.stopped ?_
    intro hn hm
    have hcb : ¬ pre.wc.cbRegistered = true := fun hcb => hn (hi hcb)
    exact absurd (h.stopped (by simpa using hcb)) hn
  | connected st d r rest hw hcb hn hst =>
    exact h.result hop hw rfl rfl (fun _ => clearInflight_noSnapshot _)
      fun hn => absurd (clearInflight_noSnapshot _) hn
  | retrying st d r rest hw hcb hn hst hr =>
    refine h.result hop hw rfl rfl (fun hf => by simp [Wc.charge, hcb] at hf) ?_
    intro _ hm
    have hm' : 0 < pre.wc.attemptsMax := hm
    have hown : r.apply = pre.applies := by
      have hle := h.issued r (by simp [hw])
      by_contra hne
      exact hn (hidle r (delivered_result hop hw) (by dsimp only; omega) hcb)
    rw [ownFailures_snoc, ownFailure_result hop hw]
    have hc := h.count hn hm'
    simp [Wc.charge, hm', hst, hown, hc]
  | failed st d r rest hw hcb hn hst hr =>
    exact h.result hop hw rfl rfl (fun _ => failed_noSnapshot _)
      fun hn => absurd (failed_noSnapshot _) hn
  | lapsed e hret hn =>
    exact h.frame (by simp [hop]) rfl h.stopped h.issued fun hn => ⟨hn, rfl, rfl⟩
  | retried e hret hn hi hc =>
    refine h.frame (by simp [hop]) rfl h.stopped ?_ fun hn => ⟨hn, rfl, rfl⟩
    intro r hr
    rcases List.mem_append.1 hr with hr | hr
    · exact h.issued r hr
    · obtain rfl := List.mem_singleton.1 hr
      exact Nat.le_refl _
  | abandoned e cs hret hn hc =>
    exact h.frame (by simp [hop]) rfl (fun _ => failed_noSnapshot _) h.issued
      fun hn => absurd (failed_noSnapshot _) hn

theorem counted_boot (store : WifiCredentials) : Counted [] (World.boot store) where
  stopped _ := rfl
  issued := by simp [World.boot]
  later _ _ := rfl
  count hn := absurd rfl hn

/-- The counter of the attempt in flight counts the failed results of its own
requests, if the results of overtaken ones find no attempt in flight. -/
theorem failures_counted {store : WifiCredentials} {t : List Step} {w : World}
    (h : wifiMachine.Run (World.boot store) t w) (hidle : ∀ e ∈ t, OvertakenIdle e)
    (hn : ¬ w.wc.NoSnapshot) (hm : 0 < w.wc.attemptsMax) :
    w.wc.attemptsCompleted = ownFailures t w.applies := by
  refine (h.history (P := fun t w => (∀ e ∈ t, OvertakenIdle e) → Counted t w)
    (fun _ => counted_boot store) ?_ hidle).count hn hm
  intro t e _ he ih hidle
  exact counted_step (ih fun x hx => hidle x (by simp [hx])) he (hidle e (by simp))

/-! ## Runs -/

/-- The results of overtaken requests are all ignored if and only if each of
them comes in while no attempt is in flight. -/
theorem overtaken_ignored_iff {store : WifiCredentials} {t : List Step} {w : World}
    (h : wifiMachine.Run (World.boot store) t w) :
    (∀ e ∈ t, OvertakenIgnored e) ↔ ∀ e ∈ t, OvertakenIdle e := by
  constructor
  · intro hi e he
    exact (overtaken_step (h.ok_of_mem he)).1 (hi e he)
  · intro hi e he
    exact (overtaken_step (h.ok_of_mem he)).2 (hi e he)

/-- A rejected Apply overtakes a request whose result then comes in. -/
theorem overtaken_ignored_iff_test : ∃ t w, wifiMachine.Run (World.boot .empty) t w ∧
    t.map (·.lbl) = [.start 0, configure okEnv homeSsid, configure rejectEnv cafeSsid,
      .connectResult ⟨0, 0⟩ 0] ∧
    ((∀ e ∈ t, OvertakenIgnored e) ↔ ∀ e ∈ t, OvertakenIdle e) := by
  have hr := wifiMachine.run_get (World.boot .empty)
    [.start 0, configure okEnv homeSsid, configure rejectEnv cafeSsid, .connectResult ⟨0, 0⟩ 0]
    (by rfl)
  exact ⟨_, _, hr, by rfl, overtaken_ignored_iff hr⟩

/-- **A result is charged to a later Apply.** The connect to "home" fails after
an Apply for "cafe" has been accepted: "cafe" is reported failed, and its
entry deleted, before its own result is there. -/
theorem overtaken_result_charged : ∃ t w, wifiMachine.Run (World.boot .empty) t w ∧
    t.map (·.lbl) = [.start 0, configure okEnv homeSsid, configure okEnv cafeSsid,
      .connectResult ⟨1, 1⟩ 0] ∧
    t.getLast?.map (·.out.events) = some [.credFail .wifiAuthError] ∧
    w.store.lookup cafeSsid.chars = none ∧ w.outstanding.map (·.apply) = [2] ∧
    ¬ ∀ e ∈ t, OvertakenIgnored e := by
  have hr := wifiMachine.run_get (World.boot .empty)
    [.start 0, configure okEnv homeSsid, configure okEnv cafeSsid, .connectResult ⟨1, 1⟩ 0] (by rfl)
  refine ⟨_, _, hr, by rfl, by decide +kernel, by decide +kernel, by decide +kernel, ?_⟩
  intro hall
  have h := hall _ (.tail _ (.tail _ (.tail _ (.head _)))) _ (by rfl) (by decide +kernel)
  exact absurd h.2.2.1 (by decide +kernel)

end NetworkProv.Wifi
