import NetworkProv.Wifi.World

/-!
# The attempt budget of an Apply

One Apply that stores its credentials, with nothing outstanding before it, and
then results, retries, polls and Sets in any order. At every moment one of
three things is true (`Phase`): a request is outstanding, the retry is armed,
or the outcome has been reported.

* `attempt_step`: every step keeps to the three phases.
* `budget_kept`: at most `max 1 N` requests, all as staged at the Apply; at
  most one outcome, at the right step; and what a poll says before it.
-/
namespace NetworkProv.Wifi

open NetworkProv.Core

/-! ## What a run has done -/

/-- The operation belongs to an attempt: a poll, a Set, a result or a retry. -/
def Op.Attempting : Op → Prop
  | .idle | .stage _ | .result _ _ | .retry _ => True
  | _ => False

instance (op : Op) : Decidable op.Attempting :=
  match op with
  | .idle | .stage _ | .result _ _ | .retry _ => .isTrue trivial
  | .start _ | .stop | .reset | .apply _ _ | .erase _ _ => .isFalse id

/-- The step delivers a failed result. -/
def failedResult (e : Step) : Bool :=
  match e.lbl with
  | .connectResult st _ => decide (st.status ≠ 0)
  | _ => false

/-- The step delivers a result that is a success. -/
def ZeroResult (e : Step) : Prop := ∃ st d, e.lbl = .connectResult st d ∧ st.status = 0

/-- The connect request of the step is rejected, or finds no interface. -/
def Rejects (e : Step) : Prop :=
  match opOf e with
  | .apply _ env => env.connectRet ≠ 0
  | .retry env => env.iface = false ∨ env.connectRet ≠ 0
  | _ => False

def CredEvent.isOutcome : CredEvent → Bool
  | .credRecv => false
  | .credSuccess | .credFail _ => true

/-- The failed results of the history, -/
def failures (t : List Step) : Nat := t.countP failedResult

/-- the connect requests, -/
def connects (t : List Step) : List ConnectReq := t.flatMap (·.out.connects)

/-- and the outcomes that were reported. -/
def outcomes (t : List Step) : List CredEvent := t.flatMap (·.out.events.filter CredEvent.isOutcome)

@[simp] theorem failures_snoc (t : List Step) (e : Step) :
    failures (t ++ [e]) = failures t + if failedResult e then 1 else 0 := by
  simp [failures, List.countP_append]

@[simp] theorem connects_snoc (t : List Step) (e : Step) :
    connects (t ++ [e]) = connects t ++ e.out.connects := by
  simp [connects]

@[simp] theorem outcomes_snoc (t : List Step) (e : Step) :
    outcomes (t ++ [e]) = outcomes t ++ e.out.events.filter CredEvent.isOutcome := by
  simp [outcomes]

theorem failedResult_result {e : Step} {st : WifiStatus} {d : Int} (h : opOf e = .result st d) :
    failedResult e = decide (st.status ≠ 0) := by
  rw [failedResult, op_result h]

theorem failedResult_other {e : Step} (h : ∀ st d, opOf e ≠ .result st d) : failedResult e = false := by
  unfold failedResult
  split
  · rename_i st d hl
    exact absurd (by rw [opOf, hl]; rfl) (h st d)
  · rfl

theorem zeroResult_iff {e : Step} : ZeroResult e ↔ ∃ st d, opOf e = .result st d ∧ st.status = 0 := by
  constructor
  · intro hx
    obtain ⟨st, d, hl, h0⟩ := hx
    exact ⟨st, d, by rw [opOf, hl]; rfl, h0⟩
  · intro hx
    obtain ⟨st, d, ho, h0⟩ := hx
    exact ⟨st, d, op_result ho, h0⟩

/-! ## The phases of an attempt -/

/-- The attempt of `c` goes on, after `k` failures and no outcome. -/
structure Live (c : ConnectConf) (n k : Nat) (os : List CredEvent) (wc : Wc) : Prop where
  snapshot : ¬ wc.NoSnapshot
  params : connectParams wc.inflight = connectParams c
  state : wc.staState = .connecting
  failed : wc.attemptFailed = decide (k ≠ 0)
  count : 0 < n → wc.attemptsCompleted = k
  left : k < max 1 n
  quiet : os = []

/-- After `k` failures, `m` connect requests and the outcomes `os`. -/
inductive Phase (c : ConnectConf) (n k m : Nat) (os : List CredEvent) (w : World) : Prop
  | awaiting (r : Outstanding) : w.outstanding = [r] → w.wc.retryWork = false →
      Live c n k os w.wc → m = k + 1 → Phase c n k m os w
  | resting : w.outstanding = [] → w.wc.retryWork = true →
      Live c n k os w.wc → m = k → Phase c n k m os w
  | ended : w.outstanding = [] → w.wc.retryWork = false → w.wc.NoSnapshot →
      os.length = 1 → m ≤ max 1 n → Phase c n k m os w

/-- What holds throughout: the phase fits the history `t`. -/
structure Attempt (c : ConnectConf) (n : Nat) (t : List Step) (w : World) : Prop where
  registered : w.wc.cbRegistered = true
  budget : w.wc.attemptsMax = n
  sent : ∀ r ∈ connects t, r.params = connectParams c
  phase : Phase c n (failures t) (connects t).length (outcomes t) w

/-- A step after which the history counts the same. -/
theorem Attempt.quiet {c : ConnectConf} {n : Nat} {t : List Step} {e : Step}
    (h : Attempt c n t e.pre) (hf : failedResult e = false) (hc : e.out.connects = [])
    (he : e.out.events = []) (hcb : e.post.wc.cbRegistered = e.pre.wc.cbRegistered)
    (hm : e.post.wc.attemptsMax = e.pre.wc.attemptsMax)
    (hp : Phase c n (failures t) (connects t).length (outcomes t) e.post) :
    Attempt c n (t ++ [e]) e.post := by
  refine ⟨hcb.trans h.registered, hm.trans h.budget, ?_, ?_⟩
  · rw [connects_snoc, hc, List.append_nil]
    exact h.sent
  · rw [failures_snoc, connects_snoc, outcomes_snoc, hf, hc, he]
    simpa using hp

/-- Only staging fields may differ. -/
theorem Phase.staging {c : ConnectConf} {n k m : Nat} {os : List CredEvent} {w : World}
    (h : Phase c n k m os w) (c' : ConnectConf) :
    Phase c n k m os { w with wc := { w.wc with staged := c' } } := by
  cases h with
  | awaiting r ho hr hl hm =>
    exact .awaiting r ho hr ⟨hl.snapshot, hl.params, hl.state, hl.failed, hl.count, hl.left, hl.quiet⟩ hm
  | resting ho hr hl hm =>
    exact .resting ho hr ⟨hl.snapshot, hl.params, hl.state, hl.failed, hl.count, hl.left, hl.quiet⟩ hm
  | ended ho hr hn hos hm => exact .ended ho hr hn hos hm

/-- A result comes in only while one is awaited. -/
theorem Phase.result {c : ConnectConf} {n k m : Nat} {os : List CredEvent} {w : World}
    (h : Phase c n k m os w) {r : Outstanding} {rest : List Outstanding}
    (hw : w.outstanding = r :: rest) :
    rest = [] ∧ w.wc.retryWork = false ∧ Live c n k os w.wc ∧ m = k + 1 := by
  cases h with
  | awaiting r' ho hr hl hm =>
    rw [hw] at ho
    exact ⟨(List.cons.inj ho).2, hr, hl, hm⟩
  | resting ho => rw [hw] at ho; cases ho
  | ended ho => rw [hw] at ho; cases ho

/-- A retry fires only while it is armed for the attempt. -/
theorem Phase.retry {c : ConnectConf} {n k m : Nat} {os : List CredEvent} {w : World}
    (h : Phase c n k m os w) (hw : w.wc.retryWork = true) :
    w.outstanding = [] ∧ Live c n k os w.wc ∧ m = k := by
  cases h with
  | awaiting r ho hr => rw [hw] at hr; cases hr
  | resting ho hr hl hm => exact ⟨ho, hl, hm⟩
  | ended ho hr => rw [hw] at hr; cases hr

/-- The budget is spent exactly when no retry is left: `k` failures are counted, if they are. -/
theorem Wc.retries_iff {wc : Wc} {k : Nat} (hc : 0 < wc.attemptsMax → wc.attemptsCompleted = k)
    (hl : k < max 1 wc.attemptsMax) : wc.Retries ↔ k + 1 ≠ max 1 wc.attemptsMax := by
  unfold Wc.Retries
  by_cases h0 : 0 < wc.attemptsMax
  · rw [hc h0]
    omega
  · omega

theorem Live.retries_iff {c : ConnectConf} {n k : Nat} {os : List CredEvent} {wc : Wc}
    (h : Live c n k os wc) (hn : wc.attemptsMax = n) : wc.Retries ↔ k + 1 ≠ max 1 n := by
  subst hn
  exact wc.retries_iff h.count h.left

/-- A step of the attempt; the cases are what the operation finds. -/
theorem attempt_step {c : ConnectConf} {n : Nat} {t : List Step} {e : Step}
    (h : Attempt c n t e.pre) (he : wifiMachine.Ok e) (hg : (opOf e).Attempting) :
    Attempt c n (t ++ [e]) e.post := by
  have heff := ok_effect he
  obtain ⟨pre, lbl, out, post⟩ := e
  generalize hop : opOf (⟨pre, lbl, out, post⟩ : Step) = op at heff hg
  have hres : ∀ st d, op = .result st d →
      failedResult (⟨pre, lbl, out, post⟩ : Step) = decide (st.status ≠ 0) :=
    fun st d hst => failedResult_result (hop.trans hst)
  have hother : (∀ st d, op ≠ .result st d) → failedResult (⟨pre, lbl, out, post⟩ : Step) = false :=
    fun hne => failedResult_other (by rw [hop]; exact hne)
  dsimp only at heff h ⊢
  generalize hev : out.events = ev at heff
  generalize hcs : out.connects = cs at heff
  cases heff with
  | start | stop | reset | refused | rejected | started | erase => exact hg.elim
  | idle => exact h.quiet (hother (by simp)) hcs hev rfl rfl h.phase
  | stage c' hcb =>
    exact h.quiet (hother (by simp)) hcs hev rfl rfl (h.phase.staging c')
  | ignored st d r rest hw hi =>
    obtain ⟨-, -, hl, -⟩ := h.phase.result hw
    exact absurd (hi h.registered) hl.snapshot
  | connected st d r rest hw hcb hn hst =>
    obtain ⟨rfl, hr, hl, hm⟩ := h.phase.result hw
    refine ⟨h.registered, h.budget, by simpa [hcs] using h.sent, ?_⟩
    have hleft := hl.left
    refine .ended rfl hr rfl ?_ ?_
    · rw [outcomes_snoc, hl.quiet, hev]
      rfl
    · rw [connects_snoc, hcs, List.append_nil]
      omega
  | retrying st d r rest hw hcb hn hst hr =>
    obtain ⟨rfl, -, hl, hm⟩ := h.phase.result hw
    have hf := (hres st d rfl).trans (decide_eq_true hst)
    have hmore := (hl.retries_iff h.budget).1 hr
    have hleft := hl.left
    refine ⟨h.registered, h.budget, by simpa [hcs] using h.sent, ?_⟩
    rw [failures_snoc, connects_snoc, outcomes_snoc, hf, hcs, hev, if_pos rfl]
    refine .resting rfl rfl ⟨hl.snapshot, hl.params, rfl, by simp, ?_, by omega, ?_⟩ ?_
    · intro h0
      have hb := h.budget
      simp [Wc.charge, hb, h0, hl.count h0]
    · simpa using hl.quiet
    · simpa using hm
  | failed st d r rest hw hcb hn hst hr =>
    obtain ⟨rfl, hrw, hl, hm⟩ := h.phase.result hw
    refine ⟨h.registered, h.budget, by simpa [hcs] using h.sent, ?_⟩
    have hleft := hl.left
    refine .ended rfl hrw rfl ?_ ?_
    · rw [outcomes_snoc, hl.quiet, hev]
      rfl
    · rw [connects_snoc, hcs, List.append_nil]
      omega
  | lapsed e hret hn =>
    obtain ⟨-, hl, -⟩ := h.phase.retry hret
    exact absurd hn hl.snapshot
  | retried e hret hn hi hcr =>
    obtain ⟨ho, hl, hm⟩ := h.phase.retry hret
    have hf := hother (by simp)
    refine ⟨h.registered, h.budget, ?_, ?_⟩
    · intro r hr
      rw [connects_snoc, hcs] at hr
      rcases List.mem_append.1 hr with hr | hr
      · exact h.sent r hr
      · obtain rfl := List.mem_singleton.1 hr
        exact hl.params
    · rw [failures_snoc, connects_snoc, outcomes_snoc, hf, hcs, hev]
      refine .awaiting ⟨connectParams pre.wc.inflight, pre.applies⟩ (by simp [ho]) rfl ?_ (by simpa using hm)
      exact ⟨hl.snapshot, hl.params, hl.state, by simpa using hl.failed, by simpa using hl.count,
        by simpa using hl.left, by simpa using hl.quiet⟩
  | abandoned e cs hret hn hcr =>
    obtain ⟨ho, hl, hm⟩ := h.phase.retry hret
    have hleft := hl.left
    refine ⟨h.registered, h.budget, ?_, ?_⟩
    · intro r hr
      rw [connects_snoc, hcs] at hr
      rcases List.mem_append.1 hr with hr | hr
      · exact h.sent r hr
      · rcases hcr with ⟨-, rfl⟩ | ⟨-, rfl⟩
        · cases hr
        · obtain rfl := List.mem_singleton.1 hr
          exact hl.params
    · refine .ended ho rfl rfl ?_ ?_
      · rw [outcomes_snoc, hl.quiet, hev]
        rfl
      · rw [connects_snoc, hcs]
        rcases hcr with ⟨-, rfl⟩ | ⟨-, rfl⟩
        · simp only [List.append_nil]
          omega
        · simp only [List.length_append, List.length_singleton]
          omega

/-- The Apply itself. -/
theorem attempt_start {e₀ : Step} {c : ConnectConf} {env : WifiEnv} (he : wifiMachine.Ok e₀)
    (ha : opOf e₀ = .apply c env) (hs : Stores c env) (ho : e₀.pre.outstanding = []) :
    Attempt c e₀.pre.wc.attemptsMax ([] ++ [e₀]) e₀.post := by
  have heff := ok_effect he
  have hf : failedResult e₀ = false := failedResult_other (by simp [ha])
  have hk : failures ([] ++ [e₀]) = 0 := by
    rw [failures_snoc, hf]
    rfl
  obtain ⟨pre, lbl, out, post⟩ := e₀
  rw [ha] at heff
  dsimp only at heff ho ⊢
  generalize hev : out.events = ev at heff
  generalize hcs : out.connects = cs at heff
  cases heff with
  | refused _ _ _ hns => exact absurd hs hns
  | rejected _ _ _ hcb =>
    refine ⟨hcb, rfl, ?_, .ended ho rfl rfl ?_ ?_⟩
    · rw [connects_snoc, hcs]
      intro r hm
      obtain rfl := List.mem_singleton.1 hm
      rfl
    · rw [outcomes_snoc, hev]
      rfl
    · rw [connects_snoc, hcs]
      exact Nat.le_max_left 1 _
  | started _ _ hne hcb _ _ =>
    refine ⟨hcb, rfl, ?_, ?_⟩
    · rw [connects_snoc, hcs]
      intro r hm
      obtain rfl := List.mem_singleton.1 hm
      rfl
    · rw [hk, connects_snoc, outcomes_snoc, hcs, hev]
      refine .awaiting ⟨connectParams c, pre.applies + 1⟩ (by simp [ho]) rfl ?_ rfl
      refine ⟨hne, connectParams_snapshot { pre.wc with staged := c }, rfl, rfl, fun _ => rfl, ?_, rfl⟩
      exact Nat.lt_of_lt_of_le Nat.zero_lt_one (Nat.le_max_left 1 _)

theorem attempt_run {s w : World} {e₀ : Step} {t : List Step} {c : ConnectConf} {env : WifiEnv}
    (h : wifiMachine.Run s (e₀ :: t) w) (ha : opOf e₀ = .apply c env) (hs : Stores c env)
    (ho : s.outstanding = []) (hg : ∀ e ∈ t, (opOf e).Attempting) :
    Attempt c s.wc.attemptsMax (e₀ :: t) w := by
  obtain ⟨rfl, hok, hrun⟩ := Machine.run_cons h
  refine hrun.history (P := fun t w => (∀ e ∈ t, (opOf e).Attempting) →
    Attempt c e₀.pre.wc.attemptsMax (e₀ :: t) w) (fun _ => attempt_start hok ha hs ho) ?_ hg
  intro t e _ he ih hg
  rw [← List.cons_append]
  exact attempt_step (ih fun x hx => hg x (by simp [hx])) he (hg e (by simp))

/-! ## What the steps report -/

/-- A success is reported of a result that is one, and of nothing else. -/
theorem attempt_success {c : ConnectConf} {n : Nat} {t : List Step} {e : Step}
    (h : Attempt c n t e.pre) (he : wifiMachine.Ok e) (hg : (opOf e).Attempting) :
    .credSuccess ∈ e.out.events ↔ ZeroResult e := by
  rw [zeroResult_iff]
  have heff := ok_effect he
  obtain ⟨pre, lbl, out, post⟩ := e
  generalize opOf (⟨pre, lbl, out, post⟩ : Step) = op at heff hg ⊢
  dsimp only at heff h ⊢
  generalize out.events = ev at heff
  generalize out.connects = cs at heff
  cases heff with
  | start | stop | reset | refused | rejected | started | erase => exact hg.elim
  | ignored st d r rest hw hi =>
    obtain ⟨-, -, hl, -⟩ := h.phase.result hw
    exact absurd (hi h.registered) hl.snapshot
  | connected st d _ _ _ _ _ hst => exact ⟨fun _ => ⟨st, d, rfl, hst⟩, fun _ => by simp⟩
  | retrying st d _ _ _ _ _ hst =>
    refine ⟨fun hm => by simp at hm, ?_⟩
    intro hx
    obtain ⟨st', d', heq, h0⟩ := hx
    cases heq
    exact absurd h0 hst
  | failed st d _ _ _ _ _ hst =>
    refine ⟨fun hm => by simp at hm, ?_⟩
    intro hx
    obtain ⟨st', d', heq, h0⟩ := hx
    cases heq
    exact absurd h0 hst
  | _ => simp

/-- A failure is reported when a request is rejected, and of the failed result that spends the budget. -/
theorem attempt_failure {c : ConnectConf} {n : Nat} {t : List Step} {e : Step}
    (h : Attempt c n t e.pre) (he : wifiMachine.Ok e) (hg : (opOf e).Attempting) :
    CredFails e ↔ Rejects e ∨ failedResult e = true ∧ failures (t ++ [e]) = max 1 n := by
  have heff := ok_effect he
  have hres : ∀ st d, opOf e = .result st d → failedResult e = decide (st.status ≠ 0) :=
    fun st d => failedResult_result
  have hother : (∀ st d, opOf e ≠ .result st d) → failedResult e = false := failedResult_other
  rw [failures_snoc]
  unfold CredFails Rejects
  generalize failedResult e = fr at hres hother ⊢
  obtain ⟨pre, lbl, out, post⟩ := e
  generalize opOf (⟨pre, lbl, out, post⟩ : Step) = op at heff hg hres hother ⊢
  dsimp only at heff h ⊢
  generalize out.events = ev at heff
  generalize out.connects = cs at heff
  cases heff with
  | start | stop | reset | refused | rejected | started | erase => exact hg.elim
  | idle => simp [hother (by simp)]
  | stage => simp [hother (by simp)]
  | ignored st d r rest hw hi =>
    obtain ⟨-, -, hl, -⟩ := h.phase.result hw
    exact absurd (hi h.registered) hl.snapshot
  | connected st d _ _ _ _ _ hst => simp [hres st d rfl, hst]
  | retrying st d r rest hw hcb hn hst hr =>
    obtain ⟨-, -, hl, -⟩ := h.phase.result hw
    have hmore := (hl.retries_iff h.budget).1 hr
    rw [hres st d rfl, decide_eq_true hst, if_pos rfl]
    refine ⟨fun ⟨r, hm⟩ => by simp at hm, ?_⟩
    intro hx
    rcases hx with hf | ⟨-, hk⟩
    · exact hf.elim
    · exact absurd hk hmore
  | failed st d r rest hw hcb hn hst hr =>
    obtain ⟨-, -, hl, -⟩ := h.phase.result hw
    have hlast := not_not.1 (mt (hl.retries_iff h.budget).2 hr)
    rw [hres st d rfl, decide_eq_true hst, if_pos rfl]
    exact ⟨fun _ => .inr ⟨rfl, hlast⟩, fun _ => ⟨_, List.mem_singleton_self _⟩⟩
  | lapsed e hret hn =>
    obtain ⟨-, hl, -⟩ := h.phase.retry hret
    exact absurd hn hl.snapshot
  | retried e hret hn hi hcr => simp [hother (by simp), hi, hcr]
  | abandoned e cs hret hn hcr =>
    exact ⟨fun _ => .inl (hcr.imp And.left And.left), fun _ => ⟨_, List.mem_singleton_self _⟩⟩

/-- What a poll is answered before the outcome, after `k` failures. -/
def connectingStatus (n k : Nat) : RespGetWifiStatus :=
  ⟨.success, .connecting, if k = 0 then .unset else .attemptFailed (n - k)⟩

theorem Live.getStatus {c : ConnectConf} {n k : Nat} {os : List CredEvent} {wc : Wc}
    (h : Live c n k os wc) (hn : wc.attemptsMax = n) (env : WifiEnv) :
    getStatus env wc = connectingStatus n k := by
  unfold Wifi.getStatus connectingStatus
  rw [h.state, h.failed]
  by_cases hk : k = 0
  · simp [hk]
  · have hl := h.left
    have h0 : 0 < n := by omega
    have hrem : networkProvWifiConfigRemainingAttempts wc = n - k := by
      unfold networkProvWifiConfigRemainingAttempts
      rw [hn, h.count h0, if_neg (by omega)]
    simp [hk, hrem]

theorem Phase.live {c : ConnectConf} {n k m : Nat} {w : World} (h : Phase c n k m [] w) :
    Live c n k [] w.wc := by
  cases h with
  | awaiting _ _ _ hl => exact hl
  | resting _ _ hl => exact hl
  | ended _ _ _ hos => cases hos

/-- A poll in between is answered with the attempts that are left. -/
theorem attempt_poll {c : ConnectConf} {n : Nat} {t : List Step} {e : Step}
    (h : Attempt c n t e.pre) (he : wifiMachine.Ok e) {env : WifiEnv}
    (hl : e.lbl = .config env (some .cmdGetWifiStatus)) (ho : outcomes t = []) {r : Resp}
    (hr : e.out.resp = some r) :
    r = .respGetWifiStatus (connectingStatus n (failures t)) ∧
      (failures t ≠ 0 → 1 ≤ n - failures t) := by
  have hp := h.phase
  rw [ho] at hp
  have hlive := hp.live
  have hst : step e.pre e.lbl = some (e.post, e.out) := he
  rw [hl] at hst
  simp only [step, h.registered, if_true, networkProvWifiConfigHandler] at hst
  obtain ⟨-, hout⟩ := answer_eq_some hst
  rw [hout] at hr
  dsimp only [pbEncode, World.begin] at hr
  split at hr
  · cases hr
  · cases hr
    rw [hlive.getStatus h.budget]
    have hleft := hlive.left
    exact ⟨rfl, fun _ => by omega⟩

/-! ## The whole attempt -/

/-- The history `t` of an Apply of `c` keeps to a budget of `n` attempts. -/
structure BudgetKept (c : ConnectConf) (n : Nat) (t : List Step) : Prop where
  /-- at most `max 1 n` requests, all for what was staged -/
  connects_le : (connects t).length ≤ max 1 n
  params : ∀ r ∈ connects t, r.params = connectParams c
  /-- at most one outcome -/
  once : (outcomes t).length ≤ 1
  /-- success with the zero result -/
  success : ∀ t₁ e t₂, t = t₁ ++ e :: t₂ → (.credSuccess ∈ e.out.events ↔ ZeroResult e)
  /-- failure with a rejected request, or with failed result number `max 1 n` -/
  failure : ∀ t₁ e t₂, t = t₁ ++ e :: t₂ →
    (CredFails e ↔ Rejects e ∨ failedResult e = true ∧ failures (t₁ ++ [e]) = max 1 n)
  /-- a poll before the outcome -/
  poll : ∀ t₁ e t₂ env r, t = t₁ ++ e :: t₂ → outcomes t₁ = [] →
    e.lbl = .config env (some .cmdGetWifiStatus) → e.out.resp = some r →
    r = .respGetWifiStatus (connectingStatus n (failures t₁)) ∧
      (failures t₁ ≠ 0 → 1 ≤ n - failures t₁)

/-- The Apply reports no success, and a failure only if its request is rejected. -/
theorem apply_reports {e₀ : Step} {c : ConnectConf} {env : WifiEnv} (he : wifiMachine.Ok e₀)
    (ha : opOf e₀ = .apply c env) (hs : Stores c env) :
    .credSuccess ∉ e₀.out.events ∧ ¬ ZeroResult e₀ ∧ failedResult e₀ = false ∧
      (CredFails e₀ ↔ Rejects e₀) := by
  have hf : failedResult e₀ = false := failedResult_other (by simp [ha])
  have hz : ¬ ZeroResult e₀ := by
    rw [zeroResult_iff, ha]
    intro hx
    obtain ⟨st, d, heq, -⟩ := hx
    cases heq
  have heff := ok_effect he
  unfold CredFails Rejects
  rw [ha] at heff ⊢
  generalize e₀.out.events = ev at heff ⊢
  generalize e₀.out.connects = cs at heff
  generalize e₀.post = post at heff
  cases heff with
  | refused _ _ _ hns => exact absurd hs hns
  | rejected _ _ _ _ _ hr => exact ⟨by simp, hz, hf, fun _ => hr, fun _ => ⟨.wifiAuthError, by simp⟩⟩
  | started _ _ _ _ _ hr => exact ⟨by simp, hz, hf, by simp [hr]⟩

/-- An Apply that stores its credentials, with nothing outstanding, and what
follows until the next Apply, reset or stop; the budget is what the service was
started with. -/
theorem budget_kept {s w : World} {e₀ : Step} {t : List Step} {c : ConnectConf} {env : WifiEnv}
    (h : wifiMachine.Run s (e₀ :: t) w) (ha : opOf e₀ = .apply c env) (hs : Stores c env)
    (ho : s.outstanding = []) (hg : ∀ e ∈ t, (opOf e).Attempting) :
    BudgetKept c s.wc.attemptsMax (e₀ :: t) := by
  obtain ⟨h0, hok, -⟩ := Machine.run_cons h
  obtain ⟨hrs, hrz, hrf, hrc⟩ := apply_reports hok ha hs
  -- a step is the Apply, or comes after it in the attempt
  have hat : ∀ t₁ e t₂, e₀ :: t = t₁ ++ e :: t₂ → t₁ = [] ∧ e = e₀ ∨
      Attempt c s.wc.attemptsMax t₁ e.pre ∧ wifiMachine.Ok e ∧ (opOf e).Attempting := by
    intro t₁ e t₂ heq
    cases t₁ with
    | nil => exact .inl ⟨rfl, (List.cons.inj heq).1.symm⟩
    | cons x t₁ =>
      obtain ⟨rfl, rfl⟩ := List.cons.inj heq
      have h' : wifiMachine.Run s ((e₀ :: t₁) ++ e :: t₂) w := h
      obtain ⟨h₁, hoke, -⟩ := h'.at
      exact .inr ⟨attempt_run h₁ ha hs ho fun x hx => hg x (by simp [hx]), hoke, hg e (by simp)⟩
  have hall := attempt_run h ha hs ho hg
  constructor
  · cases hall.phase with
    | awaiting _ _ _ hl hm =>
      have := hl.left
      omega
    | resting _ _ hl hm =>
      have := hl.left
      omega
    | ended _ _ _ _ hm => exact hm
  · exact hall.sent
  · cases hall.phase with
    | awaiting _ _ _ hl _ => simp [hl.quiet]
    | resting _ _ hl _ => simp [hl.quiet]
    | ended _ _ _ hos _ => omega
  · intro t₁ e t₂ heq
    rcases hat t₁ e t₂ heq with ⟨-, rfl⟩ | ⟨hatt, hoke, hge⟩
    · exact iff_of_false hrs hrz
    · exact attempt_success hatt hoke hge
  · intro t₁ e t₂ heq
    rcases hat t₁ e t₂ heq with ⟨-, rfl⟩ | ⟨hatt, hoke, hge⟩
    · rw [hrc, hrf]
      simp
    · exact attempt_failure hatt hoke hge
  · intro t₁ e t₂ env' r heq hq hl hr
    rcases hat t₁ e t₂ heq with ⟨-, rfl⟩ | ⟨hatt, hoke, -⟩
    · rw [opOf, hl] at ha
      cases ha
    · exact attempt_poll hatt hoke hl hq hr

/-- A budget of two: a failure, a poll, a Set, the retry, a success. -/
theorem budget_kept_test : ∃ e₀ t w,
    wifiMachine.Run { World.boot .empty with wc := networkProvWifiConfigInit 2 Wc.boot }
      (e₀ :: t) w ∧
    (e₀ :: t).map (·.lbl) = [configure okEnv homeSsid, .connectResult ⟨1, 1⟩ 0,
      .config okEnv (some .cmdGetWifiStatus),
      .config okEnv (some (.cmdSetWifiConfig ⟨cafeSsid.chars, [], [], 0⟩)), .retry okEnv,
      .connectResult ⟨0, 0⟩ 0] ∧
    BudgetKept ⟨⟨homeSsid.chars, by decide⟩, ⟨passphrase.chars, by decide⟩, Buf.zero _, false, 0⟩ 2
      (e₀ :: t) := by
  have hr := wifiMachine.run_get
    { World.boot .empty with wc := networkProvWifiConfigInit 2 Wc.boot }
    [configure okEnv homeSsid, .connectResult ⟨1, 1⟩ 0, .config okEnv (some .cmdGetWifiStatus),
      .config okEnv (some (.cmdSetWifiConfig ⟨cafeSsid.chars, [], [], 0⟩)), .retry okEnv,
      .connectResult ⟨0, 0⟩ 0] (by rfl)
  exact ⟨_, _, _, hr, by rfl, budget_kept hr
    (show opOf _ = .apply _ okEnv by rfl) (by decide) rfl (by decide +kernel)⟩

end NetworkProv.Wifi
