import NetworkProv.Thread.World

/-!
# What an Apply comes to

The attach callback and the timeout both claim the outcome of an Apply, and
`pending` lets one of them have it. The path on which OpenThread refuses the
dataset reports a failure of its own and leaves `pending` and the timer as an
earlier Apply set them, so that outcome can still be claimed afterwards.

* `trail`: the outcomes since the last Apply or reset.
* `one_outcome_iff`: there is at most one, and it is the one reported, exactly
  in the runs in which no outcome is claimed after such a failure.
* `attaching_ends`: while Attaching is reported, the outcome is unclaimed and
  the timeout armed.
-/
namespace NetworkProv.Thread

open NetworkProv.Core NetworkProv.Wifi

inductive Outcome
  | success
  | fail
  deriving DecidableEq

def outcomeOf : CredEvent → Option Outcome
  | .credRecv => none
  | .credSuccess => some .success
  | .credFail _ => some .fail

/-- The outcomes a step reports. -/
def outcomes (ev : List CredEvent) : List Outcome := ev.filterMap outcomeOf

/-- The operation begins an attempt (`some true`), or gives up the one there was. -/
def Op.begins : Op → Option Bool
  | .apply _ _ => some true
  | .start _ | .reset | .erase _ => some false
  | .idle | .stop | .stage _ | .attached | .timeout => none

/-- The operation claims an outcome that is pending. -/
def Op.claims : Op → Bool
  | .attached | .timeout => true
  | _ => false

/-- `applied`: it was an Apply that came last; `reported`: the outcomes since. -/
structure Trail where
  applied : Bool
  reported : List Outcome

def Trail.next (l : Trail) (op : Op) (ev : List CredEvent) : Trail :=
  match op.begins with
  | some applied => ⟨applied, outcomes ev⟩
  | none => { l with reported := l.reported ++ outcomes ev }

/-- What has been reported since the last Apply or reset. -/
def trail (t : List Step) : Trail := t.foldl (fun l e => l.next (opOf e) e.out.events) ⟨false, []⟩

/-- The state a client should be told. -/
def Trail.shows (l : Trail) : ThreadNetworkState :=
  match l.reported.getLast? with
  | some .success => .attached
  | some .fail => .attachingFailed
  | none => if l.applied then .attaching else .dettached

/-- After every step at most one outcome has been reported since the last Apply
or reset, and every poll is answered with the state that goes with it. -/
def OneOutcome (t : List Step) : Prop :=
  ∀ t₁ e t₂, t = t₁ ++ e :: t₂ → (trail (t₁ ++ [e])).reported.length ≤ 1 ∧
    ∀ r, e.out.resp = some (.respGetThreadStatus r) → r.threadState = (trail t₁).shows

/-- An outcome still pending is claimed although the latest Apply was refused. -/
def Revived (e : Step) : Prop :=
  (opOf e).claims = true ∧ e.pre.tc.pending = 1 ∧ e.pre.tc.state = .attachingFailed

instance (e : Step) : Decidable (Revived e) := inferInstanceAs (Decidable (_ ∧ _))

@[simp] theorem trail_snoc (t : List Step) (e : Step) :
    trail (t ++ [e]) = (trail t).next (opOf e) e.out.events := by
  simp [trail]

theorem Trail.shows_attaching {l : Trail} (h : l.shows = .attaching) : l.reported = [] := by
  unfold Trail.shows at h
  split at h
  · cases h
  · cases h
  · rename_i hl
    simpa using hl

theorem Trail.shows_failed {l : Trail} (h : l.shows = .attachingFailed) : l.reported ≠ [] := by
  intro hnil
  unfold Trail.shows at h
  rw [hnil] at h
  simp at h
  split at h <;> cases h

theorem pbEncode_eq_some {e : OtEnv} {r r' : Resp} (h : (pbEncode e r).2 = some r') : r' = r := by
  unfold pbEncode at h
  split at h
  · cases h
  · exact (Option.some.inj h).symm

/-- Only a poll is answered with a status. -/
theorem configHandler_status {e : OtEnv} {req : Option NetworkConfigReq} {s : CallState}
    {r : RespGetThreadStatus}
    (h : (networkProvThreadConfigHandler e req s).1.2 = some (.respGetThreadStatus r)) :
    r.threadState = s.tc.state := by
  cases req with
  | none => cases h
  | some req =>
    cases req with
    | other => cases h
    | cmdSetThreadConfig d => cases pbEncode_eq_some h
    | cmdApplyThreadConfig => cases pbEncode_eq_some h
    | cmdGetThreadStatus =>
      cases pbEncode_eq_some h
      rfl

theorem ctrlHandler_status {e : OtEnv} {req : Option NetworkCtrlReq} {s : CallState}
    {r : RespGetThreadStatus} :
    (networkProvThreadCtrlHandler e req s).1.2 ≠ some (.respGetThreadStatus r) := by
  intro h
  cases req with
  | none => cases h
  | some req =>
    cases req with
    | other => cases h
    | cmdCtrlThreadReset => cases pbEncode_eq_some h
    | cmdCtrlThreadReprov => cases pbEncode_eq_some h

/-- A poll is answered with the state, while the handler is initialised. -/
theorem status_resp {e : Step} (he : threadMachine.Ok e) {r : RespGetThreadStatus}
    (hr : e.out.resp = some (.respGetThreadStatus r)) :
    r.threadState = e.pre.tc.state ∧ e.pre.tc.cbRegistered = true := by
  obtain ⟨w, i, o, w'⟩ := e
  change step w i = some (w', o) at he
  dsimp only at hr ⊢
  -- no other input is answered with a status
  have hnone : ∀ (ret : Int) (s : CallState), World.answer (ret, none) s = some (w', o) → False := by
    intro ret s h
    obtain ⟨-, rfl⟩ := answer_eq_some h
    cases hr
  cases i with
  | config env req =>
    simp only [step] at he
    split at he
    · rename_i hcb
      obtain ⟨-, rfl⟩ := answer_eq_some he
      exact ⟨configHandler_status hr, hcb⟩
    · cases he
  | ctrl env req =>
    simp only [step] at he
    split at he
    · obtain ⟨-, rfl⟩ := answer_eq_some he
      exact absurd hr ctrlHandler_status
    · cases he
  | start ret =>
    simp only [step] at he
    split at he
    · cases he
    · exact (hnone _ _ he).elim
  | resetSmState | resetProvisioning => exact (hnone _ _ he).elim
  | stop | setAndApply | stateChanged | attachTimeout =>
    simp only [step] at he
    split at he
    · exact (hnone _ _ he).elim
    · cases he

/-! ## One outcome -/

/-- What holds of the handler and of what it has reported. -/
structure Tells (l : Trail) (w : World) : Prop where
  one : l.reported.length ≤ 1
  armed : w.tc.attachTimeout = true → w.tc.cbRegistered = true
  shows : w.tc.cbRegistered = true → w.tc.state = l.shows
  unclaimed : w.tc.pending = 1 → w.tc.state = .attaching ∨ w.tc.state = .attachingFailed

/-- Claiming takes an initialised handler. -/
theorem claims_registered {l : Trail} {w w' : World} {op : Op} {ev : List CredEvent}
    (h : Effect w op w' ev) (ht : Tells l w) (hc : op.claims = true) : w.tc.cbRegistered = true := by
  cases h with
  | attached hcb => exact hcb
  | unclaimed hcb => exact hcb
  | timedOut ha => exact ht.armed ha
  | lapsed ha => exact ht.armed ha
  | _ => cases hc

theorem tells_effect {l : Trail} {w w' : World} {op : Op} {ev : List CredEvent}
    (h : Effect w op w' ev) (ht : Tells l w)
    (hn : ¬ (op.claims = true ∧ w.tc.pending = 1 ∧ w.tc.state = .attachingFailed)) :
    Tells (l.next op ev) w' := by
  -- an outcome is claimed only while none has been reported
  have hnone : op.claims = true → w.tc.pending = 1 → l.reported = [] := by
    intro hc hp
    have hst : w.tc.state = .attaching := (ht.unclaimed hp).resolve_right fun hf => hn ⟨hc, hp, hf⟩
    exact Trail.shows_attaching ((ht.shows (claims_registered h ht hc)).symm.trans hst)
  have hsame : ({ l with reported := l.reported ++ [] } : Trail) = l := by simp
  cases h with
  | idle =>
    show Tells { l with reported := l.reported ++ [] } w
    rw [hsame]; exact ht
  | unclaimed =>
    show Tells { l with reported := l.reported ++ [] } w
    rw [hsame]; exact ht
  | stage d =>
    show Tells { l with reported := l.reported ++ [] } _
    rw [hsame]; exact ⟨ht.one, ht.armed, ht.shows, ht.unclaimed⟩
  | stop =>
    show Tells { l with reported := l.reported ++ [] } _
    rw [hsame]
    exact ⟨ht.one, fun ha => (by cases ha), fun hcb => (by cases hcb), ht.unclaimed⟩
  | lapsed ha hp =>
    show Tells { l with reported := l.reported ++ [] } _
    rw [hsame]
    exact ⟨ht.one, fun ha => (by cases ha), ht.shows, ht.unclaimed⟩
  | start ret hcb =>
    have hst : (networkProvThreadConfigInit ret).2.state = .dettached ∧
        (networkProvThreadConfigInit ret).2.attachTimeout = false ∧
        (networkProvThreadConfigInit ret).2.pending = 0 := by
      unfold networkProvThreadConfigInit
      dsimp only
      split <;> exact ⟨rfl, rfl, rfl⟩
    refine ⟨Nat.zero_le 1, fun ha => ?_, fun _ => hst.1, fun hp => ?_⟩
    · exact absurd (hst.2.1.symm.trans ha) Bool.false_ne_true
    · exact absurd (hst.2.2.symm.trans hp) Nat.zero_ne_one
  | reset => exact ⟨Nat.zero_le 1, fun ha => (by cases ha), fun _ => rfl, fun hp => by cases hp⟩
  | erase => exact ⟨Nat.zero_le 1, fun ha => (by cases ha), fun _ => rfl, fun hp => by cases hp⟩
  | refused d e hcb => exact ⟨Nat.le_refl 1, fun _ => hcb, fun _ => rfl, fun _ => .inr rfl⟩
  | attaching d e hcb => exact ⟨Nat.zero_le 1, fun _ => hcb, fun _ => rfl, fun _ => .inl rfl⟩
  | already d e hcb =>
    exact ⟨Nat.le_refl 1, fun ha => (by cases ha), fun _ => rfl, fun hp => by cases hp⟩
  | attached hcb hp =>
    have hnext : l.next .attached [.credSuccess] = ⟨l.applied, [.success]⟩ := by
      simp [Trail.next, Op.begins, hnone rfl hp, outcomes, outcomeOf]
    rw [hnext]
    exact ⟨Nat.le_refl 1, fun ha => (by cases ha), fun _ => rfl, fun hp => by cases hp⟩
  | timedOut ha hp =>
    have hnext : l.next .timeout [.credFail .wifiNetworkNotFound] = ⟨l.applied, [.fail]⟩ := by
      simp [Trail.next, Op.begins, hnone rfl hp, outcomes, outcomeOf]
    rw [hnext]
    exact ⟨Nat.le_refl 1, fun ha => (by cases ha), fun _ => rfl, fun hp => by cases hp⟩

/-- A claim after a refused Apply is a second outcome. -/
theorem revived_twice {l : Trail} {w w' : World} {op : Op} {ev : List CredEvent}
    (h : Effect w op w' ev) (ht : Tells l w) (hc : op.claims = true) (hp : w.tc.pending = 1)
    (hf : w.tc.state = .attachingFailed) : 1 < (l.next op ev).reported.length := by
  have hne : 0 < l.reported.length :=
    List.length_pos_iff.2 (Trail.shows_failed ((ht.shows (claims_registered h ht hc)).symm.trans hf))
  cases h with
  | attached => simpa [Trail.next, Op.begins, outcomes, outcomeOf] using hne
  | timedOut => simpa [Trail.next, Op.begins, outcomes, outcomeOf] using hne
  | unclaimed _ hn => exact absurd hp hn
  | lapsed _ hn => exact absurd hp hn
  | _ => cases hc

theorem tells_boot (active : Option DatasetTlvs) : Tells (trail []) (World.boot active) :=
  ⟨Nat.zero_le 1, fun h => (by cases h), fun h => (by cases h), fun h => by cases h⟩

/-- **One outcome for each Apply.** In every run, with OpenThread answering and changing
roles as it likes: after every step at most one of CRED_SUCCESS and CRED_FAIL has been
reported since the last Apply or reset, and every poll is answered with the state that
goes with it, if and only if no callback and no timeout claims a pending outcome while
the latest Apply is one that was refused. -/
theorem one_outcome_iff {active : Option DatasetTlvs} {t : List Step} {w : World}
    (h : threadMachine.Run (.boot active) t w) : OneOutcome t ↔ ∀ e ∈ t, ¬ Revived e := by
  refine h.always_iff (P := fun t w => Tells (trail t) w) (tells_boot active) ?_ ?_
  · intro t e _ he ht hn
    have hnext := tells_effect (ok_effect he) ht hn
    rw [← trail_snoc] at hnext
    refine ⟨hnext, hnext.one, fun r hr => ?_⟩
    obtain ⟨hst, hcb⟩ := status_resp he hr
    exact hst.trans (ht.shows hcb)
  · rintro t e _ he ht ⟨hone, -⟩ ⟨hc, hp, hf⟩
    have htwo := revived_twice (ok_effect he) ht hc hp hf
    rw [trail_snoc] at hone
    omega

/-- A refused Apply, a second one, and its attach. -/
theorem one_outcome_iff_test : ∃ t w, threadMachine.Run (.boot none) t w ∧
    t.map (·.lbl) = [.start 0, setChannel 15, apply refuseEnv, apply okEnv, .stateChanged true .child] ∧
    t.map (·.out.events) = [[], [], [.credRecv, .credFail .wifiAuthError], [.credRecv],
      [.credSuccess]] ∧ OneOutcome t := by
  have hr := threadMachine.run_get (.boot none)
    [.start 0, setChannel 15, apply refuseEnv, apply okEnv, .stateChanged true .child] (by rfl)
  exact ⟨_, _, hr, by rfl, by rfl, (one_outcome_iff hr).2 (by decide)⟩

/-- **A failure and then a success.** While an Apply is pending a second one is refused
and reported failed; then the node attaches, and success is reported as well. -/
theorem refused_apply_revived : ∃ t w, threadMachine.Run (.boot none) t w ∧
    t.map (·.lbl) = [.start 0, setChannel 15, apply okEnv, setChannel 99, apply refuseEnv,
      .stateChanged true .child] ∧
    t.map (·.out.events) = [[], [], [.credRecv], [], [.credRecv, .credFail .wifiAuthError],
      [.credSuccess]] ∧ ¬ OneOutcome t := by
  have hr := threadMachine.run_get (.boot none)
    [.start 0, setChannel 15, apply okEnv, setChannel 99, apply refuseEnv, .stateChanged true .child]
    (by rfl)
  refine ⟨_, _, hr, by rfl, by rfl, fun ho => ?_⟩
  obtain ⟨hone, -⟩ := ho [_, _, _, _, _] _ [] rfl
  exact absurd hone (by decide)

/-! ## Attaching ends -/

/-- The outcome is pending and the timeout armed. -/
def Awaits (w : World) : Prop :=
  w.tc.cbRegistered = true → w.tc.state = .attaching → w.tc.pending = 1 ∧ w.tc.attachTimeout = true

theorem awaits_effect {w w' : World} {op : Op} {ev : List CredEvent} (h : Effect w op w' ev)
    (ha : Awaits w) : Awaits w' := by
  intro hcb hst
  cases h with
  | idle | unclaimed => exact ha hcb hst
  | stage => exact ha hcb hst
  | start ret =>
    unfold networkProvThreadConfigInit at hst
    dsimp only at hst
    split at hst <;> cases hst
  | stop => cases hcb
  | attaching => exact ⟨rfl, rfl⟩
  | lapsed _ hp => exact absurd (ha hcb hst).1 hp
  | reset | refused | already | erase | attached | timedOut => cases hst

/-- **Attaching always ends.** In every state reached in which the handler is initialised
and Attaching is reported, the outcome is pending and the timeout is armed; firing, it
reports the failure. -/
theorem attaching_ends {active : Option DatasetTlvs} {t : List Step} {w : World}
    (h : threadMachine.Run (.boot active) t w) (hcb : w.tc.cbRegistered = true)
    (hst : w.tc.state = .attaching) :
    w.tc.pending = 1 ∧ w.tc.attachTimeout = true ∧
      ∃ w' o, step w .attachTimeout = some (w', o) ∧
        o.events = [.credFail .wifiNetworkNotFound] ∧ w'.tc.state = .attachingFailed := by
  have hinv : Awaits w := h.invariant (P := Awaits) (fun hf => by cases hf)
    fun e he ih => awaits_effect (ok_effect he) ih
  obtain ⟨hp, ha⟩ := hinv hcb hst
  have hfire : step w .attachTimeout =
      World.answer (0, none) (attachTimeoutFn { w.begin with tc := { w.tc with attachTimeout := false } }) := by
    simp [step, ha]
  rw [attachTimeoutFn_pending hp] at hfire
  exact ⟨hp, ha, _, _, hfire, rfl, rfl⟩

/-- An Apply that OpenThread accepts, after one that it refused. -/
theorem attaching_ends_test : ∃ t w, threadMachine.Run (.boot none) t w ∧
    t.map (·.lbl) = [.start 0, setChannel 15, apply refuseEnv, apply okEnv, .stateChanged true .detached] ∧
    w.tc.pending = 1 ∧ w.tc.attachTimeout = true ∧
      ∃ w' o, step w .attachTimeout = some (w', o) ∧
        o.events = [.credFail .wifiNetworkNotFound] ∧ w'.tc.state = .attachingFailed := by
  have hr := threadMachine.run_get (.boot none)
    [.start 0, setChannel 15, apply refuseEnv, apply okEnv, .stateChanged true .detached] (by rfl)
  exact ⟨_, _, hr, by rfl, attaching_ends hr (by rfl) (by rfl)⟩

end NetworkProv.Thread
