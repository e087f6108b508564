import NetworkProv.Thread.FailedApply
import NetworkProv.Thread.Outcome

/-!
# What a success and a reset leave

* `success_commits`: CRED_SUCCESS comes only of an Apply that OpenThread accepted and that
  was not given up; what is committed is the dataset that OpenThread took last.
* `reset_silences`: after a reset, an erase or a stop nothing is reported and nothing
  committed until the next Apply.
* `programmatic_as_wire`: a call of `set_and_apply` comes to the requests it stands for.
-/
namespace NetworkProv.Thread

open NetworkProv.Core NetworkProv.Wifi

/-! ## Success -/

/-- An Apply of `d`, which OpenThread takes as the active dataset. -/
def TakenBy (d : DatasetTlvs) (e : Step) : Prop := ∃ env, opOf e = .apply d env ∧ env.setActiveTlvs = 0

/-- The committed dataset stays. -/
def KeepsDataset (e : Step) : Prop := (∀ d, ¬ TakenBy d e) ∧ opOf e ≠ .erase 0

/-- An Apply that OpenThread accepts: it takes the dataset and enables Thread. -/
def BeginsAttach (e : Step) : Prop := ∃ d env, opOf e = .apply d env ∧ env.Accepts

/-- No attempt is given up: neither a start, nor a reset, nor an erase. -/
def GoesOn (e : Step) : Prop := (opOf e).begins ≠ some false

/-- An Apply was accepted and has not been given up, and `d` is the dataset taken last. -/
def Attempted (t : List Step) : Prop := Since BeginsAttach GoesOn t ∧ ∃ d, Since (TakenBy d) KeepsDataset t

theorem kept_active {e : Step} (he : threadMachine.Ok e) (hk : KeepsDataset e) : e.post.active = e.pre.active := by
  have heff := ok_effect he
  obtain ⟨htaken, herase⟩ := hk
  cases hop : opOf e with
  | apply d env =>
    rw [hop] at heff
    rw [committed_effect heff]
    exact if_neg fun hset => htaken d ⟨env, hop, hset⟩
  | erase ret =>
    rw [hop] at heff herase
    have hret : ret ≠ 0 := fun h0 => herase (by rw [h0])
    generalize e.post = w' at heff
    generalize e.out.events = ev at heff
    cases heff
    exact if_neg hret
  | idle | start | stop | reset | stage | attached | timeout =>
    rw [hop] at heff
    exact keeps_active heff rfl

theorem taken_active {t : List Step} {e : Step} (he : threadMachine.Ok e)
    (ih : ∀ d, Since (TakenBy d) KeepsDataset t → e.pre.active = some d) (d : DatasetTlvs)
    (hs : Since (TakenBy d) KeepsDataset (t ++ [e])) : e.post.active = some d := by
  rcases Since.snoc_iff.1 hs with ⟨env, hop, hset⟩ | ⟨hs, hk⟩
  · have heff := ok_effect he
    rw [hop] at heff
    rw [committed_effect heff]
    exact if_pos hset
  · rw [kept_active he hk]
    exact ih d hs

/-- The operation is an Apply that OpenThread accepts, or leaves alone the one that is pending. -/
def Attempting (w : World) (op : Op) : Prop :=
  (∃ d env, op = .apply d env ∧ env.Accepts) ∨ w.tc.pending = 1 ∧ op.begins ≠ some false

theorem pending_effect {w w' : World} {op : Op} {ev : List CredEvent} (h : Effect w op w' ev)
    (hp : w'.tc.pending = 1) : Attempting w op := by
  cases h with
  | attaching d e _ ha => exact .inl ⟨d, e, rfl, ha⟩
  | idle | stop | stage | refused | unclaimed | lapsed => exact .inr ⟨hp, fun hn => by cases hn⟩
  | start ret =>
    unfold networkProvThreadConfigInit at hp
    dsimp only at hp
    split at hp <;> cases hp
  | reset | already | erase | attached | timedOut => cases hp

theorem success_effect {w w' : World} {op : Op} {ev : List CredEvent} (h : Effect w op w' ev)
    (hs : .credSuccess ∈ ev) : Attempting w op := by
  cases h with
  | already d e _ ha => exact .inl ⟨d, e, rfl, ha⟩
  | attached _ hp => exact .inr ⟨hp, fun hn => by cases hn⟩
  | _ => simp at hs

theorem Attempted.snoc {t : List Step} {e : Step} (h : Attempting e.pre (opOf e))
    (ih : e.pre.tc.pending = 1 → Attempted t) : Attempted (t ++ [e]) := by
  rcases h with ⟨d, env, hop, ha⟩ | ⟨hp, hgo⟩
  · exact ⟨Since.now ⟨d, env, hop, ha⟩, d, Since.now ⟨env, hop, ha.1⟩⟩
  · obtain ⟨hb, d, hd⟩ := ih hp
    refine ⟨hb.snoc hgo, ?_⟩
    by_cases htaken : ∃ d', TakenBy d' e
    · obtain ⟨d', hd'⟩ := htaken
      exact ⟨d', Since.now hd'⟩
    · exact ⟨d, hd.snoc ⟨fun d' hd' => htaken ⟨d', hd'⟩, fun herase => hgo (by rw [herase]; rfl)⟩⟩

/-- CRED_SUCCESS comes of an attempt, and the dataset taken last is the one committed. -/
def SuccessCommits (t : List Step) (e : Step) : Prop :=
  .credSuccess ∈ e.out.events → Since BeginsAttach GoesOn (t ++ [e]) ∧
    ∃ d, Since (TakenBy d) KeepsDataset (t ++ [e]) ∧ e.post.active = some d

/-- **Success commits.** In every run, whatever OpenThread answers and whenever it changes roles:
CRED_SUCCESS is reported only after an Apply that OpenThread accepted and that no start, reset or
erase has given up since, with the dataset committed that OpenThread took last; and from then
on that dataset stays committed until OpenThread takes another or erases it. -/
theorem success_commits {active : Option DatasetTlvs} {t : List Step} {w : World}
    (h : threadMachine.Run (.boot active) t w) :
    Always SuccessCommits t ∧ ∀ d, Since (TakenBy d) KeepsDataset t → w.active = some d := by
  have hnil : ∀ d, ¬ Since (TakenBy d) KeepsDataset [] := by
    rintro d ⟨t₁, x, t₂, heq, -⟩
    simp at heq
  obtain ⟨⟨hd, -⟩, hall⟩ := h.always (C := fun _ => True) (Q := SuccessCommits)
    (P := fun t w => (∀ d, Since (TakenBy d) KeepsDataset t → w.active = some d) ∧
      (w.tc.pending = 1 → Attempted t))
    ⟨fun d hs => absurd hs (hnil d), fun hp => by cases hp⟩
    (fun t e _ he ⟨hd, hp⟩ _ => by
      have heff := ok_effect he
      have hd' := taken_active he hd
      refine ⟨⟨hd', fun hp' => Attempted.snoc (pending_effect heff hp') hp⟩, fun hs => ?_⟩
      obtain ⟨hb, d, hs⟩ := Attempted.snoc (success_effect heff hs) hp
      exact ⟨hb, d, hs, hd' d hs⟩)
    fun _ _ => trivial
  exact ⟨hall, hd⟩

/-- A second Apply that Thread refuses to be enabled for, and the attach of the first. -/
theorem success_commits_test : ∃ t w, threadMachine.Run (.boot none) t w ∧
    t.map (·.lbl) = [.start 0, setChannel 15, apply okEnv, setChannel 16, apply { okEnv with setEnabled := 1 },
      .stateChanged true .child] ∧
    (t.getLast?.map (·.out.events)) = some [.credSuccess] ∧ w.active = some (channelTlvs 16) ∧
    (Always SuccessCommits t ∧ ∀ d, Since (TakenBy d) KeepsDataset t → w.active = some d) := by
  have hr := threadMachine.run_get (.boot none) [.start 0, setChannel 15, apply okEnv, setChannel 16,
    apply { okEnv with setEnabled := 1 }, .stateChanged true .child] (by rfl)
  exact ⟨_, _, hr, by rfl, by rfl, by rfl, success_commits hr⟩

/-! ## Reset -/

/-- The operation ends what is going on. -/
def Op.ends : Op → Bool
  | .reset | .erase _ | .stop => true
  | _ => false

/-- Nothing is pending and Dettached is reported, or the handler is not initialised. -/
def Rests (w : World) : Prop :=
  (w.tc.pending ≠ 1 ∧ w.tc.state = .dettached) ∨ (w.tc.cbRegistered = false ∧ w.tc.attachTimeout = false)

theorem rests_of_ends {w w' : World} {op : Op} {ev : List CredEvent} (h : Effect w op w' ev) (he : op.ends = true) :
    Rests w' ∧ ev = [] := by
  cases h with
  | reset | erase => exact ⟨.inl ⟨Nat.zero_ne_one, rfl⟩, rfl⟩
  | stop => exact ⟨.inr ⟨rfl, rfl⟩, rfl⟩
  | _ => cases he

theorem rests_effect {w w' : World} {op : Op} {ev : List CredEvent} (h : Effect w op w' ev)
    (hop : ∀ d env, op ≠ .apply d env) (hr : Rests w) : Rests w' ∧ ev = [] := by
  cases h with
  | idle | unclaimed => exact ⟨hr, rfl⟩
  | stage d hcb =>
    refine ⟨.inl ?_, rfl⟩
    exact hr.resolve_right fun hn => absurd (hcb.symm.trans hn.1) Bool.noConfusion
  | start ret =>
    refine ⟨.inl ?_, rfl⟩
    unfold networkProvThreadConfigInit
    dsimp only
    split <;> exact ⟨Nat.zero_ne_one, rfl⟩
  | reset | erase => exact ⟨.inl ⟨Nat.zero_ne_one, rfl⟩, rfl⟩
  | stop => exact ⟨.inr ⟨rfl, rfl⟩, rfl⟩
  | lapsed ha hp =>
    refine ⟨.inl ?_, rfl⟩
    exact hr.resolve_right fun hn => absurd (ha.symm.trans hn.2) Bool.noConfusion
  | attached hcb hp =>
    rcases hr with ⟨hn, -⟩ | ⟨hn, -⟩
    · exact absurd hp hn
    · exact absurd (hcb.symm.trans hn) Bool.noConfusion
  | timedOut ha hp =>
    rcases hr with ⟨hn, -⟩ | ⟨-, hn⟩
    · exact absurd hp hn
    · exact absurd (ha.symm.trans hn) Bool.noConfusion
  | refused d e => exact absurd rfl (hop d e)
  | attaching d e => exact absurd rfl (hop d e)
  | already d e => exact absurd rfl (hop d e)

/-- Nothing is reported or committed, and a poll is answered Dettached. -/
structure Silent (e : Step) : Prop where
  events : e.out.events = []
  active : opOf e ≠ .erase 0 → e.post.active = e.pre.active
  status : ∀ r, e.out.resp = some (.respGetThreadStatus r) → r.threadState = .dettached

/-- **A reset is final.** From any state, after a reset, an erase or a stop, whatever comes then
(datasets staged, polls, role changes, timeouts, starts and stops), as long as it is no Apply:
nothing is reported, what is committed stays unless it is erased, and every poll is answered
Dettached. -/
theorem reset_silences {s w : World} {e₀ : Step} {t : List Step} (h : threadMachine.Run s (e₀ :: t) w)
    (h0 : (opOf e₀).ends = true) (ht : ∀ e ∈ t, ∀ d env, opOf e ≠ .apply d env) : ∀ e ∈ t, Silent e := by
  obtain ⟨rfl, hok, hrun⟩ := Machine.run_cons h
  obtain ⟨-, hall⟩ := hrun.always (P := fun _ w => Rests w) (Q := fun _ e => Silent e)
    (rests_of_ends (ok_effect hok) h0).1 (fun t e _ he hr hop => by
      obtain ⟨hr', hev⟩ := rests_effect (ok_effect he) hop hr
      refine ⟨hr', hev, fun herase => kept_active he ⟨?_, herase⟩, fun r hresp => ?_⟩
      · rintro d ⟨env, hd, -⟩
        exact hop d env hd
      · obtain ⟨hst, hcb⟩ := status_resp he hresp
        rw [hst]
        exact (hr.resolve_right fun hn => absurd (hcb.symm.trans hn.1) Bool.noConfusion).2) ht
  exact fun e he => (always_iff_forall.1 hall) e he

/-- A reset while an attempt is pending; then a dataset is staged and the node attaches. -/
theorem reset_silences_test : ∃ t w, threadMachine.Run
      { stagedWorld with tc := { stagedWorld.tc with pending := 1, state := .attaching, attachTimeout := true } } t w ∧
    t.map (·.lbl) = [.resetSmState, setChannel 16, .stateChanged true .child, .config okEnv (some .cmdGetThreadStatus)] ∧
    ∀ e ∈ t.tail, Silent e := by
  have hr := threadMachine.run_get
    { stagedWorld with tc := { stagedWorld.tc with pending := 1, state := .attaching, attachTimeout := true } }
    [.resetSmState, setChannel 16, .stateChanged true .child, .config okEnv (some .cmdGetThreadStatus)] (by rfl)
  refine ⟨_, _, hr, by rfl, reset_silences hr rfl fun e he d env => ?_⟩
  rcases List.mem_cons.1 he with rfl | he
  · exact fun hn => by cases hn
  rcases List.mem_cons.1 he with rfl | he
  · exact fun hn => by cases hn
  · rw [List.mem_singleton.1 he]
    exact fun hn => by cases hn

/-! ## The programmatic path -/

/-- Its answers are encoded. -/
def OtEnv.encoded (e : OtEnv) : OtEnv := { e with encodeRet := 0 }

/-- The requests a call of `set_and_apply` stands for. -/
def Input.asWire : Input → List Input
  | .setAndApply _ none => []
  | .setAndApply e (some d) =>
    .config e.encoded (some (.cmdSetThreadConfig d)) ::
      if (datasetOf d).isSome then [.config e.encoded (some .cmdApplyThreadConfig)] else []
  | i => [i]

/-- The step comes to the requests `t`: what a call reports is reported for them, it answers 0
exactly if an Apply is answered success, and any other input is left as it is. -/
structure AsWire (e : Step) (t : List Step) : Prop where
  labels : t.map (·.lbl) = e.lbl.asWire
  events : t.flatMap (·.out.events) = e.out.events
  call : ∀ env d, e.lbl = .setAndApply env d →
    (e.out.ret = 0 ↔ ∃ x ∈ t, x.out.resp = some (.respApplyThreadConfig .success))
  other : (∀ env d, e.lbl ≠ .setAndApply env d) → t = [e]

theorem setAndApply_datasetOf (e : OtEnv) (d : Bytes) (s : CallState) :
    networkProvThreadConfigSetAndApply e (some d) s = match datasetOf d with
      | none => (-EINVAL, s)
      | some d' => (0, (doApplyConfig e { s with tc := s.tc.staged d' }).2) := by
  simp only [networkProvThreadConfigSetAndApply, datasetOf]
  split
  · rfl
  · rename_i hlen
    have hst : (doApplyConfig e { s with tc := s.tc.staged ⟨d, dataset_le hlen⟩ }).1 = .success :=
      doApplyConfig_staged rfl
    exact Prod.ext (if_pos hst) rfl

/-- What a set comes to, and how it is answered. -/
theorem set_ok {w : World} (env : OtEnv) (d : Bytes) (hcb : w.tc.cbRegistered = true) :
    threadMachine.Ok ⟨w, .config env.encoded (some (.cmdSetThreadConfig d)),
      ⟨0, some (.respSetThreadConfig (if (datasetOf d).isSome then .success else .invalidArgument)), []⟩,
      { w with tc := ((datasetOf d).map w.tc.staged).getD w.tc }⟩ := by
  have hst : (doSetConfig d w.tc).1 = if (datasetOf d).isSome then .success else .invalidArgument := by
    unfold doSetConfig datasetOf
    split <;> rfl
  change step w (.config env.encoded (some (.cmdSetThreadConfig d))) = some (_, _)
  simp only [step, hcb, if_true, networkProvThreadConfigHandler, World.begin, hst,
    doSetConfig_datasetOf]
  rfl

/-- And an Apply of what is staged. -/
theorem apply_ok {w : World} (env : OtEnv) (d : DatasetTlvs) (hcb : w.tc.cbRegistered = true) {s : CallState}
    (hs : s = (doApplyConfig env { w.begin with tc := w.tc.staged d }).2) :
    threadMachine.Ok ⟨{ w with tc := w.tc.staged d }, .config env.encoded (some .cmdApplyThreadConfig),
      ⟨0, some (.respApplyThreadConfig .success), s.events⟩, ⟨s.tc, s.active⟩⟩ := by
  subst hs
  have hcb' : (w.tc.staged d).cbRegistered = true := hcb
  have hst : (doApplyConfig env { w.begin with tc := w.tc.staged d }).1 = .success := doApplyConfig_staged rfl
  have hdo : doApplyConfig env.encoded (World.begin { w with tc := w.tc.staged d }) =
      doApplyConfig env { w.begin with tc := w.tc.staged d } := rfl
  change step { w with tc := w.tc.staged d } (.config env.encoded (some .cmdApplyThreadConfig)) = some (_, _)
  simp only [step, hcb', if_true, networkProvThreadConfigHandler, hdo, hst]
  rfl

/-- What a call comes to. -/
theorem setAndApply_asWire {w w' : World} {env : OtEnv} {d : Option Bytes} {o : Output}
    (h : step w (.setAndApply env d) = some (w', o)) :
    ∃ t, threadMachine.Run w t w' ∧ AsWire ⟨w, .setAndApply env d, o, w'⟩ t := by
  have hother : ∀ {p : Prop}, (∀ env' d', Input.setAndApply env d ≠ .setAndApply env' d') → p :=
    fun hn => absurd rfl (hn env d)
  simp only [step] at h
  split at h
  · rename_i hcb
    obtain ⟨rfl, rfl⟩ := answer_eq_some h
    cases d with
    | none =>
      refine ⟨[], .nil, rfl, rfl, fun _ _ _ => ⟨fun h0 => ?_, ?_⟩, hother⟩
      · simp [networkProvThreadConfigSetAndApply, EINVAL] at h0
      · rintro ⟨x, hx, -⟩
        exact absurd hx List.not_mem_nil
    | some d =>
      have hset := set_ok env d hcb
      cases hd : datasetOf d with
      | none =>
        rw [hd] at hset
        simp only [setAndApply_datasetOf, hd]
        refine ⟨_, .one hset, by simp [Input.asWire, hd], rfl, fun _ _ _ => ⟨fun h0 => ?_, ?_⟩, hother⟩
        · simp [EINVAL] at h0
        · rintro ⟨x, hx, hresp⟩
          rw [List.mem_singleton.1 hx] at hresp
          cases hresp
      | some d' =>
        rw [hd] at hset
        simp only [setAndApply_datasetOf, hd]
        have hrun := (Machine.Run.one hset).append (.one (apply_ok env d' hcb rfl))
        refine ⟨_, hrun, by simp [Input.asWire, hd], List.append_nil _, fun _ _ _ => ⟨fun _ => ?_, fun _ => rfl⟩, hother⟩
        exact ⟨_, List.mem_cons_of_mem _ (List.mem_singleton_self _), rfl⟩
  · cases h

/-- **The programmatic path.** Every run, from any state, is a run of requests: a call of
`set_and_apply` does what a set and, if the dataset is accepted, an Apply would do there, with
the same state after it and the same reports. -/
theorem programmatic_as_wire {s w : World} {t : List Step} (h : threadMachine.Run s t w) :
    ∃ ts, threadMachine.Run s ts.flatten w ∧ List.Forall₂ AsWire t ts := by
  obtain ⟨-, hrun⟩ := h.expand (f := id) (I := fun _ => True) (C := fun _ => True) (Q := AsWire)
    (fun e he _ _ => by
      refine ⟨trivial, ?_⟩
      by_cases hl : ∃ env d, e.lbl = .setAndApply env d
      · obtain ⟨w, i, o, w'⟩ := e
        obtain ⟨env, d, rfl⟩ := hl
        exact setAndApply_asWire he
      · have hn : ∀ env d, e.lbl ≠ .setAndApply env d := fun env d h => hl ⟨env, d, h⟩
        refine ⟨[e], Machine.Run.one he, ?_, by simp, fun env d h => absurd h (hn env d), fun _ => rfl⟩
        generalize hi : e.lbl = i at hn
        cases i with
        | setAndApply env d => exact absurd rfl (hn env d)
        | _ => simp [hi, Input.asWire])
    trivial fun _ _ => trivial
  exact hrun

/-- A call that OpenThread takes, one with an empty dataset, and one with none. -/
theorem programmatic_as_wire_test : ∃ t w, threadMachine.Run (.boot none) t w ∧
    t.map (·.out.ret) = [0, 0, -EINVAL, -EINVAL] ∧ w.active = some (channelTlvs 15) ∧
    ∃ ts, threadMachine.Run (.boot none) ts.flatten w ∧ List.Forall₂ AsWire t ts := by
  have hr := threadMachine.run_get (.boot none) [.start 0, .setAndApply okEnv (some [0x00, 0x03, 0x00, 0x00, 15]),
    .setAndApply okEnv (some []), .setAndApply okEnv none] (by rfl)
  exact ⟨_, _, hr, by rfl, by rfl, programmatic_as_wire hr⟩

end NetworkProv.Thread
