import NetworkProv.Manager.Mgr

/-!
# A requested stop

One work item serves both the auto-stop after a success and an explicit stop
that waits for `cleanup_delay_ms`. `network_prov_mgr_disable_auto_stop` cancels
it whichever it is for.

* `pending_step`: every other call keeps a requested stop scheduled.
* `pending_stop_iff`: it stays so until the teardown exactly when no call
  cancels it.
* `disable_cancels_stop`: a service that is never stopped.
-/
namespace NetworkProv.Manager

open NetworkProv.Core

variable {S T N I E : Type}

/-- The call cancels the teardown work while a requested stop waits for it: it turns
auto-stop off, or initialises the manager again (which, with a service running, only an
overtaken deinit makes possible). -/
def CancelsStop (e : Step S T N I E) : Prop :=
  e.pre.stopRequested = true ∧
    ((∃ ms, e.lbl = .disableAutoStop ms ∧ e.pre.mgr.inited = true) ∨
      ∃ c scheme, e.lbl = .init c ∧ e.pre.mgr.inited = false ∧ c.Names scheme)

/-- A requested stop concerns a running service, and is scheduled. -/
structure StopPending (s : State S T N) : Prop where
  started : s.stopRequested = true → s.mgr.started = true
  scheduled : s.stopRequested = true → s.mgr.teardownWork = true

theorem pending_step {D : Device S T N I E} {e : Step S T N I E} (he : (mgrMachine D).Ok e)
    (hp : StopPending e.pre) (hn : ¬ CancelsStop e) : StopPending e.post := by
  have heff := ok_effect he
  obtain ⟨s, l, o, s'⟩ := e
  dsimp only at heff hp ⊢
  have hnot : ∀ {p : Prop}, s.mgr.started = false → s.stopRequested = true → p := by
    intro p hs hr
    rw [hp.started hr] at hs; cases hs
  cases heff with
  | idle => exact hp
  | unsettled c scheme hi hc =>
    exact ⟨hp.started, fun hr => absurd ⟨hr, .inr ⟨c, scheme, rfl, hi, hc⟩⟩ hn⟩
  | inited c scheme hi hc =>
    exact ⟨hp.started, fun hr => absurd ⟨hr, .inr ⟨c, scheme, rfl, hi, hc⟩⟩ hn⟩
  | autoStopOff ms hi => exact ⟨hp.started, fun hr => absurd ⟨hr, .inl ⟨ms, rfl, hi⟩⟩ hn⟩
  | deinited hi hs => exact ⟨hp.started, hnot hs⟩
  | lapsed hw hs => exact ⟨hp.started, hnot hs⟩
  | deiniting | stopped | fired => exact ⟨fun hr => (by cases hr), fun hr => (by cases hr)⟩
  | noInstance | failed | taken | waits | quiet | success | deinitReturns | workReturns =>
    exact ⟨hp.started, hp.scheduled⟩
  | begun => exact ⟨fun _ => rfl, hp.scheduled⟩
  | deferred hs hd => exact ⟨fun _ => hs, fun _ => rfl⟩
  | given | woken => exact ⟨hp.started, fun hr => by simp [hp.scheduled hr]⟩

theorem CancelsStop.dropped {D : Device S T N I E} {e : Step S T N I E} (he : (mgrMachine D).Ok e)
    (h : CancelsStop e) : e.post.stopRequested = true ∧ e.post.mgr.teardownWork = false := by
  obtain ⟨hr, h⟩ := h
  have heff := ok_effect he
  obtain ⟨s, l, o, s'⟩ := e
  dsimp only at heff hr h ⊢
  rcases h with ⟨ms, rfl, hi⟩ | ⟨c, scheme, rfl, hi, hc⟩
  · cases heff with
    | idle _ _ hid =>
      have hin : s.mgr.inited = false := hid
      rw [hi] at hin; cases hin
    | autoStopOff => exact ⟨hr, rfl⟩
  · cases heff with
    | idle _ _ hid =>
      rcases hid.2 with hin | hnone
      · rw [hi] at hin; cases hin
      · exact absurd hc (hnone scheme)
    | unsettled => exact ⟨hr, rfl⟩
    | inited => exact ⟨hr, rfl⟩

/-- **When a requested stop is kept.** In any run, from the call of `stop_provisioning` on
a started service until that service has been torn down the teardown work is scheduled,
iff no `disable_auto_stop` (nor an init) is accepted in between. -/
theorem pending_stop_iff (D : Device S T N I E) (tr : T) (net : N) (t : List (Step S T N I E))
    (s : State S T N) (hr : (mgrMachine D).Run (.boot tr net) t s) :
    (∀ e ∈ t, e.post.stopRequested = true → e.post.mgr.teardownWork = true) ↔
      ∀ e ∈ t, ¬ CancelsStop e := by
  refine hr.forall_iff (P := StopPending) ⟨fun h => (by cases h), fun h => (by cases h)⟩ ?_ ?_
  · intro e he hp hn
    have hpost := pending_step he hp hn
    exact ⟨hpost, hpost.scheduled⟩
  · intro e he _ hp hx
    obtain ⟨h1, h2⟩ := hx.dropped he
    rw [hp h1] at h2; cases h2

/-- A stop that waits, through a late success report. -/
theorem pending_stop_iff_test : ∃ t s, (mgrMachine demo).Run (.boot () ()) t s ∧
    t.map (·.lbl) = [initWith true, .disableAutoStop 500, .start goodStart, .stop,
      .net .credSuccess, .ret 0, .fire, .ret 0] ∧
    ((∀ e ∈ t, e.post.stopRequested = true → e.post.mgr.teardownWork = true) ↔
      ∀ e ∈ t, ¬ CancelsStop e) := by
  have hr := (mgrMachine demo).run_get (.boot () ())
    [initWith true, .disableAutoStop 500, .start goodStart, .stop, .net .credSuccess, .ret 0, .fire,
      .ret 0] (by rfl)
  exact ⟨_, _, hr, by rfl, pending_stop_iff demo () () _ _ hr⟩

/-- **`disable_auto_stop` cancels a requested stop.** The service goes on, with nothing
scheduled to end it. -/
theorem disable_cancels_stop : ∃ t s, (mgrMachine demo).Run (.boot () ()) t s ∧
    t.map (·.lbl) = [initWith true, .disableAutoStop 500, .start goodStart, .stop,
      .disableAutoStop 500] ∧
    t.map (·.out.ret) = [0, 0, 0, 0, 0] ∧ s.mgr.started = true ∧
    ¬ ∀ e ∈ t, e.post.stopRequested = true → e.post.mgr.teardownWork = true := by
  have hr := (mgrMachine demo).run_get (.boot () ())
    [initWith true, .disableAutoStop 500, .start goodStart, .stop, .disableAutoStop 500] (by rfl)
  refine ⟨_, _, hr, by rfl, by rfl, by rfl, fun hp => ?_⟩
  exact absurd (hp _ (List.mem_of_getElem? (i := 4) rfl) rfl) (by decide)

end NetworkProv.Manager
