import NetworkProv.Manager.Mgr

/-!
# The life cycle of the service, with calls from callbacks

Between END and DEINIT `network_prov_mgr_deinit` has stopped the service but
not yet cleared `inited`. The application hears of END in that very moment, and
a start or another deinit from there is accepted as at any other time.

* `lifecycle_step`: every other step keeps the flags, the instance, the events
  and the scheme calls consistent.
* `lifecycle_iff`: they are consistent throughout a run exactly when no deinit
  comes back from END to a manager that is started, or not initialised.
* `start_in_deinit`: a start in the END of a deinit.
-/
namespace NetworkProv.Manager

open NetworkProv.Core

variable {S T N I E : Type}

/-- Where a sequence of events leads. -/
inductive Phase
  | off
  | idle
  | running
  deriving DecidableEq

/-- INIT and DEINIT in turn, START and END in turn and in between. -/
def Phase.next : Phase → CbEvent → Option Phase
  | .off, .init => some .idle
  | .idle, .start => some .running
  | .running, .end_ => some .idle
  | .idle, .deinit => some .off
  | p, .net _ => some p
  | _, _ => none

def Phase.run : Phase → List CbEvent → Option Phase
  | p, [] => some p
  | p, e :: es => (p.next e).bind fun p' => p'.run es

/-- Each start of a scheme is followed by one stop of that scheme; the scheme is the one
started last, if it has not been stopped. -/
inductive Matched : List (SchemeOp S) → Option S → Prop
  | nil : Matched [] none
  | started {ops : List (SchemeOp S)} (s : S) : Matched ops none → Matched (ops ++ [.started s]) (some s)
  | stopped {ops : List (SchemeOp S)} (s : S) : Matched ops (some s) → Matched (ops ++ [.stopped s]) none

/-- A started service has an initialised manager, a live instance and the scheme it was
started with. -/
def Served (s : State S T N) : Prop :=
  s.mgr.started = true → s.mgr.inited = true ∧ (∃ id, s.mgr.pc = some id ∧ id ∈ s.live) ∧
    ∃ scheme, s.mgr.scheme = some scheme ∧ s.running = some scheme

structure Lawful (t : List (Step S T N I E)) : Prop where
  served : ∀ e ∈ t, Served e.post
  init : ∀ e ∈ t, ∀ c, e.lbl = .init c → e.pre.mgr.started = true → e.out.ret ≠ 0
  events : (Phase.off.run (t.flatMap (·.out.events))).isSome
  schemes : ∃ r, Matched (t.flatMap (·.out.ops)) r

/-- A deinit comes back from its END to a manager that is no longer initialised, or is
started again. -/
def Overtaken (e : Step S T N I E) : Prop :=
  (∃ i st, e.lbl = .ret i ∧ e.pre.stack = .deinit :: st) ∧
    (e.pre.mgr.inited = false ∨ e.pre.mgr.started = true)

/-! ## Steps -/

def State.phase (s : State S T N) : Phase :=
  if s.mgr.inited then if s.mgr.started then .running else .idle else .off

structure Consistent (s : State S T N) : Prop where
  served : Served s
  stopped : s.mgr.started = false → s.running = none

theorem Consistent.notStarted {s : State S T N} (h : Consistent s) (hi : s.mgr.inited = false) :
    s.mgr.started = false := by
  by_contra hs
  rw [(h.served (by simpa using hs)).1] at hi
  cases hi

theorem Consistent.running {s : State S T N} (h : Consistent s) (hs : s.mgr.started = true)
    {scheme : S} (hsch : s.mgr.scheme = some scheme) : s.running = some scheme := by
  obtain ⟨-, -, scheme', h1, h2⟩ := h.served hs
  rw [hsch] at h1
  cases h1; exact h2

theorem Phase.run_net (p : Phase) (evs : List NetEvent) : p.run (evs.map .net) = some p := by
  induction evs with
  | nil => rfl
  | cons e evs ih =>
    have hn : p.next (.net e) = some p := by cases p <;> rfl
    simp [Phase.run, hn, ih]

theorem Phase.run_append (p : Phase) (xs ys : List CbEvent) :
    p.run (xs ++ ys) = (p.run xs).bind fun q => q.run ys := by
  induction xs generalizing p with
  | nil => rfl
  | cons x xs ih =>
    simp only [List.cons_append, Phase.run, Option.bind_assoc, ih]

/-- What a step keeps in order. -/
structure InOrder (s s' : State S T N) (l : Label I E S) (o : Output S) : Prop where
  post : Consistent s'
  events : s.phase.run o.events = some s'.phase
  schemes : ∀ ops, Matched ops s.running → Matched (ops ++ o.ops) s'.running
  init : ∀ c, l = .init c → s.mgr.started = true → o.ret ≠ 0

/-- Nothing the life cycle depends on differs. -/
structure SameService (s s' : State S T N) : Prop where
  inited : s'.mgr.inited = s.mgr.inited
  started : s'.mgr.started = s.mgr.started
  scheme : s'.mgr.scheme = s.mgr.scheme
  pc : s'.mgr.pc = s.mgr.pc
  live : s'.live = s.live
  running : s'.running = s.running

theorem SameService.inOrder {s s' : State S T N} {l : Label I E S} {o : Output S}
    (h : SameService s s') (hc : Consistent s) (hev : ∃ evs : List NetEvent, o.events = evs.map .net)
    (hops : o.ops = []) (hi : ∀ c, l = .init c → o.ret ≠ 0) : InOrder s s' l o := by
  obtain ⟨h1, h2, h3, h4, h5, h6⟩ := h
  obtain ⟨evs, hev⟩ := hev
  refine ⟨⟨?_, ?_⟩, ?_, ?_, fun c hl _ => hi c hl⟩
  · unfold Served
    rw [h1, h2, h3, h4, h5, h6]
    exact hc.served
  · rw [h2, h6]
    exact hc.stopped
  · rw [hev, Phase.run_net, State.phase, State.phase, h1, h2]
  · intro ops hm
    rw [hops, List.append_nil, h6]
    exact hm

/-- Stopping the service, whoever does it. -/
theorem Consistent.torndown {s s' : State S T N} {l : Label I E S} {scheme : S} (hc : Consistent s)
    (hs : s.mgr.started = true) (hsch : s.mgr.scheme = some scheme)
    (hi : s'.mgr.inited = s.mgr.inited) (hs' : s'.mgr.started = false) (hr' : s'.running = none)
    (hl : ∀ c, l ≠ .init c) : InOrder s s' l ⟨0, [.end_], [.stopped scheme], []⟩ := by
  have hin := (hc.served hs).1
  refine ⟨⟨fun h => ?_, fun _ => hr'⟩, ?_, ?_, fun c h => absurd h (hl c)⟩
  · rw [hs'] at h; cases h
  · simp [Phase.run, State.phase, hi, hin, hs, hs', Phase.next]
  · intro ops hm
    rw [hc.running hs hsch] at hm
    rw [hr']
    exact .stopped scheme hm

/-- A manager that is not started, before and after. -/
theorem Consistent.unstarted {s s' : State S T N} {l : Label I E S} {o : Output S}
    (hc : Consistent s) (hs : s.mgr.started = false) (hs' : s'.mgr.started = false)
    (hr : s'.running = s.running) (hops : o.ops = [])
    (hev : s.phase.run o.events = some s'.phase) : InOrder s s' l o := by
  refine ⟨⟨fun h => ?_, fun _ => hr.trans (hc.stopped hs)⟩, hev, ?_, fun c _ h => ?_⟩
  · rw [hs'] at h; cases h
  · intro ops hm
    rw [hops, List.append_nil, hr]
    exact hm
  · rw [hs] at h; cases h

theorem lifecycle_step {D : Device S T N I E} {e : Step S T N I E} (he : (mgrMachine D).Ok e)
    (hc : Consistent e.pre) (hn : ¬ Overtaken e) : InOrder e.pre e.post e.lbl e.out := by
  have heff := ok_effect he
  obtain ⟨s, l, o, s'⟩ := e
  dsimp only at heff hc ⊢
  cases heff with
  | idle l ret hid =>
    refine SameService.inOrder ⟨rfl, rfl, rfl, rfl, rfl, rfl⟩ hc ⟨[], rfl⟩ rfl fun c hl => ?_
    subst hl
    exact hid.1
  | unsettled c scheme hi hcfg hr =>
    have hs := hc.notStarted hi
    exact hc.unstarted hs hs rfl rfl (by simp [Phase.run, Output.of, State.phase, State.configured, hi])
  | inited c scheme hi hcfg =>
    have hs := hc.notStarted hi
    exact hc.unstarted hs hs rfl rfl
      (by simp [Phase.run, Phase.next, Output.event, State.phase, State.configured, hi, hs])
  | deinited hi hs =>
    exact hc.unstarted hs hs rfl rfl
      (by simp [Phase.run, Phase.next, Output.event, State.phase, hi, hs])
  | deiniting scheme hi hs hsch =>
    exact hc.torndown hs hsch rfl rfl rfl fun c h => by cases h
  | noInstance e hi hs =>
    exact hc.unstarted hs hs rfl rfl (by simp [Phase.run, Output.of, State.phase])
  | failed e ret tr net hi hs hr htr hnet =>
    exact hc.unstarted hs hs rfl rfl (by simp [Phase.run, Output.of, State.phase, State.unwound, hi, hs])
  | begun e scheme tr net hi hs hsch hnet ht =>
    refine ⟨⟨fun _ => ⟨hi, ⟨s.next, rfl, by simp [State.begun]⟩, scheme, hsch, rfl⟩, fun h => by cases h⟩,
      by simp [Phase.run, Phase.next, State.phase, State.begun, hi, hs], fun ops hm => ?_,
      fun c h => by cases h⟩
    rw [hc.stopped hs] at hm
    exact .started scheme hm
  | stopped scheme hs _ hsch => exact hc.torndown hs hsch rfl rfl rfl fun c h => by cases h
  | fired scheme hw hs hsch => exact hc.torndown hs hsch rfl rfl rfl fun c h => by cases h
  | deferred | autoStopOff | taken | waits | lapsed | given | woken | workReturns =>
    exact SameService.inOrder ⟨rfl, rfl, rfl, rfl, rfl, rfl⟩ hc ⟨[], rfl⟩ rfl fun c h => by cases h
  | quiet i net evs hi hev =>
    exact SameService.inOrder ⟨rfl, rfl, rfl, rfl, rfl, rfl⟩ hc ⟨evs, rfl⟩ rfl fun c h => by cases h
  | success i net evs hi hev =>
    exact SameService.inOrder ⟨rfl, rfl, rfl, rfl, rfl, rfl⟩ hc ⟨evs, rfl⟩ rfl fun c h => by cases h
  | deinitReturns i st hst =>
    have hpre : s.mgr.inited = true ∧ s.mgr.started = false := by
      by_contra hx
      refine hn ⟨⟨i, st, rfl, hst⟩, ?_⟩
      by_cases hi : s.mgr.inited = true
      · exact .inr (by simpa [hi] using hx)
      · exact .inl (by simpa using hi)
    exact hc.unstarted hpre.2 hpre.2 rfl rfl
      (by simp [Phase.run, Phase.next, Output.event, State.phase, hpre])

/-- The event with which an overtaken deinit ends is out of order. -/
theorem Overtaken.disorder {D : Device S T N I E} {e : Step S T N I E} (he : (mgrMachine D).Ok e)
    (h : Overtaken e) : e.pre.phase.run e.out.events = none := by
  obtain ⟨⟨i, st, hl, hst⟩, hpre⟩ := h
  have heff := ok_effect he
  obtain ⟨s, l, o, s'⟩ := e
  dsimp only at heff hl hst hpre ⊢
  subst hl
  cases heff with
  | idle _ _ hid => cases hid
  | given | woken | workReturns => simp_all
  | deinitReturns =>
    rcases hpre with hi | hs
    · simp [State.phase, hi, Output.event, Phase.run, Phase.next]
    · cases hi : s.mgr.inited <;>
        simp [State.phase, hi, hs, Output.event, Phase.run, Phase.next]

/-! ## Runs -/

/-- What holds of history and state as long as no deinit has been overtaken. -/
structure Orderly (t : List (Step S T N I E)) (s : State S T N) : Prop where
  lawful : Lawful t
  consistent : Consistent s
  events : Phase.off.run (t.flatMap (·.out.events)) = some s.phase
  schemes : Matched (t.flatMap (·.out.ops)) s.running

theorem Orderly.boot (tr : T) (net : N) :
    Orderly ([] : List (Step S T N I E)) (State.boot tr net) where
  lawful := ⟨by simp, by simp, rfl, none, .nil⟩
  consistent := ⟨fun h => (by cases h), fun _ => rfl⟩
  events := rfl
  schemes := .nil

theorem Orderly.snoc {D : Device S T N I E} {t : List (Step S T N I E)} {e : Step S T N I E}
    (ho : Orderly t e.pre) (he : (mgrMachine D).Ok e) (hn : ¬ Overtaken e) :
    Orderly (t ++ [e]) e.post := by
  have hs := lifecycle_step he ho.consistent hn
  have hev : Phase.off.run ((t ++ [e]).flatMap (·.out.events)) = some e.post.phase := by
    rw [List.flatMap_append, Phase.run_append, ho.events]
    simpa using hs.events
  have hops : Matched ((t ++ [e]).flatMap (·.out.ops)) e.post.running := by
    rw [List.flatMap_append]
    simpa using hs.schemes _ ho.schemes
  refine ⟨⟨?_, ?_, by rw [hev]; rfl, _, hops⟩, hs.post, hev, hops⟩
  · rw [forall_mem_snoc]
    exact ⟨ho.lawful.served, hs.post.served⟩
  · rw [forall_mem_snoc]
    exact ⟨ho.lawful.init, hs.init⟩

theorem orderly_run {D : Device S T N I E} {tr : T} {net : N} {t : List (Step S T N I E)}
    {s : State S T N} (hr : (mgrMachine D).Run (.boot tr net) t s) (hn : ∀ e ∈ t, ¬ Overtaken e) :
    Orderly t s := by
  refine hr.history (P := fun t s => (∀ e ∈ t, ¬ Overtaken e) → Orderly t s)
    (fun _ => .boot tr net) (fun t e _ he ih hn => ?_) hn
  exact (ih fun x hx => hn x (by simp [hx])).snoc he (hn e (by simp))

/-- Once a deinit has been overtaken, the events are never in order again. -/
theorem overtaken_run {D : Device S T N I E} {tr : T} {net : N} {t : List (Step S T N I E)}
    {s : State S T N} (hr : (mgrMachine D).Run (.boot tr net) t s) (hx : ∃ e ∈ t, Overtaken e) :
    Phase.off.run (t.flatMap (·.out.events)) = none := by
  refine hr.history (P := fun t _ => (∃ e ∈ t, Overtaken e) →
    Phase.off.run (t.flatMap (·.out.events)) = none) ?_ (fun t e hrt he ih hx => ?_) hx
  · intro h
    obtain ⟨e, hm, -⟩ := h
    cases hm
  rw [List.flatMap_append, Phase.run_append]
  by_cases ht : ∃ x ∈ t, Overtaken x
  · rw [ih ht]; rfl
  · have ho := orderly_run hrt fun x hm hov => ht ⟨x, hm, hov⟩
    obtain ⟨x, hm, hov⟩ := hx
    rcases List.mem_append.mp hm with hm | hm
    · exact absurd ⟨x, hm, hov⟩ ht
    · rw [List.mem_singleton.mp hm] at hov
      rw [ho.events]
      simpa using hov.disorder he

/-- **When the life cycle is in order.** In any run of the API calls, success reports and
timer firings, with calls made from inside event callbacks at any depth: the flags, the
instance, the events and the scheme calls are consistent throughout iff no deinit comes
back from its END to find the manager started, or deinitialised by a call from there. -/
theorem lifecycle_iff (D : Device S T N I E) (tr : T) (net : N) (t : List (Step S T N I E))
    (s : State S T N) (hr : (mgrMachine D).Run (.boot tr net) t s) :
    Lawful t ↔ ∀ e ∈ t, ¬ Overtaken e := by
  constructor
  · intro hl e he hov
    have hev := hl.events
    rw [overtaken_run hr ⟨e, he, hov⟩] at hev
    cases hev
  · intro hn
    exact (orderly_run hr hn).lawful

/-- A stop from the callback for CRED_SUCCESS. -/
theorem lifecycle_iff_test : ∃ t s, (mgrMachine demo).Run (.boot () ()) t s ∧
    t.map (·.lbl) = [initWith true, .start goodStart, .net .credSuccess, .stop, .ret 0, .deinit] ∧
    (Lawful t ↔ ∀ e ∈ t, ¬ Overtaken e) := by
  have hr := (mgrMachine demo).run_get (.boot () ())
    [initWith true, .start goodStart, .net .credSuccess, .stop, .ret 0, .deinit] (by rfl)
  exact ⟨_, _, hr, by rfl, lifecycle_iff demo () () _ _ hr⟩

/-- **A start in the END of a deinit.** It is accepted; then the deinit goes on, and leaves
a service running without a manager, which the next init does not notice. -/
theorem start_in_deinit : ∃ t s, (mgrMachine demo).Run (.boot () ()) t s ∧
    t.map (·.lbl) = [initWith true, .start goodStart, .deinit, .start goodStart, .ret 0,
      initWith false] ∧
    t.map (·.out.ret) = [0, 0, 0, 0, 0, 0] ∧
    t.flatMap (·.out.events) = [.init, .start, .end_, .start, .deinit, .init] ∧
    s.mgr.started = true ∧ s.running = some true ∧ s.mgr.scheme = some false ∧
    ¬ Lawful t := by
  have hr := (mgrMachine demo).run_get (.boot () ())
    [initWith true, .start goodStart, .deinit, .start goodStart, .ret 0, initWith false] (by rfl)
  refine ⟨_, _, hr, by rfl, by rfl, by rfl, by rfl, by rfl, by rfl, fun hl => ?_⟩
  exact absurd hl.events (by decide)

end NetworkProv.Manager
