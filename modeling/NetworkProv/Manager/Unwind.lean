import NetworkProv.Manager.Mgr
import NetworkProv.Transport.Schemes

/-!
# What a failed start leaves of the transport

When `scheme->start` fails, the manager deletes the instance and does not call
`scheme->stop`. What the transport has set up by then stays, its `g_pc` with it,
and its callbacks go on to the deleted instance. The same happens to a service
whose scheme was replaced while it was running. And a stop does not look at what
the platform answers to it.

* `sound_step`: any other step keeps each transport's instance alive, and every
  transport stopped that is not the running one.
* `released_iff`: so it is throughout a run exactly when no start fails inside
  the transport after it has set something up, no teardown stops another scheme
  than the one that runs, and the platform takes down what a stop asks it to.
* `advertising_failure_leaves_gatt`: a BLE start whose advertising fails.
-/
namespace NetworkProv.Manager

open NetworkProv.Core NetworkProv.Transport

/-- The network type's handlers. -/
structure Handlers (N I : Type) where
  init : NetEpEnv → Nat → N → Int × N
  deinit : N → N
  step : N → I → Option (N × List NetEvent)

variable {N I : Type}

/-- The repository's transports, under any handlers. -/
def transportDevice (b : Build) (H : Handlers N I) : Device Scheme Transports N I TransportEnv where
  start e k pc t := k.start b e pc t
  stop k t := k.stop b t
  netInit := H.init
  netDeinit := H.deinit
  netStep := H.step

abbrev TransportStep (N I : Type) := Step Scheme Transports N I TransportEnv

/-- Without a service every transport is stopped, and no callback of any transport reaches
a deleted instance. -/
structure Released (s : State Scheme Transports N) : Prop where
  stopped : s.mgr.started = false → ∀ k, s.trans.Stopped k
  live : ∀ k id, s.trans.gPc k = some id → id ∈ s.live

/-- A start fails inside the transport, after it has set something up. -/
def FailsInside (b : Build) (H : Handlers N I) (x : TransportStep N I) : Prop :=
  x.pre.mgr.inited = true ∧ x.pre.mgr.started = false ∧
    ∃ e k, x.lbl = .start e ∧ x.pre.mgr.scheme = some k ∧
      e.Reaches (transportDevice b H) x.pre.mgr.wifiConnAttempts x.pre.net ∧ LeavesUp b e.scheme k

/-- The call, or the teardown work, tears the service down. -/
def TearsDown (x : TransportStep N I) : Prop :=
  x.pre.mgr.started = true ∧
    (x.lbl = .deinit ∧ x.pre.mgr.inited = true ∨ x.lbl = .stop ∧ x.pre.mgr.cleanupDelayMs = 0 ∨
      x.lbl = .fire)

/-- It stops another scheme than the one that runs. -/
def StopsOther (x : TransportStep N I) : Prop :=
  TearsDown x ∧ x.pre.mgr.scheme ≠ x.pre.running

/-- The platform does not take down all that it is asked to. -/
def LeftUp (x : TransportStep N I) : Prop :=
  TearsDown x ∧ ∃ k, x.pre.mgr.scheme = some k ∧ KeepsUp x.pre.trans k

/-- The running scheme, if any, serves the manager's instance; the others are stopped. -/
structure Sound (b : Build) (s : State Scheme Transports N) : Prop where
  fits : s.trans.Fits b
  started : s.mgr.started = s.running.isSome
  stopped : ∀ k, s.running ≠ some k → s.trans.Stopped k
  serves : ∀ k, s.running = some k → ∃ id, s.trans.gPc k = some id ∧ s.mgr.pc = some id ∧ id ∈ s.live

variable {b : Build} {H : Handlers N I}

theorem Sound.running_none {s : State Scheme Transports N} (h : Sound b s)
    (hs : s.mgr.started = false) : s.running = none := by
  have hr := h.started
  rw [hs] at hr
  exact Option.isNone_iff_eq_none.1 (by simpa using hr.symm)

theorem Sound.released {s : State Scheme Transports N} (h : Sound b s) : Released s := by
  refine ⟨fun hs k => h.stopped k (by rw [h.running_none hs]; exact fun hf => by cases hf),
    fun k id hg => ?_⟩
  by_cases hk : s.running = some k
  · obtain ⟨id', hg', -, hl⟩ := h.serves k hk
    rw [hg] at hg'
    cases hg'
    exact hl
  · rw [(h.stopped k hk).gPc] at hg
    cases hg

/-- Nothing the transports depend on differs. -/
theorem Sound.frame {s s' : State Scheme Transports N} (h : Sound b s) (ht : s'.trans = s.trans)
    (hr : s'.running = s.running) (hs : s'.mgr.started = s.mgr.started) (hp : s'.mgr.pc = s.mgr.pc)
    (hl : s'.live = s.live) : Sound b s' := by
  obtain ⟨h1, h2, h3, h4⟩ := h
  constructor
  · rwa [ht]
  · rw [hs, hr]; exact h2
  · rw [hr, ht]; exact h3
  · rw [hr, ht, hp, hl]; exact h4

/-- A service that is not running needs no instance. -/
theorem Sound.idle {s s' : State Scheme Transports N} (h : Sound b s) (hs : s.mgr.started = false)
    (ht : s'.trans.Fits b) (hst : ∀ k, s'.trans.Stopped k) (hr : s'.running = s.running)
    (hs' : s'.mgr.started = s.mgr.started) : Sound b s' := by
  have hn := h.running_none hs
  constructor
  · exact ht
  · rw [hs', hr]; exact h.started
  · exact fun k _ => hst k
  · intro k hk
    rw [hr, hn] at hk
    cases hk

/-- A teardown that stops the running scheme stops everything. -/
theorem Sound.teardown {s : State Scheme Transports N} (h : Sound b s) {k : Scheme}
    (hk : s.running = some k) (hup : ¬ KeepsUp s.trans k) :
    Sound b (s.teardown (transportDevice b H) k) := by
  refine ⟨fits_stop h.fits hup, rfl, fun k' _ => ?_, fun k' hk' => by cases hk'⟩
  by_cases heq : k' = k
  · rw [heq]
    exact (stop_stopped h.fits k).2 hup
  · refine (stop_other heq).2.2 (h.stopped k' fun hf => heq ?_)
    rw [hk] at hf
    cases hf; rfl

theorem sound_step {x : TransportStep N I} (hx : (mgrMachine (transportDevice b H)).Ok x)
    (hs : Sound b x.pre) (hf : ¬ FailsInside b H x) (ho : ¬ StopsOther x) (hu : ¬ LeftUp x) :
    Sound b x.post := by
  have heff := ok_effect hx
  obtain ⟨s, l, o, s'⟩ := x
  dsimp only at heff hs ⊢
  have hcancel : Sound b { s with mgr := { s.mgr with teardownWork := false } } :=
    hs.frame rfl rfl rfl rfl rfl
  have htear : ∀ {k : Scheme}, s.mgr.scheme = some k → TearsDown (⟨s, l, o, s'⟩ : TransportStep N I) →
      Sound b (State.teardown (transportDevice b H) { s with mgr := { s.mgr with teardownWork := false } } k) := by
    intro k hk ht
    have hrun : s.running = some k := by
      by_contra hne
      exact ho ⟨ht, fun heq => hne (heq ▸ hk)⟩
    exact hcancel.teardown hrun fun hup => hu ⟨ht, k, hk, hup⟩
  cases heff with
  | deiniting k hi hst hk => exact (htear hk ⟨hst, .inl ⟨rfl, hi⟩⟩).frame rfl rfl rfl rfl rfl
  | stopped k hst hd hk => exact htear hk ⟨hst, .inr (.inl ⟨rfl, hd⟩)⟩
  | fired k _ hst hk => exact (htear hk ⟨hst, .inr (.inr rfl)⟩).frame rfl rfl rfl rfl rfl
  | noInstance e hi hst =>
    exact hs.idle hst hs.fits (hs.released.stopped hst) rfl rfl
  | failed e ret tr net hi hst hret htr =>
    have hdown := hs.released.stopped hst
    rcases htr with ⟨-, rfl⟩ | ⟨hreach, k, hk, heq⟩
    · exact hs.idle hst hs.fits hdown rfl rfl
    · have hstart : k.start b e.scheme s.next s.trans = (ret, tr) := heq
      have hc := Transport.started b e.scheme k s.next s.trans
      rw [hstart] at hc
      cases hc with
      | ok => exact absurd rfl hret
      | clean _ _ hl => exact hs.idle hst hs.fits hdown rfl rfl
      | dirty _ _ _ hl => exact absurd ⟨hi, hst, e, k, rfl, hk, hreach, hl⟩ hf
  | begun e k tr net hi hst hk hn heq =>
    have hstart : k.start b e.scheme s.next s.trans = (0, tr) := heq
    have hc := Transport.started b e.scheme k s.next s.trans
    have hfits := fits_start hs.fits e.scheme k s.next
    have hother := fun k' (h : k' ≠ k) => (start_other b e.scheme s.next s.trans h).2
    rw [hstart] at hc hfits hother
    cases hc with
    | clean _ h => exact absurd rfl h
    | dirty _ _ h => exact absurd rfl h
    | ok _ hg =>
      refine ⟨hfits, rfl, fun k' hk' => ?_, fun k' hk' => ?_⟩
      · exact (hother k' fun h => hk' (by rw [h]; rfl)).2 (hs.released.stopped hst k')
      · cases hk'
        exact ⟨s.next, hg, rfl, List.mem_cons_self⟩
  | _ => exact hs.frame rfl rfl rfl rfl rfl

/-! ## Steps that leave a transport up -/

theorem failsInside_unreleased {x : TransportStep N I}
    (hx : (mgrMachine (transportDevice b H)).Ok x) (hf : FailsInside b H x) : ¬ Released x.post := by
  have heff := ok_effect hx
  obtain ⟨s, l, o, s'⟩ := x
  obtain ⟨hi, hst, e, k, hl, hk, hreach, hup⟩ := hf
  dsimp only at heff hi hst hl hk hreach ⊢
  subst hl
  have hc := Transport.started b e.scheme k s.next s.trans
  intro hr
  cases heff with
  | idle _ _ hid => rcases hid.2 with h | h <;> simp_all
  | noInstance _ _ _ hnew => simp [hreach.1] at hnew
  | failed _ ret tr net _ _ hret htr =>
    rcases htr with ⟨hn, -⟩ | ⟨-, k', hk', heq⟩
    · exact hn hreach
    · obtain rfl : k = k' := Option.some.inj (hk.symm.trans hk')
      rw [show k.start b e.scheme s.next s.trans = (ret, tr) from heq] at hc
      cases hc with
      | ok => exact hret rfl
      | clean _ _ hl => exact hl hup
      | dirty _ _ _ _ hdown => exact hdown (hr.stopped hst k)
  | begun _ k' tr net _ _ hk' _ heq =>
    obtain rfl : k = k' := Option.some.inj (hk.symm.trans hk')
    rw [show k.start b e.scheme s.next s.trans = (0, tr) from heq] at hc
    cases hc with
    | ok _ _ hl => exact hl hup
    | clean _ h => exact h rfl
    | dirty _ _ h => exact h rfl

/-- A teardown calls the stop of the scheme that is set. -/
theorem tearsDown_post {x : TransportStep N I} (hx : (mgrMachine (transportDevice b H)).Ok x)
    (hd : TearsDown x) :
    ∃ k, x.pre.mgr.scheme = some k ∧ x.post.mgr.started = false ∧ x.post.trans = k.stop b x.pre.trans := by
  have heff := ok_effect hx
  obtain ⟨s, l, o, s'⟩ := x
  obtain ⟨hst, hl⟩ := hd
  dsimp only at heff hst hl ⊢
  have hup : ∀ {p : Prop}, s.mgr.started = false → p := by
    intro p h
    rw [hst] at h; cases h
  rcases hl with ⟨rfl, hi⟩ | ⟨rfl, hd⟩ | rfl
  · cases heff with
    | idle _ _ hid =>
      have hin : s.mgr.inited = false := hid
      rw [hi] at hin; cases hin
    | deinited _ h => exact hup h
    | deiniting k _ _ hk => exact ⟨k, hk, rfl, rfl⟩
  · cases heff with
    | idle _ _ hid => exact hup hid
    | deferred _ h => omega
    | stopped k _ _ hk => exact ⟨k, hk, rfl, rfl⟩
  · cases heff with
    | idle _ _ hid => cases hid
    | lapsed _ h => exact hup h
    | fired k _ _ hk => exact ⟨k, hk, rfl, rfl⟩

theorem stopsOther_unreleased {x : TransportStep N I} (hx : (mgrMachine (transportDevice b H)).Ok x)
    (hs : Sound b x.pre) (ho : StopsOther x) : ¬ Released x.post := by
  obtain ⟨hd, hne⟩ := ho
  obtain ⟨k, hk, hst, htr⟩ := tearsDown_post hx hd
  intro hr
  obtain ⟨r, hrun⟩ := Option.isSome_iff_exists.1 (hs.started.symm.trans hd.1)
  obtain ⟨id, hg, -⟩ := hs.serves r hrun
  have hrk : r ≠ k := fun heq => hne (by rw [hk, hrun, heq])
  have hdown := (hr.stopped hst r).gPc
  rw [htr, (stop_other hrk).1, hg] at hdown
  cases hdown

theorem leftUp_unreleased {x : TransportStep N I} (hx : (mgrMachine (transportDevice b H)).Ok x)
    (hs : Sound b x.pre) (hu : LeftUp x) : ¬ Released x.post := by
  obtain ⟨hd, k, hk, hup⟩ := hu
  obtain ⟨k', hk', hst, htr⟩ := tearsDown_post hx hd
  obtain rfl : k = k' := Option.some.inj (hk.symm.trans hk')
  intro hr
  have hdown := hr.stopped hst k
  rw [htr] at hdown
  exact (stop_stopped hs.fits k).1 hdown hup

theorem sound_boot (stops : Nat → StopEnv) (net : N) : Sound b (.boot (.boot stops) net) where
  fits := ⟨fun h => (by cases h), fun h => (by cases h), fun h => absurd rfl h⟩
  started := rfl
  stopped k _ := by cases k <;> simp [State.boot, Transports.boot, Transports.Stopped]
  serves k h := by cases h

/-- **What is left of the transports.** In any run, of any scheme and with any answers of the
platform, a state without a service has every transport stopped, and no callback ever
reaches a deleted instance, exactly when no start fails inside its transport after it has set
something up, each teardown stops the scheme that runs, and the platform takes down what it
is asked to. -/
theorem released_iff {stops : Nat → StopEnv} {net : N} {t : List (TransportStep N I)}
    {s : State Scheme Transports N} (h : (mgrMachine (transportDevice b H)).Run (.boot (.boot stops) net) t s) :
    (∀ x ∈ t, Released x.post) ↔ ∀ x ∈ t, ¬ FailsInside b H x ∧ ¬ StopsOther x ∧ ¬ LeftUp x := by
  refine h.forall_iff (P := Sound b) (sound_boot stops net) ?_ ?_
  · intro x hx hs hn
    have hpost := sound_step hx hs hn.1 hn.2.1 hn.2.2
    exact ⟨hpost, hpost.released⟩
  · intro x hx hs hr
    exact ⟨fun hf => failsInside_unreleased hx hf hr, fun ho => stopsOther_unreleased hx hs ho hr,
      fun hu => leftUp_unreleased hx hs hu hr⟩

/-! ## Runs -/

def fullBuild : Build := ⟨true, true, true⟩

/-- Handlers that do nothing. -/
def idleHandlers : Handlers Unit Unit := ⟨fun _ _ n => (0, n), id, fun n _ => some (n, [])⟩

def transportDemo : Device Scheme Transports Unit Unit TransportEnv :=
  transportDevice fullBuild idleHandlers

def initScheme (k : Scheme) : Label Unit TransportEnv Scheme := .init ⟨some ⟨k, true, true⟩, 0, 0⟩

/-- Every stop takes everything down. -/
def okStops : Nat → StopEnv := fun _ => ⟨⟨0, 0⟩, ⟨0, 0, 0⟩⟩

/-- The service name "PROV", no key, and a platform that refuses nothing. -/
def okTransport : TransportEnv :=
  ⟨some ⟨[0x50, 0x52, 0x4f, 0x56], by decide⟩, none, ⟨0, 0, 0⟩, ⟨0, 0, 0⟩⟩

/-- A start in which everything before the transport succeeds. -/
def startWith (e : TransportEnv) : Label Unit TransportEnv Scheme := .start ⟨true, 0, 0, ⟨0, 0, 0⟩, 0, e⟩

/-- A SoftAP start without a service name, one that succeeds, and a stop. -/
theorem released_iff_test : ∃ t s, (mgrMachine transportDemo).Run (.boot (.boot okStops) ()) t s ∧
    t.map (·.lbl) = [initScheme .softap, startWith { okTransport with serviceName := none },
      startWith okTransport, .stop] ∧
    t.map (·.out.ret) = [0, -EINVAL, 0, 0] ∧
    ((∀ x ∈ t, Released x.post) ↔
      ∀ x ∈ t, ¬ FailsInside fullBuild idleHandlers x ∧ ¬ StopsOther x ∧ ¬ LeftUp x) := by
  have hr := (mgrMachine transportDemo).run_get (.boot (.boot okStops) ())
    [initScheme .softap, startWith { okTransport with serviceName := none }, startWith okTransport,
      .stop] (by rfl)
  exact ⟨_, _, hr, by rfl, by rfl, released_iff hr⟩

/-- **A failed start leaves the GATT service up.** Advertising cannot be started: the start
fails, the instance is deleted, and the callbacks of the registered service still have it. -/
theorem advertising_failure_leaves_gatt : ∃ t s,
    (mgrMachine transportDemo).Run (.boot (.boot okStops) ()) t s ∧
    t.map (·.lbl) = [initScheme .ble, startWith { okTransport with ble := ⟨0, 0, - EIO⟩ }] ∧
    t.map (·.out.ret) = [0, - EIO] ∧ s.mgr.started = false ∧ s.trans.ble.svcRegistered = true ∧
    s.trans.gPc .ble = some 0 ∧ s.live = [] ∧ ¬ ∀ x ∈ t, Released x.post := by
  have hr := (mgrMachine transportDemo).run_get (.boot (.boot okStops) ())
    [initScheme .ble, startWith { okTransport with ble := ⟨0, 0, - EIO⟩ }] (by rfl)
  refine ⟨_, _, hr, by rfl, by rfl, by rfl, by rfl, by rfl, by rfl, fun hall => ?_⟩
  have hlive := (hall _ (List.mem_of_getElem? (i := 1) rfl)).live .ble 0 rfl
  exact absurd hlive (by decide)

end NetworkProv.Manager
