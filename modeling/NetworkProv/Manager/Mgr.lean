import NetworkProv.Basic
import NetworkProv.Core.Machine

/-!
# The provisioning manager (`src/network_prov_mgr.c`)

The static `mgr` and the calls of the manager API. The transports and the
handlers of the network type are parameters, a `Device`; so is whatever the
calls underneath answer, a `StartEnv`.

Events are delivered by calling the application in the middle of a manager
function, and the application may call the manager from there. A step is
therefore a call up to the event it emits. Where the function goes on after
the event, it leaves a `Frame` on the stack, and `ret` is the return from the
callback into it; the calls made in between are the steps in between. An
application without a callback is one that returns at once.

The teardown work runs on a thread of its own. While it does, a call that
cancels it synchronously does not return, so `stop` and `deinit` are not
enabled.

Not modelled: application info, version JSON and custom endpoints; what
registering endpoints answers is part of `StartEnv`.

* `Effect`, `step_effect`: all a step can do.
* `Device.Tracks`, `tracked_run`: what holds of the handlers of any network type while the
  service is started, and while it is not.
-/
namespace NetworkProv.Manager

open NetworkProv.Core

/-! ## The parts around the manager -/

/-- The events the network type's handlers emit. -/
inductive NetEvent
  | credRecv
  | credFail
  | credSuccess
  deriving DecidableEq

/-- `enum network_prov_cb_event` -/
inductive CbEvent
  | init
  | start
  | net (e : NetEvent)
  | end_
  | deinit
  deriving DecidableEq

/-- What `protocomm_add_endpoint` answers for the network type's endpoints. -/
structure NetEpEnv where
  scan : Int
  config : Int
  ctrl : Int

/-- What the calls made during one start answer; `custom`: what adding the
custom endpoints comes to, `scheme`: for the transport. -/
structure StartEnv (E : Type) where
  new : Bool
  setVersion : Int
  setSecurity : Int
  net : NetEpEnv
  custom : Int
  scheme : E

/-- The transports `T` behind the schemes `S`, and the network type's handlers
`N` with their inputs `I`. -/
structure Device (S T N I E : Type) where
  /-- `scheme->start` on the instance -/
  start : E → S → Nat → T → Int × T
  stop : S → T → T
  /-- `net_endpoints_init` with `wifi_conn_attempts` -/
  netInit : NetEpEnv → Nat → N → Int × N
  netDeinit : N → N
  netStep : N → I → Option (N × List NetEvent)

/-- A scheme object: which it is, and whether its functions are there. -/
structure SchemeObj (S : Type) where
  id : S
  start : Bool
  stop : Bool

/-- `struct network_prov_mgr_config`; `settings`: what `settings_subsys_init`
answers. -/
structure MgrConfig (S : Type) where
  scheme : Option (SchemeObj S)
  wifiConnAttempts : Nat
  settings : Int

/-! ## State -/

/-- mirrors src/network_prov_mgr.c:43-70; `pc`: the instance, `done`: the count
of the semaphore, `teardownWork`: the work is scheduled. -/
structure Mgr (S : Type) where
  inited : Bool
  started : Bool
  scheme : Option S
  wifiConnAttempts : Nat
  pc : Option Nat
  done : Nat
  autoStop : Bool
  cleanupDelayMs : Nat
  teardownWork : Bool

def Mgr.boot {S : Type} : Mgr S := ⟨false, false, none, 0, none, 0, false, 0, false⟩

/-- A manager function to return to from the callback. -/
inductive Frame
  /-- `network_prov_emit_event`, after CRED_SUCCESS -/
  | success
  /-- `network_prov_mgr_deinit`, after END -/
  | deinit
  /-- `teardown_work_fn`, after END -/
  | work
  deriving DecidableEq

structure State (S T N : Type) where
  mgr : Mgr S
  trans : T
  net : N
  /-- innermost first -/
  stack : List Frame
  /-- the protocomm instances that have not been deleted, and the next one -/
  live : List Nat
  next : Nat
  /-- the threads blocked in `network_prov_mgr_wait`, each with the number of
  starts when it called (ghost) -/
  waiters : List Nat
  /-- ghost: the scheme that was started -/
  running : Option S
  /-- ghost: `stop_provisioning` was called on the service -/
  stopRequested : Bool
  /-- ghost: the starts that returned 0 -/
  starts : Nat

def State.boot {S T N : Type} (trans : T) (net : N) : State S T N :=
  ⟨.boot, trans, net, [], [], 0, [], none, false, 0⟩

inductive SchemeOp (S : Type)
  | started (s : S)
  | stopped (s : S)
  deriving DecidableEq

/-- The return value, the events emitted, what became of the transport, and the
waits that return. -/
structure Output (S : Type) where
  ret : Int
  events : List CbEvent
  ops : List (SchemeOp S)
  returned : List Nat

def Output.of {S : Type} (ret : Int) : Output S := ⟨ret, [], [], []⟩

def Output.event {S : Type} (e : CbEvent) : Output S := ⟨0, [e], [], []⟩

variable {S T N I E : Type}

def State.push (s : State S T N) (f : Frame) : State S T N := { s with stack := f :: s.stack }

/-! ## `network_prov_emit_event` -/

/-- `k_sem_give(&mgr.done)`: the `i`th waiter wakes, if there is one. -/
def State.giveDone (i : Nat) (s : State S T N) : Option (State S T N × List Nat) :=
  if s.waiters = [] then some ({ s with mgr := { s.mgr with done := 1 } }, [])
  else (s.waiters[i]?).map fun m => ({ s with waiters := s.waiters.eraseIdx i }, [m])

/-- What follows the callback for CRED_SUCCESS.
mirrors src/network_prov_mgr.c:80-90 -/
def afterSuccess (i : Nat) (s : State S T N) : Option (State S T N × List Nat) :=
  (s.giveDone i).map fun r =>
    if r.1.mgr.started && r.1.mgr.autoStop then
      ({ r.1 with mgr := { r.1.mgr with teardownWork := true } }, r.2)
    else r

/-! ## `network_prov_mgr_init`, `network_prov_mgr_deinit` -/

/-- mirrors src/network_prov_mgr.c:104-112; initialising the semaphore forgets
who waits for it. -/
def State.configured (s : State S T N) (scheme : S) (attempts : Nat) : State S T N :=
  { s with
    mgr := { s.mgr with scheme := some scheme, wifiConnAttempts := attempts, autoStop := true,
                        cleanupDelayMs := 0, done := 0, teardownWork := false }
    waiters := [] }

/-- mirrors src/network_prov_mgr.c:93-130 -/
def networkProvMgrInit (c : MgrConfig S) (s : State S T N) : State S T N × Output S :=
  if s.mgr.inited then (s, .of (-EALREADY))
  else
    match c.scheme with
    | none => (s, .of (-EINVAL))
    | some obj =>
      if !obj.start || !obj.stop then (s, .of (-EINVAL))
      else
        let s := s.configured obj.id c.wifiConnAttempts
        if c.settings ≠ 0 then (s, .of c.settings)
        else ({ s with mgr := { s.mgr with inited := true } }, .event .init)

/-- What `do_teardown` does to a started service.
mirrors src/network_prov_mgr.c:515-519 -/
def State.teardown (D : Device S T N I E) (s : State S T N) (scheme : S) : State S T N :=
  { s with
    mgr := { s.mgr with pc := none, started := false }
    trans := D.stop scheme s.trans
    net := D.netDeinit s.net
    live := s.live.filter fun id => s.mgr.pc ≠ some id
    running := none
    stopRequested := false }

/-- `none`: there is no scheme to call. mirrors src/network_prov_mgr.c:510-521 -/
def doTeardown (D : Device S T N I E) (s : State S T N) : Option (State S T N × Output S) :=
  if !s.mgr.started then some (s, .of 0)
  else s.mgr.scheme.map fun scheme => (s.teardown D scheme, ⟨0, [.end_], [.stopped scheme], []⟩)

/-- mirrors src/network_prov_mgr.c:144-145 -/
def State.deinited (s : State S T N) : State S T N := { s with mgr := { s.mgr with inited := false } }

/-- mirrors src/network_prov_mgr.c:132-146 -/
def networkProvMgrDeinit (D : Device S T N I E) (s : State S T N) : Option (State S T N × Output S) :=
  if !s.mgr.inited then some (s, .of 0)
  else if .work ∈ s.stack then none
  else
    let s := { s with mgr := { s.mgr with teardownWork := false } }
    if s.mgr.started then (doTeardown D s).map fun r => (r.1.push .deinit, r.2)
    else some (s.deinited, .event .deinit)

/-! ## `network_prov_mgr_start_provisioning` and the ways to stop -/

/-- The error exit of a start, once there is an instance.
mirrors src/network_prov_mgr.c:503-507 -/
def State.abandon (D : Device S T N I E) (s : State S T N) (id : Nat) : State S T N :=
  { s with
    mgr := { s.mgr with pc := none }
    net := D.netDeinit s.net
    live := s.live.erase id }

/-- The last part of a start.
mirrors src/network_prov_mgr.c:493-507 -/
def startScheme (D : Device S T N I E) (e : E) (id : Nat) (s : State S T N) (scheme : S) :
    State S T N × Output S :=
  match D.start e scheme id s.trans with
  | (ret, tr) =>
    let s := { s with trans := tr }
    if ret ≠ 0 then (s.abandon D id, .of ret)
    else
      ({ s with mgr := { s.mgr with started := true }, running := some scheme,
                starts := s.starts + 1 },
        ⟨0, [.start], [.started scheme], []⟩)

/-- A start once it has its instance.
mirrors src/network_prov_mgr.c:463-507 -/
def startOn (D : Device S T N I E) (e : StartEnv E) (id : Nat) (s : State S T N) :
    Option (State S T N × Output S) :=
  if e.setVersion ≠ 0 then some (s.abandon D id, .of e.setVersion)
  else if e.setSecurity ≠ 0 then some (s.abandon D id, .of e.setSecurity)
  else
    match D.netInit e.net s.mgr.wifiConnAttempts s.net with
    | (ret, net) =>
      let s := { s with net := net }
      if ret ≠ 0 then some (s.abandon D id, .of ret)
      else if e.custom ≠ 0 then some (s.abandon D id, .of e.custom)
      else s.mgr.scheme.map (startScheme D e.scheme id s)

/-- mirrors src/network_prov_mgr.c:439-508 -/
def networkProvMgrStartProvisioning (D : Device S T N I E) (e : StartEnv E) (s : State S T N) :
    Option (State S T N × Output S) :=
  if !s.mgr.inited then some (s, .of (-EPERM))
  else if s.mgr.started then some (s, .of (-EALREADY))
  else if !e.new then some ({ s with mgr := { s.mgr with pc := none } }, .of (-ENOMEM))
  else
    startOn D e s.next { s with
      mgr := { s.mgr with pc := some s.next }, live := s.next :: s.live, next := s.next + 1 }

/-- mirrors src/network_prov_mgr.c:523-527 -/
def teardownWorkFn (D : Device S T N I E) (s : State S T N) : Option (State S T N × Output S) :=
  if s.mgr.started then (doTeardown D s).map fun r => (r.1.push .work, r.2) else some (s, .of 0)

/-- mirrors src/network_prov_mgr.c:529-546 -/
def networkProvMgrStopProvisioning (D : Device S T N I E) (s : State S T N) :
    Option (State S T N × Output S) :=
  if !s.mgr.started then some (s, .of 0)
  else if .work ∈ s.stack then none
  else
    let s := { s with mgr := { s.mgr with teardownWork := false }, stopRequested := true }
    if s.mgr.cleanupDelayMs > 0 then
      some ({ s with mgr := { s.mgr with teardownWork := true } }, .of 0)
    else doTeardown D s

/-- mirrors src/network_prov_mgr.c:548-558 -/
def networkProvMgrDisableAutoStop (cleanupDelayMs : Nat) (s : State S T N) : State S T N × Output S :=
  if !s.mgr.inited then (s, .of (-EPERM))
  else
    ({ s with mgr := { s.mgr with autoStop := false, cleanupDelayMs := cleanupDelayMs,
                                  teardownWork := false } }, .of 0)

/-- mirrors src/network_prov_mgr.c:630-633 -/
def networkProvMgrWait (s : State S T N) : State S T N × Output S :=
  if s.mgr.done > 0 then
    ({ s with mgr := { s.mgr with done := s.mgr.done - 1 } }, ⟨0, [], [], [s.starts]⟩)
  else ({ s with waiters := s.waiters ++ [s.starts] }, .of 0)

/-! ## The machine -/

inductive Label (I E : Type) (S : Type)
  | init (c : MgrConfig S)
  | deinit
  | start (e : StartEnv E)
  | stop
  | disableAutoStop (cleanupDelayMs : Nat)
  | wait
  /-- the teardown work comes due -/
  | fire
  /-- something happens to the network type's handlers -/
  | net (i : I)
  /-- the innermost callback returns; `i`: the waiter that a give wakes -/
  | ret (i : Nat)

/-- An input of the network type, and the callbacks for its events. -/
def netStep (D : Device S T N I E) (s : State S T N) (i : I) : Option (State S T N × Output S) :=
  (D.netStep s.net i).map fun r =>
    let s := { s with net := r.1 }
    (if .credSuccess ∈ r.2 then s.push .success else s,
      ⟨0, r.2.map .net, [], []⟩)

/-- Back from the callback. -/
def retStep (i : Nat) (s : State S T N) : Option (State S T N × Output S) :=
  match s.stack with
  | [] => none
  | .success :: st => (afterSuccess i { s with stack := st }).map fun r => (r.1, ⟨0, [], [], r.2⟩)
  | .deinit :: st => some ({ s with stack := st }.deinited, .event .deinit)
  | .work :: st => some ({ s with stack := st }, .of 0)

def step (D : Device S T N I E) (s : State S T N) : Label I E S → Option (State S T N × Output S)
  | .init c => some (networkProvMgrInit c s)
  | .deinit => networkProvMgrDeinit D s
  | .start e => networkProvMgrStartProvisioning D e s
  | .stop => networkProvMgrStopProvisioning D s
  | .disableAutoStop ms => some (networkProvMgrDisableAutoStop ms s)
  | .wait => some (networkProvMgrWait s)
  | .fire =>
    if s.mgr.teardownWork ∧ .work ∉ s.stack then
      teardownWorkFn D { s with mgr := { s.mgr with teardownWork := false } }
    else none
  | .net i => netStep D s i
  | .ret i => retStep i s

def mgrMachine (D : Device S T N I E) : Machine (State S T N) (Label I E S) (Output S) := ⟨step D⟩

/-- A step of a run. -/
abbrev Step (S T N I E : Type) := Entry (State S T N) (Label I E S) (Output S)

/-! ## All a step can do -/

/-- The state an accepted start leaves. -/
def State.begun (s : State S T N) (scheme : S) (tr : T) (net : N) : State S T N :=
  { s with
    mgr := { s.mgr with started := true, pc := some s.next }
    trans := tr
    net := net
    live := s.next :: s.live
    next := s.next + 1
    running := some scheme
    starts := s.starts + 1 }

/-- The state a start leaves that failed once it had an instance. -/
def State.unwound (s : State S T N) (tr : T) (net : N) : State S T N :=
  { s with
    mgr := { s.mgr with pc := none }
    trans := tr
    net := net
    next := s.next + 1 }

/-- A start that finds the manager ready gets as far as the scheme. -/
def StartEnv.Reaches (e : StartEnv E) (D : Device S T N I E) (attempts : Nat) (net : N) : Prop :=
  e.new = true ∧ e.setVersion = 0 ∧ e.setSecurity = 0 ∧ (D.netInit e.net attempts net).1 = 0 ∧
    e.custom = 0

/-- What a failing start does to the transport: nothing, or it fails there. -/
def FailsWith (D : Device S T N I E) (s : State S T N) (e : StartEnv E) (id : Nat) (ret : Int)
    (tr : T) : Prop :=
  ¬ e.Reaches D s.mgr.wifiConnAttempts s.net ∧ tr = s.trans ∨
    e.Reaches D s.mgr.wifiConnAttempts s.net ∧
      ∃ scheme, s.mgr.scheme = some scheme ∧ D.start e.scheme scheme id s.trans = (ret, tr)

/-- The configuration names a scheme that has its functions. -/
def MgrConfig.Names (c : MgrConfig S) (scheme : S) : Prop := c.scheme = some ⟨scheme, true, true⟩

/-- The calls a step can come to that change nothing. -/
def Idle (s : State S T N) : Label I E S → Int → Prop
  | .init c, ret => ret ≠ 0 ∧ (s.mgr.inited = true ∨ ∀ scheme, ¬ c.Names scheme)
  | .deinit, _ => s.mgr.inited = false
  | .start _, ret => ret ≠ 0 ∧ (s.mgr.inited = false ∨ s.mgr.started = true)
  | .stop, _ => s.mgr.started = false
  | .disableAutoStop _, _ => s.mgr.inited = false
  | _, _ => False

inductive Effect (D : Device S T N I E) (s : State S T N) :
    Label I E S → State S T N → Output S → Prop
  | idle (l : Label I E S) (ret : Int) : Idle s l ret → Effect D s l s (.of ret)
  | unsettled (c : MgrConfig S) (scheme : S) : s.mgr.inited = false → c.Names scheme →
      c.settings ≠ 0 →
      Effect D s (.init c) (s.configured scheme c.wifiConnAttempts) (.of c.settings)
  | inited (c : MgrConfig S) (scheme : S) : s.mgr.inited = false → c.Names scheme →
      Effect D s (.init c)
        { s.configured scheme c.wifiConnAttempts with
          mgr := { (s.configured scheme c.wifiConnAttempts).mgr with inited := true } }
        (.event .init)
  | deinited : s.mgr.inited = true → s.mgr.started = false →
      Effect D s .deinit { s with mgr := { s.mgr with teardownWork := false, inited := false } }
        (.event .deinit)
  | deiniting (scheme : S) : s.mgr.inited = true → s.mgr.started = true →
      s.mgr.scheme = some scheme →
      Effect D s .deinit
        ((({ s with mgr := { s.mgr with teardownWork := false } }).teardown D scheme).push .deinit)
        ⟨0, [.end_], [.stopped scheme], []⟩
  | noInstance (e : StartEnv E) : s.mgr.inited = true → s.mgr.started = false → e.new = false →
      Effect D s (.start e) { s with mgr := { s.mgr with pc := none } } (.of (-ENOMEM))
  | failed (e : StartEnv E) (ret : Int) (tr : T) (net : N) : s.mgr.inited = true →
      s.mgr.started = false → ret ≠ 0 → FailsWith D s e s.next ret tr →
      (net = D.netDeinit s.net ∨
        net = D.netDeinit (D.netInit e.net s.mgr.wifiConnAttempts s.net).2) →
      Effect D s (.start e) (s.unwound tr net) (.of ret)
  | begun (e : StartEnv E) (scheme : S) (tr : T) (net : N) : s.mgr.inited = true →
      s.mgr.started = false → s.mgr.scheme = some scheme →
      D.netInit e.net s.mgr.wifiConnAttempts s.net = (0, net) →
      D.start e.scheme scheme s.next s.trans = (0, tr) →
      Effect D s (.start e) (s.begun scheme tr net) ⟨0, [.start], [.started scheme], []⟩
  | deferred : s.mgr.started = true → s.mgr.cleanupDelayMs > 0 →
      Effect D s .stop { s with mgr := { s.mgr with teardownWork := true }, stopRequested := true }
        (.of 0)
  | stopped (scheme : S) : s.mgr.started = true → s.mgr.cleanupDelayMs = 0 →
      s.mgr.scheme = some scheme →
      Effect D s .stop
        (({ s with mgr := { s.mgr with teardownWork := false } }).teardown D scheme)
        ⟨0, [.end_], [.stopped scheme], []⟩
  | autoStopOff (ms : Nat) : s.mgr.inited = true →
      Effect D s (.disableAutoStop ms)
        { s with mgr := { s.mgr with autoStop := false, cleanupDelayMs := ms, teardownWork := false } }
        (.of 0)
  | taken : s.mgr.done > 0 →
      Effect D s .wait { s with mgr := { s.mgr with done := s.mgr.done - 1 } } ⟨0, [], [], [s.starts]⟩
  | waits : s.mgr.done = 0 →
      Effect D s .wait { s with waiters := s.waiters ++ [s.starts] } (.of 0)
  | lapsed : s.mgr.teardownWork = true → s.mgr.started = false →
      Effect D s .fire { s with mgr := { s.mgr with teardownWork := false } } (.of 0)
  | fired (scheme : S) : s.mgr.teardownWork = true → s.mgr.started = true →
      s.mgr.scheme = some scheme →
      Effect D s .fire
        ((({ s with mgr := { s.mgr with teardownWork := false } }).teardown D scheme).push .work)
        ⟨0, [.end_], [.stopped scheme], []⟩
  | quiet (i : I) (net : N) (evs : List NetEvent) : D.netStep s.net i = some (net, evs) →
      .credSuccess ∉ evs →
      Effect D s (.net i) { s with net := net } ⟨0, evs.map .net, [], []⟩
  | success (i : I) (net : N) (evs : List NetEvent) : D.netStep s.net i = some (net, evs) →
      .credSuccess ∈ evs →
      Effect D s (.net i) (({ s with net := net }).push .success)
        ⟨0, evs.map .net, [], []⟩
  | given (i : Nat) (st : List Frame) : s.stack = .success :: st → s.waiters = [] →
      Effect D s (.ret i)
        { s with
          stack := st
          mgr := { s.mgr with done := 1
                              teardownWork := s.mgr.teardownWork || s.mgr.started && s.mgr.autoStop } }
        (.of 0)
  | woken (i : Nat) (st : List Frame) (m : Nat) : s.stack = .success :: st → s.waiters[i]? = some m →
      Effect D s (.ret i)
        { s with
          stack := st
          waiters := s.waiters.eraseIdx i
          mgr := { s.mgr with
            teardownWork := s.mgr.teardownWork || s.mgr.started && s.mgr.autoStop } }
        ⟨0, [], [], [m]⟩
  | deinitReturns (i : Nat) (st : List Frame) : s.stack = .deinit :: st →
      Effect D s (.ret i) { s with stack := st, mgr := { s.mgr with inited := false } } (.event .deinit)
  | workReturns (i : Nat) (st : List Frame) : s.stack = .work :: st →
      Effect D s (.ret i) { s with stack := st } (.of 0)

theorem doTeardown_started {D : Device S T N I E} {s : State S T N} {r : State S T N × Output S}
    (h : doTeardown D s = some r) (hs : s.mgr.started = true) :
    ∃ scheme, s.mgr.scheme = some scheme ∧
      r = (s.teardown D scheme, ⟨0, [.end_], [.stopped scheme], []⟩) := by
  rw [doTeardown, if_neg (by simp [hs])] at h
  obtain ⟨scheme, h1, rfl⟩ := Option.map_eq_some_iff.1 h
  exact ⟨scheme, h1, rfl⟩

theorem init_effect {D : Device S T N I E} {c : MgrConfig S} {s s' : State S T N} {o : Output S}
    (h : networkProvMgrInit c s = (s', o)) : Effect D s (.init c) s' o := by
  unfold networkProvMgrInit at h
  split at h
  · rename_i hi
    cases h; exact .idle _ _ ⟨(by decide : -EALREADY ≠ 0), .inl hi⟩
  rename_i hi
  simp only [Bool.not_eq_true] at hi
  split at h
  · rename_i hnull
    cases h
    refine .idle _ _ ⟨(by decide : -EINVAL ≠ 0), .inr fun scheme hc => ?_⟩
    rw [MgrConfig.Names, hnull] at hc
    cases hc
  rename_i obj hobj
  split at h
  · rename_i hfn
    cases h
    refine .idle _ _ ⟨(by decide : -EINVAL ≠ 0), .inr fun scheme hc => ?_⟩
    rw [MgrConfig.Names, hobj] at hc
    cases hc
    simp at hfn
  rename_i hfn
  have hc : c.Names obj.id := by
    obtain ⟨id, start, stop⟩ := obj
    simp only [Bool.or_eq_true, Bool.not_eq_true', not_or, Bool.not_eq_false] at hfn
    obtain ⟨rfl, rfl⟩ := hfn
    exact hobj
  dsimp only at h
  split at h
  · rename_i hr
    cases h; exact .unsettled c obj.id hi hc hr
  · cases h; exact .inited c obj.id hi hc

theorem deinit_effect {D : Device S T N I E} {s s' : State S T N} {o : Output S}
    (h : networkProvMgrDeinit D s = some (s', o)) : Effect D s .deinit s' o := by
  unfold networkProvMgrDeinit at h
  split at h
  · rename_i hi
    cases h; exact .idle _ _ (by simpa using hi : s.mgr.inited = false)
  rename_i hi
  simp only [Bool.not_eq_true', Bool.not_eq_false] at hi
  split at h
  · cases h
  dsimp only at h
  split at h
  · rename_i hs
    obtain ⟨r, hr, he⟩ := Option.map_eq_some_iff.1 h
    obtain ⟨scheme, h1, rfl⟩ := doTeardown_started hr hs
    cases he
    exact .deiniting scheme hi hs h1
  · rename_i hs
    cases h
    exact .deinited hi (by simpa using hs)

/-- A start that has its instance fails, somewhere, or begins the service. -/
theorem startOn_cases {D : Device S T N I E} {e : StartEnv E} {id : Nat} {s s' : State S T N}
    {o : Output S} (hnew : e.new = true) (h : startOn D e id s = some (s', o)) :
    (∃ ret tr net, ret ≠ 0 ∧ o = .of ret ∧ s' = ({ s with trans := tr, net := net }).abandon D id ∧
      FailsWith D s e id ret tr ∧
      (net = s.net ∨ net = (D.netInit e.net s.mgr.wifiConnAttempts s.net).2)) ∨
    (∃ scheme tr net, s.mgr.scheme = some scheme ∧
      D.netInit e.net s.mgr.wifiConnAttempts s.net = (0, net) ∧
      D.start e.scheme scheme id s.trans = (0, tr) ∧ o = ⟨0, [.start], [.started scheme], []⟩ ∧
      s' = { s with mgr := { s.mgr with started := true }, trans := tr, net := net,
                    running := some scheme, starts := s.starts + 1 }) := by
  unfold startOn at h
  split at h
  · rename_i hr
    cases h
    exact .inl ⟨_, s.trans, s.net, hr, rfl, rfl, .inl ⟨fun hc => hr hc.2.1, rfl⟩, .inl rfl⟩
  rename_i hver
  split at h
  · rename_i hr
    cases h
    exact .inl ⟨_, s.trans, s.net, hr, rfl, rfl, .inl ⟨fun hc => hr hc.2.2.1, rfl⟩, .inl rfl⟩
  rename_i hsec
  split at h
  rename_i ret net hn
  dsimp only at h
  have hfst : (D.netInit e.net s.mgr.wifiConnAttempts s.net).1 = ret := by rw [hn]
  split at h
  · rename_i hr
    cases h
    exact .inl ⟨_, s.trans, net, hr, rfl, rfl,
      .inl ⟨fun hc => hr (hfst.symm.trans hc.2.2.2.1), rfl⟩, .inr (by rw [hn])⟩
  rename_i hret
  obtain rfl : ret = 0 := by simpa using hret
  split at h
  · rename_i hr
    cases h
    exact .inl ⟨_, s.trans, net, hr, rfl, rfl, .inl ⟨fun hc => hr hc.2.2.2.2, rfl⟩,
      .inr (by rw [hn])⟩
  rename_i hcustom
  have hreach : e.Reaches D s.mgr.wifiConnAttempts s.net :=
    ⟨hnew, by simpa using hver, by simpa using hsec, hfst, by simpa using hcustom⟩
  obtain ⟨scheme, hsch, h⟩ := Option.map_eq_some_iff.1 h
  unfold startScheme at h
  split at h
  rename_i ret tr ht
  dsimp only at h
  split at h
  · rename_i hr
    cases h
    exact .inl ⟨_, tr, net, hr, rfl, rfl, .inr ⟨hreach, scheme, hsch, ht⟩, .inr (by rw [hn])⟩
  · rename_i hret
    obtain rfl : ret = 0 := by simpa using hret
    cases h
    exact .inr ⟨scheme, tr, net, hsch, hn, ht, rfl, rfl⟩

theorem start_effect {D : Device S T N I E} {e : StartEnv E} {s s' : State S T N} {o : Output S}
    (h : networkProvMgrStartProvisioning D e s = some (s', o)) : Effect D s (.start e) s' o := by
  unfold networkProvMgrStartProvisioning at h
  split at h
  · rename_i hi
    cases h; exact .idle _ _ ⟨(by decide : -EPERM ≠ 0), .inl (by simpa using hi)⟩
  rename_i hi
  simp only [Bool.not_eq_true', Bool.not_eq_false] at hi
  split at h
  · rename_i hs
    cases h; exact .idle _ _ ⟨(by decide : -EALREADY ≠ 0), .inr hs⟩
  rename_i hs
  simp only [Bool.not_eq_true] at hs
  split at h
  · rename_i hnew
    cases h; exact .noInstance e hi hs (by simpa using hnew)
  rename_i hnew
  rcases startOn_cases (by simpa using hnew) h with ⟨ret, tr, net, hr, rfl, rfl, htr, hn⟩ |
      ⟨scheme, tr, net, hsch, hn, ht, rfl, rfl⟩
  · have hu := Effect.failed (D := D) (s := s) e ret tr (D.netDeinit net) hi hs hr htr
      (hn.imp (congrArg D.netDeinit) (congrArg D.netDeinit))
    simpa [State.abandon, State.unwound] using hu
  · exact .begun e scheme tr net hi hs hsch hn ht

theorem stop_effect {D : Device S T N I E} {s s' : State S T N} {o : Output S}
    (h : networkProvMgrStopProvisioning D s = some (s', o)) : Effect D s .stop s' o := by
  unfold networkProvMgrStopProvisioning at h
  split at h
  · rename_i hs
    cases h; exact .idle _ _ (by simpa using hs : s.mgr.started = false)
  rename_i hs
  simp only [Bool.not_eq_true', Bool.not_eq_false] at hs
  split at h
  · cases h
  dsimp only at h
  split at h
  · rename_i hd
    cases h; exact .deferred hs hd
  · rename_i hd
    obtain ⟨scheme, h1, he⟩ := doTeardown_started h hs
    cases he
    exact .stopped scheme hs (Nat.eq_zero_of_not_pos hd) h1

theorem fire_effect {D : Device S T N I E} {s s' : State S T N} {o : Output S}
    (h : step D s .fire = some (s', o)) : Effect D s .fire s' o := by
  simp only [step] at h
  split at h
  · rename_i hw
    unfold teardownWorkFn at h
    split at h
    · rename_i hs
      obtain ⟨r, hr, he⟩ := Option.map_eq_some_iff.1 h
      obtain ⟨scheme, h1, rfl⟩ := doTeardown_started hr hs
      cases he
      exact .fired scheme hw.1 hs h1
    · rename_i hs
      cases h
      exact .lapsed hw.1 (by simpa using hs)
  · cases h

theorem net_effect {D : Device S T N I E} {i : I} {s s' : State S T N} {o : Output S}
    (h : netStep D s i = some (s', o)) : Effect D s (.net i) s' o := by
  obtain ⟨⟨net, evs⟩, hn, he⟩ := Option.map_eq_some_iff.1 h
  dsimp only at he
  by_cases hc : .credSuccess ∈ evs
  · rw [if_pos hc] at he
    cases he; exact .success i net evs hn hc
  · rw [if_neg hc] at he
    cases he; exact .quiet i net evs hn hc

theorem ret_effect {D : Device S T N I E} {i : Nat} {s s' : State S T N} {o : Output S}
    (h : retStep i s = some (s', o)) : Effect D s (.ret i) s' o := by
  unfold retStep at h
  split at h
  · cases h
  · rename_i st hst
    obtain ⟨r, hr, he⟩ := Option.map_eq_some_iff.1 h
    obtain ⟨g, hg, rfl⟩ := Option.map_eq_some_iff.1 hr
    cases he
    unfold State.giveDone at hg
    split at hg
    · rename_i hw
      cases hg
      have hgiven := Effect.given (D := D) (s := s) i st hst hw
      cases hc : s.mgr.started && s.mgr.autoStop with
      | true => simpa [hc, Output.of] using hgiven
      | false => simpa [hc, Output.of] using hgiven
    · obtain ⟨m, hm, rfl⟩ := Option.map_eq_some_iff.1 hg
      have hwoken := Effect.woken (D := D) (s := s) i st m hst hm
      cases hc : s.mgr.started && s.mgr.autoStop with
      | true => simpa [hc] using hwoken
      | false => simpa [hc] using hwoken
  · rename_i st hst
    cases h; exact .deinitReturns i st hst
  · rename_i st hst
    cases h; exact .workReturns i st hst

/-- All a step can do: the cases of `Effect`. -/
theorem step_effect {D : Device S T N I E} {s s' : State S T N} {l : Label I E S} {o : Output S}
    (h : step D s l = some (s', o)) : Effect D s l s' o := by
  cases l with
  | init c => exact init_effect (Option.some.inj h)
  | deinit => exact deinit_effect h
  | start e => exact start_effect h
  | stop => exact stop_effect h
  | disableAutoStop ms =>
    simp only [step, networkProvMgrDisableAutoStop, Option.some.injEq] at h
    split at h
    · rename_i hi
      cases h; exact .idle _ _ (by simpa using hi : s.mgr.inited = false)
    · rename_i hi
      cases h; exact .autoStopOff ms (by simpa using hi)
  | wait =>
    simp only [step, networkProvMgrWait, Option.some.injEq] at h
    split at h
    · rename_i hd
      cases h; exact .taken hd
    · rename_i hd
      cases h; exact .waits (by omega)
  | fire => exact fire_effect h
  | net i => exact net_effect h
  | ret i => exact ret_effect h

theorem ok_effect {D : Device S T N I E} {e : Step S T N I E} (h : (mgrMachine D).Ok e) :
    Effect D e.pre e.lbl e.post e.out := step_effect h

/-! ## Handlers in step with the manager -/

/-- `P started` holds of the handlers after a start and after a stop, and what happens in between
keeps it. -/
structure Device.Tracks (D : Device S T N I E) (P : Bool → N → Prop) : Prop where
  init : ∀ e attempts net net', D.netInit e attempts net = (0, net') → P true net'
  deinit : ∀ net, P false (D.netDeinit net)
  step : ∀ started net net' i evs, D.netStep net i = some (net', evs) → P started net → P started net'

/-- A start that fails has taken down what it has set up. -/
theorem Effect.tracked {D : Device S T N I E} {P : Bool → N → Prop} (hD : D.Tracks P) {s s' : State S T N}
    {l : Label I E S} {o : Output S} (h : Effect D s l s' o) (hi : P s.mgr.started s.net) :
    P s'.mgr.started s'.net := by
  cases h with
  | deiniting | stopped | fired => exact hD.deinit s.net
  | failed e ret tr net _ hs _ _ hn =>
    have hdown : P false net := by
      rcases hn with rfl | rfl <;> exact hD.deinit _
    show P s.mgr.started net
    rw [hs]
    exact hdown
  | begun e scheme tr net _ _ _ hn => exact hD.init _ _ _ _ hn
  | quiet i net evs hn | success i net evs hn => exact hD.step _ _ _ i evs hn hi
  | _ => exact hi

theorem tracked_run {D : Device S T N I E} {P : Bool → N → Prop} (hD : D.Tracks P) {trans : T} {net : N}
    (h0 : P false net) {t : List (Step S T N I E)} {s : State S T N}
    (h : (mgrMachine D).Run (.boot trans net) t s) : P s.mgr.started s.net :=
  h.invariant (P := fun s => P s.mgr.started s.net) h0 fun _ he ih => (ok_effect he).tracked hD ih

/-! ## Values for concrete runs -/

/-- Two schemes that always start, and handlers that emit what they are told to. -/
def demo : Device Bool Unit Unit NetEvent Unit where
  start _ _ _ t := (0, t)
  stop _ t := t
  netInit _ _ n := (0, n)
  netDeinit n := n
  netStep n i := some (n, [i])

abbrev DemoLabel := Label NetEvent Unit Bool

/-- Initialise with a scheme. -/
def initWith (scheme : Bool) : DemoLabel := .init ⟨some ⟨scheme, true, true⟩, 0, 0⟩

/-- A start in which nothing fails. -/
def goodStart : StartEnv Unit := ⟨true, 0, 0, ⟨0, 0, 0⟩, 0, ()⟩

end NetworkProv.Manager
