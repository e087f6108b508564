import NetworkProv.Basic

/-!
# Starting and stopping the transports

`start` and `stop` of the three schemes (`src/protocomm_ble.c`,
`src/protocomm_softap.c`, `src/protocomm_console.c`) over their static
variables and what they set up in the platform: the GATT service, advertising,
the DHCP server and the access point. Each transport keeps the instance it
serves in its `g_pc`; every callback hands that to protocomm.

What the platform answers to the calls of one start is a `TransportEnv`, and to
those of one stop a `StopEnv`. A stop looks at no answer: what the platform does
not take down stays up.

Limitations: the attribute table and the advertising data, the state of the
HTTP request in flight, the interface address and what a stop does to the
instance's session are left out.

* `LeavesUp`: the starts that fail after they have set something up.
* `started`: what a start comes to.
* `KeepsUp`: the stops that do not take down what is up.
* `stop_stopped`: any other stop takes everything down.
-/
namespace NetworkProv.Transport

/-- The schemes of the repository. -/
inductive Scheme
  | ble
  | softap
  | console
  deriving DecidableEq

/-! ## BLE -/

/-- `svcRegistered` is the variable; `gatt`, `advertising`: what the host has up.
mirrors src/protocomm_ble.c:57,109 -/
structure Ble where
  gPc : Option Nat
  svcRegistered : Bool
  gatt : Bool
  advertising : Bool
  deriving DecidableEq

structure BleEnv where
  btEnable : Int
  gattRegister : Int
  advStart : Int

structure BleStopEnv where
  advStop : Int
  gattUnregister : Int

/-- mirrors src/protocomm_ble.c:303-342 -/
def networkProvBleStart (e : BleEnv) (pc : Nat) (b : Ble) : Int × Ble :=
  let b := { b with gPc := some pc }
  if e.btEnable ≠ 0 ∧ e.btEnable ≠ -EALREADY then (e.btEnable, b)
  else if e.gattRegister ≠ 0 then (e.gattRegister, b)
  else
    let b := { b with svcRegistered := true, gatt := true }
    if e.advStart ≠ 0 then (e.advStart, b) else (0, { b with advertising := true })

/-- mirrors src/protocomm_ble.c:344-352 -/
def networkProvBleStop (e : BleStopEnv) (b : Ble) : Ble :=
  let b := if e.advStop = 0 then { b with advertising := false } else b
  let b :=
    if b.svcRegistered then
      { b with svcRegistered := false, gatt := if e.gattUnregister = 0 then false else b.gatt }
    else b
  { b with gPc := none }

/-! ## SoftAP -/

abbrev SOFTAP_KEY_MIN_LEN := 8
abbrev SOFTAP_KEY_MAX_LEN := 64

/-- What the build has: Wi-Fi and a DHCP server configured in, and an interface
in the role of an access point. -/
structure Build where
  wifi : Bool
  dhcpv4Server : Bool
  sap : Bool

/-- What an access point is enabled with. -/
structure ApParams where
  ssid : Bytes
  psk : Option Bytes
  deriving DecidableEq

/-- `http`, `dhcp`, `ap`: what a start brought up and no stop has taken down.
mirrors src/protocomm_softap.c:50,66 -/
structure SoftAp where
  gPc : Option Nat
  sessionValid : Bool
  http : Bool
  dhcp : Bool
  ap : Option ApParams
  deriving DecidableEq

structure SoftApEnv where
  dhcpStart : Int
  apEnable : Int
  httpStart : Int

structure SoftApStopEnv where
  httpStop : Int
  dhcpStop : Int
  apDisable : Int

/-- mirrors src/protocomm_softap.c:354-369 -/
def networkProvSoftapHttpStart (e : SoftApEnv) (pc : Nat) (s : SoftAp) : Int × SoftAp :=
  let s := { s with gPc := some pc, sessionValid := false }
  if e.httpStart < 0 ∧ e.httpStart ≠ -EALREADY then (e.httpStart, s)
  else (0, { s with http := if e.httpStart < 0 then s.http else true })

/-- mirrors src/protocomm_softap.c:371-376 -/
def networkProvSoftapHttpStop (e : SoftApStopEnv) (s : SoftAp) : SoftAp :=
  { s with http := if e.httpStop = 0 then false else s.http, sessionValid := false, gPc := none }

/-- The constant addresses parse.
mirrors src/protocomm_softap.c:379-449 -/
def softapApStart (b : Build) (e : SoftApEnv) (serviceName : Bytes) (serviceKey : Option CStr)
    (s : SoftAp) : Int × SoftAp :=
  if !b.sap then (-ENODEV, s)
  else
    let key := charsOf serviceKey
    if key.length > 0 ∧ (key.length < SOFTAP_KEY_MIN_LEN ∨ key.length > SOFTAP_KEY_MAX_LEN) then
      (-EINVAL, s)
    else if b.dhcpv4Server ∧ e.dhcpStart ≠ 0 ∧ e.dhcpStart ≠ -EALREADY then (e.dhcpStart, s)
    else
      let s := if b.dhcpv4Server ∧ e.dhcpStart = 0 then { s with dhcp := true } else s
      if e.apEnable ≠ 0 then (e.apEnable, s)
      else
        let psk := if key.length > 0 then some key else none
        (0, { s with ap := some ⟨serviceName, psk⟩ })

/-- mirrors src/protocomm_softap.c:451-461 -/
def softapApStop (b : Build) (e : SoftApStopEnv) (s : SoftAp) : SoftAp :=
  if !b.sap then s
  else
    let s := if b.dhcpv4Server ∧ e.dhcpStop = 0 then { s with dhcp := false } else s
    if e.apDisable = 0 then { s with ap := none } else s

/-- mirrors src/protocomm_softap.c:465-483 -/
def networkProvSoftapStart (b : Build) (e : SoftApEnv) (pc : Nat) (serviceName serviceKey : Option CStr)
    (s : SoftAp) : Int × SoftAp :=
  if charsOf serviceName = [] then (-EINVAL, s)
  else
    match if b.wifi then softapApStart b e (charsOf serviceName) serviceKey s else (0, s) with
    | (ret, s) => if ret ≠ 0 then (ret, s) else networkProvSoftapHttpStart e pc s

/-- mirrors src/protocomm_softap.c:485-491 -/
def networkProvSoftapStop (b : Build) (e : SoftApStopEnv) (s : SoftAp) : SoftAp :=
  let s := networkProvSoftapHttpStop e s
  if b.wifi then softapApStop b e s else s

/-! ## Console -/

/-- mirrors src/protocomm_console.c:37-39 -/
structure Console where
  gPc : Option Nat
  curSession : Nat
  haveSession : Bool
  deriving DecidableEq

/-- mirrors src/protocomm_console.c:41-48 -/
def networkProvConsoleStart (pc : Nat) (_c : Console) : Int × Console := (0, ⟨some pc, 0, false⟩)

/-- mirrors src/protocomm_console.c:50-57 -/
def networkProvConsoleStop (c : Console) : Console := { c with gPc := none, haveSession := false }

/-! ## The scheme objects -/

/-- The answers to one stop. -/
structure StopEnv where
  ble : BleStopEnv
  softap : SoftApStopEnv

/-- `stops`: the answers to the stops to come. -/
structure Transports where
  ble : Ble
  softap : SoftAp
  console : Console
  stops : Nat → StopEnv

def Transports.boot (stops : Nat → StopEnv) : Transports :=
  ⟨⟨none, false, false, false⟩, ⟨none, false, false, false, none⟩, ⟨none, 0, false⟩, stops⟩

/-- The arguments for the scheme, and the platform's answers. -/
structure TransportEnv where
  serviceName : Option CStr
  serviceKey : Option CStr
  ble : BleEnv
  softap : SoftApEnv

/-- `scheme->start`. mirrors src/protocomm_ble.c:354-375, src/protocomm_softap.c:493-499,
src/protocomm_console.c:59-71 -/
def Scheme.start (b : Build) (e : TransportEnv) (k : Scheme) (pc : Nat) (t : Transports) :
    Int × Transports :=
  match k with
  | .ble =>
    match networkProvBleStart e.ble pc t.ble with
    | (ret, s) => (ret, { t with ble := s })
  | .softap =>
    match networkProvSoftapStart b e.softap pc e.serviceName e.serviceKey t.softap with
    | (ret, s) => (ret, { t with softap := s })
  | .console =>
    match networkProvConsoleStart pc t.console with
    | (ret, s) => (ret, { t with console := s })

/-- `scheme->stop` -/
def Scheme.stop (b : Build) (k : Scheme) (t : Transports) : Transports :=
  let stops := fun n => t.stops (n + 1)
  match k with
  | .ble => { t with ble := networkProvBleStop (t.stops 0).ble t.ble, stops := stops }
  | .softap => { t with softap := networkProvSoftapStop b (t.stops 0).softap t.softap, stops := stops }
  | .console => { t with console := networkProvConsoleStop t.console, stops := stops }

/-- The instance that the callbacks of the transport hand to protocomm. -/
def Transports.gPc (t : Transports) : Scheme → Option Nat
  | .ble => t.ble.gPc
  | .softap => t.softap.gPc
  | .console => t.console.gPc

/-- The transport serves no instance, and nothing it brings up is up. -/
def Transports.Stopped (t : Transports) : Scheme → Prop
  | .ble => t.ble.gPc = none ∧ t.ble.gatt = false ∧ t.ble.advertising = false
  | .softap => t.softap.gPc = none ∧ t.softap.http = false ∧ t.softap.dhcp = false ∧ t.softap.ap = none
  | .console => t.console.gPc = none

instance (t : Transports) : (k : Scheme) → Decidable (t.Stopped k)
  | .ble => inferInstanceAs (Decidable (_ ∧ _ ∧ _))
  | .softap => inferInstanceAs (Decidable (_ ∧ _ ∧ _ ∧ _))
  | .console => inferInstanceAs (Decidable (_ = _))

/-! ## Which starts leave something behind -/

def BleEnv.Fails (e : BleEnv) : Prop :=
  (e.btEnable ≠ 0 ∧ e.btEnable ≠ -EALREADY) ∨ e.gattRegister ≠ 0 ∨ e.advStart ≠ 0

/-- A SoftAP start gets as far as enabling the access point. -/
def ReachesAp (b : Build) (e : TransportEnv) : Prop :=
  b.sap = true ∧
    ¬ ((charsOf e.serviceKey).length > 0 ∧ ((charsOf e.serviceKey).length < SOFTAP_KEY_MIN_LEN ∨
      (charsOf e.serviceKey).length > SOFTAP_KEY_MAX_LEN)) ∧
    ¬ (b.dhcpv4Server = true ∧ e.softap.dhcpStart ≠ 0 ∧ e.softap.dhcpStart ≠ -EALREADY)

/-- The access point cannot be enabled, with the DHCP server just started for it. -/
def FailsAtAp (b : Build) (e : TransportEnv) : Prop :=
  b.wifi = true ∧ ReachesAp b e ∧ b.dhcpv4Server = true ∧ e.softap.dhcpStart = 0 ∧
    e.softap.apEnable ≠ 0

/-- The HTTP server does not start. -/
def FailsAtHttp (b : Build) (e : TransportEnv) : Prop :=
  (b.wifi = true → ReachesAp b e ∧ e.softap.apEnable = 0) ∧ e.softap.httpStart < 0 ∧
    e.softap.httpStart ≠ -EALREADY

/-- The start fails after it has set something up. -/
def LeavesUp (b : Build) (e : TransportEnv) : Scheme → Prop
  | .ble => e.ble.Fails
  | .softap => charsOf e.serviceName ≠ [] ∧ (FailsAtAp b e ∨ FailsAtHttp b e)
  | .console => False

/-- The next stop leaves something up. -/
def KeepsUp (t : Transports) : Scheme → Prop
  | .ble => (t.ble.advertising = true ∧ (t.stops 0).ble.advStop ≠ 0) ∨
      (t.ble.gatt = true ∧ (t.stops 0).ble.gattUnregister ≠ 0)
  | .softap => (t.softap.http = true ∧ (t.stops 0).softap.httpStop ≠ 0) ∨
      (t.softap.dhcp = true ∧ (t.stops 0).softap.dhcpStop ≠ 0) ∨
      (t.softap.ap ≠ none ∧ (t.stops 0).softap.apDisable ≠ 0)
  | .console => False

/-- What is up belongs to the build, and a service of the host is one the variable knows of. -/
structure Transports.Fits (b : Build) (t : Transports) : Prop where
  gatt : t.ble.gatt = true → t.ble.svcRegistered = true
  dhcp : t.softap.dhcp = true → b.wifi = true ∧ b.sap = true ∧ b.dhcpv4Server = true
  ap : t.softap.ap ≠ none → b.wifi = true ∧ b.sap = true

/-- What a start comes to: it serves the instance, or it fails before or after it has set
something up. -/
inductive Started (b : Build) (e : TransportEnv) (k : Scheme) (pc : Nat) (t : Transports) :
    Int × Transports → Prop
  | ok (t' : Transports) : t'.gPc k = some pc → ¬ LeavesUp b e k → Started b e k pc t (0, t')
  | clean (ret : Int) : ret ≠ 0 → ¬ LeavesUp b e k → Started b e k pc t (ret, t)
  | dirty (ret : Int) (t' : Transports) : ret ≠ 0 → LeavesUp b e k → ¬ t'.Stopped k →
      Started b e k pc t (ret, t')

theorem ble_started (b : Build) (e : TransportEnv) (pc : Nat) (t : Transports) :
    Started b e .ble pc t (Scheme.ble.start b e pc t) := by
  simp only [Scheme.start, networkProvBleStart]
  split
  · rename_i h
    exact .dirty _ _ h.1 (.inl h) fun hs => by cases hs.1
  rename_i h1
  split
  · rename_i h
    exact .dirty _ _ h (.inr (.inl h)) fun hs => by cases hs.1
  rename_i h2
  split
  · rename_i h
    exact .dirty _ _ h (.inr (.inr h)) fun hs => by cases hs.1
  · rename_i h3
    exact .ok _ rfl fun hf => hf.elim h1 fun hf => hf.elim h2 h3

theorem softapHttp_started {b : Build} {e : TransportEnv} {pc : Nat} {t : Transports} {s : SoftAp}
    (hn : charsOf e.serviceName ≠ []) (hw : b.wifi = true → ReachesAp b e ∧ e.softap.apEnable = 0) :
    Started b e .softap pc t
      ((networkProvSoftapHttpStart e.softap pc s).1,
        { t with softap := (networkProvSoftapHttpStart e.softap pc s).2 }) := by
  unfold networkProvSoftapHttpStart
  dsimp only
  split
  · rename_i h
    exact .dirty _ _ (by omega) ⟨hn, .inr ⟨hw, h⟩⟩ fun hs => by cases hs.1
  · rename_i h
    refine .ok _ rfl ?_
    rintro ⟨-, hf | hf⟩
    · exact hf.2.2.2.2 (hw hf.1).2
    · exact h hf.2

/-- Starting the access point fails before anything is up, or at the access point itself. -/
theorem softapApStart_cases (b : Build) (e : TransportEnv) (s : SoftAp) :
    (¬ ReachesAp b e ∧
      ∃ ret, ret ≠ 0 ∧ softapApStart b e.softap (charsOf e.serviceName) e.serviceKey s = (ret, s)) ∨
    (ReachesAp b e ∧ e.softap.apEnable ≠ 0 ∧
      softapApStart b e.softap (charsOf e.serviceName) e.serviceKey s = (e.softap.apEnable,
        if b.dhcpv4Server ∧ e.softap.dhcpStart = 0 then { s with dhcp := true } else s)) ∨
    (ReachesAp b e ∧ e.softap.apEnable = 0 ∧
      ∃ s', softapApStart b e.softap (charsOf e.serviceName) e.serviceKey s = (0, s') ∧
        (s'.dhcp = true → s.dhcp = true ∨ b.dhcpv4Server = true)) := by
  unfold softapApStart
  dsimp only
  cases hsap : b.sap with
  | false =>
    refine .inl ⟨fun h => ?_, _, (by decide : -ENODEV ≠ 0), rfl⟩
    rw [h.1] at hsap; cases hsap
  | true =>
    rw [if_neg (by simp)]
    split
    · rename_i h
      exact .inl ⟨fun hr => hr.2.1 h, _, (by decide : -EINVAL ≠ 0), rfl⟩
    rename_i hkey
    split
    · rename_i h
      exact .inl ⟨fun hr => hr.2.2 h, _, h.2.1, rfl⟩
    rename_i hdhcp
    have hr : ReachesAp b e := ⟨hsap, hkey, hdhcp⟩
    by_cases hap : e.softap.apEnable = 0
    · rw [if_neg (by simpa using hap)]
      refine .inr (.inr ⟨hr, hap, _, rfl, fun hd => ?_⟩)
      dsimp only at hd
      split at hd
      · rename_i h
        exact .inr h.1
      · exact .inl hd
    · rw [if_pos hap]
      exact .inr (.inl ⟨hr, hap, rfl⟩)

theorem softap_started (b : Build) (e : TransportEnv) (pc : Nat) (t : Transports) :
    Started b e .softap pc t (Scheme.softap.start b e pc t) := by
  simp only [Scheme.start, networkProvSoftapStart]
  split
  · rename_i h
    exact .clean (-EINVAL) (by decide) fun hl => hl.1 h
  rename_i hn
  cases hw : b.wifi with
  | false =>
    simp only [Bool.false_eq_true, if_false, ne_eq, not_true_eq_false]
    exact softapHttp_started hn fun h => by rw [hw] at h; cases h
  | true =>
    simp only [if_true]
    rcases softapApStart_cases b e t.softap with ⟨hr, ret, hne, heq⟩ | ⟨hr, hap, heq⟩ | ⟨hr, hap, s, heq, -⟩
    · rw [heq]
      simp only [ne_eq, hne, not_false_eq_true, if_true]
      refine .clean ret hne ?_
      rintro ⟨-, hf | hf⟩
      · exact hr hf.2.1
      · exact hr (hf.1 hw).1
    · rw [heq]
      simp only [ne_eq, hap, not_false_eq_true, if_true]
      by_cases hd : b.dhcpv4Server = true ∧ e.softap.dhcpStart = 0
      · rw [if_pos hd]
        exact .dirty _ _ hap ⟨hn, .inl ⟨hw, hr, hd.1, hd.2, hap⟩⟩ fun hs => by cases hs.2.2.1
      · rw [if_neg hd]
        refine .clean _ hap ?_
        rintro ⟨-, hf | hf⟩
        · exact hd ⟨hf.2.2.1, hf.2.2.2.1⟩
        · exact hap (hf.1 hw).2
    · rw [heq]
      simp only [ne_eq, not_true_eq_false, if_false]
      exact softapHttp_started hn fun _ => ⟨hr, hap⟩

theorem started (b : Build) (e : TransportEnv) (k : Scheme) (pc : Nat) (t : Transports) :
    Started b e k pc t (k.start b e pc t) := by
  cases k with
  | ble => exact ble_started b e pc t
  | softap => exact softap_started b e pc t
  | console => exact .ok _ rfl fun h => h

/-! ## What a start or a stop leaves alone -/

theorem start_other (b : Build) (e : TransportEnv) {k k' : Scheme} (pc : Nat) (t : Transports)
    (h : k' ≠ k) : (k.start b e pc t).2.gPc k' = t.gPc k' ∧
      ((k.start b e pc t).2.Stopped k' ↔ t.Stopped k') := by
  cases k <;> cases k' <;> first | exact absurd rfl h | exact ⟨rfl, Iff.rfl⟩

theorem stop_other {b : Build} {k k' : Scheme} {t : Transports} (h : k' ≠ k) :
    (k.stop b t).gPc k' = t.gPc k' ∧ ((k.stop b t).Stopped k' ↔ t.Stopped k') := by
  cases k <;> cases k' <;> first | exact absurd rfl h | exact ⟨rfl, Iff.rfl⟩

theorem Transports.Stopped.gPc {t : Transports} {k : Scheme} (h : t.Stopped k) : t.gPc k = none := by
  cases k with
  | ble => exact h.1
  | softap => exact h.1
  | console => exact h

theorem softapHttp_keeps (e : SoftApEnv) (pc : Nat) (s : SoftAp) :
    (networkProvSoftapHttpStart e pc s).2.dhcp = s.dhcp ∧
      (networkProvSoftapHttpStart e pc s).2.ap = s.ap := by
  unfold networkProvSoftapHttpStart
  dsimp only
  split <;> exact ⟨rfl, rfl⟩

theorem Transports.Fits.http {b : Build} {t : Transports} (h : t.Fits b) (e : SoftApEnv) (pc : Nat) :
    ({ t with softap := (networkProvSoftapHttpStart e pc t.softap).2 } : Transports).Fits b := by
  obtain ⟨h1, h2⟩ := softapHttp_keeps e pc t.softap
  exact ⟨h.gatt, fun hd => h.dhcp (h1 ▸ hd), fun ha => h.ap (h2 ▸ ha)⟩

theorem bleStart_gatt (e : BleEnv) (pc : Nat) {s : Ble} (h : s.gatt = true → s.svcRegistered = true) :
    (networkProvBleStart e pc s).2.gatt = true → (networkProvBleStart e pc s).2.svcRegistered = true := by
  unfold networkProvBleStart
  dsimp only
  split
  · exact h
  split
  · exact h
  split <;> exact fun _ => rfl

theorem fits_start {b : Build} {t : Transports} (h : t.Fits b) (e : TransportEnv) (k : Scheme) (pc : Nat) :
    (k.start b e pc t).2.Fits b := by
  cases k with
  | ble => exact ⟨bleStart_gatt e.ble pc h.gatt, h.dhcp, h.ap⟩
  | console => exact ⟨h.gatt, h.dhcp, h.ap⟩
  | softap =>
    simp only [Scheme.start, networkProvSoftapStart]
    split
    · exact h
    cases hw : b.wifi with
    | false =>
      simp only [Bool.false_eq_true, if_false, ne_eq, not_true_eq_false]
      exact h.http e.softap pc
    | true =>
      simp only [if_true]
      rcases softapApStart_cases b e t.softap with ⟨hr, ret, hne, heq⟩ | ⟨hr, hap, heq⟩ |
          ⟨hr, hap, s, heq, hd⟩
      · rw [heq]
        simp only [ne_eq, hne, not_false_eq_true, if_true]
        exact h
      · rw [heq]
        simp only [ne_eq, hap, not_false_eq_true, if_true]
        split
        · rename_i hd
          exact ⟨h.gatt, fun _ => ⟨hw, hr.1, hd.1⟩, h.ap⟩
        · exact h
      · rw [heq]
        simp only [ne_eq, not_true_eq_false, if_false]
        have hs : ({ t with softap := s } : Transports).Fits b := by
          refine ⟨h.gatt, fun hs => ⟨hw, hr.1, ?_⟩, fun _ => ⟨hw, hr.1⟩⟩
          exact (hd hs).elim (fun h' => (h.dhcp h').2.2) id
        exact hs.http e.softap pc

/-! ## What a stop takes down -/

theorem bleStop_spec (e : BleStopEnv) (s : Ble) :
    (networkProvBleStop e s).gPc = none ∧ (networkProvBleStop e s).svcRegistered = false ∧
      (networkProvBleStop e s).gatt = (s.gatt && !(s.svcRegistered && e.gattUnregister == 0)) ∧
      (networkProvBleStop e s).advertising = (s.advertising && e.advStop != 0) := by
  unfold networkProvBleStop
  obtain ⟨gPc, svcRegistered, gatt, advertising⟩ := s
  cases svcRegistered <;> by_cases ha : e.advStop = 0 <;> by_cases hu : e.gattUnregister = 0 <;> simp [ha, hu]

theorem softapHttpStop_spec (e : SoftApStopEnv) (s : SoftAp) :
    (networkProvSoftapHttpStop e s).gPc = none ∧
      (networkProvSoftapHttpStop e s).http = (s.http && e.httpStop != 0) ∧
      (networkProvSoftapHttpStop e s).dhcp = s.dhcp ∧ (networkProvSoftapHttpStop e s).ap = s.ap := by
  unfold networkProvSoftapHttpStop
  by_cases hh : e.httpStop = 0 <;> simp [hh]

theorem softapApStop_spec (b : Build) (e : SoftApStopEnv) (s : SoftAp) :
    (softapApStop b e s).gPc = s.gPc ∧ (softapApStop b e s).http = s.http ∧
      (softapApStop b e s).dhcp = (s.dhcp && !(b.sap && b.dhcpv4Server && e.dhcpStop == 0)) ∧
      (softapApStop b e s).ap = if b.sap && e.apDisable == 0 then none else s.ap := by
  unfold softapApStop
  cases hs : b.sap with
  | false => simp
  | true =>
    cases hd : b.dhcpv4Server <;> by_cases hr : e.dhcpStop = 0 <;> by_cases ha : e.apDisable = 0 <;> simp [hr, ha]

theorem softapStop_spec (b : Build) (e : SoftApStopEnv) (s : SoftAp) :
    (networkProvSoftapStop b e s).gPc = none ∧
      (networkProvSoftapStop b e s).http = (s.http && e.httpStop != 0) ∧
      (networkProvSoftapStop b e s).dhcp = (s.dhcp && !(b.wifi && b.sap && b.dhcpv4Server && e.dhcpStop == 0)) ∧
      (networkProvSoftapStop b e s).ap = if b.wifi && b.sap && e.apDisable == 0 then none else s.ap := by
  obtain ⟨h1, h2, h3, h4⟩ := softapHttpStop_spec e s
  unfold networkProvSoftapStop
  cases hw : b.wifi with
  | false => simp [h1, h2, h3, h4]
  | true =>
    obtain ⟨h1', h2', h3', h4'⟩ := softapApStop_spec b e (networkProvSoftapHttpStop e s)
    simp [h1', h2', h3', h4', h1, h2, h3, h4]

theorem bleStop_stopped {s : Ble} (e : BleStopEnv) (h : s.gatt = true → s.svcRegistered = true) :
    ((networkProvBleStop e s).gPc = none ∧ (networkProvBleStop e s).gatt = false ∧
        (networkProvBleStop e s).advertising = false) ↔
      ¬ ((s.advertising = true ∧ e.advStop ≠ 0) ∨ (s.gatt = true ∧ e.gattUnregister ≠ 0)) := by
  obtain ⟨h1, -, h2, h3⟩ := bleStop_spec e s
  rw [h1, h2, h3]
  cases hg : s.gatt with
  | false => simp
  | true =>
    rw [h hg]
    simp
    tauto

theorem softapStop_stopped {b : Build} {s : SoftAp} (e : SoftApStopEnv)
    (hdhcp : s.dhcp = true → b.wifi = true ∧ b.sap = true ∧ b.dhcpv4Server = true)
    (hap : s.ap ≠ none → b.wifi = true ∧ b.sap = true) :
    ((networkProvSoftapStop b e s).gPc = none ∧ (networkProvSoftapStop b e s).http = false ∧
        (networkProvSoftapStop b e s).dhcp = false ∧ (networkProvSoftapStop b e s).ap = none) ↔
      ¬ ((s.http = true ∧ e.httpStop ≠ 0) ∨ (s.dhcp = true ∧ e.dhcpStop ≠ 0) ∨
        (s.ap ≠ none ∧ e.apDisable ≠ 0)) := by
  obtain ⟨h1, hhttp, h2, h3⟩ := softapStop_spec b e s
  have hh : (networkProvSoftapStop b e s).http = false ↔ ¬ (s.http = true ∧ e.httpStop ≠ 0) := by
    rw [hhttp]
    simp
  have hd : (networkProvSoftapStop b e s).dhcp = false ↔ ¬ (s.dhcp = true ∧ e.dhcpStop ≠ 0) := by
    rw [h2]
    cases hs : s.dhcp with
    | false => simp
    | true => simp [hdhcp hs]
  have ha : (networkProvSoftapStop b e s).ap = none ↔ ¬ (s.ap ≠ none ∧ e.apDisable ≠ 0) := by
    rw [h3]
    by_cases hs : s.ap = none
    · simp [hs]
    · simp [hap hs, hs]
  rw [hh, hd, ha]
  exact ⟨fun h => not_or.2 ⟨h.2.1, not_or.2 h.2.2⟩, fun h => ⟨h1, (not_or.1 h).1, not_or.1 (not_or.1 h).2⟩⟩

/-- A stop takes down what is up, where the platform does so. -/
theorem stop_stopped {b : Build} {t : Transports} (h : t.Fits b) (k : Scheme) :
    (k.stop b t).Stopped k ↔ ¬ KeepsUp t k := by
  cases k with
  | ble => exact bleStop_stopped (t.stops 0).ble h.gatt
  | softap => exact softapStop_stopped (t.stops 0).softap h.dhcp h.ap
  | console => exact iff_of_true rfl id

theorem fits_stop {b : Build} {t : Transports} (h : t.Fits b) {k : Scheme} (hk : ¬ KeepsUp t k) :
    (k.stop b t).Fits b := by
  have hstop := (stop_stopped h k).2 hk
  cases k with
  | ble => exact ⟨fun hg => (by rw [hstop.2.1] at hg; cases hg), h.dhcp, h.ap⟩
  | console => exact ⟨h.gatt, h.dhcp, h.ap⟩
  | softap => exact ⟨h.gatt, fun hd => (by rw [hstop.2.2.1] at hd; cases hd), fun ha => absurd hstop.2.2.2 ha⟩

end NetworkProv.Transport
