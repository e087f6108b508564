import NetworkProv.Security.Security0
import NetworkProv.Security.Wire
import NetworkProv.Transport.Gatt

/-!
# What a central gets over BLE

* `ble_refines`: between a start and a stop the instance goes through a run of
  protocomm, one operation for each connection, disconnection and write.
* `reads_own`: a read returns what the last write to the same endpoint was answered with,
  in this connection.
* `ble_call`: a central that looks an endpoint up by its name, writes and reads to the
  end has made a request of protocomm.
-/
namespace NetworkProv.Ble
open NetworkProv.Core Protocomm Endpoints Transport

variable {σ C W : Type} {maxResp : Nat}

/-! ## The table of a start -/

/-- What protocomm makes sure of as endpoints are added. -/
structure TableOk (pc : Protocomm σ C W) : Prop where
  room : pc.endpoints.length ≤ MAX_EP
  short : ∀ ep ∈ pc.endpoints, ep.name.chars.length < PROTOCOMM_EP_NAME_MAX
  nodup : (pc.endpoints.map (·.name)).Nodup

theorem tableOk_new : TableOk (protocommNew : Protocomm σ C W) := ⟨Nat.zero_le _, by simp [protocommNew], .nil⟩

theorem TableOk.addEp {pc pc' : Protocomm σ C W} {name : Option CStr} {type : EpType σ} (h : TableOk pc)
    (ha : addEp pc name type = .ok pc') : TableOk pc' := by
  unfold Protocomm.addEp at ha
  split at ha
  · cases ha
  rename_i n
  split at ha
  · cases ha
  rename_i hlen
  split at ha
  · cases ha
  rename_i hnew
  split at ha
  · cases ha
  rename_i hroom
  cases ha
  have hnew' : n ∉ pc.endpoints.map (·.name) := by
    intro hm
    obtain ⟨ep, hep, rfl⟩ := List.mem_map.1 hm
    exact hnew (List.find?_isSome.2 ⟨ep, hep, decide_eq_true rfl⟩)
  refine ⟨?_, fun ep hep => ?_, ?_⟩
  · rw [List.length_append]
    exact Nat.lt_of_not_le hroom
  · rcases List.mem_append.1 hep with hep | hep
    · exact h.short ep hep
    · rw [List.mem_singleton.1 hep]
      exact Nat.lt_of_not_le hlen
  · rw [List.map_append, List.nodup_append]
    refine ⟨h.nodup, by simp, fun a ha b hb => ?_⟩
    rw [List.map_singleton, List.mem_singleton] at hb
    rw [hb]
    rintro rfl
    exact hnew' ha

theorem bind_ok {α β : Type} {x : Except Int α} {f : α → Except Int β} {b : β} (h : (x >>= f) = .ok b) :
    ∃ a, x = .ok a ∧ f a = .ok b := by
  cases x with
  | error ret => cases h
  | ok a => exact ⟨a, rfl, h⟩

theorem map_ok {α β : Type} {x : Except Int α} {f : α → β} {b : β} (h : x.map f = .ok b) :
    ∃ a, x = .ok a ∧ f a = b := by
  cases x with
  | error ret => cases h
  | ok a => exact ⟨a, rfl, Except.ok.inj h⟩

theorem TableOk.setVersion {pc pc' : Protocomm σ C W} {name version : Option CStr} (h : TableOk pc)
    (hv : protocommSetVersion pc name version = .ok pc') : TableOk pc' := by
  unfold protocommSetVersion at hv
  split at hv
  · cases hv
  · obtain ⟨a, ha, rfl⟩ := map_ok hv
    exact ⟨(h.addEp ha).room, (h.addEp ha).short, (h.addEp ha).nodup⟩

theorem TableOk.setSecurity {pc pc' : Protocomm σ C W} {name pop : Option CStr}
    {sec : Option (ProtocommSecurity C W)} (h : TableOk pc)
    (hs : protocommSetSecurity pc name sec pop = .ok pc') : TableOk pc' := by
  unfold protocommSetSecurity at hs
  split at hs
  · cases hs
  · obtain ⟨a, ha, rfl⟩ := map_ok hs
    exact ⟨(h.addEp ha).room, (h.addEp ha).short, (h.addEp ha).nodup⟩

theorem TableOk.custom {A H X : Type} {S : Service A C W H X} : ∀ (eps : List (CustomEp H X)) (i : Nat)
    {pc pc' : Pc A C W H X}, TableOk pc → addCustomEndpoints S i eps pc = .ok pc' → TableOk pc'
  | [], _, pc, pc', ht, h => by
    cases h
    exact ht
  | ep :: eps, i, pc, pc', ht, h => by
    unfold addCustomEndpoints at h
    split at h
    · exact TableOk.custom eps (i + 1) ht h
    · obtain ⟨pc₁, h₁, h⟩ := bind_ok h
      exact TableOk.custom eps (i + 1) (ht.addEp h₁) h

/-- What a start registers with is such a table. -/
theorem tableOk_registered {A H X : Type} {S : Service A C W H X} {security1 : Bool} {pop : Option CStr} {e : StartEnv}
    {custom : List (CustomEp H X)} {pc : Pc A C W H X} (h : registerEndpoints S security1 pop e custom = .ok pc) :
    TableOk pc := by
  unfold registerEndpoints netEndpointsInit at h
  obtain ⟨pc₁, h₁, h⟩ := bind_ok h
  obtain ⟨pc₂, h₂, h⟩ := bind_ok h
  obtain ⟨pc₅, h₅, h⟩ := bind_ok h
  obtain ⟨-, -, h₅⟩ := bind_ok h₅
  obtain ⟨pc₃, h₃, h₅⟩ := bind_ok h₅
  obtain ⟨-, -, h₅⟩ := bind_ok h₅
  obtain ⟨pc₄, h₄, h₅⟩ := bind_ok h₅
  exact TableOk.custom custom 0
    (((((tableOk_new.setVersion h₁).setSecurity h₂).addEp h₃).addEp h₄).addEp h₅) h

/-- The attribute table is that of these endpoints. -/
structure Built (eps : List (ProtocommEp σ)) (g : Gatt σ C W) : Prop where
  attrs : g.attrs = .primary :: epAttrs 0 eps.length
  name : ∀ i ep, eps[i]? = some ep → (g.epIo i).name = ep.name
  uuid : ∀ i < eps.length, g.epUuid i = epUuidOf g.serviceUuid i

theorem value_mem {i n : Nat} : GattAttr.value i ∈ GattAttr.primary :: epAttrs 0 n ↔ i < n := by
  simp [epAttrs]

theorem buildService_built {pc : Protocomm σ C W} (h : TableOk pc) (g : Gatt σ C W) :
    Built pc.endpoints (buildService pc g) ∧ ∀ i < pc.endpoints.length, ((buildService pc g).epIo i).resp = [] := by
  rw [buildService_eq, Nat.min_eq_left h.room]
  refine ⟨⟨rfl, fun i ep hi => ?_, fun i hi => if_pos hi⟩, fun i hi => ?_⟩
  · obtain ⟨hlt, -⟩ := List.getElem?_eq_some_iff.1 hi
    simp only [if_pos hlt, hi, Option.map_some, Option.getD_some]
    exact strncpyName_eq (h.short ep (List.mem_of_getElem? hi))
  · simp [hi]

/-- The transport serves the instance. -/
structure Serves (eps : List (ProtocommEp σ)) (s : Session σ C W) (g : Gatt σ C W) : Prop where
  pc : g.gPc = some s
  table : s.pc.endpoints = eps
  registered : g.svcRegistered = true
  gatt : g.gatt = true
  built : Built eps g

/-- So it does after a start that succeeds, and no response is left from before. -/
theorem start_serves {e : GattEnv} {s : Session σ C W} {deviceName : Option CStr} {g₀ g : Gatt σ C W}
    (hpc : TableOk s.pc) (h : networkProvBleStart e s deviceName g₀ = (0, g)) :
    Serves s.pc.endpoints s g ∧ ∀ i < s.pc.endpoints.length, (g.epIo i).resp = [] := by
  unfold networkProvBleStart at h
  dsimp only at h
  split at h
  · rename_i hb
    exact absurd (congrArg Prod.fst h) hb.1
  split at h
  · rename_i hg
    exact absurd (congrArg Prod.fst h) hg
  split at h
  · rename_i ha
    exact absurd (congrArg Prod.fst h) ha
  · cases h
    obtain ⟨hb, hr⟩ := buildService_built hpc { g₀ with gPc := some s }
    exact ⟨⟨by rw [buildService_eq]; rfl, rfl, rfl, rfl, ⟨hb.attrs, hb.name, hb.uuid⟩⟩, hr⟩

/-! ## Requests -/

/-- Neither a start nor a stop. -/
def GattOp.IsCentral (op : GattOp σ C W) : Prop := (∀ e pc deviceName, op ≠ .start e pc deviceName) ∧ ∀ e, op ≠ .stop e

/-- The write is a whole request. -/
def Taken (a : BleWrite) : Prop := a.prepare = false ∧ a.offset = 0

instance (a : BleWrite) : Decidable (Taken a) := inferInstanceAs (Decidable (_ ∧ _))

/-- What is asked of protocomm. -/
def requestOf (eps : List (ProtocommEp σ)) : GattOp σ C W → Option PcOp
  | .connected err e => if err = 0 then some (.openSession e) else none
  | .disconnected => some .closeSession
  | .write (.value i) a => if Taken a then some (.req a.req ((eps[i]?).map (·.name)) a.buf) else none
  | _ => none

/-- What a write that is a request returns to the central. -/
def writeResult (maxResp : Nat) (a : BleWrite) (r : Reply) : Int :=
  if r.ret ≠ 0 then UNLIKELY else if r.out.length > maxResp then INSUFFICIENT_RESOURCES else a.buf.length

theorem writeEp_taken {a : BleWrite} (ha : Taken a) (io : EpIo) (s : Session σ C W) :
    writeEp maxResp a io s =
      (writeResult maxResp a (protocommReqHandle a.req s (some io.name) a.buf).2,
        { io with resp := (protocommReqHandle a.req s (some io.name) a.buf).2.delivered maxResp },
        (protocommReqHandle a.req s (some io.name) a.buf).1) := by
  unfold writeEp writeResult Reply.delivered
  rw [if_neg (by simp [ha.1]), if_neg (by simp [ha.2])]
  generalize protocommReqHandle a.req s (some io.name) a.buf = q
  obtain ⟨s', r⟩ := q
  by_cases hr : r.ret = 0
  · by_cases hl : r.out.length > maxResp
    · simp [hr, hl]
    · simp [hr, hl]
  · simp [hr]

theorem writeEp_notTaken (maxResp : Nat) {a : BleWrite} (ha : ¬ Taken a) (io : EpIo) (s : Session σ C W) :
    ∃ ret, writeEp maxResp a io s = (ret, io, s) := by
  unfold writeEp
  split
  · exact ⟨_, rfl⟩
  rename_i hp
  rw [if_pos fun h0 => ha ⟨by simpa using hp, h0⟩]
  exact ⟨_, rfl⟩

/-- What a step of the transport comes to on the instance, and what a write returns. -/
def Carries (maxResp : Nat) (eps : List (ProtocommEp σ)) (x : GattEntry σ C W) (t : List (PcEntry σ C W)) : Prop :=
  t.map (·.lbl) = (requestOf eps x.lbl).toList ∧
    ∀ i a y, x.lbl = .write (.value i) a → y ∈ t → x.out = .ret (writeResult maxResp a y.out)

/-- The instance served is in the table it was started with. -/
theorem pc_table {s s' : Session σ C W} {op : PcOp} {r : Reply} (h : s.step op = some (s', r)) :
    s'.pc.endpoints = s.pc.endpoints := by
  rw [Session.step_config h]

theorem serves_open {eps : List (ProtocommEp σ)} {s s' : Session σ C W} {g : Gatt σ C W} {r : Reply}
    (h : Serves eps s g) (op : PcOp) (hs : s.step op = some (s', r)) :
    Serves eps s' { g with gPc := some s' } :=
  ⟨rfl, (pc_table hs).trans h.table, h.registered, h.gatt, h.built.attrs, h.built.name, h.built.uuid⟩

theorem serves_resp {eps : List (ProtocommEp σ)} {s : Session σ C W} {g : Gatt σ C W} (h : Serves eps s g)
    {io : Nat → EpIo} (hio : ∀ i, (io i).name = (g.epIo i).name) : Serves eps s { g with epIo := io } :=
  ⟨h.pc, h.table, h.registered, h.gatt, h.built.attrs, fun i ep hi => (hio i).trans (h.built.name i ep hi), h.built.uuid⟩

/-- What a step of the transport comes to. -/
def StepsAs (maxResp : Nat) (eps : List (ProtocommEp σ)) (s : Session σ C W) (x : GattEntry σ C W) : Prop :=
  ∃ s' t, Serves eps s' x.post ∧ Protocomm.machine.Run s t s' ∧ Carries maxResp eps x t

/-- A step that leaves the instance alone. -/
theorem stepsAs_quiet {eps : List (ProtocommEp σ)} {s : Session σ C W} {x : GattEntry σ C W}
    (h : Serves eps s x.post) (hn : requestOf eps x.lbl = none) : StepsAs maxResp eps s x := by
  refine ⟨s, [], h, .nil, by rw [hn]; rfl, fun i a y _ hy => ?_⟩
  cases hy

/-- A step that is one of the instance. -/
theorem stepsAs_loud {eps : List (ProtocommEp σ)} {s s' : Session σ C W} {x : GattEntry σ C W} {r : Reply}
    (op : PcOp) (hs : s.step op = some (s', r)) (hn : requestOf eps x.lbl = some op) (h : Serves eps s' x.post)
    (hw : ∀ i a, x.lbl = .write (.value i) a → x.out = .ret (writeResult maxResp a r)) :
    StepsAs maxResp eps s x := by
  refine ⟨s', [⟨s, op, r, s'⟩], h, .one (e := ⟨s, op, r, s'⟩) hs, by rw [hn]; rfl, fun i a y ha hy => ?_⟩
  rw [List.mem_singleton.1 hy]
  exact hw i a ha

theorem connected_steps {eps : List (ProtocommEp σ)} {s : Session σ C W} {g : Gatt σ C W} (h : Serves eps s g)
    (err : Nat) (e : Env) (o : GattOut) : StepsAs maxResp eps s ⟨g, .connected err e, o, connected err e g⟩ := by
  by_cases he : err = 0
  · have hg : connected err e g = { g with gPc := some (protocommOpenSession e s) } := by
      unfold connected
      rw [if_neg (fun hn => hn he), h.pc, Option.map_some]
    rw [hg]
    exact stepsAs_loud (.openSession e) rfl (if_pos he) (serves_open h (.openSession e) rfl) fun i a ha => by cases ha
  · rw [show connected err e g = g from if_pos he]
    exact stepsAs_quiet h (if_neg he)

theorem disconnected_steps {eps : List (ProtocommEp σ)} {s : Session σ C W} {g : Gatt σ C W} (h : Serves eps s g)
    (o : GattOut) : StepsAs maxResp eps s ⟨g, .disconnected, o, disconnected g⟩ := by
  have hs := serves_open h .closeSession rfl
  refine stepsAs_loud .closeSession rfl rfl ?_ fun i a ha => by cases ha
  have hg : disconnected g = { { g with gPc := some (protocommCloseSession s) } with
      epIo := fun j => if j < MAX_EP then { g.epIo j with resp := [] } else g.epIo j } := by
    unfold disconnected
    rw [h.pc, Option.map_some]
  rw [hg]
  refine serves_resp hs fun j => ?_
  dsimp only
  split <;> rfl

theorem recycled_steps {eps : List (ProtocommEp σ)} {s : Session σ C W} {g : Gatt σ C W} (h : Serves eps s g)
    (advStart : Int) (o : GattOut) : StepsAs maxResp eps s ⟨g, .recycled advStart, o, recycled advStart g⟩ := by
  refine stepsAs_quiet ?_ rfl
  dsimp only
  unfold recycled
  split
  · exact h
  split
  · exact ⟨h.pc, h.table, h.registered, h.gatt, h.built.attrs, h.built.name, h.built.uuid⟩
  · exact h

theorem write_steps {eps : List (ProtocommEp σ)} {s : Session σ C W} {g g' : Gatt σ C W} (h : Serves eps s g)
    {attr : GattAttr} (hm : attr ∈ g.attrs) {a : BleWrite} {ret : Int} (hw : writeAttr maxResp attr a g = (ret, g')) :
    StepsAs maxResp eps s ⟨g, .write attr a, .ret ret, g'⟩ := by
  cases attr with
  | primary => cases hw; exact stepsAs_quiet h rfl
  | chrc i => cases hw; exact stepsAs_quiet h rfl
  | cud i => cases hw; exact stepsAs_quiet h rfl
  | value i =>
    have hi : i < eps.length := by
      rw [h.built.attrs] at hm
      exact value_mem.1 hm
    have hname : (eps[i]?).map (·.name) = some (g.epIo i).name := by
      rw [List.getElem?_eq_getElem hi, Option.map_some, h.built.name i _ (List.getElem?_eq_getElem hi)]
    simp only [writeAttr, h.pc] at hw
    by_cases ha : Taken a
    · rw [writeEp_taken ha] at hw
      cases hw
      refine stepsAs_loud (.req a.req (some (g.epIo i).name) a.buf) rfl ?_ ?_ ?_
      · rw [← hname]
        exact if_pos ha
      · refine serves_resp (serves_open h (.req a.req (some (g.epIo i).name) a.buf) rfl) fun j => ?_
        dsimp only
        split
        · rename_i hj
          rw [hj]
        · rfl
      · intro i' a' ha'
        cases ha'
        rfl
    · obtain ⟨ret, hr⟩ := writeEp_notTaken maxResp ha (g.epIo i) s
      rw [hr] at hw
      cases hw
      refine stepsAs_quiet (serves_resp (g := { g with gPc := some s })
        ⟨rfl, h.table, h.registered, h.gatt, h.built.attrs, h.built.name, h.built.uuid⟩ fun j => ?_) (if_neg ha)
      dsimp only
      split
      · rename_i hj
        rw [hj]
      · rfl

/-- One step with a central, or a setter. -/
theorem central_step {eps : List (ProtocommEp σ)} {x : GattEntry σ C W} {s : Session σ C W}
    (hx : (gattMachine maxResp).Ok x) (hop : x.lbl.IsCentral) (h : Serves eps s x.pre) :
    StepsAs maxResp eps s x := by
  obtain ⟨g, op, o, g'⟩ := x
  change g.step maxResp op = some (g', o) at hx
  change Serves eps s g at h
  cases op with
  | start e pc deviceName => exact absurd rfl (hop.1 e pc deviceName)
  | stop e => exact absurd rfl (hop.2 e)
  | setServiceUuid uuid128 =>
    cases uuid128 with
    | none =>
      cases hx
      exact stepsAs_quiet h rfl
    | some uuid =>
      simp only [Gatt.step, networkProvSchemeBleSetServiceUuid, h.registered, if_true] at hx
      cases hx
      exact stepsAs_quiet h rfl
  | setMfgData len data =>
    simp only [Gatt.step, networkProvSchemeBleSetMfgData, h.registered, if_true] at hx
    split at hx
    · cases hx
      exact stepsAs_quiet h rfl
    split at hx <;> cases hx <;> exact stepsAs_quiet h rfl
  | connected err e =>
    cases hx
    exact connected_steps h err e _
  | disconnected =>
    cases hx
    exact disconnected_steps h _
  | recycled advStart =>
    cases hx
    exact recycled_steps h advStart _
  | read attr len offset =>
    simp only [Gatt.step] at hx
    split at hx
    · cases hx
      exact stepsAs_quiet h rfl
    · cases hx
  | write attr a =>
    simp only [Gatt.step] at hx
    split at hx
    · rename_i hm
      cases hx
      exact write_steps h hm.2 rfl
    · cases hx

/-- **The transport makes requests of protocomm and nothing else.** After a start that
succeeds, whatever centrals do until the transport is stopped (and whatever setter is
called), the instance goes through a run of protocomm: a connection opens a session, a
disconnection closes it, a write of a whole request to the characteristic of an endpoint
is that request, under the endpoint's name, and returns what came of it. -/
theorem ble_refines {e : GattEnv} {s₀ : Session σ C W} {deviceName : Option CStr} {g₀ g₁ g : Gatt σ C W}
    (hpc : TableOk s₀.pc) (hstart : networkProvBleStart e s₀ deviceName g₀ = (0, g₁))
    {t : List (GattEntry σ C W)} (hr : (gattMachine maxResp).Run g₁ t g) (hops : ∀ x ∈ t, x.lbl.IsCentral) :
    ∃ s ts, g.gPc = some s ∧ Protocomm.machine.Run s₀ ts.flatten s ∧
      List.Forall₂ (Carries maxResp s₀.pc.endpoints) t ts := by
  have h₁ := (start_serves hpc hstart).1
  obtain ⟨⟨s, hs⟩, ts, hrun, hts⟩ := hr.expand (f := fun g => g.gPc.getD s₀)
    (I := fun g => ∃ s, Serves s₀.pc.endpoints s g)
    (C := fun x => x.lbl.IsCentral) (Q := Carries maxResp s₀.pc.endpoints)
    (fun x hx hc ⟨s, hs⟩ => by
      obtain ⟨s', t, hs', hrun, hcar⟩ := central_step hx hc hs
      refine ⟨⟨s', hs'⟩, t, ?_, hcar⟩
      rw [hs.pc, hs'.pc]
      exact hrun) ⟨s₀, h₁⟩ hops
  rw [h₁.pc, hs.pc] at hrun
  exact ⟨s, ts, hs.pc, hrun, hts⟩

/-! ## Responses -/

/-- The step is a write of a request to the `i`th endpoint, and this is what it is answered with. -/
def Answered (maxResp : Nat) (eps : List (ProtocommEp σ)) (i : Nat) (out : Bytes) (x : GattEntry σ C W) : Prop :=
  ∃ a s, x.lbl = .write (.value i) a ∧ Taken a ∧ x.pre.gPc = some s ∧
    (protocommReqHandle a.req s ((eps[i]?).map (·.name)) a.buf).2.delivered maxResp = out

/-- The connection stays, and no request is written to the `i`th endpoint. There is one connection at
a time: the next `disconnected` ends it, whoever it is reported of. -/
def Undisturbed (i : Nat) (x : GattEntry σ C W) : Prop :=
  x.lbl ≠ .disconnected ∧ ∀ a, x.lbl = .write (.value i) a → ¬ Taken a

/-- The response of the `i`th endpoint that is current: that to the last request of the
connection, or none. -/
def Current (maxResp : Nat) (eps : List (ProtocommEp σ)) (i : Nat) (out : Bytes) (t : List (GattEntry σ C W)) : Prop :=
  Since (Answered maxResp eps i out) (Undisturbed i) t ∨
    out = [] ∧ ∀ out', ¬ Since (Answered maxResp eps i out') (Undisturbed i) t

theorem Current.keep {eps : List (ProtocommEp σ)} {i : Nat} {out : Bytes} {t : List (GattEntry σ C W)}
    {x : GattEntry σ C W} (h : Current maxResp eps i out t) (hx : Undisturbed i x) :
    Current maxResp eps i out (t ++ [x]) := by
  rcases h with h | ⟨rfl, h⟩
  · exact .inl (h.snoc hx)
  · refine .inr ⟨rfl, fun out' hs => ?_⟩
    rcases Since.snoc_iff.1 hs with ⟨a, s, hl, ha, -⟩ | ⟨hs, -⟩
    · exact hx.2 a hl ha
    · exact h out' hs

theorem current_disconnected {eps : List (ProtocommEp σ)} {i : Nat} {t : List (GattEntry σ C W)}
    {x : GattEntry σ C W} (hx : x.lbl = .disconnected) : Current maxResp eps i [] (t ++ [x]) := by
  refine .inr ⟨rfl, fun out' hs => ?_⟩
  rcases Since.snoc_iff.1 hs with ⟨a, s, hl, -⟩ | ⟨-, hu⟩
  · rw [hx] at hl
    cases hl
  · exact hu.1 hx

theorem undisturbed_write {attr : GattAttr} {a : BleWrite} {x : GattEntry σ C W} {i : Nat}
    (hx : x.lbl = .write attr a) (h : attr = .value i → ¬ Taken a) : Undisturbed i x := by
  refine ⟨fun hn => ?_, fun a' ha' => ?_⟩
  · rw [hx] at hn
    cases hn
  · rw [hx] at ha'
    cases ha'
    exact h rfl

/-- What a write does to the responses. -/
theorem write_current {eps : List (ProtocommEp σ)} {s : Session σ C W} {g g' : Gatt σ C W} (h : Serves eps s g)
    {attr : GattAttr} {a : BleWrite} {ret : Int} (hw : writeAttr maxResp attr a g = (ret, g')) {i : Nat}
    (hi : i < eps.length) {t : List (GattEntry σ C W)} (hc : Current maxResp eps i (g.epIo i).resp t) :
    Current maxResp eps i (g'.epIo i).resp (t ++ [⟨g, .write attr a, .ret ret, g'⟩]) := by
  cases attr with
  | primary => cases hw; exact hc.keep (undisturbed_write rfl fun hn => by cases hn)
  | chrc j => cases hw; exact hc.keep (undisturbed_write rfl fun hn => by cases hn)
  | cud j => cases hw; exact hc.keep (undisturbed_write rfl fun hn => by cases hn)
  | value j =>
    simp only [writeAttr, h.pc] at hw
    by_cases ha : Taken a
    · rw [writeEp_taken ha] at hw
      cases hw
      by_cases hj : i = j
      · subst hj
        refine .inl (Since.now ⟨a, s, rfl, ha, h.pc, ?_⟩)
        rw [List.getElem?_eq_getElem hi, Option.map_some, ← h.built.name i _ (List.getElem?_eq_getElem hi)]
        simp
      · dsimp only
        rw [if_neg hj]
        refine hc.keep (undisturbed_write rfl fun hn => ?_)
        cases hn
        exact absurd rfl hj
    · obtain ⟨ret, hr⟩ := writeEp_notTaken maxResp ha (g.epIo j) s
      rw [hr] at hw
      cases hw
      have hio : (if i = j then g.epIo j else g.epIo i) = g.epIo i := by
        split
        · rename_i hj
          rw [hj]
        · rfl
      dsimp only
      rw [hio]
      exact hc.keep (undisturbed_write rfl fun _ => ha)

/-- One step with a central keeps the responses current. -/
theorem current_step {eps : List (ProtocommEp σ)} (hroom : eps.length ≤ MAX_EP) {x : GattEntry σ C W}
    {s : Session σ C W} (hx : (gattMachine maxResp).Ok x) (hop : x.lbl.IsCentral) (h : Serves eps s x.pre) {i : Nat}
    (hi : i < eps.length) {t : List (GattEntry σ C W)} (hc : Current maxResp eps i (x.pre.epIo i).resp t) :
    Current maxResp eps i (x.post.epIo i).resp (t ++ [x]) := by
  obtain ⟨g, op, o, g'⟩ := x
  change g.step maxResp op = some (g', o) at hx
  change Serves eps s g at h
  have keep : (g'.epIo i).resp = (g.epIo i).resp → (op ≠ .disconnected) → (∀ attr a, op ≠ .write attr a) →
      Current maxResp eps i (g'.epIo i).resp (t ++ [⟨g, op, o, g'⟩]) := by
    intro he hd hw
    rw [he]
    exact hc.keep ⟨hd, fun a ha => absurd ha (hw _ a)⟩
  cases op with
  | start e pc deviceName => exact absurd rfl (hop.1 e pc deviceName)
  | stop e => exact absurd rfl (hop.2 e)
  | setServiceUuid uuid128 =>
    refine keep ?_ (fun hn => by cases hn) fun _ _ hn => by cases hn
    cases uuid128 with
    | none => cases hx; rfl
    | some uuid =>
      simp only [Gatt.step, networkProvSchemeBleSetServiceUuid] at hx
      split at hx <;> cases hx <;> rfl
  | setMfgData len data =>
    refine keep ?_ (fun hn => by cases hn) fun _ _ hn => by cases hn
    simp only [Gatt.step, networkProvSchemeBleSetMfgData, h.registered, if_true] at hx
    split at hx
    · cases hx; rfl
    split at hx <;> cases hx <;> rfl
  | connected err e =>
    cases hx
    refine keep ?_ (fun hn => by cases hn) fun _ _ hn => by cases hn
    unfold Ble.connected
    split <;> rfl
  | disconnected =>
    cases hx
    unfold Ble.disconnected
    dsimp only
    rw [if_pos (Nat.lt_of_lt_of_le hi hroom)]
    exact current_disconnected rfl
  | recycled advStart =>
    cases hx
    refine keep ?_ (fun hn => by cases hn) fun _ _ hn => by cases hn
    unfold Ble.recycled
    split
    · rfl
    · split <;> rfl
  | read attr len offset =>
    simp only [Gatt.step] at hx
    split at hx
    · cases hx
      exact keep rfl (fun hn => by cases hn) fun _ _ hn => by cases hn
    · cases hx
  | write attr a =>
    simp only [Gatt.step] at hx
    split at hx
    · cases hx
      exact write_current h rfl hi hc
    · cases hx

/-- What a read of the `i`th endpoint returns. -/
def ReadsCurrent (maxResp : Nat) (eps : List (ProtocommEp σ)) (t : List (GattEntry σ C W)) (x : GattEntry σ C W) : Prop :=
  ∀ i len offset, x.lbl = .read (.value i) len offset → ∃ out, Current maxResp eps i out t ∧
    x.out = .read (.bytes (if offset > out.length then .error INVALID_OFFSET else .ok ((out.drop offset).take len)))

/-- **A read returns the response of its own request.** After a start that succeeds,
whatever centrals do until the transport is stopped: what a read of an endpoint's
characteristic returns, at any offset, is a part of what the last request written to the
same characteristic in the same connection was answered with, and nothing if there was
none. No response of another endpoint or of an earlier connection or start shows. -/
theorem reads_own {e : GattEnv} {s₀ : Session σ C W} {deviceName : Option CStr} {g₀ g₁ g : Gatt σ C W}
    (hpc : TableOk s₀.pc) (hstart : networkProvBleStart e s₀ deviceName g₀ = (0, g₁))
    {t : List (GattEntry σ C W)} (hr : (gattMachine maxResp).Run g₁ t g) (hops : ∀ x ∈ t, x.lbl.IsCentral) :
    Always (ReadsCurrent maxResp s₀.pc.endpoints) t := by
  obtain ⟨h₁, hempty⟩ := start_serves hpc hstart
  refine (hr.always (C := fun x => x.lbl.IsCentral)
    (P := fun t g => (∃ s, Serves s₀.pc.endpoints s g) ∧
      ∀ i < s₀.pc.endpoints.length, Current maxResp s₀.pc.endpoints i (g.epIo i).resp t)
    ⟨⟨s₀, h₁⟩, fun i hi => .inr ⟨hempty i hi, fun out' hs => ?_⟩⟩ (fun t x _ hx ⟨⟨s, hs⟩, hcur⟩ hc => ?_) hops).2
  · obtain ⟨t₁, y, t₂, heq, -⟩ := hs
    simp at heq
  · obtain ⟨s', -, hs', -⟩ := central_step hx hc hs
    refine ⟨⟨⟨s', hs'⟩, fun i hi => current_step hpc.room hx hc hs hi (hcur i hi)⟩, fun i len offset hl => ?_⟩
    obtain ⟨g, op, o, g'⟩ := x
    change g.step maxResp op = some (g', o) at hx
    change op = _ at hl
    subst hl
    simp only [Gatt.step] at hx
    split at hx
    · rename_i hm
      cases hx
      refine ⟨_, hcur i ?_, rfl⟩
      rw [show g.attrs = _ from hs.built.attrs] at hm
      exact value_mem.1 hm.2
    · cases hx

/-! ## A call by name -/

/-- The characteristic whose user description is the name. -/
def charOf (g : Gatt σ C W) (name : CStr) : Option Nat :=
  g.attrs.findSome? fun
    | .cud i => if (g.epIo i).name = name then some i else none
    | _ => none

/-- Reads of `mtu` bytes each, up to one that is shorter. -/
def longRead (mtu : Nat) (io : EpIo) : Nat → Nat → Option Bytes
  | 0, _ => none
  | fuel + 1, offset =>
    match readEp io mtu offset with
    | .error _ => none
    | .ok part => if part.length < mtu then some part else (longRead mtu io fuel (offset + mtu)).map (part ++ ·)

/-- Look the endpoint up, write the request, read all there is if it was taken. -/
def bleCall (maxResp mtu : Nat) (name : CStr) (a : BleWrite) (g : Gatt σ C W) : Option (Gatt σ C W × Bytes) :=
  (charOf g name).bind fun i =>
    match writeAttr maxResp (.value i) a g with
    | (ret, g) => if ret < 0 then some (g, []) else (longRead mtu (g.epIo i) (maxResp + 1) 0).map fun out => (g, out)

theorem longRead_eq {mtu : Nat} (hm : 0 < mtu) (io : EpIo) : ∀ (fuel offset : Nat), offset ≤ io.resp.length →
    io.resp.length < offset + fuel → longRead mtu io fuel offset = some (io.resp.drop offset)
  | 0, offset, h, hf => by omega
  | fuel + 1, offset, h, hf => by
    have hread : readEp io mtu offset = .ok ((io.resp.drop offset).take mtu) := if_neg (by omega)
    rw [longRead, hread]
    dsimp only
    by_cases hl : ((io.resp.drop offset).take mtu).length < mtu
    · rw [if_pos hl, List.take_of_length_le]
      rw [List.length_take] at hl
      omega
    · rw [if_neg hl]
      rw [List.length_take, List.length_drop] at hl
      rw [longRead_eq hm io fuel (offset + mtu) (by omega) (by omega), Option.map_some, ← List.drop_drop,
        List.take_append_drop]

theorem charOf_some {eps : List (ProtocommEp σ)} {s : Session σ C W} {g : Gatt σ C W} (h : Serves eps s g)
    {name : CStr} {i : Nat} (hi : charOf g name = some i) : i < eps.length ∧ (g.epIo i).name = name := by
  obtain ⟨attr, hm, ha⟩ := List.exists_of_findSome?_eq_some hi
  rw [h.built.attrs] at hm
  cases attr with
  | cud j =>
    dsimp only at ha
    split at ha
    · rename_i hn
      cases ha
      exact ⟨by simpa [epAttrs] using hm, hn⟩
    · cases ha
  | _ => cases ha

theorem charOf_none {eps : List (ProtocommEp σ)} {s : Session σ C W} {g : Gatt σ C W} (h : Serves eps s g)
    {name : CStr} (hn : charOf g name = none) : ∀ ep ∈ eps, ep.name ≠ name := by
  intro ep hep he
  obtain ⟨i, hi, rfl⟩ := List.getElem_of_mem hep
  have hm : GattAttr.cud i ∈ g.attrs := by
    rw [h.built.attrs]
    simp [epAttrs, hi]
  have := List.findSome?_eq_none_iff.1 hn _ hm
  dsimp only at this
  rw [if_pos ((h.built.name i _ (List.getElem?_eq_getElem hi)).trans he)] at this
  cases this

/-- A central finds a name exactly if protocomm has the endpoint. -/
theorem charOf_isSome {eps : List (ProtocommEp σ)} {s : Session σ C W} {g : Gatt σ C W} (h : Serves eps s g)
    (name : CStr) : (charOf g name).isSome = (s.pc.findEp name).isSome := by
  cases hc : charOf g name with
  | none =>
    have hf : s.pc.findEp name = none := by
      refine List.find?_eq_none.2 fun ep hep => ?_
      rw [h.table] at hep
      simpa using charOf_none h hc ep hep
    rw [hf]
    rfl
  | some i =>
    obtain ⟨hi, hn⟩ := charOf_some h hc
    refine (List.find?_isSome.2 ⟨eps[i], ?_, ?_⟩).symm
    · rw [h.table]
      exact List.getElem_mem hi
    · rw [decide_eq_true_iff, ← h.built.name i _ (List.getElem?_eq_getElem hi)]
      exact hn

theorem length_delivered (maxResp : Nat) (r : Reply) : (r.delivered maxResp).length ≤ maxResp := by
  unfold Reply.delivered
  split
  · exact Nat.zero_le _
  · rename_i h
    exact Nat.le_of_not_lt fun hn => h (.inr hn)

/-- **A call by name.** At any time between a start that succeeds and the stop, a central
that looks for an endpoint in the user descriptions finds it exactly if protocomm has it.
If it then writes a request in one piece and, unless that is refused, reads to the end in
pieces of any size, it has made that request of protocomm under that name, and holds the
response, all of it, or nothing. -/
theorem ble_call {e : GattEnv} {s₀ s : Session σ C W} {deviceName : Option CStr} {g₀ g₁ g : Gatt σ C W}
    (hpc : TableOk s₀.pc) (hstart : networkProvBleStart e s₀ deviceName g₀ = (0, g₁))
    {t : List (GattEntry σ C W)} (hr : (gattMachine maxResp).Run g₁ t g) (hops : ∀ x ∈ t, x.lbl.IsCentral)
    (hs : g.gPc = some s) {mtu : Nat} (hm : 0 < mtu) (name : CStr) {a : BleWrite} (ha : Taken a) :
    (charOf g name).isSome = (s.pc.findEp name).isSome ∧
      ((s.pc.findEp name).isSome → ∃ g', bleCall maxResp mtu name a g =
          some (g', (protocommReqHandle a.req s (some name) a.buf).2.delivered maxResp) ∧
        g'.gPc = some (protocommReqHandle a.req s (some name) a.buf).1) := by
  obtain ⟨s', h⟩ := hr.guarded (C := fun x => x.lbl.IsCentral) (P := fun g => ∃ s, Serves s₀.pc.endpoints s g)
    ⟨s₀, (start_serves hpc hstart).1⟩ (fun x hx hc ⟨s, hs⟩ => by
      obtain ⟨s', -, hs', -⟩ := central_step hx hc hs
      exact ⟨s', hs'⟩) hops
  obtain rfl : s' = s := Option.some.inj (h.pc.symm.trans hs)
  refine ⟨charOf_isSome h name, fun hf => ?_⟩
  rw [← charOf_isSome h] at hf
  obtain ⟨i, hi⟩ := Option.isSome_iff_exists.1 hf
  obtain ⟨-, hn⟩ := charOf_some h hi
  unfold bleCall
  rw [hi, Option.bind_some]
  simp only [writeAttr, h.pc]
  rw [writeEp_taken ha, hn]
  dsimp only
  generalize protocommReqHandle a.req s' (some name) a.buf = q
  obtain ⟨s₁, r⟩ := q
  dsimp only
  by_cases hw : writeResult maxResp a r < 0
  · have hd : r.delivered maxResp = [] := by
      unfold writeResult at hw
      unfold Reply.delivered
      split at hw
      · rename_i hr
        exact if_pos (.inl hr)
      split at hw
      · rename_i hl
        exact if_pos (.inr hl)
      · omega
    rw [if_pos hw, hd]
    exact ⟨_, rfl, rfl⟩
  · rw [if_neg hw, longRead_eq hm _ _ _ (Nat.zero_le _)]
    · simp only [Option.map_some, List.drop_zero, if_true]
      exact ⟨_, rfl, rfl⟩
    · have := length_delivered maxResp r
      simp only [if_true]
      omega

/-! ## A device that echoes -/

/-- Counts its requests. -/
def demoEcho : ReqHandler Nat := fun n inbuf => (n + 1, 0, inbuf)

/-- `prov-config` and `prov-session`, with security 0. -/
def demoSession : Session Nat Unit Unit where
  pc := ⟨[⟨EP_CONFIG, .data demoEcho⟩, ⟨EP_SESSION, .security⟩],
    some (Security0.networkProvSecurity0 Security1.wirePb ()), none, none, none⟩
  ext := ()
  app := 0

theorem demo_tableOk : TableOk demoSession.pc := ⟨by decide, by decide, by decide⟩

def demoEnv : GattEnv := ⟨⟨0, 0, 0⟩, EP_SESSION⟩

def demoGatt : Gatt Nat Unit Unit := (networkProvBleStart demoEnv demoSession none (.boot (.zero _))).2

theorem demo_start : networkProvBleStart demoEnv demoSession none (.boot (.zero _)) = (0, demoGatt) := rfl

def demoWrite (buf : Bytes) : BleWrite := ⟨buf, 0, false, .good (.good [] (.zero _))⟩

/-- A connection with a request and the reading of its response; after it there is nothing to
read; then another one. -/
def demoCalls : List (GattOp Nat Unit Unit) :=
  [.connected 0 (.good [] (.zero _)), .write (.value 0) (demoWrite [1, 2, 3]), .read (.value 0) 5 1, .disconnected,
   .read (.value 0) 5 0, .connected 0 (.good [] (.zero _))]

/-- The run of these. -/
def demoRun : List (GattEntry Nat Unit Unit) × Gatt Nat Unit Unit :=
  ((gattMachine 512).exec demoGatt demoCalls).get (by decide +kernel)

theorem demo_run : (gattMachine 512).Run demoGatt demoRun.1 demoRun.2 :=
  (gattMachine 512).run_get demoGatt demoCalls (by decide +kernel)

theorem demo_central : ∀ x ∈ demoRun.1, x.lbl.IsCentral := by
  intro x hx
  have hl : x.lbl ∈ demoCalls := List.mem_map_of_mem (f := (·.lbl)) hx
  unfold demoCalls at hl
  simp only [List.mem_cons, List.not_mem_nil, or_false] at hl
  rcases hl with h | h | h | h | h | h <;> rw [h] <;> exact ⟨fun _ _ _ hn => (by cases hn), fun _ hn => (by cases hn)⟩

theorem ble_refines_test : ∃ s ts, demoRun.2.gPc = some s ∧ Protocomm.machine.Run demoSession ts.flatten s ∧
    List.Forall₂ (Carries 512 demoSession.pc.endpoints) demoRun.1 ts :=
  ble_refines demo_tableOk demo_start demo_run demo_central

theorem reads_own_test : Always (ReadsCurrent 512 demoSession.pc.endpoints) demoRun.1 :=
  reads_own demo_tableOk demo_start demo_run demo_central

/-- In the second connection, with a request of five bytes that are read two at a time. -/
theorem ble_call_test : ∃ g', bleCall 512 2 EP_CONFIG (demoWrite [5, 6, 7, 8, 9]) demoRun.2 = some (g', [5, 6, 7, 8, 9]) ∧
    g'.gPc.map (·.app) = some 2 := by
  obtain ⟨s, hs⟩ : ∃ s, demoRun.2.gPc = some s := Option.isSome_iff_exists.1 (by decide +kernel)
  obtain ⟨-, hcall⟩ := ble_call demo_tableOk demo_start demo_run demo_central hs (show 0 < 2 by decide) EP_CONFIG
    (a := demoWrite [5, 6, 7, 8, 9]) ⟨rfl, rfl⟩
  obtain rfl : demoRun.2.gPc.get (by decide +kernel) = s := by simp [hs]
  obtain ⟨g', hg, hpc⟩ := hcall (by decide +kernel)
  exact ⟨g', hg.trans (congrArg some (congrArg (Prod.mk g') (by decide +kernel))), by rw [hpc]; decide +kernel⟩

end NetworkProv.Ble
