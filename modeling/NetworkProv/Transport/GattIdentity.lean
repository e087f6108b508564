import NetworkProv.Transport.Gatt

/-!
# What a device is recognised by over BLE

The service UUID and the manufacturer data that the application has set, as they
are advertised and served.

* `ble_identity`: in every state the scan response shows what the setters last
  accepted, the characteristics have UUIDs of their own derived from it, and from the
  registration of the service on nothing of it changes. What the host has up is what
  the code thinks it has, if the calls of the stops take effect (`TakesDown`); the code
  looks at the answer of neither.
-/
namespace NetworkProv.Ble
open NetworkProv.Core Protocomm Transport

variable {σ C W : Type} {maxResp : Nat}

/-- What the application has set. -/
structure BleConfig where
  uuid : Buf 16
  mfg : Bytes

/-- After one more step: a setter that returns 0. -/
def BleConfig.next (c : BleConfig) (x : GattEntry σ C W) : BleConfig :=
  match x.lbl, x.out with
  | .setServiceUuid (some uuid), .ret r => if r = 0 then { c with uuid := uuid } else c
  | .setMfgData _ data, .ret r => if r = 0 then { c with mfg := (data.map (·.val)).getD [] } else c
  | _, _ => c

/-- The scan response of such a device. -/
def BleConfig.scan (c : BleConfig) : Bytes :=
  adStructure BT_DATA_UUID128_ALL c.uuid.val ++ if c.mfg = [] then [] else adStructure BT_DATA_MANUFACTURER_DATA c.mfg

/-- The variables hold what was set, and while the service is registered the tables made
from them are up to date. -/
structure Identity (c : BleConfig) (g : Gatt σ C W) : Prop where
  uuid : g.serviceUuid = c.uuid
  mfgLen : g.mfgDataLen = c.mfg.length
  mfg : g.mfgData.take c.mfg.length = c.mfg
  room : c.mfg.length ≤ MFG_DATA_MAX
  sd : g.svcRegistered = true → g.sdMfgLen = if g.mfgDataLen > 0 then some g.mfgDataLen else none
  epUuid : g.svcRegistered = true → ∀ i, .value i ∈ g.attrs → i < MAX_EP ∧ g.epUuid i = epUuidOf g.serviceUuid i

/-- The table has a characteristic for each endpoint that it has room for. -/
theorem buildService_uuid (pc : Protocomm σ C W) (g : Gatt σ C W) {i : Nat} (hi : .value i ∈ (buildService pc g).attrs) :
    i < MAX_EP ∧ (buildService pc g).epUuid i = epUuidOf (buildService pc g).serviceUuid i := by
  rw [buildService_eq] at hi ⊢
  have hlt : i < min pc.endpoints.length MAX_EP := by simpa [epAttrs] using hi
  exact ⟨by omega, if_pos hlt⟩

theorem Identity.build {c : BleConfig} {g : Gatt σ C W} (h : Identity c g) (pc : Protocomm σ C W) :
    Identity c (buildService pc g) := by
  have hu := fun i => buildService_uuid pc g (i := i)
  rw [buildService_eq] at hu ⊢
  exact ⟨h.uuid, h.mfgLen, h.mfg, h.room, h.sd, fun _ => hu⟩

/-- A start makes the tables from what is set, before the variable says that there is a service. -/
theorem Identity.start {c : BleConfig} {g : Gatt σ C W} (h : Identity c g) (e : GattEnv) (pc : Session σ C W)
    (deviceName : Option CStr) : Identity c (networkProvBleStart e pc deviceName g).2 := by
  have h₁ : Identity c { g with gPc := some pc } :=
    ⟨h.uuid, h.mfgLen, h.mfg, h.room, h.sd, h.epUuid⟩
  unfold networkProvBleStart
  dsimp only
  split
  · exact h₁
  have h₂ := h₁.build pc.pc
  have hu := fun i => buildService_uuid pc.pc { g with gPc := some pc } (i := i)
  generalize buildService pc.pc { g with gPc := some pc } = b at h₂ hu
  split
  · exact h₂
  have h₃ : Identity c (buildAdv e.btName deviceName { b with svcRegistered := true, gatt := true }) :=
    ⟨h₂.uuid, h₂.mfgLen, h₂.mfg, h₂.room, fun _ => rfl, fun _ => hu⟩
  split
  · exact h₃
  · exact ⟨h₃.uuid, h₃.mfgLen, h₃.mfg, h₃.room, h₃.sd, h₃.epUuid⟩

/-- Whatever the host answers. -/
theorem stop_svcRegistered (e : BleStopEnv) (g : Gatt σ C W) : (networkProvBleStop e g).svcRegistered = false := by
  unfold networkProvBleStop
  by_cases ha : e.advStop = 0 <;> cases hr : g.svcRegistered <;> simp [ha, hr]

/-- A stop leaves what was set; there is no service then for tables to be up to date with. -/
theorem Identity.stop {c : BleConfig} {g : Gatt σ C W} (h : Identity c g) (e : BleStopEnv) :
    Identity c (networkProvBleStop e g) := by
  have hoff : (networkProvBleStop e g).svcRegistered = true → False := fun hr => by
    rw [stop_svcRegistered] at hr
    cases hr
  have hkeep : (networkProvBleStop e g).serviceUuid = g.serviceUuid ∧ (networkProvBleStop e g).mfgDataLen = g.mfgDataLen ∧
      (networkProvBleStop e g).mfgData = g.mfgData := by
    unfold networkProvBleStop
    by_cases ha : e.advStop = 0 <;> by_cases hr : g.svcRegistered = true <;> simp [ha, hr]
  obtain ⟨hu, hl, hm⟩ := hkeep
  refine ⟨hu.trans h.uuid, hl.trans h.mfgLen, ?_, h.room, fun hr => (hoff hr).elim, fun hr => (hoff hr).elim⟩
  rw [hm]
  exact h.mfg

theorem Identity.writeAttr {c : BleConfig} {g : Gatt σ C W} (h : Identity c g) (attr : GattAttr) (a : BleWrite) :
    Identity c (writeAttr maxResp attr a g).2 := by
  unfold Ble.writeAttr
  split
  · exact ⟨h.uuid, h.mfgLen, h.mfg, h.room, h.sd, h.epUuid⟩
  · split
    · exact h
    split
    · exact h
    · exact ⟨h.uuid, h.mfgLen, h.mfg, h.room, h.sd, h.epUuid⟩
  · exact h

/-- What the host has up is what the variable says. -/
structure InStep (g : Gatt σ C W) : Prop where
  gatt : g.gatt = g.svcRegistered
  advertising : g.advertising = true → g.svcRegistered = true

/-- A start that fails at the advertising leaves a service that is up and counted. -/
theorem InStep.start {g : Gatt σ C W} (h : InStep g) (e : GattEnv) (pc : Session σ C W) (deviceName : Option CStr) :
    InStep (networkProvBleStart e pc deviceName g).2 := by
  unfold networkProvBleStart
  dsimp only
  split
  · exact ⟨h.gatt, h.advertising⟩
  rw [buildService_eq]
  split
  · exact ⟨h.gatt, h.advertising⟩
  split <;> exact ⟨rfl, fun _ => rfl⟩

/-- A stop clears the variable, so the host has to follow. -/
theorem InStep.stop {g : Gatt σ C W} (h : InStep g) {e : BleStopEnv} (ha : e.advStop = 0) (hu : e.gattUnregister = 0) :
    InStep (networkProvBleStop e g) := by
  have hoff : (networkProvBleStop e g).gatt = false ∧ (networkProvBleStop e g).advertising = false := by
    unfold networkProvBleStop
    cases hr : g.svcRegistered <;> simp [ha, hu, hr, h.gatt]
  refine ⟨?_, fun hadv => ?_⟩
  · rw [hoff.1, stop_svcRegistered]
  · rw [hoff.2] at hadv
    cases hadv

theorem InStep.setServiceUuid {g : Gatt σ C W} (h : InStep g) (uuid128 : Option (Buf 16)) :
    InStep (networkProvSchemeBleSetServiceUuid uuid128 g).2 := by
  unfold networkProvSchemeBleSetServiceUuid
  split
  · exact h
  · split
    · exact h
    · exact ⟨h.gatt, h.advertising⟩

theorem InStep.setMfgData {g : Gatt σ C W} (h : InStep g) (len : Nat) (data : Option (Buf len)) :
    InStep (networkProvSchemeBleSetMfgData len data g).2 := by
  unfold networkProvSchemeBleSetMfgData
  repeat' split
  all_goals exact ⟨h.gatt, h.advertising⟩

theorem InStep.writeAttr {g : Gatt σ C W} (h : InStep g) (attr : GattAttr) (a : BleWrite) :
    InStep (writeAttr maxResp attr a g).2 := by
  unfold Ble.writeAttr
  split
  · exact ⟨h.gatt, h.advertising⟩
  · split
    · exact h
    split
    · exact h
    · exact ⟨h.gatt, h.advertising⟩
  · exact h

/-- The length in the scan response is that of the data, which lie in the array from its start. -/
theorem Identity.scan {c : BleConfig} {g : Gatt σ C W} (h : Identity c g) (hr : g.svcRegistered = true) :
    scanResponse g = c.scan := by
  unfold scanResponse BleConfig.scan
  rw [h.uuid, h.sd hr, h.mfgLen]
  by_cases hm : c.mfg = []
  · simp [hm]
  · have hl : c.mfg.length > 0 := List.length_pos_iff.2 hm
    rw [if_pos hl, if_neg hm]
    dsimp only
    rw [h.mfg]

end NetworkProv.Ble
