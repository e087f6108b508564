import NetworkProv.Core.Machine
import NetworkProv.Manager.Endpoints
import NetworkProv.Transport.Ble
import NetworkProv.Transport.Schemes

/-!
# The GATT service (`src/protocomm_ble.c`)

The whole transport: the attribute table that a start builds from the endpoints,
the advertising data, the two customisations, and what a connected central can do.
An array is a function of the index; a central addresses an attribute by the place
in these arrays that it refers to, not by its handle. The Bluetooth host is not part
of the repository: what its calls answer comes with the operation.

Limitations: `g_pc` refers to an instance that is still there; a request is atomic;
connections are not told apart, as the source counts on a single connection slot (its comment in
`recycled`): what comes between a `connected` and the next `disconnected` is one connection's.

* `start_coarse`, `stop_coarse`: seen from the manager this is the transport of
  `Schemes.lean`.
* `buildService_eq`: what the loop over the endpoints leaves.
-/
namespace NetworkProv.Ble
open NetworkProv.Core Protocomm Endpoints Transport

variable {σ C W : Type}

abbrev MAX_EP := PROTOCOMM_MAX_ENDPOINTS
abbrev MFG_DATA_MAX := 11
abbrev ADV_NAME_MAX := 31

/-- An attribute, by what its `user_data` points to. -/
inductive GattAttr
  | primary
  | chrc (i : Nat)
  | value (i : Nat)
  | cud (i : Nat)
  deriving DecidableEq

/-- The static variables; `gatt`, `advertising`: what the host has up. `sdMfgLen`: the length in
`sd[1]`, if there is one; its bytes are those of `mfgData`.
mirrors src/protocomm_ble.c:40,52-57,103-127 -/
structure Gatt (σ C W : Type) where
  gPc : Option (Session σ C W)
  svcRegistered : Bool
  gatt : Bool
  advertising : Bool
  serviceUuid : Buf 16
  mfgData : Bytes
  mfgDataLen : Nat
  epUuid : Nat → Buf 16
  epIo : Nat → EpIo
  attrs : List GattAttr
  advName : Bytes
  sdMfgLen : Option Nat

/-- Before the first start. -/
def Gatt.boot (serviceUuid : Buf 16) : Gatt σ C W :=
  ⟨none, false, false, false, serviceUuid, List.replicate MFG_DATA_MAX 0, 0, fun _ => .zero _, fun _ => ⟨.empty, []⟩, [], [],
    none⟩

/-! ## Customisation -/

/-- mirrors src/protocomm_ble.c:59-73 -/
def networkProvSchemeBleSetServiceUuid (uuid128 : Option (Buf 16)) (g : Gatt σ C W) : Int × Gatt σ C W :=
  match uuid128 with
  | none => (-EINVAL, g)
  | some uuid => if g.svcRegistered then (-EPERM, g) else (0, { g with serviceUuid := uuid })

/-- `data` points to `len` bytes.
mirrors src/protocomm_ble.c:75-92 -/
def networkProvSchemeBleSetMfgData (len : Nat) (data : Option (Buf len)) (g : Gatt σ C W) : Int × Gatt σ C W :=
  if len > MFG_DATA_MAX then (-ENOMEM, g)
  else if len > 0 ∧ data = none then (-EINVAL, g)
  else if g.svcRegistered then (-EPERM, g)
  else
    match data with
    | some d => (0, { g with mfgDataLen := len, mfgData := d.val ++ g.mfgData.drop len })
    | none => (0, { g with mfgDataLen := len })

/-! ## Advertising -/

/-- One structure of an advertising payload. -/
def adStructure (type : UInt8) (data : Bytes) : Bytes := UInt8.ofNat (data.length + 1) :: type :: data

def BT_DATA_UUID128_ALL : UInt8 := 0x07
def BT_DATA_MANUFACTURER_DATA : UInt8 := 0xff

/-- `btName`: what `bt_get_name` returns.
mirrors src/protocomm_ble.c:129-154 -/
def buildAdv (btName : CStr) (name : Option CStr) (g : Gatt σ C W) : Gatt σ C W :=
  let name := if charsOf name = [] then btName.chars else charsOf name
  { g with advName := name.take ADV_NAME_MAX, sdMfgLen := if g.mfgDataLen > 0 then some g.mfgDataLen else none }

/-- `sd`, as it goes out. -/
def scanResponse (g : Gatt σ C W) : Bytes :=
  adStructure BT_DATA_UUID128_ALL g.serviceUuid.val ++
    match g.sdMfgLen with
    | none => []
    | some n => adStructure BT_DATA_MANUFACTURER_DATA (g.mfgData.take n)

/-! ## The attribute table -/

/-- `val[12] = 0xF0 + (uint8_t)i` -/
def epUuidOf (serviceUuid : Buf 16) (i : Nat) : Buf 16 :=
  ⟨serviceUuid.val.set 12 (0xf0 + UInt8.ofNat i), by rw [List.length_set, serviceUuid.property]⟩

/-- mirrors src/protocomm_ble.c:231-258 -/
def buildEp (i : Nat) (name : CStr) (g : Gatt σ C W) : Gatt σ C W :=
  { g with
    epIo := fun j => if j = i then ⟨strncpyName name, []⟩ else g.epIo j
    epUuid := fun j => if j = i then epUuidOf g.serviceUuid i else g.epUuid j
    attrs := g.attrs ++ [.chrc i, .value i, .cud i] }

/-- The loop over the endpoints, from the `i`th on and with `k` rounds to go. -/
def buildEps (pc : Option (Protocomm σ C W)) : (k i : Nat) → Gatt σ C W → Gatt σ C W
  | 0, _, g => g
  | k + 1, i, g =>
    match protocommEndpointName pc i with
    | none => buildEps pc k (i + 1) g
    | some name => buildEps pc k (i + 1) (buildEp i name g)

/-- mirrors src/protocomm_ble.c:215-262 -/
def buildService (pc : Protocomm σ C W) (g : Gatt σ C W) : Gatt σ C W :=
  buildEps (some pc) (min (protocommEndpointCount (some pc)) MAX_EP) 0 { g with attrs := [.primary] }

/-- The attributes of the characteristics from `i` on. -/
def epAttrs (i n : Nat) : List GattAttr := (List.range' i n).flatMap fun j => [.chrc j, .value j, .cud j]

/-- The rounds of the loop fill their own places. -/
theorem buildEps_eq (pc : Protocomm σ C W) (k : Nat) : ∀ (i : Nat) (g : Gatt σ C W), i + k ≤ pc.endpoints.length →
    buildEps (some pc) k i g =
    { g with
      epIo := fun j =>
        if i ≤ j ∧ j < i + k then ((pc.endpoints[j]?).map fun ep => ⟨strncpyName ep.name, []⟩).getD (g.epIo j)
        else g.epIo j
      epUuid := fun j => if i ≤ j ∧ j < i + k then epUuidOf g.serviceUuid j else g.epUuid j
      attrs := g.attrs ++ epAttrs i k } := by
  induction k with
  | zero =>
    intro i g _
    have hno : ∀ j, ¬ (i ≤ j ∧ j < i) := fun j h => by omega
    simp [buildEps, epAttrs, hno]
  | succ k ih =>
    intro i g hk
    have hi : i < pc.endpoints.length := by omega
    have hname : protocommEndpointName (some pc) i = some pc.endpoints[i].name := by
      simp [protocommEndpointName, hi]
    rw [buildEps, hname]
    dsimp only
    rw [ih (i + 1) _ (by omega)]
    unfold buildEp
    dsimp only
    congr 1
    · funext j
      by_cases h₂ : j = i
      · subst h₂
        rw [if_neg (by omega), if_pos rfl, if_pos (by omega)]
      · by_cases h₁ : i + 1 ≤ j ∧ j < i + 1 + k
        · rw [if_pos h₁, if_pos (show i ≤ j ∧ j < i + (k + 1) by omega)]
        · rw [if_neg h₁, if_neg (show ¬ (i ≤ j ∧ j < i + (k + 1)) by omega), if_neg h₂]
    · funext j
      by_cases h₂ : j = i
      · subst h₂
        rw [if_neg (by omega), if_pos rfl, if_pos (by omega), List.getElem?_eq_getElem hi]
        rfl
      · by_cases h₁ : i + 1 ≤ j ∧ j < i + 1 + k
        · rw [if_pos h₁, if_pos (show i ≤ j ∧ j < i + (k + 1) by omega), if_neg h₂]
        · rw [if_neg h₁, if_neg (show ¬ (i ≤ j ∧ j < i + (k + 1)) by omega), if_neg h₂]
    · simp [epAttrs, List.range'_succ]

/-- The service of a table. -/
theorem buildService_eq (pc : Protocomm σ C W) (g : Gatt σ C W) : buildService pc g =
    { g with
      epIo := fun j =>
        if j < min pc.endpoints.length MAX_EP then
          ((pc.endpoints[j]?).map fun ep => ⟨strncpyName ep.name, []⟩).getD (g.epIo j)
        else g.epIo j
      epUuid := fun j =>
        if j < min pc.endpoints.length MAX_EP then epUuidOf g.serviceUuid j else g.epUuid j
      attrs := .primary :: epAttrs 0 (min pc.endpoints.length MAX_EP) } := by
  unfold buildService
  rw [show protocommEndpointCount (some pc) = pc.endpoints.length from rfl, buildEps_eq pc _ 0 _ (by omega)]
  simp

/-! ## Start and stop -/

/-- What the host answers to the calls of a start; `btName`: `bt_get_name`. -/
structure GattEnv extends BleEnv where
  btName : CStr

/-- mirrors src/protocomm_ble.c:303-342 -/
def networkProvBleStart (e : GattEnv) (pc : Session σ C W) (deviceName : Option CStr) (g : Gatt σ C W) :
    Int × Gatt σ C W :=
  let g := { g with gPc := some pc }
  if e.btEnable ≠ 0 ∧ e.btEnable ≠ -EALREADY then (e.btEnable, g)
  else
    let g := buildService pc.pc g
    if e.gattRegister ≠ 0 then (e.gattRegister, g)
    else
      let g := buildAdv e.btName deviceName { g with svcRegistered := true, gatt := true }
      if e.advStart ≠ 0 then (e.advStart, g) else (0, { g with advertising := true })

/-- mirrors src/protocomm_ble.c:344-352 -/
def networkProvBleStop (e : BleStopEnv) (g : Gatt σ C W) : Gatt σ C W :=
  let g := if e.advStop = 0 then { g with advertising := false } else g
  let g :=
    if g.svcRegistered then
      { g with svcRegistered := false, gatt := if e.gattUnregister = 0 then false else g.gatt }
    else g
  { g with gPc := none }

/-- What the manager's model has of the transport; `n` stands for the instance. -/
def Gatt.coarse (n : Nat) (g : Gatt σ C W) : Transport.Ble :=
  ⟨g.gPc.map fun _ => n, g.svcRegistered, g.gatt, g.advertising⟩

theorem start_coarse (e : GattEnv) (pc : Session σ C W) (deviceName : Option CStr) (g : Gatt σ C W) (n : Nat) :
    ((networkProvBleStart e pc deviceName g).1, (networkProvBleStart e pc deviceName g).2.coarse n) =
      Transport.networkProvBleStart e.toBleEnv n (g.coarse n) := by
  unfold networkProvBleStart Transport.networkProvBleStart
  dsimp only
  split
  · rfl
  rw [buildService_eq]
  split
  · rfl
  split <;> rfl

theorem stop_coarse (e : BleStopEnv) (g : Gatt σ C W) (n : Nat) :
    (networkProvBleStop e g).coarse n = Transport.networkProvBleStop e (g.coarse n) := by
  unfold networkProvBleStop Transport.networkProvBleStop
  obtain ⟨gPc, svcRegistered, -⟩ := g
  by_cases ha : e.advStop = 0
  · rw [if_pos ha, if_pos ha]
    cases svcRegistered <;> rfl
  · rw [if_neg ha, if_neg ha]
    cases svcRegistered <;> rfl

/-! ## A central -/

/-- mirrors src/protocomm_ble.c:264-273 -/
def connected (err : Nat) (e : Env) (g : Gatt σ C W) : Gatt σ C W :=
  if err ≠ 0 then g else { g with gPc := g.gPc.map (protocommOpenSession e) }

/-- mirrors src/protocomm_ble.c:275-284 -/
def disconnected (g : Gatt σ C W) : Gatt σ C W :=
  { g with
    gPc := g.gPc.map protocommCloseSession
    epIo := fun j => if j < MAX_EP then { g.epIo j with resp := [] } else g.epIo j }

/-- mirrors src/protocomm_ble.c:286-301 -/
def recycled (advStart : Int) (g : Gatt σ C W) : Gatt σ C W :=
  if !g.svcRegistered then g else if advStart = 0 then { g with advertising := true } else g

/-- `BT_GATT_ERR(BT_ATT_ERR_WRITE_NOT_PERMITTED)`, from the host. -/
def WRITE_NOT_PERMITTED : Int := -0x03

/-- A write; `protocomm_req_handle` refuses a `NULL` instance. -/
def writeAttr (maxResp : Nat) (attr : GattAttr) (a : BleWrite) (g : Gatt σ C W) : Int × Gatt σ C W :=
  match attr, g.gPc with
  | .value i, some s =>
    match writeEp maxResp a (g.epIo i) s with
    | (ret, io, s) => (ret, { g with gPc := some s, epIo := fun j => if j = i then io else g.epIo j })
  | .value i, none =>
    if a.prepare then (a.buf.length, g)
    else if a.offset ≠ 0 then (NOT_SUPPORTED, g)
    else (UNLIKELY, { g with epIo := fun j => if j = i then { g.epIo i with resp := [] } else g.epIo j })
  | _, _ => (WRITE_NOT_PERMITTED, g)

/-- What a read returns: of a declaration, the UUID in it. -/
inductive GattRead
  | uuid (uuid : Buf 16)
  | bytes (r : Except Int Bytes)

def readAttr (attr : GattAttr) (len offset : Nat) (g : Gatt σ C W) : GattRead :=
  match attr with
  | .primary => .uuid g.serviceUuid
  | .chrc i => .uuid (g.epUuid i)
  | .value i => .bytes (readEp (g.epIo i) len offset)
  | .cud i => .bytes (readEp ⟨.empty, (g.epIo i).name.chars⟩ len offset)

/-! ## The transport as a machine -/

inductive GattOp (σ C W : Type)
  | setServiceUuid (uuid128 : Option (Buf 16))
  | setMfgData (len : Nat) (data : Option (Buf len))
  | start (e : GattEnv) (pc : Session σ C W) (deviceName : Option CStr)
  | stop (e : BleStopEnv)
  | connected (err : Nat) (e : Env)
  | disconnected
  | recycled (advStart : Int)
  | write (attr : GattAttr) (a : BleWrite)
  | read (attr : GattAttr) (len offset : Nat)

inductive GattOut
  | none
  | ret (ret : Int)
  | read (r : GattRead)

/-- A central reaches the attributes of a service that the host has. -/
def Gatt.step (maxResp : Nat) (g : Gatt σ C W) : GattOp σ C W → Option (Gatt σ C W × GattOut)
  | .setServiceUuid uuid128 =>
    match networkProvSchemeBleSetServiceUuid uuid128 g with
    | (ret, g) => some (g, .ret ret)
  | .setMfgData len data =>
    match networkProvSchemeBleSetMfgData len data g with
    | (ret, g) => some (g, .ret ret)
  | .start e pc deviceName =>
    match networkProvBleStart e pc deviceName g with
    | (ret, g) => some (g, .ret ret)
  | .stop e => some (networkProvBleStop e g, .none)
  | .connected err e => some (Ble.connected err e g, .none)
  | .disconnected => some (Ble.disconnected g, .none)
  | .recycled advStart => some (Ble.recycled advStart g, .none)
  | .write attr a =>
    if g.gatt ∧ attr ∈ g.attrs then
      match writeAttr maxResp attr a g with
      | (ret, g) => some (g, .ret ret)
    else none
  | .read attr len offset =>
    if g.gatt ∧ attr ∈ g.attrs then some (g, .read (readAttr attr len offset g)) else none

def gattMachine (maxResp : Nat) : Machine (Gatt σ C W) (GattOp σ C W) GattOut := ⟨Gatt.step maxResp⟩

abbrev GattEntry (σ C W : Type) := Entry (Gatt σ C W) (GattOp σ C W) GattOut

end NetworkProv.Ble
