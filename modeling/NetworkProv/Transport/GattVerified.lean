import NetworkProv.Security.Seen
import NetworkProv.Transport.GattRuns

/-!
# A verified connection

With security 1, bytes that are written to a characteristic reach its handler
only in a connection in which a Command1 was verified (`ble_verified`).
-/
namespace NetworkProv.Ble
open NetworkProv.Core Core.Machine Protocomm Security1 Session

variable {σ : Type} {maxResp : Nat}

abbrev GattSec1 (σ : Type) := Gatt σ Sec1Ctx KeyStore

abbrev GattSec1Entry (σ : Type) := GattEntry σ Sec1Ctx KeyStore

/-- The transport: there is one connection, so the key tells nothing apart. -/
def bleConduit (s₀ : PcSession σ) : Conduit σ (GattSec1 σ) (GattOp σ Sec1Ctx KeyStore) GattOut Unit where
  sess g := g.gPc.getD s₀
  key _ := some ()
  act x :=
    match requestOf s₀.pc.endpoints x.lbl with
    | some (.openSession e) => .opened e
    | some .closeSession => .closed
    | some (.req e (some ep) inbuf) =>
      .asked none e ep inbuf (protocommReqHandle e (x.pre.gPc.getD s₀) (some ep) inbuf).2
    | _ => .idle

theorem bleConduit_sess {s₀ s : PcSession σ} {g : GattSec1 σ} (h : g.gPc = some s) : (bleConduit s₀).sess g = s := by
  change g.gPc.getD s₀ = s
  rw [h]
  rfl

theorem ble_keeps {s₀ s : PcSession σ} {x : GattSec1Entry σ} (hx : (gattMachine maxResp).Ok x)
    (hop : x.lbl.IsCentral) (h : Serves s₀.pc.endpoints s x.pre) : (bleConduit s₀).Keeps x := by
  obtain ⟨s', t, hs', hrun, hops, -⟩ := central_step hx hop h
  refine ⟨?_, fun _ => rfl, fun _ => rfl⟩
  change Act.Performs _ (x.pre.gPc.getD s₀) (x.post.gPc.getD s₀)
  unfold bleConduit
  dsimp only
  rw [h.pc, hs'.pc, Option.getD_some, Option.getD_some]
  cases hreq : requestOf s₀.pc.endpoints x.lbl with
  | none =>
    rw [hreq] at hops
    obtain rfl := List.map_eq_nil_iff.1 hops
    exact run_nil hrun
  | some op =>
    -- one step of the instance
    rw [hreq] at hops
    obtain ⟨y, rfl, rfl⟩ := List.map_eq_singleton_iff.1 hops
    obtain ⟨rfl, hok, hend⟩ := run_cons hrun
    obtain rfl := run_nil hend
    obtain ⟨s, op, r, s'⟩ := y
    change s.step op = some (s', r) at hok
    cases op with
    | openSession e =>
      cases hok
      rfl
    | closeSession =>
      cases hok
      rfl
    | req e name inbuf =>
      change some (protocommReqHandle e s name inbuf) = _ at hok
      have hstep := Option.some.inj hok
      cases name with
      | none =>
        cases hstep
        rfl
      | some ep =>
        change protocommReqHandle e s (some ep) inbuf = (s', (protocommReqHandle e s (some ep) inbuf).2)
        rw [hstep]

/-! ## What a central has done -/

def Connects (x : GattSec1Entry σ) : Prop := ∃ e, x.lbl = .connected 0 e

/-- The connection, if there is one, goes on. -/
def Stays (x : GattSec1Entry σ) : Prop := ¬ Connects x ∧ x.lbl ≠ .disconnected

/-- The whole request `a`, written to the endpoint `ep`, meets the session `s`. -/
def Writes (eps : List (ProtocommEp σ)) (x : GattSec1Entry σ) (ep : CStr) (a : BleWrite) (s : PcSession σ) : Prop :=
  ∃ i, x.lbl = .write (.value i) a ∧ Taken a ∧ (eps[i]?).map (·.name) = some ep ∧ x.pre.gPc = some s

/-- A Command1 that verifies is written. -/
def WritesVerified (P : Psa) (pb : Nanopb) (eps : List (ProtocommEp σ)) (x : GattSec1Entry σ) : Prop :=
  ∃ ep a s, Writes eps x ep a s ∧ VerifiesOpen P pb (reqEntry a.req ep a.buf s)

/-- Bytes that are written get to a handler only in a connection that was verified. -/
def ConnectionChecked (P : Psa) (pb : Nanopb) (eps : List (ProtocommEp σ)) (t : List (GattSec1Entry σ))
    (x : GattSec1Entry σ) : Prop :=
  ∀ ep a s call, Writes eps x ep a s → a.buf ≠ [] → (protocommReqHandle a.req s (some ep) a.buf).2.call = some call →
    SinceThen Connects (WritesVerified P pb eps) Stays t

theorem requestOf_writes {eps : List (ProtocommEp σ)} {x : GattSec1Entry σ} {ep : CStr} {a : BleWrite} {s : PcSession σ}
    (h : Writes eps x ep a s) : requestOf eps x.lbl = some (.req a.req (some ep) a.buf) := by
  obtain ⟨i, hl, ht, hn, -⟩ := h
  rw [hl]
  unfold requestOf
  dsimp only
  rw [if_pos ht, hn]

theorem writes_of_requestOf {eps : List (ProtocommEp σ)} {x : GattSec1Entry σ} {ep : CStr} {e : ReqEnv} {inbuf : Bytes}
    {s : PcSession σ} (h : requestOf eps x.lbl = some (.req e (some ep) inbuf)) (hs : x.pre.gPc = some s) :
    ∃ a, e = a.req ∧ inbuf = a.buf ∧ Writes eps x ep a s := by
  unfold requestOf at h
  split at h
  · split at h <;> cases h
  · cases h
  · rename_i i a hl
    split at h
    · rename_i ht
      injection h with h
      injection h with he hn hb
      exact ⟨a, he.symm, hb.symm, i, hl, ht, hn, hs⟩
    · cases h
  · cases h

theorem act_writes {s₀ s : PcSession σ} {x : GattSec1Entry σ} {ep : CStr} {a : BleWrite}
    (h : Writes s₀.pc.endpoints x ep a s) :
    (bleConduit s₀).act x = .asked none a.req ep a.buf (protocommReqHandle a.req s (some ep) a.buf).2 := by
  have hreq := requestOf_writes h
  obtain ⟨-, -, -, -, hpre⟩ := h
  unfold bleConduit
  dsimp only
  rw [hreq, hpre]
  rfl

theorem requestOf_asked {s₀ : PcSession σ} {x : GattSec1Entry σ} {o : Option Env} {e : ReqEnv} {ep : CStr} {inbuf : Bytes}
    {r : Reply} (h : (bleConduit s₀).act x = .asked o e ep inbuf r) :
    requestOf s₀.pc.endpoints x.lbl = some (.req e (some ep) inbuf) := by
  unfold bleConduit at h
  dsimp only at h
  split at h <;> cases h
  assumption

theorem connects_of_opens {s₀ : PcSession σ} {x : GattSec1Entry σ} (h : ((bleConduit s₀).act x).Opens) : Connects x := by
  unfold bleConduit at h
  dsimp only at h
  split at h
  · rename_i e hreq
    unfold requestOf at hreq
    split at hreq
    · rename_i err e' hl
      split at hreq
      · rename_i herr
        rw [herr] at hl
        exact ⟨e', hl⟩
      · cases hreq
    · cases hreq
    · split at hreq <;> cases hreq
    · cases hreq
  all_goals exact h.elim

theorem stays_of_quiet {s₀ : PcSession σ} {x : GattSec1Entry σ} (h : ((bleConduit s₀).act x).Quiet) : Stays x := by
  refine ⟨?_, fun hl => ?_⟩
  · rintro ⟨e, hl⟩
    unfold bleConduit at h
    dsimp only at h
    rw [hl] at h
    exact h
  · unfold bleConduit at h
    dsimp only at h
    rw [hl] at h
    exact h

theorem serves_run {e : GattEnv} {s₀ : PcSession σ} {deviceName : Option CStr} {g₀ g₁ g : GattSec1 σ}
    (hpc : TableOk s₀.pc) (hstart : networkProvBleStart e s₀ deviceName g₀ = (0, g₁))
    {t : List (GattSec1Entry σ)} (hr : (gattMachine maxResp).Run g₁ t g) (hops : ∀ x ∈ t, x.lbl.IsCentral) :
    ∃ s, Serves s₀.pc.endpoints s g :=
  hr.guarded (C := fun x => x.lbl.IsCentral) (P := fun g => ∃ s, Serves s₀.pc.endpoints s g)
    ⟨s₀, (start_serves hpc hstart).1⟩ (fun x hx hc ⟨s, hs⟩ => by
      obtain ⟨s', -, hs', -⟩ := central_step hx hc hs
      exact ⟨s', hs'⟩) hops

/-- **Over BLE bytes are for a verified connection.** After a start that succeeds, with security 1,
whatever centrals do until the transport is stopped: the bytes of a request written to a
characteristic reach the handler of its endpoint only if, in the same connection, a Command1 was
written before and verified. -/
theorem ble_verified {P : Psa} {pb : Nanopb} {e : GattEnv} {s₀ : PcSession σ} {deviceName : Option CStr}
    {g₀ g₁ g : GattSec1 σ} (hsec : s₀.pc.sec = some (networkProvSecurity1 P pb)) (hc : s₀.pc.secCtx = none)
    (hpc : TableOk s₀.pc) (hstart : networkProvBleStart e s₀ deviceName g₀ = (0, g₁))
    {t : List (GattSec1Entry σ)} (hr : (gattMachine maxResp).Run g₁ t g) (hops : ∀ x ∈ t, x.lbl.IsCentral) :
    Always (ConnectionChecked P pb s₀.pc.endpoints) t := by
  have hserves : ∀ y ∈ t, ∃ s, Serves s₀.pc.endpoints s y.pre := by
    intro y hy
    obtain ⟨t₁, t₂, rfl⟩ := List.append_of_mem hy
    exact serves_run hpc hstart hr.at.1 fun x hx => hops x (List.mem_append_left _ hx)
  have hsess : (bleConduit s₀).sess g₁ = s₀ := bleConduit_sess (start_serves hpc hstart).1.pc
  have hall : Always ((bleConduit s₀).Checked P pb) t := by
    refine Conduit.carried_verified ?_ ?_ hr fun x hx => ?_
    · rw [hsess]
      exact hsec
    · rw [hsess]
      exact hc
    · obtain ⟨s, hs⟩ := hserves x hx
      exact ble_keeps (hr.ok_of_mem hx) (hops x hx) hs
  intro t₁ x t₂ ht ep a s call hw hne hcall
  obtain ⟨-, k, -, hv⟩ := hall t₁ x t₂ ht _ _ _ _ _ call (act_writes hw) hne hcall
  refine hv.imp (fun y _ hy => connects_of_opens hy.1) (fun y hy hver => ?_) fun y _ hy => stays_of_quiet hy
  obtain ⟨-, e', ep', inbuf, r, hya, hver⟩ := hver
  obtain ⟨s', hs'⟩ := hserves y (ht ▸ List.mem_append_left _ hy)
  obtain ⟨b, rfl, rfl, hw'⟩ := writes_of_requestOf (requestOf_asked hya) hs'.pc
  rw [bleConduit_sess hs'.pc] at hver
  exact ⟨ep', b, s', hw', hver⟩

/-! ## A central with the proof of possession -/

def sec1Gatt : GattSec1 Unit :=
  (networkProvBleStart demoEnv (testDevice vectors wirePb (some pop)) none (.boot (.zero _))).2

theorem sec1_start : networkProvBleStart demoEnv (testDevice vectors wirePb (some pop)) none (.boot (.zero _)) =
    (0, sec1Gatt) := rfl

def sec1Write (i : Nat) (buf : Bytes) : GattOp Unit Sec1Ctx KeyStore := .write (.value i) ⟨buf, 0, false, goodReq⟩

/-- A handshake and one request. -/
def sec1Ops : List (GattOp Unit Sec1Ctx KeyStore) :=
  [.connected 0 (.good devicePriv deviceRandom), sec1Write 1 (cmd0Head ++ clientPub),
    sec1Write 1 (cmd1Head ++ xorFrom testKs 0 devicePub),
    sec1Write 0 (xorFrom testKs 64 (bytesOf 5 0x68656c6c6f))]

/-- The run of these. -/
def sec1Run : List (GattSec1Entry Unit) × GattSec1 Unit :=
  ((gattMachine 512).exec sec1Gatt sec1Ops).get (by decide +kernel)

theorem sec1_run : (gattMachine 512).Run sec1Gatt sec1Run.1 sec1Run.2 :=
  (gattMachine 512).run_get sec1Gatt sec1Ops (by decide +kernel)

theorem sec1_central : ∀ x ∈ sec1Run.1, x.lbl.IsCentral := by
  intro x hx
  have hl : x.lbl ∈ sec1Ops := List.mem_map_of_mem (f := (·.lbl)) hx
  unfold sec1Ops sec1Write at hl
  simp only [List.mem_cons, List.not_mem_nil, or_false] at hl
  rcases hl with h | h | h | h <;> rw [h] <;> exact ⟨fun _ _ _ hn => (by cases hn), fun _ hn => (by cases hn)⟩

theorem ble_verified_test :
    (sec1Run.2.epIo 0).resp.length = 10 ∧
    Always (ConnectionChecked vectors wirePb (testDevice vectors wirePb (some pop)).pc.endpoints) sec1Run.1 :=
  ⟨by decide +kernel,
    ble_verified rfl rfl ⟨by decide, by decide, by decide⟩ sec1_start sec1_run sec1_central⟩

end NetworkProv.Ble
