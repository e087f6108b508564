import NetworkProv.Thread.World

/-!
# What a failed Apply leaves committed

OpenThread commits a dataset when it is set, before it is known to lead
anywhere, and neither the refusal to enable Thread nor the attach timeout takes
it back.

* `apply_active`: the dataset committed after an Apply, whatever follows it.
* `dataset_restored_iff`: it is the one before exactly when the dataset
  itself was refused, or is the one committed already.
* `failed_apply_commissions`: a device that failed to attach counts as
  provisioned.
-/
namespace NetworkProv.Thread

open NetworkProv.Core NetworkProv.Wifi

/-- The operation is neither an Apply nor an erase. -/
def Op.keeps : Op → Bool
  | .apply _ _ | .erase _ => false
  | _ => true

/-- From an Apply of `d` in `s` to a failure reported in `w`, without another Apply
or an erase in between. -/
def FailedApply (s w : World) (d : DatasetTlvs) (env : OtEnv) : Prop :=
  ∃ e₀ t f r, threadMachine.Run s (e₀ :: t) w ∧ opOf e₀ = .apply d env ∧
    (∀ e ∈ t, (opOf e).keeps = true) ∧ (e₀ :: t).getLast? = some f ∧ .credFail r ∈ f.out.events

/-- The committed dataset is the same, and so is whether the device is provisioned,
whatever dataset counts as commissioned. -/
def Restores (s w : World) : Prop :=
  w.active = s.active ∧ ∀ isCommissioned,
    networkProvMgrIsProvisioned isCommissioned w.begin = networkProvMgrIsProvisioned isCommissioned s.begin

theorem restores_iff {s w : World} : Restores s w ↔ w.active = s.active := by
  refine ⟨And.left, fun h => ⟨h, fun isCommissioned => ?_⟩⟩
  exact congrArg isCommissioned h

theorem keeps_active {w w' : World} {op : Op} {ev : List CredEvent} (h : Effect w op w' ev)
    (hk : op.keeps = true) : w'.active = w.active := by
  cases h with
  | refused | attaching | already | erase => cases hk
  | _ => rfl

theorem committed_effect {w w' : World} {d : DatasetTlvs} {env : OtEnv} {ev : List CredEvent}
    (h : Effect w (.apply d env) w' ev) : w'.active = committed env d w.active := by
  cases h with
  | refused => rfl
  | attaching _ _ _ ha => exact (if_pos ha.1).symm
  | already _ _ _ ha => exact (if_pos ha.1).symm

/-- What is committed once an Apply has been made. -/
theorem apply_active {s w : World} {e₀ : Step} {t : List Step} {d : DatasetTlvs} {env : OtEnv}
    (h : threadMachine.Run s (e₀ :: t) w) (ha : opOf e₀ = .apply d env)
    (hk : ∀ e ∈ t, (opOf e).keeps = true) : w.active = committed env d s.active := by
  obtain ⟨rfl, hok, hrun⟩ := Machine.run_cons h
  have heff := ok_effect hok
  rw [ha] at heff
  refine hrun.guarded (P := fun w => w.active = committed env d e₀.pre.active) (committed_effect heff)
    (fun e he hke ih => ?_) hk
  exact (keeps_active (ok_effect he) hke).trans ih

theorem committed_eq_iff {env : OtEnv} {d : DatasetTlvs} {active : Option DatasetTlvs} :
    committed env d active = active ↔ env.setActiveTlvs ≠ 0 ∨ active = some d := by
  unfold committed
  split
  · rename_i hset
    simp [hset, eq_comm]
  · rename_i hset
    simp [hset]

/-- An Apply that ends in failure leaves the device as provisioned as it was, if and only
if OpenThread refused the dataset itself or it was the one already committed. -/
theorem dataset_restored_iff {s w : World} {d : DatasetTlvs} {env : OtEnv}
    (h : FailedApply s w d env) : Restores s w ↔ env.setActiveTlvs ≠ 0 ∨ s.active = some d := by
  obtain ⟨e₀, t, f, r, hrun, ha, hk, -, -⟩ := h
  rw [restores_iff, apply_active hrun ha hk]
  exact committed_eq_iff

/-- The dataset that `setChannel` stages. -/
def channelTlvs (c : UInt8) : DatasetTlvs := ⟨[0x00, 0x03, 0x00, 0x00, c], (by decide : 5 ≤ 254)⟩

/-- The handler with a dataset staged. -/
def stagedWorld : World := ⟨{ Tc.zero with state := .dettached, cbRegistered := true,
                                           dataset := channelTlvs 15, datasetStaged := true }, none⟩

/-- OpenThread refuses the dataset. -/
theorem dataset_restored_iff_test : ∃ w, FailedApply stagedWorld w (channelTlvs 15) refuseEnv ∧
    Restores stagedWorld w := by
  have hr := threadMachine.run_get stagedWorld [apply refuseEnv] (by rfl)
  have hf : ∃ w, FailedApply stagedWorld w (channelTlvs 15) refuseEnv :=
    ⟨_, _, [], _, .wifiAuthError, hr, rfl, by simp, rfl, by decide⟩
  obtain ⟨w, hf⟩ := hf
  exact ⟨w, hf, (dataset_restored_iff hf).2 (.inl (by decide))⟩

/-- **A failed Apply commissions the device.** A fresh device is given a dataset it cannot
attach with; once the timeout has reported the failure, it counts as provisioned. -/
theorem failed_apply_commissions : ∃ t w, threadMachine.Run (.boot none) t w ∧
    t.map (·.lbl) = [.start 0, setChannel 15, apply okEnv, .attachTimeout] ∧
    t.map (·.out.events) = [[], [], [.credRecv], [.credFail .wifiNetworkNotFound]] ∧
    networkProvMgrIsProvisioned Option.isSome (World.boot none).begin = false ∧
    networkProvMgrIsProvisioned Option.isSome w.begin = true ∧ ¬ Restores (.boot none) w := by
  have hr := threadMachine.run_get (.boot none) [.start 0, setChannel 15, apply okEnv, .attachTimeout]
    (by rfl)
  exact ⟨_, _, hr, by rfl, by rfl, by rfl, by rfl, fun h => by cases h.1⟩

end NetworkProv.Thread
