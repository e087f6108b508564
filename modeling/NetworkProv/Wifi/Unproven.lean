import NetworkProv.Wifi.World

/-!
# Credentials that never worked

An Apply stores its credentials before it knows whether they work. Every way an
attempt can end would have to take them back: a final failure and a rejected
connect request do, if the store lets them, a reset, a stop and an Apply for
another SSID do not.

* `settled_iff`: in a run, every entry is earned (it was there initially, or its
  credentials were reported successful) or belongs to the attempt in flight,
  in all states reached, exactly when no step abandons an attempt whose entry is
  not earned.
* `no_unproven`: in such a run every entry is earned once no attempt is pending.
* `reset_leaves_unproven`: a reset that leaves the device provisioned.
-/
namespace NetworkProv.Wifi

open NetworkProv.Core

/-- The entry was there initially, or its credentials were reported successful. -/
def Earned (w : World) (ssid : Bytes) (c : WifiCred) : Prop :=
  w.initial.lookup ssid = some c ∨ (ssid, c) ∈ w.proven

instance (w : World) (ssid : Bytes) (c : WifiCred) : Decidable (Earned w ssid c) :=
  inferInstanceAs (Decidable (_ ∨ _))

/-- The store has an entry for the SSID in flight that is not earned. -/
def Unproven (w : World) : Prop :=
  ∃ c ∈ w.store.lookup w.wc.inflight.ssid.val, ¬ Earned w w.wc.inflight.ssid.val c

instance (w : World) : Decidable (Unproven w) :=
  match h : w.store.lookup w.wc.inflight.ssid.val with
  | none => .isFalse (by rintro ⟨c, hc, -⟩; rw [h] at hc; cases hc)
  | some c =>
    if he : Earned w w.wc.inflight.ssid.val c then
      .isFalse (by rintro ⟨c', hc, hn⟩; rw [h] at hc; cases hc; exact hn he)
    else .isTrue ⟨c, h, he⟩

/-- The result, or the retry, ends the attempt in flight in failure. -/
def EndsAttempt (w : World) : Op → Prop
  | .result st _ => w.wc.cbRegistered = true ∧ ¬ w.wc.NoSnapshot ∧ st.status ≠ 0 ∧ ¬ w.wc.Retries
  | .retry e => ¬ w.wc.NoSnapshot ∧ (e.iface = false ∨ e.connectRet ≠ 0)
  | _ => False

instance (w : World) (op : Op) : Decidable (EndsAttempt w op) :=
  match op with
  | .result _ _ => inferInstanceAs (Decidable (_ ∧ _))
  | .retry _ => inferInstanceAs (Decidable (_ ∧ _))
  | .idle | .start _ | .stop | .reset | .stage _ | .apply _ _ | .erase _ _ => .isFalse id

/-- The operation abandons no attempt whose entry is not earned: it is no reset, no
stop, no Apply that stores credentials for another SSID, and no failure whose
deletion the store refuses. An Apply with a rejected connect request abandons its own. -/
def Covers (w : World) : Op → Prop
  | .stop => ¬ Unproven w
  | .reset => ¬ Unproven w
  | .apply c e => Stores c e → (c.ssid.val ≠ w.wc.inflight.ssid.val → ¬ Unproven w) ∧
      (e.connectRet ≠ 0 → e.deleteRet ≠ 0 → Earned w c.ssid.val (storedCred c))
  | op => EndsAttempt w op → op.deleteRet ≠ 0 → ¬ Unproven w

instance (w : World) (op : Op) : Decidable (Covers w op) :=
  match op with
  | .stop | .reset => inferInstanceAs (Decidable (¬ _))
  | .apply _ _ => inferInstanceAs (Decidable (_ → (_ → ¬ _) ∧ (_ → _ → _)))
  | .idle | .start _ | .stage _ | .erase _ _ | .result _ _ | .retry _ =>
    inferInstanceAs (Decidable (EndsAttempt _ _ → _ → ¬ _))

/-- Every entry is earned, or is that of the attempt in flight. -/
def Settled (w : World) : Prop :=
  ∀ ssid c, w.store.lookup ssid = some c →
    Earned w ssid c ∨ ssid = w.wc.inflight.ssid.val ∧ c = storedCred w.wc.inflight

theorem Settled.earned {w : World} (h : Settled w) (hu : ¬ Unproven w) {ssid : Bytes} {c : WifiCred}
    (hl : w.store.lookup ssid = some c) : Earned w ssid c := by
  rcases h ssid c hl with he | ⟨rfl, -⟩
  · exact he
  · by_contra hne
    exact hu ⟨c, hl, hne⟩

theorem Settled.of_earned {w : World} (h : ∀ ssid c, w.store.lookup ssid = some c → Earned w ssid c) :
    Settled w := fun ssid c hl => .inl (h ssid c hl)

/-- Without the entry of the attempt in flight everything is earned; and if it could not be
deleted, because it was earned itself. -/
theorem Settled.deleted {w : World} (h : Settled w) {ret : Int} (hu : ret ≠ 0 → ¬ Unproven w) {ssid : Bytes}
    {c : WifiCred} (hl : (w.store.deleteBySsid ret w.wc.inflight.ssid.val).2.lookup ssid = some c) :
    Earned w ssid c := by
  by_cases hr : ret = 0
  · rw [hr, WifiCredentials.deleteBySsid_ok, WifiCredentials.lookup_erase] at hl
    split at hl
    · cases hl
    · rename_i hne
      rcases h ssid c hl with he | ⟨heq, -⟩
      · exact he
      · exact absurd heq hne
  · rw [WifiCredentials.deleteBySsid_failed hr] at hl
    exact h.earned (hu hr) hl

/-- So it is without the entry of an SSID that an Apply may replace. -/
theorem Settled.replaced {w : World} (h : Settled w) {k : Bytes}
    (hk : k ≠ w.wc.inflight.ssid.val → ¬ Unproven w) {ssid : Bytes} {c : WifiCred} (hne : ssid ≠ k)
    (hl : w.store.lookup ssid = some c) : Earned w ssid c := by
  by_cases hsame : k = w.wc.inflight.ssid.val
  · rcases h ssid c hl with he | ⟨heq, -⟩
    · exact he
    · exact absurd (heq.trans hsame.symm) hne
  · exact h.earned (hk hsame) hl

theorem Settled.step {w w' : World} {op : Op} {ev : List CredEvent} {cs : List ConnectReq}
    (h : Settled w) (heff : Effect w op w' ev cs) (hc : Covers w op) : Settled w' := by
  cases heff with
  | idle => exact h
  | start n hcb => exact h
  | stop hcb => exact .of_earned fun _ _ hl => h.earned hc hl
  | reset hcb => exact .of_earned fun _ _ hl => h.earned hc hl
  | stage c hcb => exact h
  | refused c e hcb hs =>
    intro ssid cred hl
    exact h ssid cred (WifiCredentials.lookup_of_deleteBySsid hl)
  | rejected c e hs hcb hs0 hr =>
    obtain ⟨hother, hown⟩ := hc ⟨hs, hs0⟩
    apply Settled.of_earned
    intro ssid cred hl
    rw [WifiCredentials.lookup_deleteBySsid, WifiCredentials.lookup_put] at hl
    split at hl
    · cases hl
    · rename_i hkept
      split at hl
      · -- the entry of this Apply could not be deleted again
        rename_i heq
        cases hl
        rw [heq]
        exact hown hr fun hd => hkept ⟨hd, heq⟩
      · rename_i hne
        exact h.replaced hother hne hl
  | started c e hs hcb hs0 hr =>
    intro ssid cred hl
    rw [WifiCredentials.lookup_put] at hl
    split at hl
    · rename_i heq
      cases hl
      exact .inr ⟨heq, (storedCred_snapshot { w.wc with staged := c }).symm⟩
    · rename_i hne
      exact .inl (h.replaced (hc ⟨hs, hs0⟩).1 hne hl)
  | erase ret deleted =>
    intro ssid cred hl
    exact h ssid cred (WifiCredentials.lookup_of_deleteAll hl)
  | ignored st d r rest hw hi => exact h
  | connected st d r rest hw hcb hn hst =>
    apply Settled.of_earned
    intro ssid cred hl
    rcases h ssid cred hl with hearn | ⟨rfl, rfl⟩
    · exact hearn.imp_right (List.mem_cons_of_mem _)
    · exact .inr List.mem_cons_self
  | retrying st d r rest hw hcb hn hst hr => exact h
  | failed st d r rest hw hcb hn hst hr =>
    exact .of_earned fun _ _ hl => h.deleted (hc ⟨hcb, hn, hst, hr⟩) hl
  | lapsed e hret hn => exact h
  | retried e hret hn hi hcr => exact h
  | abandoned e cs hret hn hcr =>
    exact .of_earned fun _ _ hl => h.deleted (hc ⟨hn, hcr.imp And.left And.left⟩) hl

/-- An abandoned entry stays: it is neither earned nor that of an attempt. -/
theorem Unproven.not_settled {w w' : World} (h : Unproven w)
    (hl : ∀ c, w.store.lookup w.wc.inflight.ssid.val = some c →
      w'.store.lookup w.wc.inflight.ssid.val = some c)
    (hi : w'.initial = w.initial) (hp : w'.proven = w.proven)
    (hn : w.wc.inflight.ssid.val ≠ [] → w.wc.inflight.ssid.val ≠ w'.wc.inflight.ssid.val) :
    ¬ Settled w' := by
  obtain ⟨c, hc, hne⟩ := h
  intro hs
  have hne0 : w.wc.inflight.ssid.val ≠ [] := by
    intro h0
    rw [h0] at hc
    simp at hc
  rcases hs _ _ (hl c hc) with he | ⟨heq, -⟩
  · rw [Earned, hi, hp] at he
    exact hne he
  · exact hn hne0 heq

/-- Only an operation that covers the attempt leaves a settled state. -/
theorem uncovered_effect {w w' : World} {op : Op} {ev : List CredEvent} {cs : List ConnectReq}
    (heff : Effect w op w' ev cs) (hc : ¬ Covers w op) : ¬ Settled w' := by
  cases heff with
  | stop hcb =>
    have hu : Unproven w := not_not.1 hc
    exact hu.not_settled (fun _ hl => hl) rfl rfl id
  | reset hcb =>
    have hu : Unproven w := not_not.1 hc
    exact hu.not_settled (fun _ hl => hl) rfl rfl id
  | refused c e hcb hs => exact absurd (fun h => absurd h hs) hc
  | rejected c e hs hcb hs0 hr =>
    simp only [Covers, Classical.not_imp, not_and_or, not_not] at hc
    obtain ⟨-, ⟨hne, hu⟩ | ⟨-, hd, hearn⟩⟩ := hc
    · refine hu.not_settled (fun d hl => ?_) rfl rfl id
      rw [WifiCredentials.lookup_deleteBySsid, if_neg fun h => hne h.2.symm, WifiCredentials.lookup_put,
        if_neg (Ne.symm hne)]
      exact hl
    · -- its own entry stays, and no attempt is in flight
      intro hset
      have hl : ((w.store.put c.ssid.val hs (storedCred c)).deleteBySsid e.deleteRet c.ssid.val).2.lookup
          c.ssid.val = some (storedCred c) := by
        rw [WifiCredentials.deleteBySsid_failed hd, WifiCredentials.lookup_put, if_pos rfl]
      rcases hset _ _ hl with he | ⟨heq, -⟩
      · exact hearn he
      · exact hs heq
  | failed st d r rest hw hcb hn hst hr =>
    simp only [Covers, Op.deleteRet, Classical.not_imp, not_not] at hc
    obtain ⟨-, hd, hu⟩ := hc
    refine hu.not_settled (fun c hl => ?_) rfl rfl id
    rw [WifiCredentials.deleteBySsid_failed hd]
    exact hl
  | abandoned e cs hret hn hcr =>
    simp only [Covers, Op.deleteRet, Classical.not_imp, not_not] at hc
    obtain ⟨-, hd, hu⟩ := hc
    refine hu.not_settled (fun c hl => ?_) rfl rfl id
    rw [WifiCredentials.deleteBySsid_failed hd]
    exact hl
  | connected st d r rest hw hcb hn hst =>
    exact absurd (fun hx : EndsAttempt w (.result st d) => absurd hst hx.2.2.1) hc
  | ignored st d r rest hw hi =>
    exact absurd (fun hx : EndsAttempt w (.result st d) => absurd (hi hx.1) hx.2.1) hc
  | retrying st d r rest hw hcb hn hst hr =>
    exact absurd (fun hx : EndsAttempt w (.result st d) => absurd hr hx.2.2.2) hc
  | lapsed e hret hn => exact absurd (fun hx : EndsAttempt w (.retry e) => absurd hn hx.1) hc
  | retried e hret hn hi hcr =>
    refine absurd (fun hx : EndsAttempt w (.retry e) => ?_) hc
    rcases hx.2 with hno | hno
    · rw [hi] at hno
      cases hno
    · exact absurd hcr hno
  | started c e hs hcb hs0 hr =>
    simp only [Covers, Classical.not_imp, not_and_or, not_not] at hc
    obtain ⟨-, ⟨hne, hu⟩ | ⟨hr', -⟩⟩ := hc
    case inr => exact absurd hr hr'
    refine hu.not_settled (fun d hl => ?_) rfl rfl fun _ => hne.symm
    rw [WifiCredentials.lookup_put, if_neg (Ne.symm hne)]
    exact hl
  | _ => exact absurd (fun hx => False.elim hx) hc

theorem settled_run {store : WifiCredentials} {t : List Step} {w : World}
    (h : wifiMachine.Run (World.boot store) t w) (hc : ∀ e ∈ t, Covers e.pre (opOf e)) : Settled w :=
  h.guarded (C := fun e => Covers e.pre (opOf e)) (.of_earned fun _ _ hl => .inl hl)
    (fun _ hok hc hs => hs.step (ok_effect hok) hc) hc

/-- Every state reached is settled if and only if every step covers the attempt
in flight. -/
theorem settled_iff {store : WifiCredentials} {t : List Step} {w : World}
    (h : wifiMachine.Run (World.boot store) t w) :
    (∀ e ∈ t, Settled e.post) ↔ ∀ e ∈ t, Covers e.pre (opOf e) := by
  refine h.forall_iff (P := Settled) (.of_earned fun _ _ hl => .inl hl) ?_ ?_
  · intro e he hs hc
    have hpost := hs.step (ok_effect he) hc
    exact ⟨hpost, hpost⟩
  · intro e he _ hpost
    by_contra hc
    exact uncovered_effect (ok_effect he) hc hpost

/-! ## Once no attempt is pending -/

/-- An attempt with this SSID and these credentials was reported successful. -/
def ReportedSuccess (t : List Step) (ssid : Bytes) (c : WifiCred) : Prop :=
  ∃ e ∈ t, .credSuccess ∈ e.out.events ∧ e.pre.wc.inflight.ssid.val = ssid ∧
    storedCred e.pre.wc.inflight = c

/-- What a step adds to the ghost state. -/
theorem effect_proven {w w' : World} {op : Op} {ev : List CredEvent} {cs : List ConnectReq}
    (h : Effect w op w' ev cs) :
    w'.initial = w.initial ∧ (w'.proven = w.proven ∨ .credSuccess ∈ ev ∧
      w'.proven = (w.wc.inflight.ssid.val, storedCred w.wc.inflight) :: w.proven) := by
  cases h with
  | connected => exact ⟨rfl, .inr ⟨List.mem_singleton_self _, rfl⟩⟩
  | _ => exact ⟨rfl, .inl rfl⟩

theorem proven_reported {store : WifiCredentials} {t : List Step} {w : World}
    (h : wifiMachine.Run (World.boot store) t w) :
    w.initial = store ∧ ∀ p ∈ w.proven, ReportedSuccess t p.1 p.2 := by
  refine h.history (P := fun t w => w.initial = store ∧ ∀ p ∈ w.proven, ReportedSuccess t p.1 p.2)
    ⟨rfl, fun p hp => by cases hp⟩ ?_
  intro t e _ he ih
  obtain ⟨hi, hp⟩ := ih
  obtain ⟨hi', hp'⟩ := effect_proven (ok_effect he)
  have hold : ∀ p ∈ e.pre.proven, ReportedSuccess (t ++ [e]) p.1 p.2 := by
    intro p hm
    obtain ⟨x, hx, hrep⟩ := hp p hm
    exact ⟨x, by simp [hx], hrep⟩
  refine ⟨hi'.trans hi, fun p hm => ?_⟩
  rcases hp' with hsame | ⟨hev, hcons⟩
  · rw [hsame] at hm
    exact hold p hm
  · rw [hcons] at hm
    rcases List.mem_cons.1 hm with rfl | hm
    · exact ⟨e, by simp, hev, rfl, rfl⟩
    · exact hold p hm

/-- Once no attempt is pending (a retry may even be armed), every entry was there
before the run or carries credentials that the run reported successful, if no
reset, stop, Apply or refused deletion abandoned an attempt whose entry was not
earned. -/
theorem no_unproven {store : WifiCredentials} {t : List Step} {w : World}
    (h : wifiMachine.Run (World.boot store) t w) (hc : ∀ e ∈ t, Covers e.pre (opOf e))
    (hn : w.wc.NoSnapshot) (ssid : Bytes) (c : WifiCred)
    (hl : w.store.lookup ssid = some c) : store.lookup ssid = some c ∨ ReportedSuccess t ssid c := by
  have hs := settled_run h hc
  obtain ⟨hi, hp⟩ := proven_reported h
  rcases hs ssid c hl with he | ⟨hin, -⟩
  · rw [Earned, hi] at he
    exact he.imp_right (hp (ssid, c))
  · rw [hin, show w.wc.inflight.ssid.val = [] from hn] at hl
    simp at hl

/-- A connect that works, then a reset: the entry stays. -/
theorem no_unproven_test : ∃ t w, wifiMachine.Run (World.boot .empty) t w ∧
    t.map (·.lbl) = [.start 0, configure okEnv homeSsid, .connectResult ⟨0, 0⟩ 0, .resetSmState] ∧
    (w.store.lookup homeSsid.chars).isSome ∧
    ∀ ssid c, w.store.lookup ssid = some c →
      WifiCredentials.empty.lookup ssid = some c ∨ ReportedSuccess t ssid c := by
  have hr := wifiMachine.run_get (World.boot .empty)
    [.start 0, configure okEnv homeSsid, .connectResult ⟨0, 0⟩ 0, .resetSmState] (by rfl)
  exact ⟨_, _, hr, by rfl, by decide +kernel,
    no_unproven hr (by decide +kernel) (by decide +kernel)⟩

/-- **A reset keeps credentials that never worked.** Nothing was stored, no
connect succeeded, no attempt is pending, and "home" is in the store. -/
theorem reset_leaves_unproven : ∃ t w, wifiMachine.Run (World.boot .empty) t w ∧
    t.map (·.lbl) = [.start 0, configure okEnv homeSsid, .resetSmState] ∧
    w.wc.NoSnapshot ∧ w.wc.retryWork = false ∧
    ¬ ∀ ssid c, w.store.lookup ssid = some c →
      WifiCredentials.empty.lookup ssid = some c ∨ ReportedSuccess t ssid c := by
  have hr := wifiMachine.run_get (World.boot .empty)
    [.start 0, configure okEnv homeSsid, .resetSmState] (by rfl)
  refine ⟨_, _, hr, by rfl, by decide +kernel, by decide +kernel, ?_⟩
  intro hall
  rcases hall homeSsid.chars _ (by rfl) with h | ⟨e, he, hs, -⟩
  · simp at h
  · revert e
    decide +kernel

end NetworkProv.Wifi
