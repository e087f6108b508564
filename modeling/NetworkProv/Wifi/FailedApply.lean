import NetworkProv.Wifi.World

/-!
# What a failed Apply leaves in the store

An Apply replaces the entry of its SSID first and deletes it when it fails.
Whatever was stored for other SSIDs stays; what was stored for this one is
gone, on each of the three ways to fail, unless the store refuses a deletion.

* `failed_apply_store`: after a failed Apply the store is the one before it,
  without the entry of the SSID.
* `failed_apply_restores_iff`: it is the one before exactly when there was no
  such entry; with refused deletions, when what they leave was there before.
* `failed_apply_erases`: credentials lost to a rejected connect request.
-/
namespace NetworkProv.Wifi

open NetworkProv.Core

/-- The operation is neither an Apply nor an erase. -/
def Op.Keeps : Op → Prop
  | .apply _ _ | .erase _ _ => False
  | _ => True

instance (op : Op) : Decidable op.Keeps :=
  match op with
  | .apply _ _ | .erase _ _ => .isFalse id
  | .idle | .start _ | .stop | .reset | .stage _ | .result _ _ | .retry _ => .isTrue trivial

/-- An Apply of `c`, the step `e₀`, ends in failure with the steps `t`: the store
refuses, the connect request is rejected, or its attempt fails in the end. -/
def ApplyFails (c : ConnectConf) (env : WifiEnv) (e₀ : Step) (t : List Step) : Prop :=
  t = [] ∧ ¬ Stores c env ∨ t = [] ∧ CredFails e₀ ∨
    Stores c env ∧ env.connectRet = 0 ∧ ∃ t' f, t = t' ++ [f] ∧ CredFails f

/-- Between Applies and erases an attempt and the store stay as they are, until
the attempt ends. -/
theorem attempt_frame {w w' : World} {op : Op} {ev : List CredEvent} {cs : List ConnectReq}
    (h : Effect w op w' ev cs) (hk : op.Keeps) :
    w'.wc.NoSnapshot ∨ w'.wc.inflight = w.wc.inflight ∧ w'.store = w.store := by
  cases h with
  | refused | rejected | started | erase => exact hk.elim
  | stop | reset | connected | failed | abandoned => exact .inl rfl
  | _ => exact .inr ⟨rfl, rfl⟩

/-- A reported failure deletes the entry of the SSID in flight. -/
theorem credFail_store {e : Step} (he : wifiMachine.Ok e) (hk : (opOf e).Keeps) (hf : CredFails e) :
    ¬ e.pre.wc.NoSnapshot ∧
      e.post.store = (e.pre.store.deleteBySsid (opOf e).deleteRet e.pre.wc.inflight.ssid.val).2 := by
  obtain ⟨r, hr⟩ := hf
  have heff := ok_effect he
  generalize opOf e = op at heff hk ⊢
  generalize e.out.events = ev at heff hr
  generalize e.out.connects = cs at heff
  generalize e.post = w' at heff ⊢
  cases heff with
  | refused | rejected | started | erase => exact hk.elim
  | failed _ _ _ _ _ _ hn => exact ⟨hn, rfl⟩
  | abandoned _ _ _ hn => exact ⟨hn, rfl⟩
  | _ => simp at hr

/-- The Apply of `c` has its attempt under way. -/
def Begins (c : ConnectConf) (env : WifiEnv) : Prop := Stores c env ∧ env.connectRet = 0

/-- The store after an Apply of `c` has failed; `ret`: what the deletion of its entry is answered. -/
def failedStore (s : WifiCredentials) (c : ConnectConf) (env : WifiEnv) (ret : Int) : WifiCredentials :=
  if hs : Stores c env then ((s.put c.ssid.val hs.1 (storedCred c)).deleteBySsid ret c.ssid.val).2
  else (s.deleteBySsid env.replaceRet c.ssid.val).2

/-- The step that applies `c`. -/
theorem apply_store {e : Step} {c : ConnectConf} {env : WifiEnv} (he : wifiMachine.Ok e)
    (ha : opOf e = .apply c env) :
    ¬ Begins c env ∧ e.post.store = failedStore e.pre.store c env (opOf e).deleteRet ∨
      Begins c env ∧ ¬ CredFails e ∧ e.post.wc.inflight.ssid.val = c.ssid.val ∧
        ∃ hs : c.ssid.val ≠ [], e.post.store = e.pre.store.put c.ssid.val hs (storedCred c) := by
  have heff := ok_effect he
  unfold CredFails failedStore
  rw [ha] at heff ⊢
  generalize e.out.events = ev at heff ⊢
  generalize e.out.connects = cs at heff
  generalize e.post = w' at heff ⊢
  cases heff with
  | refused _ _ _ hs => exact .inl ⟨fun h => hs h.1, by rw [dif_neg hs]⟩
  | rejected _ _ hs _ hs0 hr =>
    have hst : Stores c env := ⟨hs, hs0⟩
    exact .inl ⟨fun h => hr h.2, by rw [dif_pos hst]; rfl⟩
  | started _ _ hs _ hs0 hr => exact .inr ⟨⟨⟨hs, hs0⟩, hr⟩, by simp, rfl, hs, rfl⟩

/-- The store after the failure, the last step `f`. -/
theorem failed_apply_store {s w : World} {e₀ f : Step} {t : List Step} {c : ConnectConf}
    {env : WifiEnv} (h : wifiMachine.Run s (e₀ :: t) w) (ha : opOf e₀ = .apply c env)
    (hk : ∀ e ∈ t, (opOf e).Keeps) (hf : ApplyFails c env e₀ t) (hlast : (e₀ :: t).getLast? = some f) :
    w.store = failedStore s.store c env (opOf f).deleteRet := by
  obtain ⟨rfl, hok, hrun⟩ := Machine.run_cons h
  rcases apply_store hok ha with ⟨hno, hstore⟩ | ⟨hb, hnf, hin, hs, hstore⟩
  · rcases hf with ⟨rfl, -⟩ | ⟨rfl, -⟩ | ⟨hst, hr, -⟩
    · obtain rfl : e₀ = f := by simpa using hlast
      rw [Machine.run_nil hrun, hstore]
    · obtain rfl : e₀ = f := by simpa using hlast
      rw [Machine.run_nil hrun, hstore]
    · exact absurd ⟨hst, hr⟩ hno
  · rcases hf with ⟨-, hn⟩ | ⟨-, hfail⟩ | ⟨-, -, t', f', rfl, hfail⟩
    · exact absurd hb.1 hn
    · exact absurd hfail hnf
    · obtain rfl : f' = f := by
        rw [← List.cons_append, List.getLast?_concat] at hlast
        exact Option.some.inj hlast
      obtain ⟨hrun', hokf, rfl⟩ := Machine.run_snoc hrun
      -- up to the failure, the attempt is that of the Apply, or has ended
      have hown : f'.pre.wc.NoSnapshot ∨ f'.pre.wc.inflight.ssid.val = c.ssid.val ∧
          f'.pre.store = e₀.post.store := by
        refine hrun'.guarded (C := fun e => (opOf e).Keeps)
          (P := fun w => w.wc.NoSnapshot ∨ w.wc.inflight.ssid.val = c.ssid.val ∧
            w.store = e₀.post.store) (.inr ⟨hin, rfl⟩) ?_ fun e he => hk e (by simp [he])
        intro e hok hke hp
        rcases attempt_frame (ok_effect hok) hke with hn | ⟨hi, hst'⟩
        · exact .inl hn
        · unfold Wc.NoSnapshot at hp ⊢
          rw [hi, hst']
          exact hp
      obtain ⟨hn, hdel⟩ := credFail_store hokf (hk f' (by simp)) hfail
      rcases hown with hno | ⟨hssid, hsame⟩
      · exact absurd hno hn
      · rw [hdel, hssid, hsame, hstore, failedStore, dif_pos hb.1]

/-- The failure `f` of an Apply of `c` leaves the store as it was. If `c` was stored, there was no
entry for the SSID and it is deleted again, or the entry was this one already and it is not. If not,
there was no entry, or it could not be deleted. -/
def Unharmed (s : WifiCredentials) (c : ConnectConf) (env : WifiEnv) (f : Step) : Prop :=
  if Stores c env then
    if (opOf f).deleteRet = 0 then s.lookup c.ssid.val = none else s.lookup c.ssid.val = some (storedCred c)
  else env.replaceRet ≠ 0 ∨ s.lookup c.ssid.val = none

/-- **A failed Apply keeps the store exactly if** there was no entry for its SSID and every deletion
it made succeeded, or the deletions failed where there was nothing to lose. -/
theorem failed_apply_restores_iff {s w : World} {e₀ f : Step} {t : List Step} {c : ConnectConf}
    {env : WifiEnv} (h : wifiMachine.Run s (e₀ :: t) w) (ha : opOf e₀ = .apply c env)
    (hk : ∀ e ∈ t, (opOf e).Keeps) (hf : ApplyFails c env e₀ t) (hlast : (e₀ :: t).getLast? = some f) :
    w.store = s.store ↔ Unharmed s.store c env f := by
  rw [failed_apply_store h ha hk hf hlast]
  unfold failedStore Unharmed
  by_cases hs : Stores c env
  · rw [dif_pos hs, if_pos hs]
    by_cases hd : (opOf f).deleteRet = 0
    · rw [if_pos hd, hd, WifiCredentials.deleteBySsid_ok, WifiCredentials.erase_put]
      exact WifiCredentials.erase_eq_self _ _
    · rw [if_neg hd, WifiCredentials.deleteBySsid_failed hd]
      exact WifiCredentials.put_eq_self _ _ _ _
  · rw [dif_neg hs, if_neg hs]
    exact WifiCredentials.deleteBySsid_eq_self _ _ _

/-- A store that knows "home". -/
def homeStore : WifiCredentials :=
  WifiCredentials.empty.put homeSsid.chars (by decide) ⟨.psk, none, [0x6f, 0x6c, 0x64], 0, 0, 0⟩

/-- Re-provisioning "home" with a passphrase that does not work. -/
theorem failed_apply_restores_iff_test : ∃ c e₀ f w,
    wifiMachine.Run { World.boot homeStore with wc := networkProvWifiConfigInit 0 Wc.boot }
      [e₀, f] w ∧
    [e₀, f].map (·.lbl) = [configure okEnv homeSsid, .connectResult ⟨2, 2⟩ 0] ∧
    c.ssid.val = homeSsid.chars ∧ (w.store = homeStore ↔ Unharmed homeStore c okEnv f) := by
  have hr := wifiMachine.run_get
    { World.boot homeStore with wc := networkProvWifiConfigInit 0 Wc.boot }
    [configure okEnv homeSsid, .connectResult ⟨2, 2⟩ 0] (by rfl)
  have ha : ∃ c, c.ssid.val = homeSsid.chars ∧
      (configure okEnv homeSsid).op (networkProvWifiConfigInit 0 Wc.boot) = .apply c okEnv :=
    ⟨⟨⟨homeSsid.chars, by decide⟩, ⟨passphrase.chars, by decide⟩, Buf.zero _, false, 0⟩, rfl, rfl⟩
  obtain ⟨c, hc, ha⟩ := ha
  refine ⟨c, _, _, _, hr, by rfl, hc, ?_⟩
  exact failed_apply_restores_iff hr ha (by decide +kernel)
    (.inr (.inr ⟨⟨by rw [hc]; decide, rfl⟩, rfl, [], _, rfl, .wifiAuthError, by decide +kernel⟩)) rfl

/-- **A failed Apply erases stored credentials.** "home" was in the store before
the start; the Apply's connect request is rejected, and it is gone. -/
theorem failed_apply_erases : ∃ t w, wifiMachine.Run (World.boot homeStore) t w ∧
    t.map (·.lbl) = [.start 0, configure rejectEnv homeSsid] ∧
    t.getLast?.map (·.out.events) = some [.credRecv, .credFail .wifiAuthError] ∧
    (homeStore.lookup homeSsid.chars).isSome ∧ w.store.lookup homeSsid.chars = none ∧
    w.store ≠ homeStore := by
  have hr := wifiMachine.run_get (World.boot homeStore) [.start 0, configure rejectEnv homeSsid]
    (by rfl)
  refine ⟨_, _, hr, by rfl, by decide +kernel, by decide +kernel, by decide +kernel, fun heq => ?_⟩
  have hl := congrArg (·.lookup homeSsid.chars) heq
  exact absurd hl (by decide +kernel)

end NetworkProv.Wifi
