import NetworkProv.Wifi.World

/-!
# What is in the store when a connect succeeds

The store is written when an Apply starts, the success comes later. In between,
an erase, another Apply of the same SSID or the final failure of another
attempt can take the entry away again.

* `held_iff`: in a run, the store holds the entry of every outstanding request
  and of the attempt in flight, in all states reached, exactly when no step
  takes one of them away.
* `success_persisted`: in such a run every reported success finds the entry of
  its request.
* `success_not_persisted`: a factory reset during an attempt, and a success
  that leaves the store empty.
-/
namespace NetworkProv.Wifi

open NetworkProv.Core

/-- The request that connecting with a stored entry issues. -/
def request (ssid : Bytes) (c : WifiCred) : ConnectReqParams where
  ssid := ssid
  psk := if c.password.length > 0 then some c.password else none
  security := c.type
  channel := if c.channel > 0 then c.channel else WIFI_CHANNEL_ANY
  bssid := c.bssid.getD (Buf.zero _)

/-- The store has the entry of a request: SSID, passphrase, BSSID and channel. -/
def Holds (s : WifiCredentials) (p : ConnectReqParams) : Prop :=
  ∃ c, s.lookup p.ssid = some c ∧ request p.ssid c = p

theorem request_storedCred (c : ConnectConf) : request c.ssid.val (storedCred c) = connectParams c := by
  unfold request storedCred connectParams securityFromPass
  cases c.hasBssid <;> simp

theorem holds_delete {s : WifiCredentials} {p : ConnectReqParams} {ret : Int} {k : Bytes} :
    Holds (s.deleteBySsid ret k).2 p ↔ (p.ssid = k → ret ≠ 0) ∧ Holds s p := by
  unfold Holds
  rw [WifiCredentials.lookup_deleteBySsid]
  by_cases hd : ret = 0 <;> by_cases hk : p.ssid = k <;> simp [hd, hk]

theorem holds_put_ne {s : WifiCredentials} {p : ConnectReqParams} {k : Bytes} (hk : k ≠ [])
    {c : WifiCred} (hne : p.ssid ≠ k) : Holds (s.put k hk c) p ↔ Holds s p := by
  unfold Holds
  rw [WifiCredentials.lookup_put, if_neg hne]

theorem holds_put {s : WifiCredentials} {p : ConnectReqParams} {c : ConnectConf}
    (hk : c.ssid.val ≠ []) (hp : p.ssid = c.ssid.val) :
    Holds (s.put c.ssid.val hk (storedCred c)) p ↔ p = connectParams c := by
  unfold Holds
  rw [WifiCredentials.lookup_put, if_pos hp, hp, ← request_storedCred]
  constructor
  · intro hx
    obtain ⟨d, hd, hr⟩ := hx
    cases hd
    exact hr.symm
  · intro h
    exact ⟨_, rfl, h.symm⟩

theorem holds_deleteAll {s : WifiCredentials} {p : ConnectReqParams} {ret : Int}
    {deleted : List Bytes} :
    Holds (s.deleteAll ret deleted).2 p ↔ (ret ≠ 0 ∧ p.ssid ∉ deleted) ∧ Holds s p := by
  unfold Holds
  rw [WifiCredentials.lookup_deleteAll]
  by_cases h : ret ≠ 0 ∧ p.ssid ∉ deleted <;> simp [h]

/-- The entries that a run still needs are there. -/
structure Held (w : World) : Prop where
  outstanding : ∀ r ∈ w.outstanding, Holds w.store r.params
  inflight : ¬ w.wc.NoSnapshot → Holds w.store (connectParams w.wc.inflight)

/-- The entry of a request for the SSID of `c` survives the Apply of `c`: what is stored in its
place is the same and stays, or nothing is stored and the old one could not be deleted. -/
def Survives (c : ConnectConf) (e : WifiEnv) (p : ConnectReqParams) : Prop :=
  Stores c e ∧ p = connectParams c ∧ (e.connectRet ≠ 0 → e.deleteRet ≠ 0) ∨
    ¬ Stores c e ∧ e.replaceRet ≠ 0

instance (c : ConnectConf) (e : WifiEnv) (p : ConnectReqParams) : Decidable (Survives c e p) :=
  inferInstanceAs (Decidable (_ ∧ _ ∧ (_ → _) ∨ _))

/-- The operation takes no entry away that an outstanding request or the attempt
in flight needs. -/
def Protects (w : World) : Op → Prop
  | .erase ret deleted =>
    (∀ r ∈ w.outstanding, ret ≠ 0 ∧ r.params.ssid ∉ deleted) ∧
      (¬ w.wc.NoSnapshot → ret ≠ 0 ∧ w.wc.inflight.ssid.val ∉ deleted)
  | .apply c e =>
    (∀ r ∈ w.outstanding, r.params.ssid = c.ssid.val → Survives c e r.params) ∧
      (¬ w.wc.NoSnapshot → ¬ Stores c e → w.wc.inflight.ssid.val = c.ssid.val → e.replaceRet ≠ 0)
  | .result st d =>
    w.wc.cbRegistered = true → ¬ w.wc.NoSnapshot → st.status ≠ 0 → ¬ w.wc.Retries →
      ∀ r ∈ w.outstanding.tail, r.params.ssid = w.wc.inflight.ssid.val → d ≠ 0
  | .retry e =>
    ¬ w.wc.NoSnapshot → e.iface = false ∨ e.connectRet ≠ 0 →
      ∀ r ∈ w.outstanding, r.params.ssid = w.wc.inflight.ssid.val → e.deleteRet ≠ 0
  | _ => True

instance (w : World) (op : Op) : Decidable (Protects w op) :=
  match op with
  | .erase _ _ => inferInstanceAs (Decidable ((∀ r ∈ w.outstanding, _) ∧ (_ → _)))
  | .apply _ _ => inferInstanceAs (Decidable ((∀ r ∈ w.outstanding, _ → _) ∧ (_ → _ → _ → _)))
  | .result _ _ => inferInstanceAs (Decidable (_ → _ → _ → _ → ∀ r ∈ w.outstanding.tail, _ → _))
  | .retry _ => inferInstanceAs (Decidable (_ → _ → ∀ r ∈ w.outstanding, _ → _))
  | .idle | .start _ | .stop | .reset | .stage _ => .isTrue trivial

theorem Held.step {w w' : World} {op : Op} {ev : List CredEvent} {cs : List ConnectReq}
    (h : Held w) (heff : Effect w op w' ev cs) (hp : Protects w op) : Held w' := by
  cases heff with
  | idle => exact h
  | start n hcb => exact ⟨h.outstanding, h.inflight⟩
  | stop hcb => exact ⟨h.outstanding, fun hn => absurd rfl hn⟩
  | reset hcb => exact ⟨h.outstanding, fun hn => absurd rfl hn⟩
  | stage c hcb => exact ⟨h.outstanding, h.inflight⟩
  | refused c e hcb hs =>
    refine ⟨fun r hr => ?_, fun hn => ?_⟩
    · refine holds_delete.2 ⟨fun heq => ?_, h.outstanding r hr⟩
      rcases hp.1 r hr heq with ⟨hst, -⟩ | ⟨-, hne⟩
      · exact absurd hst hs
      · exact hne
    · exact holds_delete.2 ⟨hp.2 hn hs, h.inflight hn⟩
  | rejected c e hs hcb hs0 hr =>
    refine ⟨fun r hm => ?_, fun hn => absurd rfl hn⟩
    by_cases heq : r.params.ssid = c.ssid.val
    · rcases hp.1 r hm heq with ⟨-, hsame, hdel⟩ | ⟨hns, -⟩
      · exact holds_delete.2 ⟨fun _ => hdel hr, (holds_put hs heq).2 hsame⟩
      · exact absurd ⟨hs, hs0⟩ hns
    · exact holds_delete.2 ⟨fun h' => absurd h' heq, (holds_put_ne hs heq).2 (h.outstanding r hm)⟩
  | started c e hs hcb hs0 hr =>
    have hnew : Holds (w.store.put c.ssid.val hs (storedCred c)) (connectParams c) :=
      (holds_put hs rfl).2 rfl
    refine ⟨fun r hm => ?_, fun _ => ?_⟩
    · rcases List.mem_append.1 hm with hm | hm
      · by_cases heq : r.params.ssid = c.ssid.val
        · rcases hp.1 r hm heq with ⟨-, hsame, -⟩ | ⟨hns, -⟩
          · exact (holds_put hs heq).2 hsame
          · exact absurd ⟨hs, hs0⟩ hns
        · exact (holds_put_ne hs heq).2 (h.outstanding r hm)
      · obtain rfl := List.mem_singleton.1 hm
        exact hnew
    · rw [Wc.applied, connectParams_snapshot]
      exact hnew
  | erase ret deleted =>
    refine ⟨fun r hr => holds_deleteAll.2 ⟨hp.1 r hr, h.outstanding r hr⟩, fun hn => ?_⟩
    exact holds_deleteAll.2 ⟨hp.2 hn, h.inflight hn⟩
  | ignored st d r rest hw hi => exact ⟨fun x hx => h.outstanding x (by simp [hw, hx]), h.inflight⟩
  | connected st d r rest hw hcb hn hst =>
    exact ⟨fun x hx => h.outstanding x (by simp [hw, hx]), fun hn => absurd rfl hn⟩
  | retrying st d r rest hw hcb hn hst hr =>
    exact ⟨fun x hx => h.outstanding x (by simp [hw, hx]), h.inflight⟩
  | failed st d r rest hw hcb hn hst hr =>
    refine ⟨fun x hx => ?_, fun hn => absurd rfl hn⟩
    have hne := hp hcb hn hst hr x (by simpa [hw] using hx)
    exact holds_delete.2 ⟨hne, h.outstanding x (by simp [hw, hx])⟩
  | lapsed e hret hn => exact ⟨h.outstanding, h.inflight⟩
  | retried e hret hn hi hcr =>
    refine ⟨fun r hm => ?_, h.inflight⟩
    rcases List.mem_append.1 hm with hm | hm
    · exact h.outstanding r hm
    · obtain rfl := List.mem_singleton.1 hm
      exact h.inflight hn
  | abandoned e cs hret hn hcr =>
    refine ⟨fun r hm => ?_, fun hn => absurd rfl hn⟩
    have hne := hp hn (hcr.imp And.left And.left) r hm
    exact holds_delete.2 ⟨hne, h.outstanding r hm⟩

/-- Only an operation that protects the entries leaves them all there. -/
theorem Held.protects {w w' : World} {op : Op} {ev : List CredEvent} {cs : List ConnectReq}
    (h : Held w') (heff : Effect w op w' ev cs) : Protects w op := by
  cases heff with
  | refused c e hcb hs =>
    refine ⟨fun r hr heq => .inr ⟨hs, ?_⟩, fun hn _ => (holds_delete.1 (h.inflight hn)).1⟩
    exact (holds_delete.1 (h.outstanding r hr)).1 heq
  | rejected c e hs hcb hs0 hr =>
    refine ⟨fun r hm heq => ?_, fun _ hns => absurd ⟨hs, hs0⟩ hns⟩
    obtain ⟨hdel, hput⟩ := holds_delete.1 (h.outstanding r hm)
    exact .inl ⟨⟨hs, hs0⟩, (holds_put hs heq).1 hput, fun _ => hdel heq⟩
  | started c e hs hcb hs0 hr =>
    refine ⟨fun r hm heq => .inl ⟨⟨hs, hs0⟩, ?_, fun hne => absurd hr hne⟩,
      fun _ hns => absurd ⟨hs, hs0⟩ hns⟩
    exact (holds_put hs heq).1 (h.outstanding r (List.mem_append_left _ hm))
  | erase ret deleted =>
    refine ⟨fun r hr => (holds_deleteAll.1 (h.outstanding r hr)).1, fun hn => ?_⟩
    exact (holds_deleteAll.1 (h.inflight hn)).1
  | ignored st d r rest hw hi =>
    intro hcb hn
    exact absurd (hi hcb) hn
  | connected st d r rest hw hcb hn hst =>
    intro _ _ hst'
    exact absurd hst hst'
  | retrying st d r rest hw hcb hn hst hr =>
    intro _ _ _ hr'
    exact absurd hr hr'
  | failed st d r rest hw hcb hn hst hr =>
    intro _ _ _ _ x hx
    exact (holds_delete.1 (h.outstanding x (by simpa [hw] using hx))).1
  | lapsed e hret hn =>
    intro hn'
    exact absurd hn hn'
  | retried e hret hn hi hcr =>
    intro _ hx
    rcases hx with hi' | hcr'
    · exact absurd hi (by simp [hi'])
    · exact absurd hcr hcr'
  | abandoned e cs hret hn hcr =>
    intro _ _ r hr
    exact (holds_delete.1 (h.outstanding r hr)).1
  | _ => trivial

theorem held_boot (store : WifiCredentials) : Held (World.boot store) :=
  ⟨by simp [World.boot], fun hn => absurd rfl hn⟩

/-- The entries that are needed are there in every state reached if and only if
every step protects them. -/
theorem held_iff {store : WifiCredentials} {t : List Step} {w : World}
    (h : wifiMachine.Run (World.boot store) t w) :
    (∀ e ∈ t, Held e.post) ↔ ∀ e ∈ t, Protects e.pre (opOf e) := by
  refine h.forall_iff (P := Held) (held_boot store) ?_ ?_
  · intro e he hs hc
    have hpost := hs.step (ok_effect he) hc
    exact ⟨hpost, hpost⟩
  · exact fun e he _ hpost => hpost.protects (ok_effect he)

/-! ## Successes -/

/-- A reported success finds the entry of the request whose result it is. -/
def Persisted (e : Step) : Prop :=
  .credSuccess ∈ e.out.events → ∃ r, delivered e = some r ∧ Holds e.post.store r.params

/-- Only a due zero result is reported as a success. -/
theorem success_effect {w w' : World} {op : Op} {ev : List CredEvent} {cs : List ConnectReq}
    (heff : Effect w op w' ev cs) (hev : .credSuccess ∈ ev) :
    ∃ st d r rest, op = .result st d ∧ w.outstanding = r :: rest ∧ w'.store = w.store := by
  cases heff with
  | connected st d r rest hw => exact ⟨st, d, r, rest, rfl, hw, rfl⟩
  | _ => simp at hev

theorem persisted_step {e : Step} (he : wifiMachine.Ok e) (h : Held e.pre) : Persisted e := by
  intro hev
  obtain ⟨st, d, r, rest, hop, hw, hstore⟩ := success_effect (ok_effect he) hev
  refine ⟨r, delivered_result hop hw, ?_⟩
  rw [hstore]
  exact h.outstanding r (by simp [hw])

/-- Every reported success finds the entry of its request in the store, if no
step took away an entry that an outstanding request or the attempt in flight
needed. -/
theorem success_persisted {store : WifiCredentials} {t : List Step} {w : World}
    (h : wifiMachine.Run (World.boot store) t w) (hc : ∀ e ∈ t, Protects e.pre (opOf e)) :
    ∀ e ∈ t, Persisted e := by
  refine always_iff_forall.1 (h.always (P := fun _ => Held) (held_boot store) ?_ hc).2
  intro _ e _ he hs hp
  exact ⟨hs.step (ok_effect he) hp, persisted_step he hs⟩

/-- A retry, an erase once it has succeeded. -/
theorem success_persisted_test : ∃ t w, wifiMachine.Run (World.boot .empty) t w ∧
    t.map (·.lbl) = [.start 2, configure okEnv homeSsid, .connectResult ⟨1, 1⟩ 0, .retry okEnv,
      .connectResult ⟨0, 0⟩ 0, .resetWifiProvisioning true 0 []] ∧
    ∀ e ∈ t, Persisted e := by
  have hr := wifiMachine.run_get (World.boot .empty)
    [.start 2, configure okEnv homeSsid, .connectResult ⟨1, 1⟩ 0, .retry okEnv,
      .connectResult ⟨0, 0⟩ 0, .resetWifiProvisioning true 0 []] (by rfl)
  exact ⟨_, _, hr, by rfl, success_persisted hr (by decide +kernel)⟩

/-- **Success without an entry.** A factory reset while the connect to "home" is
under way; it succeeds, and the store is empty. -/
theorem success_not_persisted : ∃ t w, wifiMachine.Run (World.boot .empty) t w ∧
    t.map (·.lbl) = [.start 0, configure okEnv homeSsid, .resetWifiProvisioning true 0 [],
      .connectResult ⟨0, 0⟩ 0] ∧
    t.getLast?.map (·.out.events) = some [.credSuccess] ∧ w.store.lookup homeSsid.chars = none ∧
    ¬ ∀ e ∈ t, Persisted e := by
  have hr := wifiMachine.run_get (World.boot .empty)
    [.start 0, configure okEnv homeSsid, .resetWifiProvisioning true 0 [], .connectResult ⟨0, 0⟩ 0]
    (by rfl)
  refine ⟨_, _, hr, by rfl, by decide +kernel, by decide +kernel, fun hall => ?_⟩
  obtain ⟨r, hd, c, hl, -⟩ := hall _ (.tail _ (.tail _ (.tail _ (.head _)))) (by decide +kernel)
  obtain rfl : _ = r := Option.some.inj (Eq.trans (by rfl) hd)
  have hnone : none = some c := Eq.trans (by rfl) hl
  cases hnone

end NetworkProv.Wifi
