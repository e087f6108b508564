import NetworkProv.Manager.WifiNet

/-!
# What the auto-stop ends

CRED_SUCCESS schedules the teardown work; nothing but a stop, a deinit or
`disable_auto_stop` takes it back. A reset or an Apply within the grace window
leaves it scheduled, and the service goes down under the new attempt. So does
the next service, if the callback for CRED_SUCCESS stops and starts again.

* `settled_step`: with any handlers, a teardown that is owed to a success stays
  owed to it, unless a step spoils it (`Spoils`).
* `auto_stop_finished`: in runs without such a step the auto-stop finds a
  service that has succeeded and done nothing since.
* `Owed.unfinished`: one that comes while a teardown is owed leaves it owed.
-/
namespace NetworkProv.Manager

open NetworkProv.Core NetworkProv.Wifi

section Device

variable {S T N I E : Type} (disturbs : N → I → Bool)

def Succeeds (e : Step S T N I E) : Prop := .net .credSuccess ∈ e.out.events

/-- The step disturbs the handlers, or starts a service. -/
def Unsettles (e : Step S T N I E) : Prop :=
  (∃ i, e.lbl = .net i ∧ disturbs e.pre.net i = true) ∨ .start ∈ e.out.events

/-- The service has reported success, and nothing has unsettled it since. -/
def Finished (t : List (Step S T N I E)) : Prop := Since Succeeds (fun y => ¬ Unsettles disturbs y) t

/-- The teardown work ends a service nobody has asked to stop. -/
def AutoStops (e : Step S T N I E) : Prop :=
  e.lbl = .fire ∧ e.pre.mgr.started = true ∧ e.pre.stopRequested = false

/-- The teardown work is scheduled for a success, or about to be. -/
def Owed (s : State S T N) : Prop :=
  s.stopRequested = false ∧
    (s.mgr.teardownWork = true ∨ .success ∈ s.stack ∧ s.mgr.autoStop = true)

/-- An init with a scheme that has its functions. -/
def Label.configures : Label I E S → Bool
  | .init c => c.scheme.any fun obj => obj.start && obj.stop
  | _ => false

/-- An init gets past its checks under a running service, with the return from a
CRED_SUCCESS to come; only an overtaken deinit makes that possible. -/
def Rearms (e : Step S T N I E) : Prop :=
  e.pre.mgr.started = true ∧ e.pre.mgr.inited = false ∧ .success ∈ e.pre.stack ∧
    e.lbl.configures = true

def Spoils (e : Step S T N I E) : Prop := Owed e.pre ∧ Unsettles disturbs e ∨ Rearms e

instance (e : Step S T N I E) : Decidable (Succeeds e) := inferInstanceAs (Decidable (_ ∈ _))

def Label.disturbing (n : N) : Label I E S → Bool
  | .net i => disturbs n i
  | _ => false

instance (e : Step S T N I E) : Decidable (Unsettles disturbs e) :=
  decidable_of_iff (e.lbl.disturbing disturbs e.pre.net = true ∨ .start ∈ e.out.events) <| by
    unfold Unsettles Label.disturbing
    cases e.lbl <;> simp

def Label.isFire : Label I E S → Bool
  | .fire => true
  | _ => false

instance (e : Step S T N I E) : Decidable (AutoStops e) :=
  decidable_of_iff (e.lbl.isFire = true ∧ e.pre.mgr.started = true ∧ e.pre.stopRequested = false) <| by
    unfold AutoStops Label.isFire
    cases e.lbl <;> simp

instance (s : State S T N) : Decidable (Owed s) := inferInstanceAs (Decidable (_ ∧ _))

instance (e : Step S T N I E) : Decidable (Rearms e) := inferInstanceAs (Decidable (_ ∧ _))

instance (e : Step S T N I E) : Decidable (Spoils disturbs e) := inferInstanceAs (Decidable (_ ∨ _))

variable {disturbs}

theorem configures_of_names {c : MgrConfig S} {scheme : S} (h : c.Names scheme) :
    (Label.init c : Label I E S).configures = true := by
  rw [MgrConfig.Names] at h
  simp [Label.configures, h]

theorem settled_step {D : Device S T N I E} {t : List (Step S T N I E)} {e : Step S T N I E}
    (he : (mgrMachine D).Ok e) (hp : e.pre.mgr.started = true → Owed e.pre → Finished disturbs t)
    (hn : ¬ Spoils disturbs e) :
    e.post.mgr.started = true → Owed e.post → Finished disturbs (t ++ [e]) := by
  have heff := ok_effect he
  have hkeep : e.pre.mgr.started = true → Owed e.pre → Finished disturbs (t ++ [e]) :=
    fun hs ho => (hp hs ho).snoc fun hu => hn (.inl ⟨ho, hu⟩)
  obtain ⟨s, l, o, s'⟩ := e
  dsimp only at heff hkeep hn ⊢
  have hdown : ∀ {p : Prop}, s.mgr.started = false → s.mgr.started = true → p := by
    intro p h1 h2
    rw [h1] at h2; cases h2
  cases heff with
  | idle | taken | waits | quiet => exact hkeep
  | unsettled c scheme hi hc =>
    rintro hs ⟨-, hw | hd⟩
    · cases hw
    · exact absurd (.inr ⟨hs, hi, hd.1, configures_of_names hc⟩) hn
  | inited c scheme hi hc =>
    rintro hs ⟨-, hw | hd⟩
    · cases hw
    · exact absurd (.inr ⟨hs, hi, hd.1, configures_of_names hc⟩) hn
  | deinited _ hs | noInstance _ _ hs | failed _ _ _ _ _ hs | lapsed _ hs => exact hdown hs
  | deiniting | stopped | fired => exact fun hs => by cases hs
  | begun => exact fun _ ho => absurd (.inl ⟨ho, .inr (List.mem_singleton_self _)⟩) hn
  | deferred => exact fun _ ho => by cases ho.1
  | autoStopOff =>
    rintro - ⟨-, hw | hd⟩
    · cases hw
    · cases hd.2
  | success i net evs hi hev => exact fun _ _ => .now (List.mem_map.mpr ⟨_, hev, rfl⟩)
  | given i st hst | woken i st _ hst =>
    rintro hs ⟨hr, hw | hd⟩
    · refine hkeep hs ⟨hr, ?_⟩
      simpa [hst, show s.mgr.started = true from hs] using hw
    · exact hkeep hs ⟨hr, .inr ⟨by simp [hst], hd.2⟩⟩
  | deinitReturns i st hst | workReturns i st hst =>
    rintro hs ⟨hr, hw | hd⟩
    · exact hkeep hs ⟨hr, .inl hw⟩
    · exact hkeep hs ⟨hr, .inr ⟨by simp [hst, hd.1], hd.2⟩⟩

theorem fire_scheduled {D : Device S T N I E} {s s' : State S T N} {o : Output S}
    (h : Effect D s .fire s' o) : s.mgr.teardownWork = true := by
  cases h with
  | idle _ _ hid => cases hid
  | lapsed hw => exact hw
  | fired _ hw => exact hw

/-- A step that unsettles what a teardown is owed to leaves it owed. -/
theorem Owed.unfinished {D : Device S T N I E} {t : List (Step S T N I E)} {e : Step S T N I E}
    (he : (mgrMachine D).Ok e) (ho : Owed e.pre) (hu : Unsettles disturbs e) (hs : ¬ Succeeds e) :
    Owed e.post ∧ ¬ Finished disturbs (t ++ [e]) := by
  refine ⟨?_, fun hf => ?_⟩
  · have heff := ok_effect he
    obtain ⟨s, l, o, s'⟩ := e
    dsimp only at heff ho hu hs ⊢
    rcases hu with ⟨i, rfl, -⟩ | hst
    · cases heff with
      | idle _ _ hid => cases hid
      | quiet => exact ho
      | success i net evs hi hev => exact absurd (List.mem_map.mpr ⟨_, hev, rfl⟩) hs
    · cases heff with
      | quiet | begun => exact ho
      | success i net evs hi hev => exact absurd (List.mem_map.mpr ⟨_, hev, rfl⟩) hs
      | _ => simp [Output.of, Output.event] at hst
  · rcases Since.snoc_iff.1 hf with h | ⟨-, h⟩
    · exact hs h
    · exact h hu

end Device

/-! ## The Wi-Fi handlers -/

/-- A reset, a re-provision or an Apply. -/
def unsettling (net : Net) : NetInput → Bool
  | .wifi (.config _ (some .cmdApplyWifiConfig)) => true
  | .wifi (.ctrl _ (some .cmdCtrlWifiReset)) => true
  | .wifi (.ctrl _ (some .cmdCtrlWifiReprov)) => true
  | .wifi .resetSmState => net.w.wc.cbRegistered
  | .wifi (.configureWifiSta _ ssid psk) =>
    net.w.wc.cbRegistered && (configured net.w.wc ssid psk).isSome
  | _ => false

theorem unsettling_of_apply {net : Net} {i : Input} {c : ConnectConf} {e : WifiEnv}
    (h : i.op net.w.wc = .apply c e) : unsettling net (.wifi i) = true := by
  unfold Input.op applyOp at h
  split at h
  all_goals try cases h
  · rfl
  · split at h <;> cases h
  · split at h
    · rename_i hcb hc
      simp [unsettling, hcb, hc]
    · cases h
  · split at h <;> cases h

theorem success_settles {w w' : World} {op : Op} {ev : List CredEvent} {cs : List ConnectReq}
    (h : Wifi.Effect w op w' ev cs) (hev : .credSuccess ∈ ev) : w'.wc.NoSnapshot := by
  cases h with
  | connected => rfl
  | _ => simp at hev

theorem settled_effect {w w' : World} {op : Op} {ev : List CredEvent} {cs : List ConnectReq}
    (h : Wifi.Effect w op w' ev cs) (hop : ∀ c e, op ≠ .apply c e) (hw : w.wc.NoSnapshot) :
    w'.wc.NoSnapshot := by
  cases h with
  | started c e => exact absurd rfl (hop c e)
  | stop | reset | connected | failed | abandoned | rejected => rfl
  | _ => exact hw

/-- After a success, and without an Apply, there is no attempt. -/
theorem netInput_settled {maxEntries : Nat} {net net' : Net} {i : NetInput} {o : NetOutput}
    (h : netInput maxEntries net i = some (net', o)) :
    (.credSuccess ∈ o.events → net'.w.wc.NoSnapshot) ∧
      (unsettling net i = false → net.w.wc.NoSnapshot → net'.w.wc.NoSnapshot) := by
  rcases netInput_cases h with ⟨j, w, out, rfl, -, hst, rfl, hev⟩ | ⟨hw, -, hev⟩
  · have heff := Wifi.step_effect hst
    refine ⟨fun hs => success_settles heff (by rwa [← hev]), fun hu hn => ?_⟩
    refine settled_effect heff (fun c e hop => ?_) hn
    rw [unsettling_of_apply hop] at hu
    cases hu
  · refine ⟨fun hs => ?_, fun _ hn => by rw [hw]; exact hn⟩
    rw [hev] at hs
    cases hs

theorem credSuccess_mem {evs : List CredEvent} (h : .credSuccess ∈ evs.map netEvent) :
    .credSuccess ∈ evs := by
  obtain ⟨ev, hm, he⟩ := List.mem_map.1 h
  cases ev with
  | credSuccess => exact hm
  | credRecv | credFail => cases he

variable {S T E : Type} {maxEntries : Nat} {start : E → S → Nat → T → Int × T} {stop : S → T → T}

theorem succeeds_idle {e : Step S T Net NetInput E}
    (he : (mgrMachine (wifiDevice maxEntries start stop)).Ok e) (hs : Succeeds e) :
    e.post.net.w.wc.NoSnapshot := by
  have heff := ok_effect he
  obtain ⟨s, l, o, s'⟩ := e
  unfold Succeeds at hs
  dsimp only at heff hs ⊢
  cases heff with
  | quiet i net evs _ hq =>
    obtain ⟨ev, hm, he⟩ := List.mem_map.1 hs
    cases he
    exact absurd hm hq
  | success i net evs hi hev =>
    obtain ⟨⟨net', out⟩, hr, he⟩ := Option.map_eq_some_iff.1 hi
    cases he
    exact (netInput_settled hr).1 (credSuccess_mem hev)
  | _ => simp [Output.of, Output.event] at hs

theorem settled_idle {e : Step S T Net NetInput E}
    (he : (mgrMachine (wifiDevice maxEntries start stop)).Ok e) (hu : ¬ Unsettles unsettling e)
    (hn : e.pre.net.w.wc.NoSnapshot) : e.post.net.w.wc.NoSnapshot := by
  have heff := ok_effect he
  obtain ⟨s, l, o, s'⟩ := e
  dsimp only at heff hu hn ⊢
  cases heff with
  | deiniting | stopped | fired => rfl
  | failed e ret tr net _ _ _ _ hd => rcases hd with rfl | rfl <;> rfl
  | begun => exact absurd (.inr (List.mem_singleton_self _)) hu
  | quiet i net evs hi =>
    obtain ⟨⟨net', out⟩, hr, he⟩ := Option.map_eq_some_iff.1 hi
    cases he
    exact (netInput_settled hr).2 (Bool.eq_false_iff.2 fun h => hu (.inl ⟨i, rfl, h⟩)) hn
  | success i net evs hi =>
    obtain ⟨⟨net', out⟩, hr, he⟩ := Option.map_eq_some_iff.1 hi
    cases he
    exact (netInput_settled hr).2 (Bool.eq_false_iff.2 fun h => hu (.inl ⟨i, rfl, h⟩)) hn
  | _ => exact hn

/-- Once it has finished, the service has no attempt in flight. -/
theorem Finished.idle {s₀ s : State S T Net} {t : List (Step S T Net NetInput E)}
    (h : (mgrMachine (wifiDevice maxEntries start stop)).Run s₀ t s) (hf : Finished unsettling t) :
    s.net.w.wc.NoSnapshot := by
  refine h.history (P := fun t s => Finished unsettling t → s.net.w.wc.NoSnapshot)
    (fun hf => ?_) (fun t e _ he ih hf => ?_) hf
  · obtain ⟨t₁, x, t₂, hnil, -⟩ := hf
    simp at hnil
  · rcases Since.snoc_iff.1 hf with hs | ⟨hf, hu⟩
    · exact succeeds_idle he hs
    · exact settled_idle he hu (ih hf)

/-- Whenever the teardown work ends a service that nobody has asked to stop, the service has
succeeded, there has been no reset and no Apply since, and no attempt is in flight. -/
def EndsFinished (t : List (Step S T Net NetInput E)) : Prop :=
  ∀ t₁ e t₂, t = t₁ ++ e :: t₂ → AutoStops e →
    Finished unsettling t₁ ∧ e.pre.net.w.wc.NoSnapshot

/-- **What the auto-stop ends.** In any run in which no reset, Apply or start comes while a
teardown is owed to a success, and no init then either, it only ends finished services. -/
theorem auto_stop_finished {tr : T} {store : WifiCredentials} {t : List (Step S T Net NetInput E)}
    {s : State S T Net}
    (h : (mgrMachine (wifiDevice maxEntries start stop)).Run (.boot tr (.boot store)) t s)
    (hn : ∀ e ∈ t, ¬ Spoils unsettling e) : EndsFinished t := by
  refine (h.always (P := fun t s => s.mgr.started = true → Owed s → Finished unsettling t)
    (Q := fun t e => AutoStops e → Finished unsettling t ∧ e.pre.net.w.wc.NoSnapshot)
    (fun hs => by cases hs) ?_ hn).2
  intro t e ht he hp hs
  refine ⟨settled_step he hp hs, fun ⟨hl, hst, hr⟩ => ?_⟩
  have hw : e.pre.mgr.teardownWork = true := fire_scheduled (hl ▸ ok_effect he)
  have hf := hp hst ⟨hr, .inl hw⟩
  exact ⟨hf, hf.idle ht⟩

/-- A failed attempt, another one that succeeds, and the auto-stop. -/
theorem auto_stop_finished_test : ∃ (t : List WifiStep) (s : State Bool Unit Net),
    (mgrMachine wifiDemo).Run (.boot () (.boot .empty)) t s ∧
    t.map (·.lbl) = [initWifi, .start goodStart, configureHome, failedNow,
      ctrlRequest .cmdCtrlWifiReset, configureHome, connectedNow, .ret 0, .fire] ∧
    t.map (fun e => decide (AutoStops e)) =
      [false, false, false, false, false, false, false, false, true] ∧ EndsFinished t := by
  have hr := (mgrMachine wifiDemo).run_get (.boot () (.boot .empty))
    [initWifi, .start goodStart, configureHome, failedNow, ctrlRequest .cmdCtrlWifiReset,
      configureHome, connectedNow, .ret 0, .fire] (by rfl)
  exact ⟨_, _, hr, by rfl, by rfl, auto_stop_finished hr (by decide +kernel)⟩

/-- **The auto-stop cuts off a new attempt.** The device is provisioned again within the
grace window of the first success: the service goes down with the connect in flight. -/
theorem reprovision_cut_off : ∃ (t : List WifiStep) (s : State Bool Unit Net),
    (mgrMachine wifiDemo).Run (.boot () (.boot .empty)) t s ∧
    t.map (·.lbl) = [initWifi, .start goodStart, configureHome, connectedNow, .ret 0,
      ctrlRequest .cmdCtrlWifiReprov, configureHome, .fire] ∧
    t.getLast?.map (fun e => (e.out.events, e.pre.net.w.outstanding.length)) = some ([.end_], 1) ∧
    ¬ EndsFinished t := by
  have hr := (mgrMachine wifiDemo).run_get (.boot () (.boot .empty))
    [initWifi, .start goodStart, configureHome, connectedNow, .ret 0,
      ctrlRequest .cmdCtrlWifiReprov, configureHome, .fire] (by rfl)
  refine ⟨_, _, hr, by rfl, by rfl, fun hp => ?_⟩
  have hidle := (hp [_, _, _, _, _, _, _] _ [] rfl (by decide +kernel)).2
  exact absurd hidle (by decide +kernel)

end NetworkProv.Manager
