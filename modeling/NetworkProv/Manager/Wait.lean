import NetworkProv.Manager.Mgr

/-!
# What `network_prov_mgr_wait` waits for

A success gives the semaphore `done` once, whether anybody waits or not, and
only `network_prov_mgr_init` empties it. A count that nobody took is still
there at the next start, and so is one that is yet to be given, when a start
comes from the callback for CRED_SUCCESS.

* `wait_step`: a count, and a give to come, stand for a success since the last
  start, unless a start finds one (`StaleStart`).
* `wait_after_success`: in runs without such a start, a wait returns only after
  a success since the start before it.
* `StaleStart.unblocks`: after one that finds a count, a wait returns at once.
-/
namespace NetworkProv.Manager

open NetworkProv.Core

variable {S T N I E : Type}

/-- CRED_SUCCESS was emitted after the start number `m`, if there was one. -/
def SuccessSince (t : List (Step S T N I E)) (m : Nat) : Prop :=
  m = 0 ∨ ∃ x ∈ t, .net .credSuccess ∈ x.out.events ∧ m ≤ x.pre.starts

/-- Every wait that returns does so after a success since the last start before the call. -/
def WaitsRight (t : List (Step S T N I E)) : Prop :=
  ∀ t₁ e t₂, t = t₁ ++ e :: t₂ → ∀ m ∈ e.out.returned, SuccessSince t₁ m

/-- A start that returns 0 while the semaphore has a count, or is about to be given. -/
def StaleStart (e : Step S T N I E) : Prop :=
  .start ∈ e.out.events ∧ (e.pre.mgr.done > 0 ∨ .success ∈ e.pre.stack)

instance (t : List (Step S T N I E)) (m : Nat) : Decidable (SuccessSince t m) :=
  inferInstanceAs (Decidable (_ ∨ _))

instance (e : Step S T N I E) : Decidable (StaleStart e) := inferInstanceAs (Decidable (_ ∧ _))

theorem SuccessSince.snoc {t : List (Step S T N I E)} {m : Nat} (h : SuccessSince t m)
    (e : Step S T N I E) : SuccessSince (t ++ [e]) m := by
  refine h.imp id fun hx => ?_
  obtain ⟨x, hm, hev, hle⟩ := hx
  exact ⟨x, by simp [hm], hev, hle⟩

theorem SuccessSince.mono {t : List (Step S T N I E)} {m n : Nat} (h : SuccessSince t n)
    (hle : m ≤ n) : SuccessSince t m := by
  rcases h with rfl | ⟨x, hm, hev, hx⟩
  · exact .inl (by omega)
  · exact .inr ⟨x, hm, hev, by omega⟩

/-- What a count, a give to come and a waiter stand for. -/
structure Counted (t : List (Step S T N I E)) (s : State S T N) : Prop where
  done : s.mgr.done > 0 → SuccessSince t s.starts
  delivering : .success ∈ s.stack → SuccessSince t s.starts
  waiters : ∀ m ∈ s.waiters, m ≤ s.starts

theorem wait_step {D : Device S T N I E} {t : List (Step S T N I E)} {e : Step S T N I E}
    (he : (mgrMachine D).Ok e) (hc : Counted t e.pre) (hn : ¬ StaleStart e) :
    Counted (t ++ [e]) e.post ∧ ∀ m ∈ e.out.returned, SuccessSince t m := by
  have heff := ok_effect he
  -- what stays true of a state that differs in nothing that counts
  have hkeep : ∀ s' : State S T N, s'.starts = e.pre.starts → (s'.mgr.done > 0 → e.pre.mgr.done > 0) →
      (.success ∈ s'.stack → .success ∈ e.pre.stack) → (∀ m ∈ s'.waiters, m ∈ e.pre.waiters) →
      Counted (t ++ [e]) s' := fun s' h1 h2 h3 h4 => by
    refine ⟨fun h => ?_, fun h => ?_, fun m hm => ?_⟩
    · rw [h1]; exact (hc.done (h2 h)).snoc e
    · rw [h1]; exact (hc.delivering (h3 h)).snoc e
    · rw [h1]; exact hc.waiters m (h4 m hm)
  obtain ⟨s, l, o, s'⟩ := e
  dsimp only at heff hc hkeep ⊢
  cases heff with
  | idle | deinited | noInstance | failed | deferred | stopped | autoStopOff | lapsed | quiet =>
    exact ⟨hkeep _ rfl id id fun _ => id, fun m hm => by cases hm⟩
  | unsettled | inited =>
    exact ⟨hkeep _ rfl (fun h => by cases h) id fun m hm => (by cases hm), fun m hm => by cases hm⟩
  | deiniting | fired =>
    refine ⟨hkeep _ rfl id (fun h => ?_) fun _ => id, fun m hm => by cases hm⟩
    exact (List.mem_cons.mp h).resolve_left (by decide)
  | begun =>
    refine ⟨⟨fun h => ?_, fun h => ?_, fun m hm => ?_⟩, fun m hm => by cases hm⟩
    · exact absurd ⟨by simp, .inl h⟩ hn
    · exact absurd ⟨by simp, .inr h⟩ hn
    · exact Nat.le_succ_of_le (hc.waiters m hm)
  | taken hd =>
    refine ⟨hkeep _ rfl (fun _ => hd) id fun _ => id, fun m hm => ?_⟩
    rw [List.mem_singleton.mp hm]
    exact hc.done hd
  | waits hd =>
    refine ⟨⟨fun h => (hc.done h).snoc _, fun h => (hc.delivering h).snoc _, fun m hm => ?_⟩,
      fun m hm => by cases hm⟩
    rcases List.mem_append.mp hm with hm | hm
    · exact hc.waiters m hm
    · exact Nat.le_of_eq (List.mem_singleton.mp hm)
  | success i net evs hi hev =>
    have hsince : ∀ s', SuccessSince (t ++ [⟨s, .net i, ⟨0, evs.map .net, [], []⟩, s'⟩]) s.starts :=
      fun s' => .inr ⟨_, List.mem_append_right _ (List.mem_singleton_self _),
        List.mem_map.mpr ⟨_, hev, rfl⟩, Nat.le_refl _⟩
    exact ⟨⟨fun _ => hsince _, fun _ => hsince _, hc.waiters⟩, fun m hm => by cases hm⟩
  | given i st hst hw =>
    have hsince := hc.delivering (by simp [hst])
    refine ⟨⟨fun _ => hsince.snoc _, fun _ => hsince.snoc _, hc.waiters⟩, fun m hm => by cases hm⟩
  | woken i st m hst hm =>
    refine ⟨hkeep _ rfl id (fun h => by simp [hst, h]) fun _ h => List.mem_of_mem_eraseIdx h,
      fun k hk => ?_⟩
    rw [List.mem_singleton.mp hk]
    exact (hc.delivering (by simp [hst])).mono (hc.waiters m (List.mem_of_getElem? hm))
  | deinitReturns i st hst | workReturns i st hst =>
    exact ⟨hkeep _ rfl id (fun h => by simp [hst, h]) fun _ => id, fun m hm => by cases hm⟩

/-- **What a wait waits for.** In any run whose successful starts find the semaphore empty
and no delivery of CRED_SUCCESS in progress, a wait returns only if CRED_SUCCESS was
emitted since the last successful start before the call. -/
theorem wait_after_success (D : Device S T N I E) (tr : T) (net : N) (t : List (Step S T N I E))
    (s : State S T N) (hr : (mgrMachine D).Run (.boot tr net) t s) (hn : ∀ e ∈ t, ¬ StaleStart e) :
    WaitsRight t := by
  refine (hr.always (P := Counted) ?_ (fun t e _ he hc hs => wait_step he hc hs) hn).2
  exact ⟨fun _ => .inl rfl, fun _ => .inl rfl, by simp [State.boot]⟩

/-- A waiter, woken by the success of its own cycle. -/
theorem wait_after_success_test : ∃ t s, (mgrMachine demo).Run (.boot () ()) t s ∧
    t.map (·.lbl) = [initWith true, .start goodStart, .wait, .net .credSuccess, .ret 0] ∧
    t.flatMap (·.out.returned) = [1] ∧ WaitsRight t := by
  have hr := (mgrMachine demo).run_get (.boot () ())
    [initWith true, .start goodStart, .wait, .net .credSuccess, .ret 0] (by rfl)
  exact ⟨_, _, hr, by rfl, by rfl, wait_after_success demo () () _ _ hr (by decide)⟩

/-- **A success that nobody waited for.** The first wait of the next cycle returns at once. -/
theorem stale_success_unblocks : ∃ t s, (mgrMachine demo).Run (.boot () ()) t s ∧
    t.map (·.lbl) = [initWith true, .start goodStart, .net .credSuccess, .ret 0, .stop,
      .start goodStart, .wait] ∧
    t.flatMap (·.out.returned) = [2] ∧ ¬ WaitsRight t := by
  have hr := (mgrMachine demo).run_get (.boot () ())
    [initWith true, .start goodStart, .net .credSuccess, .ret 0, .stop, .start goodStart, .wait]
    (by rfl)
  refine ⟨_, _, hr, by rfl, by rfl, fun hw => ?_⟩
  exact absurd (hw [_, _, _, _, _, _] _ [] rfl 2 (by decide)) (by decide)

/-! ## What a stale start comes to -/

theorem starts_le {D : Device S T N I E} {e : Step S T N I E} (he : (mgrMachine D).Ok e) :
    e.pre.starts ≤ e.post.starts := by
  have heff := ok_effect he
  obtain ⟨s, l, o, s'⟩ := e
  dsimp only at heff ⊢
  cases heff with
  | begun => exact Nat.le_succ _
  | _ => exact Nat.le_refl _

theorem starts_run {D : Device S T N I E} {s₀ s : State S T N} {t : List (Step S T N I E)}
    (hr : (mgrMachine D).Run s₀ t s) : ∀ x ∈ t, x.pre.starts ≤ s.starts := by
  refine hr.history (P := fun t s => ∀ x ∈ t, x.pre.starts ≤ s.starts) (by simp) ?_
  intro t e _ he ih x hx
  rcases List.mem_append.mp hx with hx | hx
  · exact Nat.le_trans (ih x hx) (starts_le he)
  · rw [List.mem_singleton.mp hx]; exact starts_le he

/-- A wait after a start that found a count returns at once, with no success since. -/
theorem StaleStart.unblocks {D : Device S T N I E} {s₀ : State S T N} {t : List (Step S T N I E)}
    {e : Step S T N I E} (hr : (mgrMachine D).Run s₀ t e.pre) (he : (mgrMachine D).Ok e)
    (h : StaleStart e) (hd : e.pre.mgr.done > 0) :
    (networkProvMgrWait e.post).2.returned = [e.post.starts] ∧
      ¬ SuccessSince (t ++ [e]) e.post.starts := by
  have hle := starts_run hr
  have heff := ok_effect he
  obtain ⟨s, l, o, s'⟩ := e
  obtain ⟨hev, -⟩ := h
  dsimp only at heff hev hd hle ⊢
  have hpost : s'.mgr.done = s.mgr.done ∧ s'.starts = s.starts + 1 := by
    cases heff with
    | begun => exact ⟨rfl, rfl⟩
    | _ => simp [Output.of, Output.event] at hev
  refine ⟨by simp [networkProvMgrWait, hpost.1, hd], fun hs => ?_⟩
  rcases hs with h0 | ⟨x, hx, -, hxs⟩
  · omega
  · rcases List.mem_append.mp hx with hx | hx
    · have := hle x hx
      omega
    · rw [List.mem_singleton.mp hx] at hxs
      dsimp only at hxs
      omega

end NetworkProv.Manager
