import Mathlib.Data.List.Forall2
import Mathlib.Data.List.Induction

/-!
# Machines and their histories

A `Machine` is a partial, deterministic step function: everything the
environment may choose is part of the label. A run keeps its whole history,
one `Entry` a step (state before, label, output, state after), because most
of what is claimed of a program speaks about what happened earlier in the
same run.

* `Since`, `SinceThen`, `Always`: what properties of a history look like, each
  with its rule for one more step.
* `Run.history`: the induction rule for a property of history and state.
* `Run.guarded`: the same for an invariant kept by the steps that meet a
  condition, in the runs all of whose steps meet it.
* `Run.always_iff`, `Run.forall_iff`: the exact condition under which all steps
  of a run show something.
* `Run.lockstep`: two machines fed the same labels, related step by step,
  give the same outputs.
* `observe_alike`, `observe_lockstep`: related states are indistinguishable.
* `Run.map`, `Run.simulate`, `Run.expand`: refinement, a step for a step or a run for a step.
-/
namespace NetworkProv.Core

/-- One step of a run. -/
structure Entry (S L O : Type*) where
  pre : S
  lbl : L
  out : O
  post : S

/-- The step, seen as one of another machine. -/
def Entry.map {S₂ L₂ O₂ : Type*} {S L O : Type*} (f : S → S₂) (op : L → L₂) (out : O → O₂)
    (e : Entry S L O) : Entry S₂ L₂ O₂ := ⟨f e.pre, op e.lbl, out e.out, f e.post⟩

theorem forall_mem_snoc {α : Type*} {P : α → Prop} {t : List α} {e : α} :
    (∀ x ∈ t ++ [e], P x) ↔ (∀ x ∈ t, P x) ∧ P e := by
  rw [List.forall_mem_append, List.forall_mem_singleton]

/-- In the history there is an `A`, and after it `K` has held. -/
def Since {α : Type*} (A K : α → Prop) (t : List α) : Prop :=
  ∃ t₁ x t₂, t = t₁ ++ x :: t₂ ∧ A x ∧ ∀ y ∈ t₂, K y

namespace Since

variable {α : Type*} {A K : α → Prop} {t : List α} {e : α}

theorem now (h : A e) : Since A K (t ++ [e]) := ⟨t, e, [], rfl, h, by simp⟩

theorem snoc (h : Since A K t) (he : K e) : Since A K (t ++ [e]) := by
  obtain ⟨t₁, x, t₂, rfl, hx, hall⟩ := h
  refine ⟨t₁, x, t₂ ++ [e], by simp, hx, ?_⟩
  rw [forall_mem_snoc]
  exact ⟨hall, he⟩

theorem snoc_iff : Since A K (t ++ [e]) ↔ A e ∨ Since A K t ∧ K e := by
  constructor
  · rintro ⟨t₁, x, t₂, heq, hx, hall⟩
    rcases List.eq_nil_or_concat t₂ with rfl | ⟨t₂, y, rfl⟩
    · obtain ⟨-, h1⟩ := List.append_inj' heq rfl
      obtain rfl : e = x := by simpa using h1
      exact .inl hx
    · rw [List.concat_eq_append, ← List.cons_append, ← List.append_assoc] at heq
      obtain ⟨rfl, h1⟩ := List.append_inj' heq rfl
      obtain rfl : e = y := by simpa using h1
      exact .inr ⟨⟨t₁, x, t₂, rfl, hx, fun z hz => hall z (by simp [hz])⟩, hall e (by simp)⟩
  · rintro (h | ⟨h, he⟩)
    · exact now h
    · exact h.snoc he

theorem map {β : Type*} {f : α → β} {A' K' : β → Prop} (hA : ∀ x, A x → A' (f x))
    (hK : ∀ x, K x → K' (f x)) (h : Since A K t) : Since A' K' (t.map f) := by
  obtain ⟨t₁, x, t₂, rfl, hx, hall⟩ := h
  refine ⟨t₁.map f, f x, t₂.map f, by simp, hA x hx, fun y hy => ?_⟩
  obtain ⟨z, hz, rfl⟩ := List.mem_map.mp hy
  exact hK z (hall z hz)

end Since

/-- In the history there is an `A` and later a `B`, and since the `A` `K` has held. -/
def SinceThen {α : Type*} (A B K : α → Prop) (t : List α) : Prop :=
  ∃ t₁ o t₂ v t₃, t = t₁ ++ o :: (t₂ ++ v :: t₃) ∧ A o ∧ B v ∧ ∀ x ∈ t₂ ++ v :: t₃, K x

theorem SinceThen.snoc {α : Type*} {A B K : α → Prop} {t : List α} {e : α} (h : SinceThen A B K t)
    (he : K e) : SinceThen A B K (t ++ [e]) := by
  obtain ⟨t₁, o, t₂, v, t₃, rfl, ho, hv, hall⟩ := h
  refine ⟨t₁, o, t₂, v, t₃ ++ [e], by simp, ho, hv, ?_⟩
  rw [← List.cons_append, ← List.append_assoc, forall_mem_snoc]
  exact ⟨hall, he⟩

theorem SinceThen.imp {α : Type*} {A B K A' B' K' : α → Prop} {t : List α} (h : SinceThen A B K t)
    (hA : ∀ x ∈ t, A x → A' x) (hB : ∀ x ∈ t, B x → B' x) (hK : ∀ x ∈ t, K x → K' x) : SinceThen A' B' K' t := by
  obtain ⟨t₁, o, t₂, v, t₃, rfl, ho, hv, hall⟩ := h
  exact ⟨t₁, o, t₂, v, t₃, rfl, hA o (by simp) ho, hB v (by simp) hv,
    fun x hx => hK x (List.mem_append_right _ (List.mem_cons_of_mem _ hx)) (hall x hx)⟩

theorem Since.andThen {α : Type*} {A B K : α → Prop} {t : List α} {e : α} (h : Since A K t)
    (he : K e) (hb : B e) : SinceThen A B K (t ++ [e]) := by
  obtain ⟨t₁, o, t₂, rfl, ho, hall⟩ := h
  refine ⟨t₁, o, t₂, e, [], by simp, ho, hb, ?_⟩
  rw [forall_mem_snoc]
  exact ⟨hall, he⟩

/-- Every element of the history is in relation `Q` to what came before it. -/
def Always {α : Type*} (Q : List α → α → Prop) (t : List α) : Prop :=
  ∀ t₁ e t₂, t = t₁ ++ e :: t₂ → Q t₁ e

theorem always_nil {α : Type*} {Q : List α → α → Prop} : Always Q [] := by
  intro t₁ e t₂ h
  simp at h

theorem always_snoc {α : Type*} {Q : List α → α → Prop} {t : List α} {x : α} :
    Always Q (t ++ [x]) ↔ Always Q t ∧ Q t x := by
  constructor
  · exact fun h => ⟨fun t₁ e t₂ ht => h t₁ e (t₂ ++ [x]) (by simp [ht]), h t x [] rfl⟩
  · rintro ⟨h, hx⟩ t₁ e t₂ heq
    rcases List.eq_nil_or_concat t₂ with rfl | ⟨t₂, y, rfl⟩
    · obtain ⟨rfl, h1⟩ := List.append_inj' heq rfl
      obtain rfl : x = e := by simpa using h1
      exact hx
    · rw [List.concat_eq_append, ← List.cons_append, ← List.append_assoc] at heq
      exact h t₁ e t₂ (List.append_inj' heq rfl).1

theorem always_iff_forall {α : Type*} {Q : α → Prop} {t : List α} :
    Always (fun _ => Q) t ↔ ∀ x ∈ t, Q x := by
  constructor
  · intro h x hx
    obtain ⟨t₁, t₂, rfl⟩ := List.append_of_mem hx
    exact h t₁ x t₂ rfl
  · rintro h t₁ e t₂ rfl
    exact h e (by simp)

structure Machine (S L O : Type*) where
  step : S → L → Option (S × O)

namespace Machine

variable {S L O : Type*} {M : Machine S L O}

/-- The entry is a step of the machine. -/
def Ok (M : Machine S L O) (e : Entry S L O) : Prop := M.step e.pre e.lbl = some (e.post, e.out)

/-- `M.Run s₀ t s`: the steps `t` lead from `s₀` to `s`. -/
inductive Run (M : Machine S L O) (s₀ : S) : List (Entry S L O) → S → Prop
  | nil : Run M s₀ [] s₀
  | snoc {t : List (Entry S L O)} {e : Entry S L O} :
      Run M s₀ t e.pre → M.Ok e → Run M s₀ (t ++ [e]) e.post

/-- A property of history and state that holds at the start and is kept by
every step holds throughout. -/
theorem Run.history {P : List (Entry S L O) → S → Prop} {s₀ s : S} {t : List (Entry S L O)}
    (h : M.Run s₀ t s) (h0 : P [] s₀)
    (hs : ∀ t e, M.Run s₀ t e.pre → M.Ok e → P t e.pre → P (t ++ [e]) e.post) : P t s := by
  induction h with
  | nil => exact h0
  | snoc hr he ih => exact hs _ _ hr he ih

/-- An invariant kept by the steps that meet `C` holds after every run whose
steps all meet `C`. -/
theorem Run.guarded {C : Entry S L O → Prop} {P : S → Prop} {s₀ s : S} {t : List (Entry S L O)}
    (h : M.Run s₀ t s) (h0 : P s₀) (hs : ∀ e, M.Ok e → C e → P e.pre → P e.post)
    (hc : ∀ e ∈ t, C e) : P s := by
  refine h.history (P := fun t s => (∀ e ∈ t, C e) → P s) (fun _ => h0) ?_ hc
  intro t e _ he ih hc
  exact hs e he (hc e (by simp)) (ih fun x hx => hc x (by simp [hx]))

theorem Run.invariant {P : S → Prop} {s₀ s : S} {t : List (Entry S L O)} (h : M.Run s₀ t s)
    (h0 : P s₀) (hs : ∀ e, M.Ok e → P e.pre → P e.post) : P s :=
  h.guarded (C := fun _ => True) h0 (fun e he _ => hs e he) (fun _ _ => trivial)

/-- What steps that meet `C` show, with an invariant of history and state that they keep. -/
theorem Run.always {C : Entry S L O → Prop} {Q : List (Entry S L O) → Entry S L O → Prop}
    {P : List (Entry S L O) → S → Prop} {s₀ s : S} {t : List (Entry S L O)} (h : M.Run s₀ t s)
    (h0 : P [] s₀)
    (hkeep : ∀ t e, M.Run s₀ t e.pre → M.Ok e → P t e.pre → C e → P (t ++ [e]) e.post ∧ Q t e)
    (hc : ∀ e ∈ t, C e) : P t s ∧ Always Q t := by
  refine h.history (P := fun t s => (∀ e ∈ t, C e) → P t s ∧ Always Q t)
    (fun _ => ⟨h0, always_nil⟩) (fun t e hr he ih hc => ?_) hc
  rw [forall_mem_snoc] at hc
  obtain ⟨hp, hq⟩ := ih hc.1
  obtain ⟨hp', hqe⟩ := hkeep t e hr he hp hc.2
  exact ⟨hp', always_snoc.2 ⟨hq, hqe⟩⟩

/-- If, while the invariant holds, exactly the steps that meet `C` show `Q`, and they keep
it, then all steps of a run show `Q` exactly when all meet `C`. -/
theorem Run.always_iff {C : Entry S L O → Prop} {Q : List (Entry S L O) → Entry S L O → Prop}
    {P : List (Entry S L O) → S → Prop} {s₀ s : S} {t : List (Entry S L O)} (h : M.Run s₀ t s)
    (h0 : P [] s₀)
    (hkeep : ∀ t e, M.Run s₀ t e.pre → M.Ok e → P t e.pre → C e → P (t ++ [e]) e.post ∧ Q t e)
    (hsharp : ∀ t e, M.Run s₀ t e.pre → M.Ok e → P t e.pre → Q t e → C e) :
    Always Q t ↔ ∀ e ∈ t, C e := by
  refine ⟨fun hq => ?_, fun hc => (h.always h0 hkeep hc).2⟩
  refine (h.history (P := fun t s => Always Q t → P t s ∧ ∀ e ∈ t, C e)
    (fun _ => ⟨h0, by simp⟩) (fun t e hr he ih hq => ?_) hq).2
  obtain ⟨hq, hqe⟩ := always_snoc.1 hq
  obtain ⟨hp, hc⟩ := ih hq
  have hce := hsharp t e hr he hp hqe
  refine ⟨(hkeep t e hr he hp hce).1, ?_⟩
  rw [forall_mem_snoc]
  exact ⟨hc, hce⟩

/-- The same for an invariant of the state. -/
theorem Run.forall_iff {C Q : Entry S L O → Prop} {P : S → Prop} {s₀ s : S}
    {t : List (Entry S L O)} (h : M.Run s₀ t s) (h0 : P s₀)
    (hkeep : ∀ e, M.Ok e → P e.pre → C e → P e.post ∧ Q e)
    (hsharp : ∀ e, M.Ok e → P e.pre → Q e → C e) : (∀ e ∈ t, Q e) ↔ ∀ e ∈ t, C e := by
  rw [← always_iff_forall (Q := Q)]
  exact h.always_iff (P := fun _ => P) h0 (fun _ e _ => hkeep e) (fun _ e _ => hsharp e)

theorem Run.cons {e : Entry S L O} {t : List (Entry S L O)} {s : S} (he : M.Ok e)
    (h : M.Run e.post t s) : M.Run e.pre (e :: t) s := by
  induction h with
  | nil => exact .snoc (t := []) .nil he
  | snoc _ hx ih => exact .snoc ih hx

theorem run_nil {s₀ s : S} (h : M.Run s₀ [] s) : s = s₀ := by
  generalize ht : ([] : List (Entry S L O)) = t at h
  cases h with
  | nil => rfl
  | snoc _ _ => simp at ht

theorem run_snoc {s₀ s : S} {t : List (Entry S L O)} {e : Entry S L O}
    (h : M.Run s₀ (t ++ [e]) s) : M.Run s₀ t e.pre ∧ M.Ok e ∧ s = e.post := by
  generalize ht : t ++ [e] = t' at h
  cases h with
  | nil => simp at ht
  | snoc hr he =>
    obtain ⟨rfl, h1⟩ := List.append_inj' ht rfl
    obtain rfl : e = _ := by simpa using h1
    exact ⟨hr, he, rfl⟩

/-- A run splits at every point of its history. -/
theorem Run.split {t₁ t₂ : List (Entry S L O)} :
    ∀ {s₀ s : S}, M.Run s₀ (t₁ ++ t₂) s → ∃ m, M.Run s₀ t₁ m ∧ M.Run m t₂ s := by
  induction t₂ using List.reverseRecOn with
  | nil => intro s₀ s h; exact ⟨s, by simpa using h, .nil⟩
  | append_singleton t₂ e ih =>
    intro s₀ s h
    rw [← List.append_assoc] at h
    obtain ⟨hr, he, rfl⟩ := run_snoc h
    obtain ⟨m, h1, h2⟩ := ih hr
    exact ⟨m, h1, .snoc h2 he⟩

theorem run_cons {e : Entry S L O} {t : List (Entry S L O)} {s₀ s : S}
    (h : M.Run s₀ (e :: t) s) : s₀ = e.pre ∧ M.Ok e ∧ M.Run e.post t s := by
  have h' : M.Run s₀ ([e] ++ t) s := h
  obtain ⟨m, h1, h2⟩ := h'.split
  obtain ⟨h0, he, rfl⟩ := run_snoc (t := []) h1
  exact ⟨(run_nil h0).symm, he, h2⟩

/-- What happened at one step of a run. -/
theorem Run.at {t₁ t₂ : List (Entry S L O)} {e : Entry S L O} {s₀ s : S}
    (h : M.Run s₀ (t₁ ++ e :: t₂) s) : M.Run s₀ t₁ e.pre ∧ M.Ok e ∧ M.Run e.post t₂ s := by
  obtain ⟨m, h1, h2⟩ := h.split
  obtain ⟨rfl, he, h3⟩ := run_cons h2
  exact ⟨h1, he, h3⟩

theorem Run.ok_of_mem {t : List (Entry S L O)} {e : Entry S L O} {s₀ s : S} (h : M.Run s₀ t s)
    (he : e ∈ t) : M.Ok e := by
  obtain ⟨t₁, t₂, rfl⟩ := List.append_of_mem he
  exact h.at.2.1

theorem Run.last {t : List (Entry S L O)} {e : Entry S L O} {s₀ s : S} (h : M.Run s₀ t s)
    (he : t.getLast? = some e) : M.Run s₀ t.dropLast e.pre ∧ M.Ok e := by
  obtain ⟨ys, rfl⟩ := List.getLast?_eq_some_iff.1 he
  obtain ⟨hr, hok, -⟩ := run_snoc h
  exact ⟨by rwa [List.dropLast_concat], hok⟩

/-! ## Refinement -/

/-- A machine whose steps, seen through `f`, are steps of another has its runs too. -/
theorem Run.map {S₂ L₂ O₂ : Type*} {M₂ : Machine S₂ L₂ O₂} {f : S → S₂} {op : L → L₂} {out : O → O₂}
    (hs : ∀ e, M.Ok e → M₂.Ok (e.map f op out)) {s₀ s : S} {t : List (Entry S L O)} (h : M.Run s₀ t s) :
    M₂.Run (f s₀) (t.map (Entry.map f op out)) (f s) := by
  induction h with
  | nil => exact .nil
  | snoc _ he ih =>
    rw [List.map_append]
    exact .snoc ih (hs _ he)

theorem Run.append {t₁ t₂ : List (Entry S L O)} {a b c : S} (h₁ : M.Run a t₁ b)
    (h₂ : M.Run b t₂ c) : M.Run a (t₁ ++ t₂) c := by
  induction h₂ with
  | nil => rwa [List.append_nil]
  | snoc _ he ih =>
    rw [← List.append_assoc]
    exact .snoc ih he

theorem Run.one {e : Entry S L O} (he : M.Ok e) : M.Run e.pre [e] e.post := .snoc (t := []) .nil he

/-- A machine each step of which is matched by a run of another, from related states to related
states, has runs of the other: the runs of its steps one after the other. -/
theorem Run.simulate {S₂ L₂ O₂ : Type*} {M₂ : Machine S₂ L₂ O₂} {R : S → S₂ → Prop}
    {C : Entry S L O → Prop} {Q : Entry S L O → List (Entry S₂ L₂ O₂) → Prop}
    (hs : ∀ e a, M.Ok e → C e → R e.pre a → ∃ t b, M₂.Run a t b ∧ R e.post b ∧ Q e t)
    {s₀ s : S} {a : S₂} {t : List (Entry S L O)} (h : M.Run s₀ t s) (h0 : R s₀ a) (hc : ∀ e ∈ t, C e) :
    ∃ ts b, M₂.Run a ts.flatten b ∧ R s b ∧ List.Forall₂ Q t ts := by
  induction h with
  | nil => exact ⟨[], a, .nil, h0, .nil⟩
  | snoc _ he ih =>
    rw [forall_mem_snoc] at hc
    obtain ⟨ts, b, hr, hR, hq⟩ := ih hc.1
    obtain ⟨t₂, b₂, hr₂, hR₂, hq₂⟩ := hs _ b he hc.2 hR
    refine ⟨ts ++ [t₂], b₂, ?_, hR₂, List.rel_append hq (.cons hq₂ .nil)⟩
    rw [List.flatten_append, List.flatten_cons, List.flatten_nil, List.append_nil]
    exact hr.append hr₂

/-- The same where the other's states are seen through `f`. -/
theorem Run.expand {S₂ L₂ O₂ : Type*} {M₂ : Machine S₂ L₂ O₂} {f : S → S₂} {I : S → Prop}
    {C : Entry S L O → Prop} {Q : Entry S L O → List (Entry S₂ L₂ O₂) → Prop}
    (hs : ∀ e, M.Ok e → C e → I e.pre → I e.post ∧ ∃ t, M₂.Run (f e.pre) t (f e.post) ∧ Q e t)
    {s₀ s : S} {t : List (Entry S L O)} (h : M.Run s₀ t s) (h0 : I s₀) (hc : ∀ e ∈ t, C e) :
    I s ∧ ∃ ts, M₂.Run (f s₀) ts.flatten (f s) ∧ List.Forall₂ Q t ts := by
  obtain ⟨ts, b, hr, ⟨hi, rfl⟩, hq⟩ := h.simulate (R := fun s b => I s ∧ b = f s) (fun e a he hc ⟨hi, ha⟩ => by
    obtain ⟨hi', t, hr, hq⟩ := hs e he hc hi
    rw [ha]
    exact ⟨t, _, hr, ⟨hi', rfl⟩, hq⟩) ⟨h0, rfl⟩ hc
  exact ⟨hi, ts, hr, hq⟩

/-! ## Execution -/

/-- Run the labels in order; `none` if one is not enabled. -/
def exec (M : Machine S L O) : S → List L → Option (List (Entry S L O) × S)
  | s, [] => some ([], s)
  | s, l :: ls =>
    match M.step s l with
    | none => none
    | some (s', o) => (exec M s' ls).map fun r => (⟨s, l, o, s'⟩ :: r.1, r.2)

theorem run_of_exec : ∀ (ls : List L) {s s' : S} {t : List (Entry S L O)},
    M.exec s ls = some (t, s') → M.Run s t s'
  | [], s, s', t, h => by
    simp only [exec, Option.some.injEq, Prod.mk.injEq] at h
    obtain ⟨rfl, rfl⟩ := h; exact .nil
  | l :: ls, s, s', t, h => by
    simp only [exec] at h
    split at h
    · cases h
    · rename_i s₁ o hst
      simp only [Option.map_eq_some_iff, Prod.mk.injEq] at h
      obtain ⟨⟨t', s''⟩, h1, rfl, rfl⟩ := h
      exact Run.cons (e := ⟨s, l, o, s₁⟩) hst (run_of_exec ls h1)

/-- What a list of labels does after its first step. -/
theorem exec_drop {s s' : S} {l : L} {o : O} (h : M.step s l = some (s', o)) (n : Nat)
    (ls : List L) :
    (M.exec s (l :: ls)).map (fun r => (r.1.drop (n + 1), r.2)) =
      (M.exec s' ls).map fun r => (r.1.drop n, r.2) := by
  simp only [exec, h, Option.map_map]
  rfl

theorem run_get (s : S) (ls : List L) (h : (M.exec s ls).isSome) :
    M.Run s ((M.exec s ls).get h).1 ((M.exec s ls).get h).2 :=
  run_of_exec ls (by rw [Option.some_get])

/-! ## Two runs -/

/-- Two machines over the same labels: if related states step to related
states with equal outputs (as long as the steps meet `C`), two runs over the
same labels have the same outputs. -/
theorem Run.lockstep {S₁ S₂ : Type*} {M₁ : Machine S₁ L O} {M₂ : Machine S₂ L O}
    {R : S₁ → S₂ → Prop} {C : Entry S₁ L O → Entry S₂ L O → Prop}
    (hs : ∀ e₁ e₂, M₁.Ok e₁ → M₂.Ok e₂ → e₁.lbl = e₂.lbl → C e₁ e₂ → R e₁.pre e₂.pre →
      e₁.out = e₂.out ∧ R e₁.post e₂.post)
    {a a' : S₁} {b b' : S₂} {t₁ : List (Entry S₁ L O)} {t₂ : List (Entry S₂ L O)}
    (h₁ : M₁.Run a t₁ a') (h₂ : M₂.Run b t₂ b') (hR : R a b)
    (hl : t₁.map (·.lbl) = t₂.map (·.lbl)) (hc : ∀ e₁ ∈ t₁, ∀ e₂ ∈ t₂, C e₁ e₂) :
    t₁.map (·.out) = t₂.map (·.out) ∧ R a' b' := by
  induction h₁ generalizing t₂ b' with
  | nil =>
    obtain rfl : t₂ = [] := by simpa using hl.symm
    obtain rfl := run_nil h₂
    exact ⟨rfl, hR⟩
  | @snoc t e₁ _ he₁ ih =>
    rcases List.eq_nil_or_concat t₂ with rfl | ⟨t₂', e₂, rfl⟩
    · simp at hl
    · simp only [List.concat_eq_append, List.map_append, List.map_cons, List.map_nil] at hl h₂ hc ⊢
      obtain ⟨hr₂, he₂, rfl⟩ := run_snoc h₂
      obtain ⟨hl1, hl2⟩ := List.append_inj' hl rfl
      obtain ⟨ho, hR'⟩ := ih hr₂ hl1 fun x hx y hy => hc x (by simp [hx]) y (by simp [hy])
      obtain ⟨ho', hR''⟩ := hs e₁ e₂ he₁ he₂ (by simpa using hl2) (hc _ (by simp) _ (by simp)) hR'
      exact ⟨by rw [ho, ho'], hR''⟩

/-- Outputs of a list of labels, each with what `v` shows of the state after;
`none` if one is not enabled. -/
def observe {V : Type*} (M : Machine S L O) (v : S → V) (s : S) (ls : List L) :
    Option (List (O × V)) :=
  (M.exec s ls).map fun r => r.1.map fun e => (e.out, v e.post)

theorem observe_cons {V : Type*} (v : S → V) (s : S) (l : L) (ls : List L) :
    M.observe v s (l :: ls) =
      (M.step s l).bind fun r => (M.observe v r.1 ls).map ((r.2, v r.1) :: ·) := by
  simp only [observe, exec]
  cases M.step s l with
  | none => rfl
  | some r => simp only [Option.map_map, Option.bind_some]; rfl

/-- States of two machines that answer the labels in `C` alike, related after as before,
cannot be told apart by these. -/
theorem observe_alike {S₁ S₂ V : Type*} {M₁ : Machine S₁ L O} {M₂ : Machine S₂ L O} {v₁ : S₁ → V}
    {v₂ : S₂ → V} {R : S₁ → S₂ → Prop} {C : L → Prop} (hv : ∀ a b, R a b → v₁ a = v₂ b)
    (hs : ∀ a b l, C l → R a b →
      Option.Rel (fun p q => p.2 = q.2 ∧ R p.1 q.1) (M₁.step a l) (M₂.step b l)) :
    ∀ (ls : List L) {a : S₁} {b : S₂}, (∀ l ∈ ls, C l) → R a b → M₁.observe v₁ a ls = M₂.observe v₂ b ls
  | [], _, _, _, _ => rfl
  | l :: ls, a, b, hc, hR => by
    rw [observe_cons, observe_cons]
    generalize hp : M₁.step a l = p
    generalize hq : M₂.step b l = q
    have hrel := hs a b l (hc l (by simp)) hR
    rw [hp, hq] at hrel
    cases hrel with
    | none => rfl
    | some h =>
      simp only [Option.bind_some]
      rw [h.1, hv _ _ h.2, observe_alike hv hs ls (fun l hl => hc l (by simp [hl])) h.2]

theorem observe_lockstep {V : Type*} {v : S → V} {R : S → S → Prop} (hv : ∀ a b, R a b → v a = v b)
    (hs : ∀ a b l, R a b →
      Option.Rel (fun p q => p.2 = q.2 ∧ R p.1 q.1) (M.step a l) (M.step b l))
    (ls : List L) {a b : S} (h : R a b) : M.observe v a ls = M.observe v b ls :=
  observe_alike (C := fun _ => True) hv (fun a b l _ => hs a b l) ls (fun _ _ => trivial) h

end Machine

end NetworkProv.Core
