import NetworkProv.Core.Machine
import NetworkProv.Core.Paging

/-!
# A cache filled by sweeps

A sweep that is started empties the cache and fills it, entry by entry, until it
ends; the cache holds `cap` entries and drops the rest. `finished` is what the
cache says of itself, `running` how many sweeps have been started and have not
ended. A start that is refused marks the cache finished, as if a sweep had ended.

* `run_steady`: in runs where no start comes while a sweep is running, and
  none that is refused finds entries, a finished cache has no sweep running and
  stays as it is.
* `run_entries`: what a sweep leaves in the cache.
* `View`: a machine with such a cache, and what its clients see of it;
  `View.run_final` and `View.run_pages` carry the results over.
-/
namespace NetworkProv.Core

variable {α : Type*}

structure Sweep (α : Type*) where
  entries : List α
  finished : Bool
  running : Nat

inductive SweepOp (α : Type*)
  | accept
  | refuse
  | item (x : α)
  | finish
  | look
  deriving DecidableEq

namespace Sweep

def step (cap : Nat) (s : Sweep α) : SweepOp α → Option (Sweep α × Unit)
  | .accept => some (⟨[], false, s.running + 1⟩, ())
  | .refuse => some (⟨[], true, s.running⟩, ())
  | .item x =>
    if s.running = 0 then none
    else some (if s.entries.length ≥ cap then s else { s with entries := s.entries ++ [x] }, ())
  | .finish => if s.running = 0 then none else some ({ s with finished := true, running := s.running - 1 }, ())
  | .look => some (s, ())

theorem step_item {cap : Nat} {s : Sweep α} {x : α} (h : s.running ≠ 0) : step cap s (.item x) =
    some (if s.entries.length ≥ cap then s else { s with entries := s.entries ++ [x] }, ()) := if_neg h

theorem step_finish {cap : Nat} {s : Sweep α} (h : s.running ≠ 0) :
    step cap s .finish = some ({ s with finished := true, running := s.running - 1 }, ()) := if_neg h

def machine (cap : Nat) : Machine (Sweep α) (SweepOp α) Unit := ⟨step cap⟩

abbrev SweepEntry (α : Type*) := Entry (Sweep α) (SweepOp α) Unit

/-- The start comes while nothing is running, and finds no entries if it is refused. -/
def Orderly (e : SweepEntry α) : Prop :=
  match e.lbl with
  | .accept => e.pre.running = 0
  | .refuse => e.pre.running = 0 ∧ e.pre.entries = []
  | _ => True

structure Inv (s : Sweep α) : Prop where
  one : s.running ≤ 1
  idle : s.finished = true → s.running = 0

theorem inv_step {cap : Nat} {e : SweepEntry α} (he : (machine cap).Ok e) (hc : Orderly e)
    (h : Inv e.pre) : Inv e.post := by
  obtain ⟨s, op, _, s'⟩ := e
  change step cap s op = some (s', ()) at he
  cases op with
  | accept =>
    cases he
    have hz : s.running = 0 := hc
    exact ⟨by simp [hz], fun hf => by cases hf⟩
  | refuse =>
    cases he
    exact ⟨h.one, fun _ => hc.1⟩
  | item x =>
    unfold step at he
    dsimp only at he
    split at he
    · cases he
    · split at he <;> cases he <;> exact ⟨h.one, h.idle⟩
  | finish =>
    unfold step at he
    dsimp only at he
    split at he
    · cases he
    · cases he
      have hone : s.running ≤ 1 := h.one
      exact ⟨by dsimp only; omega, fun _ => by dsimp only; omega⟩
  | look =>
    cases he
    exact h

/-- A finished cache stays as it is until a start is accepted. -/
theorem steady_step {cap : Nat} {e : SweepEntry α} (he : (machine cap).Ok e) (hc : Orderly e)
    (h : Inv e.pre) (hne : e.lbl ≠ .accept) (hf : e.pre.finished = true) :
    e.post.finished = true ∧ e.post.entries = e.pre.entries := by
  obtain ⟨s, op, _, s'⟩ := e
  change step cap s op = some (s', ()) at he
  have hz : s.running = 0 := h.idle hf
  cases op with
  | accept => exact absurd rfl hne
  | refuse =>
    cases he
    exact ⟨rfl, hc.2.symm⟩
  | item x =>
    unfold step at he
    dsimp only at he
    rw [if_pos hz] at he
    cases he
  | finish =>
    unfold step at he
    dsimp only at he
    rw [if_pos hz] at he
    cases he
  | look =>
    cases he
    exact ⟨hf, rfl⟩

/-- At some point the cache was finished and held `l`, and no start was accepted since. -/
def SettledAt (l : List α) (t : List (SweepEntry α)) : Prop :=
  Since (fun e => e.pre.finished = true ∧ e.pre.entries = l ∧ e.lbl ≠ .accept) (fun e => e.lbl ≠ .accept) t

theorem run_steady {cap : Nat} {s₀ s : Sweep α} {t : List (SweepEntry α)} (h : (machine cap).Run s₀ t s)
    (h0 : Inv s₀) (hc : ∀ e ∈ t, Orderly e) :
    Inv s ∧ ∀ l, SettledAt l t → s.finished = true ∧ s.entries = l := by
  refine h.history (P := fun t s => (∀ e ∈ t, Orderly e) →
    Inv s ∧ ∀ l, SettledAt l t → s.finished = true ∧ s.entries = l) (fun _ => ⟨h0, ?_⟩) ?_ hc
  · rintro l ⟨t₁, x, t₂, ht, -⟩
    simp at ht
  · intro t e _ he ih hc
    rw [forall_mem_snoc] at hc
    obtain ⟨hinv, hsettled⟩ := ih hc.1
    refine ⟨inv_step he hc.2 hinv, fun l hl => ?_⟩
    rcases Since.snoc_iff.mp hl with ⟨hf, rfl, hne⟩ | ⟨hbefore, hne⟩
    · exact steady_step he hc.2 hinv hne hf
    · obtain ⟨hf, rfl⟩ := hsettled l hbefore
      exact steady_step he hc.2 hinv hne hf

/-! ## What a sweep leaves -/

def itemsOf (t : List (SweepEntry α)) : List α :=
  t.filterMap fun e => match e.lbl with
    | .item x => some x
    | _ => none

/-- The start empties the cache, accepted or refused. -/
def IsStart : SweepOp α → Prop
  | .accept => True
  | .refuse => True
  | _ => False

instance : (op : SweepOp α) → Decidable (IsStart op)
  | .accept | .refuse => .isTrue trivial
  | .item _ | .finish | .look => .isFalse id

theorem take_concat (cap : Nat) (l : List α) (x : α) :
    (if (l.take cap).length ≥ cap then l.take cap else l.take cap ++ [x]) = (l ++ [x]).take cap := by
  rw [List.length_take]
  by_cases h : cap ≤ l.length
  · rw [if_pos (by omega), List.take_append_of_le_length h]
  · rw [if_neg (by omega), List.take_of_length_le (by omega), List.take_of_length_le (by simp; omega)]

theorem itemsOf_snoc (t : List (SweepEntry α)) (e : SweepEntry α) :
    itemsOf (t ++ [e]) = itemsOf t ++ itemsOf [e] := List.filterMap_append

/-- A step that is no start adds what it brings, if there is room. -/
theorem entries_step {cap : Nat} {e : SweepEntry α} (he : (machine cap).Ok e) (hno : ¬ IsStart e.lbl)
    {l : List α} (h : e.pre.entries = l.take cap) : e.post.entries = (l ++ itemsOf [e]).take cap := by
  obtain ⟨s, op, _, s'⟩ := e
  change step cap s op = some (s', ()) at he
  dsimp only at h ⊢
  cases op with
  | accept => exact absurd trivial hno
  | refuse => exact absurd trivial hno
  | item x =>
    unfold step at he
    dsimp only at he
    split at he
    · cases he
    simp only [Option.some.injEq, Prod.mk.injEq, and_true] at he
    have hitem : itemsOf [(⟨s, .item x, (), s'⟩ : SweepEntry α)] = [x] := rfl
    rw [hitem, ← take_concat, ← h, ← he]
    split <;> rfl
  | finish =>
    unfold step at he
    dsimp only at he
    split at he
    · cases he
    · cases he
      simpa [itemsOf] using h
  | look =>
    cases he
    simpa [itemsOf] using h

/-- From a start that is accepted on, the cache has the entries of the sweep, as many as it holds. -/
theorem run_entries {cap : Nat} {s₀ s : Sweep α} {t₁ t₂ : List (SweepEntry α)} {e : SweepEntry α}
    (h : (machine cap).Run s₀ (t₁ ++ e :: t₂) s) (he : e.lbl = .accept)
    (hno : ∀ x ∈ t₂, ¬ IsStart x.lbl) : s.entries = (itemsOf t₂).take cap := by
  obtain ⟨-, hok, hr⟩ := h.at
  have hpost : e.post.entries = [] := by
    obtain ⟨a, op, _, b⟩ := e
    change op = .accept at he
    subst he
    change step cap a .accept = some (b, ()) at hok
    cases hok
    rfl
  refine hr.history (P := fun t s => (∀ x ∈ t, ¬ IsStart x.lbl) → s.entries = (itemsOf t).take cap)
    (fun _ => by simp [hpost, itemsOf]) (fun t x _ hx ih hno => ?_) hno
  rw [forall_mem_snoc] at hno
  rw [itemsOf_snoc]
  exact entries_step hx hno.2 (ih hno.1)

end Sweep

/-! ## Machines with such a cache -/

/-- What a client sees: a report on the cache, or a page of it. -/
inductive Seen (α : Type*)
  | status (finished : Bool) (count : Nat)
  | page (start want : Nat) (entries : List α)

/-- The cache in the state of a machine, what its labels do to it, and what its outputs show. -/
structure View (S L O α : Type*) where
  cache : S → Sweep α
  op : L → SweepOp α
  seen : L → O → Option (Seen α)

namespace View

variable {S L O : Type*} {M : Machine S L O} {v : View S L O α} {cap pageCap : Nat}

/-- A report or a page shows the cache as it is, and changes nothing. -/
def Shows (pageCap : Nat) (s : Sweep α) : Seen α → Prop
  | .status finished count => finished = s.finished ∧ count = s.entries.length
  | .page start want entries => entries = page pageCap s.entries start want

structure Faithful (v : View S L O α) (M : Machine S L O) (cap pageCap : Nat) : Prop where
  step : ∀ e, M.Ok e → (Sweep.machine cap).Ok (e.map v.cache v.op fun _ => ())
  shows : ∀ e, M.Ok e → ∀ x, v.seen e.lbl e.out = some x →
    Shows pageCap (v.cache e.pre) x ∧ v.op e.lbl = .look

/-- The client is told that the cache is finished. -/
def Told (v : View S L O α) (e : Entry S L O) : Prop := ∃ n, v.seen e.lbl e.out = some (.status true n)

/-- The start comes while nothing is running, and finds no entries if it is refused. -/
def Orderly (v : View S L O α) (e : Entry S L O) : Prop :=
  (v.op e.lbl = .accept → (v.cache e.pre).running = 0) ∧
  (v.op e.lbl = .refuse → (v.cache e.pre).running = 0 ∧ (v.cache e.pre).entries = [])

instance [DecidableEq α] (v : View S L O α) (e : Entry S L O) : Decidable (v.Orderly e) :=
  inferInstanceAs (Decidable ((_ → _) ∧ (_ → _ ∧ _)))

/-- A client that is told that the cache is finished is told so while nothing is running; and from
then on until a start is accepted all it sees is the number it was told and the cache as it was. -/
def Final (v : View S L O α) (pageCap : Nat) (t : List (Entry S L O)) (e : Entry S L O) : Prop :=
  (v.Told e → (v.cache e.pre).running = 0) ∧
  ∀ n l, Since (fun x => v.seen x.lbl x.out = some (.status true n) ∧ (v.cache x.pre).entries = l)
      (fun x => v.op x.lbl ≠ .accept) t →
    (∀ finished m, v.seen e.lbl e.out = some (.status finished m) → m = n) ∧
    ∀ start want p, v.seen e.lbl e.out = some (.page start want p) → p = page pageCap l start want

theorem orderly_map {e : Entry S L O} (h : v.Orderly e) :
    Sweep.Orderly (e.map v.cache v.op fun _ => ()) := by
  unfold Sweep.Orderly Entry.map
  dsimp only
  split
  · rename_i hop
    exact h.1 hop
  · rename_i hop
    exact h.2 hop
  · trivial

theorem run_final (hv : v.Faithful M cap pageCap) {s₀ s : S} {t : List (Entry S L O)} (h : M.Run s₀ t s)
    (h0 : Sweep.Inv (v.cache s₀)) (hc : ∀ e ∈ t, v.Orderly e) : Always (v.Final pageCap) t := by
  rintro t₁ e t₂ rfl
  obtain ⟨hr, he, -⟩ := h.at
  have horderly : ∀ x ∈ t₁.map (Entry.map v.cache v.op fun _ => ()), Sweep.Orderly x := by
    intro x hx
    obtain ⟨y, hy, rfl⟩ := List.mem_map.mp hx
    exact orderly_map (hc y (by simp [hy]))
  obtain ⟨hinv, hsettled⟩ := Sweep.run_steady (hr.map hv.step) h0 horderly
  constructor
  · rintro ⟨n, hn⟩
    exact hinv.idle (hv.shows e he _ hn).1.1.symm
  · intro n l hl
    have hok : ∀ x ∈ t₁, M.Ok x := fun x hx => hr.ok_of_mem hx
    have hat : n = l.length ∧ Sweep.SettledAt l (t₁.map (Entry.map v.cache v.op fun _ => ())) := by
      obtain ⟨u₁, x, u₂, rfl, ⟨hn, hx⟩, hall⟩ := hl
      obtain ⟨⟨hfin, hcount⟩, hlook⟩ := hv.shows x (hok x (by simp)) _ hn
      refine ⟨hcount.trans (congrArg List.length hx),
        _, _, _, List.map_append.trans (congrArg _ (List.map_cons ..)), ⟨hfin.symm, hx, ?_⟩, ?_⟩
      · change v.op x.lbl ≠ .accept
        rw [hlook]
        simp
      · intro y hy
        obtain ⟨z, hz, rfl⟩ := List.mem_map.mp hy
        exact hall z hz
    obtain ⟨-, hentries⟩ := hsettled l hat.2
    refine ⟨fun b m hm => ?_, fun start want p hp => ?_⟩
    · rw [hat.1, ← hentries]
      exact (hv.shows e he _ hm).1.2
    · rw [← hentries]
      exact (hv.shows e he _ hp).1

/-- What the entries of a run bring to the cache. -/
def items (v : View S L O α) (t : List (Entry S L O)) : List α :=
  t.filterMap fun e => match v.op e.lbl with
    | .item x => some x
    | _ => none

/-- After a start that is accepted, the cache has what the sweep brought, as much as it holds. -/
theorem run_pages (hv : v.Faithful M cap pageCap) {s₀ s : S} {t₁ t₂ : List (Entry S L O)}
    {e : Entry S L O} (h : M.Run s₀ (t₁ ++ e :: t₂) s) (he : v.op e.lbl = .accept)
    (hno : ∀ x ∈ t₂, ¬ Sweep.IsStart (v.op x.lbl)) : (v.cache s).entries = (v.items t₂).take cap := by
  have hmap := h.map hv.step
  rw [List.map_append, List.map_cons] at hmap
  have hitems : Sweep.itemsOf (t₂.map (Entry.map v.cache v.op fun _ => ())) = v.items t₂ := by
    unfold Sweep.itemsOf items
    rw [List.filterMap_map]
    rfl
  rw [← hitems]
  refine Sweep.run_entries hmap he fun x hx => ?_
  obtain ⟨y, hy, rfl⟩ := List.mem_map.mp hx
  exact hno y hy

end View

end NetworkProv.Core
