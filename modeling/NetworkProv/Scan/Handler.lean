import NetworkProv.Core.Sweep

/-!
# Runs of a scan handler

The Wi-Fi and the Thread handler of `prov-scan` differ in their messages and in
the entries they keep. `ScanHandler` has what a run needs of either: its
functions, and how its state, requests and responses read. In a run come
requests, waits that end, results and ends of scans in any order; only a scan
that is running brings results and ends. A start is not taken while another
waits.

* `Lawful.faithful`: a lawful handler keeps its results as a cache filled by sweeps.
* `Lawful.serves`: result requests read the cache in pages.
-/
namespace NetworkProv.Scan
open NetworkProv.Core

/-- The parts of a handler with the state `C`, over calls that answer `E`, requests `Q`, responses
`P`, results `R` and entries `α`. -/
structure ScanHandler (C E Q P R α : Type) where
  /-- The answer, or `none` for a start that waits for the end of the scan. -/
  handle : E → Option Q → C → Option (Int × Option P) × C
  /-- the end of the wait of a blocking start -/
  waitEnds : (timedOut : Bool) → (encodeRet : Int) → C → Option ((Int × Option P) × C)
  onResult : R → C → C
  onDone : C → C
  entries : C → List α
  finished : C → Bool
  /-- a start waits for the end of its scan -/
  blocked : C → Bool
  isStart : Option Q → Bool
  /-- what the driver makes of a start; `look` for all that does not reach it -/
  drives : E → Option Q → SweepOp α
  entryOf : R → α
  /-- what the response to a request shows of the cache -/
  seen : Option Q → P → Option (Seen α)
  resultReq : (startIndex count : Nat) → Q
  /-- the response can be encoded -/
  encodes : E → Bool

variable {C E Q P R α : Type} {H : ScanHandler C E Q P R α} {cap pageCap : Nat}

/-- `running`: the scans that the driver has accepted and that have not ended. -/
structure ScanWorld (C : Type) where
  sc : C
  running : Nat

inductive ScanOp (E Q R : Type)
  | request (e : E) (req : Option Q)
  | waitEnds (timedOut : Bool) (encodeRet : Int)
  | result (r : R)
  | done

abbrev ScanOut (P : Type) := Option (Int × Option P)

namespace ScanHandler

/-- The scans that run once the driver has answered a request. -/
def runningAfter (H : ScanHandler C E Q P R α) (e : E) (req : Option Q) (running : Nat) : Nat :=
  match H.drives e req with
  | .accept => running + 1
  | _ => running

def step (H : ScanHandler C E Q P R α) (s : ScanWorld C) : ScanOp E Q R → Option (ScanWorld C × ScanOut P)
  | .request e req =>
    if H.isStart req && H.blocked s.sc then none
    else
      match H.handle e req s.sc with
      | (out, sc) => some (⟨sc, H.runningAfter e req s.running⟩, out)
  | .waitEnds timedOut encodeRet =>
    (H.waitEnds timedOut encodeRet s.sc).map fun r => ({ s with sc := r.2 }, some r.1)
  | .result r => if s.running = 0 then none else some ({ s with sc := H.onResult r s.sc }, none)
  | .done => if s.running = 0 then none else some (⟨H.onDone s.sc, s.running - 1⟩, none)

def machine (H : ScanHandler C E Q P R α) : Machine (ScanWorld C) (ScanOp E Q R) (ScanOut P) := ⟨H.step⟩

def cache (H : ScanHandler C E Q P R α) (s : ScanWorld C) : Sweep α :=
  ⟨H.entries s.sc, H.finished s.sc, s.running⟩

def sweepOp (H : ScanHandler C E Q P R α) : ScanOp E Q R → SweepOp α
  | .request e req => H.drives e req
  | .waitEnds _ _ => .look
  | .result r => .item (H.entryOf r)
  | .done => .finish

def scanSeen (H : ScanHandler C E Q P R α) : ScanOp E Q R → ScanOut P → Option (Seen α)
  | .request _ req, some (_, some resp) => H.seen req resp
  | _, _ => none

/-- The handler's state as a cache of entries, and what its clients see of it. -/
def view (H : ScanHandler C E Q P R α) : View (ScanWorld C) (ScanOp E Q R) (ScanOut P) α :=
  ⟨H.cache, H.sweepOp, H.scanSeen⟩

/-- A result request on its own: the page, if there is an answer. -/
def ask (H : ScanHandler C E Q P R α) (c : C) (e : E) (start want : Nat) : Option (List α) × C :=
  match H.handle e (some (H.resultReq start want)) c with
  | (some (_, some resp), c) =>
    match H.seen (some (H.resultReq start want)) resp with
    | some (.page _ _ entries) => (some entries, c)
    | _ => (none, c)
  | (_, c) => (none, c)

/-- The results that a run brings, in order of arrival. -/
def resultsOf (_H : ScanHandler C E Q P R α) (t : List (Entry (ScanWorld C) (ScanOp E Q R) (ScanOut P))) :
    List R :=
  t.filterMap fun e => match e.lbl with
    | .result r => some r
    | _ => none

/-- What the functions of a handler do, in terms of its parts. -/
structure Lawful (H : ScanHandler C E Q P R α) (cap pageCap : Nat) : Prop where
  handle : ∀ e req (s : ScanWorld C), Sweep.step cap (H.cache s) (H.drives e req) =
    some (H.cache ⟨(H.handle e req s.sc).2, H.runningAfter e req s.running⟩, ())
  waitEnds : ∀ timedOut encodeRet c r, H.waitEnds timedOut encodeRet c = some r →
    H.entries r.2 = H.entries c ∧ H.finished r.2 = H.finished c
  onResult : ∀ r c, H.entries (H.onResult r c) =
      (if (H.entries c).length ≥ cap then H.entries c else H.entries c ++ [H.entryOf r]) ∧
    H.finished (H.onResult r c) = H.finished c
  onDone : ∀ c, H.entries (H.onDone c) = H.entries c ∧ H.finished (H.onDone c) = true
  shows : ∀ e req (s : ScanWorld C) n resp x, (H.handle e req s.sc).1 = some (n, some resp) →
    H.seen req resp = some x → View.Shows pageCap (H.cache s) x ∧ H.drives e req = .look
  items : ∀ e req x, H.drives e req ≠ .item x
  resultReq : ∀ start want resp start' want' p,
    H.seen (some (H.resultReq start want)) resp = some (.page start' want' p) → start' = start ∧ want' = want
  looks : ∀ e start want, H.drives e (some (H.resultReq start want)) = .look
  answers : ∀ e start want c, H.encodes e = true → (H.ask c e start want).1 ≠ none

theorem Lawful.step_cache (h : H.Lawful cap pageCap)
    {e : Entry (ScanWorld C) (ScanOp E Q R) (ScanOut P)} (he : H.machine.Ok e) :
    (Sweep.machine cap).Ok (e.map H.view.cache H.view.op fun _ => ()) := by
  obtain ⟨s, op, out, s'⟩ := e
  change H.step s op = some (s', out) at he
  change Sweep.step cap (H.cache s) (H.sweepOp op) = some (H.cache s', ())
  cases op with
  | request env req =>
    unfold step at he
    dsimp only at he
    split at he
    · cases he
    · cases he
      exact h.handle env req s
  | waitEnds timedOut encodeRet =>
    obtain ⟨r, hr, heq⟩ := Option.map_eq_some_iff.mp he
    cases heq
    obtain ⟨hent, hfin⟩ := h.waitEnds timedOut encodeRet s.sc r hr
    simp only [Sweep.step, sweepOp, cache, hent, hfin]
  | result r =>
    unfold step at he
    dsimp only at he
    split at he
    · cases he
    · rename_i hrun
      cases he
      obtain ⟨hent, hfin⟩ := h.onResult r s.sc
      refine (Sweep.step_item hrun).trans ?_
      by_cases hfull : (H.entries s.sc).length ≥ cap <;> simp [cache, hent, hfin, hfull]
  | done =>
    unfold step at he
    dsimp only at he
    split at he
    · cases he
    · rename_i hrun
      cases he
      obtain ⟨hent, hfin⟩ := h.onDone s.sc
      refine (Sweep.step_finish hrun).trans ?_
      simp only [cache, hent, hfin]

theorem Lawful.shows_cache (h : H.Lawful cap pageCap)
    {e : Entry (ScanWorld C) (ScanOp E Q R) (ScanOut P)} (he : H.machine.Ok e) {x : Seen α}
    (hx : H.view.seen e.lbl e.out = some x) :
    View.Shows pageCap (H.view.cache e.pre) x ∧ H.view.op e.lbl = .look := by
  obtain ⟨s, op, out, s'⟩ := e
  change H.step s op = some (s', out) at he
  change H.scanSeen op out = some x at hx
  cases op with
  | request env req =>
    match out with
    | none => cases hx
    | some (_, none) => cases hx
    | some (n, some resp) =>
      unfold step at he
      dsimp only at he
      split at he
      · cases he
      · simp only [Option.some.injEq, Prod.mk.injEq] at he
        exact h.shows env req s n resp x he.2 hx
  | waitEnds timedOut encodeRet => cases hx
  | result r => cases hx
  | done => cases hx

theorem Lawful.faithful (h : H.Lawful cap pageCap) : H.view.Faithful H.machine cap pageCap :=
  ⟨fun _ he => h.step_cache he, fun _ he _ hx => h.shows_cache he hx⟩

theorem ask_state (c : C) (e : E) (start want : Nat) :
    (H.ask c e start want).2 = (H.handle e (some (H.resultReq start want)) c).2 := by
  unfold ask
  generalize H.handle e (some (H.resultReq start want)) c = out
  obtain ⟨_ | ⟨n, _ | resp⟩, c'⟩ := out
  · rfl
  · rfl
  · dsimp only
    split <;> rfl

theorem Lawful.serves (h : H.Lawful cap pageCap) : Serves pageCap H.entries H.ask where
  page c e start want p hp := by
    unfold ask at hp
    split at hp
    · rename_i resp c' hout
      split at hp
      · rename_i start' want' entries hseen
        cases hp
        obtain ⟨rfl, rfl⟩ := h.resultReq start want resp start' want' p hseen
        exact (h.shows e _ ⟨c, 0⟩ _ resp _ (congrArg Prod.fst hout) hseen).1
      · cases hp
    · cases hp
  same c e start want := by
    have hsame := h.handle e (some (H.resultReq start want)) ⟨c, 0⟩
    rw [h.looks] at hsame
    have hent : H.entries c = H.entries (H.handle e (some (H.resultReq start want)) c).2 := by
      simpa [Sweep.step, cache] using congrArg (Option.map fun r => r.1.entries) hsame
    rw [ask_state, hent]

/-- What a run brings to the cache are the entries of its results. -/
theorem Lawful.items_eq (h : H.Lawful cap pageCap)
    (t : List (Entry (ScanWorld C) (ScanOp E Q R) (ScanOut P))) :
    H.view.items t = (H.resultsOf t).map H.entryOf := by
  unfold View.items resultsOf
  rw [List.map_filterMap]
  refine List.filterMap_congr fun e _ => ?_
  cases hl : e.lbl with
  | request env req =>
    have hop : H.view.op (.request env req) = H.drives env req := rfl
    cases hd : H.drives env req with
    | item x => exact absurd hd (h.items env req x)
    | accept | refuse | finish | look => simp [hop, hd]
  | waitEnds timedOut encodeRet => rfl
  | result r => rfl
  | done => rfl

end ScanHandler

end NetworkProv.Scan
