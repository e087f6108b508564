import NetworkProv.Proto.Payload
import NetworkProv.Stack.Backend

/-!
# Serving a network type

The handlers of a network type as they are registered: nanopb decodes a request,
the handler runs, and nanopb encodes the answer. A handler may keep its request open, as a
blocking scan start does; what happens until its wait ends is then part of what
the environment answers. A `Kind` is a network type up to that.

* `Kind.Lawful.backend`: with a `PayloadCodec`, a request is one request of the machine
  and gets one answer, which encodes, in at most `MAX_PAYLOAD` bytes, and is read back.
-/
namespace NetworkProv.Stack
open NetworkProv.Core Protocomm Endpoints Proto

/-- What is answered during one request. `meanwhile`: what happens while it is kept open,
`timedOut`: the wait does not see the end of it. -/
structure ReqCalls (E I : Type) where
  calls : E
  meanwhile : List I
  timedOut : Bool

/-- Requests `Q` and responses `R`, over calls that answer `E`. -/
structure Kind (N I O E Q R : Type) where
  machine : Machine N I O
  pb : PayloadPb
  /-- what the bytes of a request to an endpoint say -/
  decode : CStr → Bytes → Q
  /-- The answer, or `none` for a request that is kept open. -/
  handle : E → Q → N → Option (Int × Option R) × N
  /-- the end of the wait of a request -/
  waitEnds : (timedOut : Bool) → E → N → Option ((Int × Option R) × N)
  timeOut : E → N → (Int × Option R) × N
  message : R → Payload
  /-- The inputs of the machine: requests, ends of waits, and events. -/
  request : E → Q → I
  waitEnd : (timedOut : Bool) → E → I
  asked : I → Option Q
  isWaitEnd : I → Bool
  answer : O → Int × Option R
  Started : N → Prop
  /-- a request is kept open -/
  waiting : N → Bool

namespace Kind

variable {N I O E Q R : Type}

/-- No part of serving a request. -/
def isEvent (K : Kind N I O E Q R) (i : I) : Bool := (K.asked i).isNone && !K.isWaitEnd i

/-- An event that cannot happen does not. -/
def happens (K : Kind N I O E Q R) (n : N) (i : I) : N :=
  if K.isEvent i then ((K.machine.step n i).map (·.1)).getD n else n

/-- An answer as a message. -/
def messageOf (K : Kind N I O E Q R) (r : Int × Option R) : Int × Option Payload := (r.1, r.2.map K.message)

/-- A handler as it is registered for `ep`. The wait ends when the semaphore is given, or else with the
timeout. -/
def serve (K : Kind N I O E Q R) (ep : CStr) : ReqHandler (App N (ReqCalls E I)) := fun a inbuf =>
  let e := a.env 0
  match K.handle e.calls (K.decode ep inbuf) a.net with
  | (some r, n) => (a.next n, encoded K.pb (K.messageOf r))
  | (none, n) =>
    let n := e.meanwhile.foldl K.happens n
    match (K.waitEnds e.timedOut e.calls n).getD (K.timeOut e.calls n) with
    | (r, n) => (a.next n, encoded K.pb (K.messageOf r))

/-- The request that a step is. -/
def requestOf (K : Kind N I O E Q R) (x : Entry N I O) : Option Q := K.asked x.lbl

/-- The answer that a step gives to the request that is served. -/
def answered (K : Kind N I O E Q R) (x : Entry N I O) : Option (Int × Option R) :=
  if K.isWaitEnd x.lbl || ((K.asked x.lbl).isSome && !K.waiting x.post) then some (K.answer x.out) else none

/-- The run serves one request, whose answer is `ret` and `out`. -/
def Answers (K : Kind N I O E Q R) (ep : CStr) (inbuf : Bytes) (t : List (Entry N I O)) (ret : Int)
    (out : Bytes) : Prop :=
  ∃ r, t.filterMap K.requestOf = [K.decode ep inbuf] ∧ t.filterMap K.answered = [r] ∧ ret = r.1 ∧
    AnswerBytes K.pb (K.messageOf r) out

def backend (K : Kind N I O E Q R) : Backend N I O (ReqCalls E I) where
  machine := K.machine
  isEvent := K.isEvent
  scan := K.serve EP_SCAN
  config := K.serve EP_CONFIG
  ctrl := K.serve EP_CTRL
  Ready n := K.Started n ∧ K.waiting n = false
  Answers := K.Answers

/-- What the machine does with a request, the end of a wait and an event, and nanopb with an answer. -/
structure Lawful (K : Kind N I O E Q R) : Prop where
  codec : PayloadCodec K.pb
  asked : ∀ e q, K.asked (K.request e q) = some q ∧ K.isWaitEnd (K.request e q) = false
  waitEnd : ∀ t e, K.asked (K.waitEnd t e) = none ∧ K.isWaitEnd (K.waitEnd t e) = true
  handle : ∀ e q n, K.Started n → K.waiting n = false → ∃ o,
    K.machine.step n (K.request e q) = some ((K.handle e q n).2, o) ∧
      (∀ r, (K.handle e q n).1 = some r → K.answer o = r) ∧
      K.waiting (K.handle e q n).2 = (K.handle e q n).1.isNone ∧ K.Started (K.handle e q n).2
  ends : ∀ t e n n' r, K.waitEnds t e n = some (r, n') → ∃ o,
    K.machine.step n (K.waitEnd t e) = some (n', o) ∧ K.answer o = r ∧ K.waiting n' = false ∧
      (K.Started n → K.Started n')
  timeOut : ∀ e n, K.waiting n = true → K.waitEnds true e n = some (K.timeOut e n)
  event : ∀ n n' i o, K.machine.step n i = some (n', o) → K.isEvent i = true →
    K.waiting n' = K.waiting n ∧ (K.Started n → K.Started n')
  sound : ∀ e q n r, (K.handle e q n).1 = some r → Sound (K.messageOf r)
  soundEnd : ∀ t e n n' r, K.waitEnds t e n = some (r, n') → Sound (K.messageOf r)

variable {K : Kind N I O E Q R}

theorem isEvent_eq_true {i : I} : K.isEvent i = true ↔ K.asked i = none ∧ K.isWaitEnd i = false := by
  simp [isEvent]

/-- What happens during a wait is a run of events. -/
theorem Lawful.meanwhile (h : K.Lawful) (is : List I) (n : N) :
    ∃ t, K.machine.Run n t (is.foldl K.happens n) ∧ K.waiting (is.foldl K.happens n) = K.waiting n ∧
      (K.Started n → K.Started (is.foldl K.happens n)) ∧
      t.filterMap K.requestOf = [] ∧ t.filterMap K.answered = [] := by
  induction is generalizing n with
  | nil => exact ⟨[], .nil, rfl, id, rfl, rfl⟩
  | cons i is ih =>
    rw [List.foldl_cons]
    obtain ⟨t, hr, hw, hst, h1, h2⟩ := ih (K.happens n i)
    by_cases hi : K.isEvent i = true
    · cases hn : K.machine.step n i with
      | none =>
        have hsame : K.happens n i = n := by simp [happens, hi, hn]
        rw [hsame] at hr hw hst ⊢
        exact ⟨t, hr, hw, hst, h1, h2⟩
      | some r =>
        obtain ⟨n', o⟩ := r
        have hnext : K.happens n i = n' := by simp [happens, hi, hn]
        rw [hnext] at hr hw hst ⊢
        obtain ⟨hw', hst'⟩ := h.event n n' i o hn hi
        obtain ⟨ha, he⟩ := isEvent_eq_true.1 hi
        have hnone : K.requestOf ⟨n, i, o, n'⟩ = none ∧ K.answered ⟨n, i, o, n'⟩ = none :=
          ⟨ha, by simp [answered, ha, he]⟩
        refine ⟨⟨n, i, o, n'⟩ :: t, .cons (e := ⟨n, i, o, n'⟩) hn hr, hw.trans hw', hst ∘ hst', ?_, ?_⟩
        · rw [List.filterMap_cons_none hnone.1, h1]
        · rw [List.filterMap_cons_none hnone.2, h2]
    · have hsame : K.happens n i = n := by simp [happens, hi]
      rw [hsame] at hr hw hst ⊢
      exact ⟨t, hr, hw, hst, h1, h2⟩

/-- A wait that has begun ends, one way or the other. -/
theorem Lawful.over (h : K.Lawful) (e : ReqCalls E I) {n : N} (hw : K.waiting n = true) :
    ∃ t, K.waitEnds t e.calls n = some ((K.waitEnds e.timedOut e.calls n).getD (K.timeOut e.calls n)) := by
  cases he : K.waitEnds e.timedOut e.calls n with
  | some r => exact ⟨e.timedOut, he⟩
  | none => exact ⟨true, h.timeOut e.calls n hw⟩

/-- A registered handler does what the machine does with its request. -/
theorem Lawful.serve (h : K.Lawful) (ep : CStr) (a : App N (ReqCalls E I)) (inbuf : Bytes)
    (hst : K.Started a.net) (hfree : K.waiting a.net = false) :
    ∃ t, K.machine.Run a.net t (K.serve ep a inbuf).1.net ∧
      (K.Started (K.serve ep a inbuf).1.net ∧ K.waiting (K.serve ep a inbuf).1.net = false) ∧
      K.Answers ep inbuf t (K.serve ep a inbuf).2.1 (K.serve ep a inbuf).2.2 := by
  unfold Kind.serve
  dsimp only
  generalize he : a.env 0 = e
  obtain ⟨o, hstep, hans, hwait, hst'⟩ := h.handle e.calls (K.decode ep inbuf) a.net hst hfree
  obtain ⟨hask, hnend⟩ := h.asked e.calls (K.decode ep inbuf)
  have hsound := h.sound e.calls (K.decode ep inbuf) a.net
  generalize K.handle e.calls (K.decode ep inbuf) a.net = q at hstep hans hwait hst' hsound ⊢
  obtain ⟨r, n⟩ := q
  let first : Entry N I O := ⟨a.net, K.request e.calls (K.decode ep inbuf), o, n⟩
  have hok : K.machine.Ok first := hstep
  have hreq : K.requestOf first = some (K.decode ep inbuf) := hask
  cases r with
  | some r =>
    obtain ⟨out, hout, hbytes⟩ := (hsound r rfl).encoded h.codec
    have hres : K.answered first = some r := by
      simp [answered, first, hask, hwait, hans r rfl]
    dsimp only
    rw [hout]
    refine ⟨[first], .one hok, ⟨hst', hwait⟩, r, ?_, ?_, rfl, hbytes⟩
    · rw [List.filterMap_cons_some hreq]
      rfl
    · rw [List.filterMap_cons_some hres]
      rfl
  | none =>
    have hres : K.answered first = none := by simp [answered, first, hnend, hwait]
    dsimp only
    obtain ⟨t, hrun, hw, hst₂, h1, h2⟩ := h.meanwhile e.meanwhile n
    generalize e.meanwhile.foldl K.happens n = n₂ at hrun hw hst₂ ⊢
    obtain ⟨tm, hover⟩ := h.over e (hw.trans hwait)
    generalize (K.waitEnds e.timedOut e.calls n₂).getD (K.timeOut e.calls n₂) = q at hover ⊢
    obtain ⟨r, n₃⟩ := q
    obtain ⟨o₃, hend, hans₃, hfree₃, hst₃⟩ := h.ends tm e.calls n₂ n₃ r hover
    obtain ⟨out, hout, hbytes⟩ := (h.soundEnd tm e.calls n₂ n₃ r hover).encoded h.codec
    obtain ⟨haskEnd, hisEnd⟩ := h.waitEnd tm e.calls
    let last : Entry N I O := ⟨n₂, K.waitEnd tm e.calls, o₃, n₃⟩
    have hlast : K.requestOf last = none ∧ K.answered last = some r :=
      ⟨haskEnd, by simp [answered, last, hisEnd, hans₃]⟩
    dsimp only
    rw [hout]
    refine ⟨first :: (t ++ [last]), (hrun.append (.one (e := last) hend)).cons hok,
      ⟨hst₃ (hst₂ hst'), hfree₃⟩, r, ?_, ?_, rfl, hbytes⟩
    · rw [List.filterMap_cons_some hreq, List.filterMap_append, h1, List.filterMap_cons_none hlast.1]
      rfl
    · rw [List.filterMap_cons_none hres, List.filterMap_append, h2, List.filterMap_cons_some hlast.2]
      rfl

/-- What a registered handler of the network type does is what its machine does. -/
theorem Lawful.backend (h : K.Lawful) : K.backend.Lawful where
  serves ep hd hep a inbuf hr := by
    obtain ⟨hst, hfree⟩ : K.Started a.net ∧ K.waiting a.net = false := hr
    unfold Backend.handler at hep
    split at hep
    · rename_i he
      cases hep
      rw [he]
      exact h.serve EP_SCAN a inbuf hst hfree
    split at hep
    · rename_i he
      cases hep
      rw [he]
      exact h.serve EP_CONFIG a inbuf hst hfree
    split at hep
    · rename_i he
      cases hep
      rw [he]
      exact h.serve EP_CTRL a inbuf hst hfree
    · cases hep
  events n n' i o hs hi hr := by
    obtain ⟨hw, hst⟩ := h.event n n' i o hs hi
    exact ⟨hst hr.1, hw.trans hr.2⟩

end Kind

end NetworkProv.Stack
