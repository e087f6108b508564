import NetworkProv.Security.Gate

/-!
# A session as its transport sees it

A transport tells sessions apart by what it has of its own (a connection, a
cookie, a number), and asks protocomm for one thing after the other.

* `ask`: a request, in a session opened for it or in the open one.
* `Seen`: what is known of the context while only `O` and `V` are kept account of, with a
  lemma for each thing asked.
* `Conduit`: a machine whose steps ask protocomm for something, under a key of its own.
* `carried_verified`: with security 1, bytes get to a handler only under the key of a
  session in which a Command1 was verified, under the same key.
-/
namespace NetworkProv.Security1
open NetworkProv.Core Session Protocomm

variable {σ C W : Type}

/-- Opens a session if it is to. -/
def openIf (o : Option Env) (s : Session σ C W) : Session σ C W := o.elim s fun e => protocommOpenSession e s

/-- A request in a session opened for it, or in the open one. -/
def ask (o : Option Env) (e : ReqEnv) (ep : CStr) (inbuf : Bytes) (s : Session σ C W) : Session σ C W × Reply :=
  protocommReqHandle e (openIf o s) (some ep) inbuf

/-- What protocomm is asked for. -/
def askOps (o : Option Env) (e : ReqEnv) (ep : CStr) (inbuf : Bytes) : List PcOp :=
  (o.map PcOp.openSession).toList ++ [.req e (some ep) inbuf]

theorem ask_run {o : Option Env} {e : ReqEnv} {ep : CStr} {inbuf : Bytes} {s s' : Session σ C W} {r : Reply}
    (h : ask o e ep inbuf s = (s', r)) : ∃ t, Protocomm.machine.Run s t s' ∧ t.map (·.lbl) = askOps o e ep inbuf ∧
      t.getLast?.map (·.out) = some r := by
  have hreq : Protocomm.machine.Ok (⟨openIf o s, .req e (some ep) inbuf, r, s'⟩ : PcEntry σ C W) := by
    change some (protocommReqHandle e (openIf o s) (some ep) inbuf) = some (s', r)
    exact congrArg some h
  cases o with
  | none => exact ⟨_, .one hreq, rfl, rfl⟩
  | some eo =>
    have hopen : Protocomm.machine.Ok
        (⟨s, .openSession eo, .fail 0, protocommOpenSession eo s⟩ : PcEntry σ C W) := rfl
    exact ⟨_, (Machine.Run.one hopen).append (.one hreq), rfl, rfl⟩

/-- A session has a context only where `O` holds, and one in SEC1_DONE only where `V` does. -/
structure Seen (P : Psa) (pb : Nanopb) (O V : Prop) (s : PcSession σ) : Prop where
  sec : s.pc.sec = some (networkProvSecurity1 P pb)
  opened : ∀ ctx, s.pc.secCtx = some ctx → O
  verified : ∀ ctx, s.pc.secCtx = some ctx → ctx.state = .done → V

/-- The request, as a step. -/
def reqEntry (e : ReqEnv) (ep : CStr) (inbuf : Bytes) (s : PcSession σ) : Sec1PcEntry σ :=
  ⟨s, .req e (some ep) inbuf, (protocommReqHandle e s (some ep) inbuf).2,
    (protocommReqHandle e s (some ep) inbuf).1⟩

theorem reqEntry_ok (e : ReqEnv) (ep : CStr) (inbuf : Bytes) (s : PcSession σ) :
    Protocomm.machine.Ok (reqEntry e ep inbuf s) := rfl

section Seen

variable {P : Psa} {pb : Nanopb} {O V O' V' : Prop} {s : PcSession σ}

theorem seen_fresh (hsec : s.pc.sec = some (networkProvSecurity1 P pb)) (hc : s.pc.secCtx = none) :
    Seen P pb O V s := by
  refine ⟨hsec, fun ctx h => ?_, fun ctx h => ?_⟩ <;> (rw [hc] at h; cases h)

theorem Seen.mono (h : Seen P pb O V s) (hO : O → O') (hV : V → V') : Seen P pb O' V' s :=
  ⟨h.sec, fun ctx hc => hO (h.opened ctx hc), fun ctx hc hd => hV (h.verified ctx hc hd)⟩

theorem Seen.closes (h : Seen P pb O V s) : Seen P pb O' V' (protocommCloseSession s) := by
  have hcfg : SameConfig s (protocommCloseSession s) := Session.step_config (l := .closeSession) rfl
  exact seen_fresh (by rw [hcfg]; exact h.sec) (closeSession_none h.sec)

theorem opened_init {e : Env} {ctx : Sec1Ctx} (hsec : s.pc.sec = some (networkProvSecurity1 P pb))
    (hc : (protocommOpenSession e s).pc.secCtx = some ctx) : ctx.state = .init := by
  rcases openSession_init (e := e) hsec
      (rfl : (networkProvSecurity1 P pb).init = some (sec1Init P)) with hn | ⟨w, c, w', hi, hctx⟩
  · rw [hn] at hc
    cases hc
  · rw [hctx] at hc
    cases hc
    exact (sec1Init_ok hi).1

theorem Seen.opens (h : Seen P pb O V s) (hO : O') (e : Env) : Seen P pb O' V' (protocommOpenSession e s) := by
  have hcfg := openSession_config e s
  refine ⟨by rw [hcfg]; exact h.sec, fun _ _ => hO, fun ctx hc hd => ?_⟩
  rw [opened_init h.sec hc] at hd
  cases hd

/-- Nothing verifies in the request that a session was opened for. -/
theorem opened_unverified (hsec : s.pc.sec = some (networkProvSecurity1 P pb)) (eo : Env) (e : ReqEnv) (ep : CStr)
    (inbuf : Bytes) : ¬ VerifiesOpen P pb (reqEntry e ep inbuf (protocommOpenSession eo s)) := by
  rintro ⟨_, _, _, ctx, p, -, -, hc, -, -, hst, -⟩
  rw [opened_init hsec hc] at hst
  cases hst

/-- A request takes a context to SEC1_DONE only if it is a Command1 that verifies. -/
theorem Seen.asks (h : Seen P pb O V s) (e : ReqEnv) (ep : CStr) (inbuf : Bytes) (hO : O → O') (hV : V → V')
    (hver : O → VerifiesOpen P pb (reqEntry e ep inbuf s) → V') :
    Seen P pb O' V' (protocommReqHandle e s (some ep) inbuf).1 := by
  have hcfg : SameConfig s (protocommReqHandle e s (some ep) inbuf).1 :=
    Session.step_config (l := .req e (some ep) inbuf) rfl
  have hkeep : ∀ ctx', (protocommReqHandle e s (some ep) inbuf).1.pc.secCtx = some ctx' →
      ∃ ctx, s.pc.secCtx = some ctx ∧
        (ctx'.state = .done → ctx.state = .done ∨ VerifiesOpen P pb (reqEntry e ep inbuf s)) := by
    rcases sec1_pc_step_cases (reqEntry_ok e ep inbuf s) h.sec with ⟨⟨_, hl⟩, -⟩ | ⟨hl, -⟩ | ⟨-, hk⟩
    · cases hl
    · cases hl
    · exact hk
  refine ⟨by rw [hcfg]; exact h.sec, fun ctx' hc' => ?_, fun ctx' hc' hd => ?_⟩
  · obtain ⟨ctx, hc, -⟩ := hkeep ctx' hc'
    exact hO (h.opened ctx hc)
  · obtain ⟨ctx, hc, hk⟩ := hkeep ctx' hc'
    rcases hk hd with hdone | hv
    · exact hV (h.verified ctx hc hdone)
    · exact hver (h.opened ctx hc) hv

/-- Bytes get to a handler in SEC1_DONE only. -/
theorem Seen.called (h : Seen P pb O V s) {e : ReqEnv} {ep : CStr} {inbuf : Bytes} {s' : PcSession σ} {r : Reply}
    (hr : protocommReqHandle e s (some ep) inbuf = (s', r)) {call : Call} (hc : r.call = some call)
    (hne : inbuf ≠ []) : V := by
  have hout : (reqEntry e ep inbuf s).out.call = some call := by
    unfold reqEntry
    rw [hr]
    exact hc
  obtain ⟨ctx, hctx, hdone⟩ := call_done (reqEntry_ok e ep inbuf s) h.sec hout fun he => by
    obtain ⟨_, _, _, _, hl, -⟩ := he
    cases hl
    exact hne rfl
  exact h.verified ctx hctx hdone

end Seen

/-! ## Transports -/

/-- What a step of a transport asks for. -/
inductive Act
  | idle
  | closed
  | opened (e : Env)
  | asked (o : Option Env) (e : ReqEnv) (ep : CStr) (inbuf : Bytes) (r : Reply)

/-- The open session stays the one it was. -/
def Act.Quiet : Act → Prop
  | .idle => True
  | .asked none _ _ _ _ => True
  | _ => False

/-- A session is opened. -/
def Act.Opens : Act → Prop
  | .opened _ => True
  | .asked (some _) _ _ _ _ => True
  | _ => False

/-- What a transport asked for is what became of the session. -/
def Act.Performs : Act → Session σ C W → Session σ C W → Prop
  | .idle, s, s' => s' = s
  | .closed, s, s' => s' = protocommCloseSession s
  | .opened e, s, s' => s' = protocommOpenSession e s
  | .asked o e ep inbuf r, s, s' => ask o e ep inbuf s = (s', r)

variable {S L O K : Type}

/-- A machine that keeps an instance of protocomm, and a key of the session it has open. -/
structure Conduit (σ S L O K : Type) where
  sess : S → PcSession σ
  key : S → Option K
  act : Entry S L O → Act

namespace Conduit

variable (T : Conduit σ S L O K) (P : Psa) (pb : Nanopb)

/-- The step does what it asks for, and the key is that of the open session. -/
structure Keeps (x : Entry S L O) : Prop where
  performs : (T.act x).Performs (T.sess x.pre) (T.sess x.post)
  key : (T.act x).Quiet → T.key x.post = T.key x.pre
  keyed : (T.act x).Opens → (T.key x.post).isSome

def OpensAs (k : K) (x : Entry S L O) : Prop := (T.act x).Opens ∧ T.key x.post = some k

/-- A Command1 that verifies, in the open session of this key. -/
def VerifiesAs (k : K) (x : Entry S L O) : Prop :=
  T.key x.pre = some k ∧ ∃ e ep inbuf r, T.act x = .asked none e ep inbuf r ∧
    VerifiesOpen P pb (reqEntry e ep inbuf (T.sess x.pre))

def OpenedAs (k : K) (t : List (Entry S L O)) : Prop := Since (T.OpensAs k) (fun x => (T.act x).Quiet) t

def VerifiedAs (k : K) (t : List (Entry S L O)) : Prop :=
  SinceThen (T.OpensAs k) (T.VerifiesAs P pb k) (fun x => (T.act x).Quiet) t

/-- Bytes get to a handler only under the key of a verified session. -/
def Checked (t : List (Entry S L O)) (x : Entry S L O) : Prop :=
  ∀ o e ep inbuf r call, T.act x = .asked o e ep inbuf r → inbuf ≠ [] → r.call = some call →
    o = none ∧ ∃ k, T.key x.pre = some k ∧ T.VerifiedAs P pb k t

/-- The open session is that of the key. -/
def Known (t : List (Entry S L O)) (s : S) : Prop :=
  Seen P pb (∃ k, T.key s = some k ∧ T.OpenedAs k t) (∃ k, T.key s = some k ∧ T.VerifiedAs P pb k t) (T.sess s)

variable {T P pb}

theorem Keeps.opened {x : Entry S L O} (hx : T.Keeps x) (ho : (T.act x).Opens) (t : List (Entry S L O)) :
    ∃ k, T.key x.post = some k ∧ T.OpenedAs k (t ++ [x]) := by
  obtain ⟨k, hk⟩ := Option.isSome_iff_exists.1 (hx.keyed ho)
  exact ⟨k, hk, Since.now ⟨ho, hk⟩⟩

theorem Keeps.stays_opened {x : Entry S L O} (hx : T.Keeps x) (hq : (T.act x).Quiet) {t : List (Entry S L O)} :
    (∃ k, T.key x.pre = some k ∧ T.OpenedAs k t) → ∃ k, T.key x.post = some k ∧ T.OpenedAs k (t ++ [x]) := by
  rintro ⟨k, hk, ho⟩
  exact ⟨k, (hx.key hq).trans hk, Since.snoc ho hq⟩

theorem Keeps.stays_verified {x : Entry S L O} (hx : T.Keeps x) (hq : (T.act x).Quiet) {t : List (Entry S L O)} :
    (∃ k, T.key x.pre = some k ∧ T.VerifiedAs P pb k t) →
      ∃ k, T.key x.post = some k ∧ T.VerifiedAs P pb k (t ++ [x]) := by
  rintro ⟨k, hk, hv⟩
  exact ⟨k, (hx.key hq).trans hk, SinceThen.snoc hv hq⟩

/-- Nothing is asked of an endpoint. -/
theorem checked_of_act {t : List (Entry S L O)} {x : Entry S L O}
    (h : ∀ o e ep inbuf r, T.act x ≠ .asked o e ep inbuf r) : T.Checked P pb t x :=
  fun o e ep inbuf r _ hc => absurd hc (h o e ep inbuf r)

theorem known_step {t : List (Entry S L O)} {x : Entry S L O} (hx : T.Keeps x) (h : T.Known P pb t x.pre) :
    T.Known P pb (t ++ [x]) x.post ∧ T.Checked P pb t x := by
  have hperf := hx.performs
  unfold Known at h ⊢
  cases ha : T.act x with
  | idle =>
    have hq : (T.act x).Quiet := by rw [ha]; trivial
    rw [ha] at hperf
    refine ⟨?_, checked_of_act fun _ _ _ _ _ hc => by rw [ha] at hc; cases hc⟩
    rw [show T.sess x.post = _ from hperf]
    exact h.mono (hx.stays_opened hq) (hx.stays_verified hq)
  | closed =>
    rw [ha] at hperf
    refine ⟨?_, checked_of_act fun _ _ _ _ _ hc => by rw [ha] at hc; cases hc⟩
    rw [show T.sess x.post = _ from hperf]
    exact h.closes
  | opened e =>
    have ho : (T.act x).Opens := by rw [ha]; trivial
    rw [ha] at hperf
    refine ⟨?_, checked_of_act fun _ _ _ _ _ hc => by rw [ha] at hc; cases hc⟩
    rw [show T.sess x.post = _ from hperf]
    exact h.opens (hx.opened ho t) e
  | asked o e ep inbuf r =>
    cases o with
    | none =>
      have hreq : protocommReqHandle e (T.sess x.pre) (some ep) inbuf = (T.sess x.post, r) := by
        rwa [ha] at hperf
      have hq : (T.act x).Quiet := by rw [ha]; trivial
      refine ⟨?_, fun o e' ep' inbuf' r' call hc hne hcall => ?_⟩
      · rw [show T.sess x.post = (protocommReqHandle e (T.sess x.pre) (some ep) inbuf).1 by rw [hreq]]
        refine h.asks e ep inbuf (hx.stays_opened hq) (hx.stays_verified hq) ?_
        rintro ⟨k, hk, ho⟩ hv
        exact ⟨k, (hx.key hq).trans hk, Since.andThen ho hq ⟨hk, e, ep, inbuf, r, ha, hv⟩⟩
      · rw [ha] at hc
        cases hc
        exact ⟨rfl, h.called hreq hcall hne⟩
    | some eo =>
      -- in a session opened for it nothing verifies, and nothing gets to a handler
      have hreq : protocommReqHandle e (protocommOpenSession eo (T.sess x.pre)) (some ep) inbuf =
          (T.sess x.post, r) := by rwa [ha] at hperf
      have hopen : Seen P pb True False (protocommOpenSession eo (T.sess x.pre)) := h.opens trivial eo
      have ho : (T.act x).Opens := by rw [ha]; trivial
      refine ⟨?_, fun o e' ep' inbuf' r' call hc hne hcall => ?_⟩
      · rw [show T.sess x.post = (protocommReqHandle e (protocommOpenSession eo (T.sess x.pre)) (some ep) inbuf).1
          by rw [hreq]]
        exact hopen.asks e ep inbuf (fun _ => hx.opened ho t) False.elim fun _ hv =>
          absurd hv (opened_unverified h.sec eo e ep inbuf)
      · rw [ha] at hc
        cases hc
        exact (hopen.called hreq hcall hne).elim

/-- **Bytes are for whoever holds the key.** In every run of a transport whose steps do what they ask
protocomm for, and whose key changes only as it opens a session: bytes of a request get to a
handler only in the session of its key, after a Command1 was verified in it under that key. -/
theorem carried_verified {M : Machine S L O} {s₀ s : S} (hsec : (T.sess s₀).pc.sec = some (networkProvSecurity1 P pb))
    (hc : (T.sess s₀).pc.secCtx = none) {t : List (Entry S L O)} (hr : M.Run s₀ t s) (hk : ∀ x ∈ t, T.Keeps x) :
    Always (T.Checked P pb) t :=
  (hr.always (P := T.Known P pb) (seen_fresh hsec hc) (fun _ _ _ _ h hk => known_step hk h) hk).2

end Conduit

end NetworkProv.Security1
