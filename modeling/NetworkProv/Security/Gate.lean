import NetworkProv.Protocomm
import NetworkProv.Security.Sec1Spec
import NetworkProv.Security.Wire

/-!
# Security 1 under protocomm: what reaches a handler

`handle_data` leaves the check of the session to the scheme: `sec1_encrypt`
refuses to transform anything before SEC1_DONE. It calls it only when the
request has bytes, so an empty request reaches the handler of a data endpoint
in any open session.

* `sec1_pc_step_cases`: only an open gives a session a context, and only a
  Command1 that verifies takes it to SEC1_DONE.
* `gated_iff`: in any run, handlers run only in sessions verified since they
  were opened iff no empty data request comes before that verification.
-/
namespace NetworkProv.Security1
open NetworkProv.Core Session Protocomm

/-- mirrors src/security1.c:374-381 -/
def networkProvSecurity1 (P : Psa) (pb : Nanopb) : ProtocommSecurity Sec1Ctx KeyStore where
  version := 1
  init := some (sec1Init P)
  cleanup := some sec1Cleanup
  handshake := some (sec1Handshake P pb)
  encrypt := sec1Encrypt P
  decrypt := sec1Encrypt P

variable {σ : Type}

abbrev PcSession (σ : Type) := Protocomm.Session σ Sec1Ctx KeyStore

abbrev Sec1PcEntry (σ : Type) := PcEntry σ Sec1Ctx KeyStore

/-! ## States across a step -/

/-- A message moves a context to SEC1_DONE only if it verifies. -/
theorem sec1Handshake_state {P : Psa} {pb : Nanopb} {e : Env} {w w' : KeyStore} {ctx : Sec1Ctx}
    {inbuf : Bytes} {r : Except Int Bytes} {v : Option Sec1Ctx}
    (h : sec1Handshake P pb e w (some ctx) inbuf = (r, v, w')) :
    ∃ ctx', v = some ctx' ∧ (ctx'.state = .done → ctx.state = .done ∨
      ∃ p, decodeSec1 pb inbuf = some p ∧ p.msg = sessionCommand1 ∧ Cmd1Verifies P pb e ctx p) := by
  rcases sec1Handshake_cases h with ⟨p, c, hd, hm, hc, rfl⟩ | ⟨p, c, hd, hm, hc, rfl, -⟩ |
      ⟨-, rfl, -, -⟩
  · refine ⟨c, rfl, fun hdone => ?_⟩
    obtain ⟨-, ⟨-, -, hs, -⟩ | ⟨-, hs, -⟩⟩ := handleCmd0_cases hc
    · exact .inl (hs ▸ hdone)
    · rw [hs] at hdone; cases hdone
  · refine ⟨c, rfl, fun hdone => ?_⟩
    rcases handleCmd1_cases hc with ⟨-, hf, -⟩ | ⟨hv, -⟩
    · rw [hf] at hdone; exact .inl hdone
    · exact .inr ⟨p, hd, hm, hv⟩
  · exact ⟨ctx, rfl, .inl⟩

/-- A data request changes the cipher operation at most. -/
theorem sec1_handleData_ctx {P : Psa} {pb : Nanopb} {e : ReqEnv} {s s' : PcSession σ} {name : CStr}
    {handler : ReqHandler σ} {inbuf : Bytes} {r : Reply} {ctx : Sec1Ctx}
    (hc : s.pc.secCtx = some ctx)
    (h : handleData (networkProvSecurity1 P pb) e s name handler inbuf = (s', r)) :
    s'.ext = s.ext ∧ ∃ ctx', s'.pc.secCtx = some ctx' ∧ SameButCipher ctx ctx' :=
  handleData_ctx (R := SameButCipher) (fun _ => rfl) SameButCipher.trans
    sec1Encrypt_ctx sec1Encrypt_ctx hc h

/-- The step opens or closes a session. -/
def Resets (x : Sec1PcEntry σ) : Prop := (∃ e, x.lbl = .openSession e) ∨ x.lbl = .closeSession

/-- The step is a Command1 that verifies, on the context of the open session. -/
def VerifiesOpen (P : Psa) (pb : Nanopb) (x : Sec1PcEntry σ) : Prop :=
  ∃ e name inbuf ctx p, x.lbl = .req e (some name) inbuf ∧ SecurityEp x.pre.pc name ∧
    x.pre.pc.secCtx = some ctx ∧ decodeSec1 pb inbuf = some p ∧ p.msg = sessionCommand1 ∧
    Cmd1Verifies P pb e.handshake ctx p

theorem sec1_pc_step_cases {P : Psa} {pb : Nanopb} {x : Sec1PcEntry σ} (hx : machine.Ok x)
    (hsec : x.pre.pc.sec = some (networkProvSecurity1 P pb)) :
    ((∃ e, x.lbl = .openSession e) ∧
      ∀ ctx', x.post.pc.secCtx = some ctx' → ctx'.state = .init) ∨
    (x.lbl = .closeSession ∧ x.post.pc.secCtx = none) ∨
    (¬ Resets x ∧ ∀ ctx', x.post.pc.secCtx = some ctx' → ∃ ctx, x.pre.pc.secCtx = some ctx ∧
      (ctx'.state = .done → ctx.state = .done ∨ VerifiesOpen P pb x)) := by
  obtain ⟨s, l, r, s'⟩ := x
  change s.step l = some (s', r) at hx
  change s.pc.sec = _ at hsec
  cases l with
  | openSession e =>
    cases hx
    refine .inl ⟨⟨e, rfl⟩, fun ctx' hc' => ?_⟩
    rcases openSession_init (e := e) hsec
        (rfl : (networkProvSecurity1 P pb).init = some (sec1Init P)) with hn | ⟨w, c, w', hi, hc⟩
    · rw [hn] at hc'; cases hc'
    · rw [hc] at hc'; cases hc'
      exact (sec1Init_ok hi).1
  | closeSession =>
    cases hx
    exact .inr (.inl ⟨rfl, closeSession_none hsec⟩)
  | req e epName inbuf =>
    have hnr : ¬ Resets (⟨s, .req e epName inbuf, r, s'⟩ : Sec1PcEntry σ) := by
      rintro (⟨e', h⟩ | h) <;> cases h
    refine .inr (.inr ⟨hnr, fun ctx' hc' => ?_⟩)
    simp only [Session.step, Option.some.injEq] at hx
    rcases reqHandle_cases hx with ⟨rfl, -⟩ | ⟨n, sec, hs, o, c, w, rfl, hep, h1, h2, h3, rfl, rfl⟩ |
        ⟨n, hd, sec, c, rfl, hep, h1, h2, h3⟩
    · exact ⟨ctx', hc', .inl⟩
    · rw [hsec] at h1; cases h1
      cases h2
      cases hc : s.pc.secCtx with
      | none =>
        rw [hc] at h3
        cases h3
        cases hc'
      | some ctx =>
        rw [hc] at h3
        obtain ⟨ctx₁, rfl, hst⟩ := sec1Handshake_state h3
        cases hc'
        refine ⟨ctx, rfl, fun hdone => (hst hdone).imp id ?_⟩
        intro hx
        obtain ⟨p, hp1, hp2, hp3⟩ := hx
        exact ⟨e, n, inbuf, ctx, p, rfl, hep, hc, hp1, hp2, hp3⟩
    · rw [hsec] at h1; cases h1
      obtain ⟨-, c', hc₁, hsame⟩ := sec1_handleData_ctx h2 h3
      rw [hc'] at hc₁; cases hc₁
      rw [hsame]
      exact ⟨c, h2, .inl⟩

/-! ## The history of an open session -/

/-- A session was opened and a Command1 verified in it; nothing has opened or
closed a session since that open. -/
def VerifiedSinceOpen (P : Psa) (pb : Nanopb) (t : List (Sec1PcEntry σ)) : Prop :=
  ∃ t₁ o t₂ v t₃, t = t₁ ++ o :: (t₂ ++ v :: t₃) ∧ (∃ e, o.lbl = .openSession e) ∧
    VerifiesOpen P pb v ∧ ∀ x ∈ t₂ ++ v :: t₃, ¬ Resets x

def OpenedSince (t : List (Sec1PcEntry σ)) : Prop :=
  ∃ t₁ o t₂, t = t₁ ++ o :: t₂ ∧ (∃ e, o.lbl = .openSession e) ∧ ∀ x ∈ t₂, ¬ Resets x

theorem OpenedSince.snoc {t : List (Sec1PcEntry σ)} {x : Sec1PcEntry σ} (h : OpenedSince t)
    (hx : ¬ Resets x) : OpenedSince (t ++ [x]) :=
  Since.snoc (K := fun x => ¬ Resets x) h hx

theorem VerifiedSinceOpen.snoc {P : Psa} {pb : Nanopb} {t : List (Sec1PcEntry σ)}
    {x : Sec1PcEntry σ} (h : VerifiedSinceOpen P pb t) (hx : ¬ Resets x) :
    VerifiedSinceOpen P pb (t ++ [x]) :=
  SinceThen.snoc (K := fun x => ¬ Resets x) h hx

theorem OpenedSince.verified {P : Psa} {pb : Nanopb} {t : List (Sec1PcEntry σ)}
    {x : Sec1PcEntry σ} (h : OpenedSince t) (hx : ¬ Resets x) (hv : VerifiesOpen P pb x) :
    VerifiedSinceOpen P pb (t ++ [x]) :=
  Since.andThen (K := fun x => ¬ Resets x) h hx hv

/-- The invariant: a context belongs to an open session, and in SEC1_DONE to
one that was verified. -/
structure SessionInv (P : Psa) (pb : Nanopb) (t : List (Sec1PcEntry σ)) (s : PcSession σ) : Prop where
  sec : s.pc.sec = some (networkProvSecurity1 P pb)
  opened : ∀ ctx, s.pc.secCtx = some ctx → OpenedSince t
  verified : ∀ ctx, s.pc.secCtx = some ctx → ctx.state = .done → VerifiedSinceOpen P pb t

theorem sessionInv_step {P : Psa} {pb : Nanopb} {t : List (Sec1PcEntry σ)} {x : Sec1PcEntry σ}
    (hx : machine.Ok x) (ih : SessionInv P pb t x.pre) : SessionInv P pb (t ++ [x]) x.post := by
  have hsec : x.post.pc.sec = some (networkProvSecurity1 P pb) := by
    have hcfg : SameConfig x.pre x.post := Session.step_config hx
    rw [hcfg]; exact ih.sec
  rcases sec1_pc_step_cases hx ih.sec with ⟨ho, hi⟩ | ⟨-, hn⟩ | ⟨hnr, hk⟩
  · refine ⟨hsec, fun ctx hc => ⟨t, x, [], rfl, ho, fun _ hy => by cases hy⟩, fun ctx hc hd => ?_⟩
    rw [hi ctx hc] at hd; cases hd
  · refine ⟨hsec, fun ctx hc => ?_, fun ctx hc => ?_⟩ <;> (rw [hn] at hc; cases hc)
  · refine ⟨hsec, fun ctx' hc' => ?_, fun ctx' hc' hd => ?_⟩
    · obtain ⟨ctx, hc, -⟩ := hk ctx' hc'
      exact (ih.opened ctx hc).snoc hnr
    · obtain ⟨ctx, hc, hv⟩ := hk ctx' hc'
      rcases hv hd with hdone | hver
      · exact (ih.verified ctx hc hdone).snoc hnr
      · exact (ih.opened ctx hc).verified hnr hver

theorem sessionInv_run {P : Psa} {pb : Nanopb} {s₀ s : PcSession σ} {t : List (Sec1PcEntry σ)}
    (hsec : s₀.pc.sec = some (networkProvSecurity1 P pb)) (hc : s₀.pc.secCtx = none)
    (hr : machine.Run s₀ t s) : SessionInv P pb t s := by
  refine hr.history (P := SessionInv P pb) ?_ fun t x _ hx ih => sessionInv_step hx ih
  refine ⟨hsec, fun ctx h => ?_, fun ctx h => ?_⟩ <;> (rw [hc] at h; cases h)

/-! ## The gate -/

/-- Every handler call of the run is made in a session that is in SEC1_DONE
and was verified since it was opened. -/
def Gated (P : Psa) (pb : Nanopb) (t : List (Sec1PcEntry σ)) : Prop :=
  ∀ t₁ x t₂ call, t = t₁ ++ x :: t₂ → x.out.call = some call →
    (∃ ctx, x.pre.pc.secCtx = some ctx ∧ ctx.state = .done) ∧ VerifiedSinceOpen P pb t₁

/-- An empty request to a data endpoint in a session that is not in SEC1_DONE. -/
def EmptyBeforeDone (x : Sec1PcEntry σ) : Prop :=
  ∃ e name handler ctx, x.lbl = .req e (some name) [] ∧ DataEp x.pre.pc name handler ∧
    x.pre.pc.secCtx = some ctx ∧ ctx.state ≠ .done

/-- `handle_data` hands an empty request to the handler as it is. -/
theorem empty_request_called {x : Sec1PcEntry σ} {sec : ProtocommSecurity Sec1Ctx KeyStore}
    (hx : machine.Ok x) (hsec : x.pre.pc.sec = some sec) (he : EmptyBeforeDone x) :
    ∃ call, x.out.call = some call := by
  obtain ⟨s, l, r, s'⟩ := x
  obtain ⟨e, name, handler, ctx, rfl, hep, hc, -⟩ := he
  change some (protocommReqHandle e s (some name) []) = some (s', r) at hx
  change s.pc.sec = some sec at hsec
  change s.pc.secCtx = some ctx at hc
  change s.pc.findEp name = _ at hep
  have hr : runHandler sec e s name handler [] = (s', r) := by
    simpa [protocommReqHandle, hep, hsec, hc, handleData] using hx
  exact ⟨_, runHandler_call hr⟩

/-- A request with bytes gets past `decrypt` in SEC1_DONE only. -/
theorem call_done {P : Psa} {pb : Nanopb} {x : Sec1PcEntry σ} {call : Call} (hx : machine.Ok x)
    (hsec : x.pre.pc.sec = some (networkProvSecurity1 P pb)) (hcall : x.out.call = some call)
    (hne : ¬ EmptyBeforeDone x) : ∃ ctx, x.pre.pc.secCtx = some ctx ∧ ctx.state = .done := by
  obtain ⟨s, l, r, s'⟩ := x
  change s.step l = some (s', r) at hx
  change s.pc.sec = _ at hsec
  change r.call = some call at hcall
  cases l with
  | openSession e => cases hx; cases hcall
  | closeSession => cases hx; cases hcall
  | req e epName inbuf =>
    simp only [Session.step, Option.some.injEq] at hx
    rcases reqHandle_cases hx with ⟨-, hn⟩ | ⟨n, sec, hs, o, c, w, -, -, -, -, -, -, rfl⟩ |
        ⟨n, hd, sec, ctx, rfl, hep, h1, h2, h3⟩
    · rw [hn] at hcall; cases hcall
    · rw [ofExcept_call] at hcall; cases hcall
    · rw [hsec] at h1; cases h1
      refine ⟨ctx, h2, ?_⟩
      rcases handleData_cases h3 with ⟨-, -, -, rfl⟩ | ⟨-, -, ret, c, -, -, rfl⟩ | ⟨plain, s₁, hde, -⟩
      · cases hcall
      · cases hcall
      · cases hde with
        | empty h0 =>
          subst h0
          by_contra hst
          exact hne ⟨e, n, hd, ctx, rfl, hep, h2, hst⟩
        | decrypt _ _ hdec =>
          rw [h2] at hdec
          rcases sec1Encrypt_cases hdec with ⟨-, h, -⟩ | ⟨-, h, -⟩ | ⟨hst, -⟩
          · cases h
          · cases h
          · exact hst

theorem emptyBeforeDone_ungated {P : Psa} {pb : Nanopb} {t₁ t₂ : List (Sec1PcEntry σ)}
    {x : Sec1PcEntry σ} {sec : ProtocommSecurity Sec1Ctx KeyStore} (hx : machine.Ok x)
    (hsec : x.pre.pc.sec = some sec) (he : EmptyBeforeDone x) : ¬ Gated P pb (t₁ ++ x :: t₂) := by
  intro hg
  obtain ⟨call, hcall⟩ := empty_request_called hx hsec he
  obtain ⟨⟨ctx, hc, hdone⟩, -⟩ := hg t₁ x t₂ call rfl hcall
  obtain ⟨-, -, -, ctx', -, -, hc', hst⟩ := he
  rw [hc] at hc'; cases hc'
  exact hst hdone

/-- **When handlers are gated.** In any run of opens, closes and requests, with
any of the calls underneath failing: every handler call is made in SEC1_DONE,
after a Command1 of the session open now was verified, iff no empty request to
a data endpoint arrives while an open session is not in SEC1_DONE. -/
theorem gated_iff (P : Psa) (pb : Nanopb) (s₀ s : PcSession σ) (t : List (Sec1PcEntry σ))
    (hsec : s₀.pc.sec = some (networkProvSecurity1 P pb)) (hc : s₀.pc.secCtx = none)
    (hr : machine.Run s₀ t s) : Gated P pb t ↔ ∀ x ∈ t, ¬ EmptyBeforeDone x := by
  constructor
  · intro hg x hm he
    obtain ⟨t₁, t₂, rfl⟩ := List.append_of_mem hm
    obtain ⟨h₁, hx, -⟩ := hr.at
    exact emptyBeforeDone_ungated hx (sessionInv_run hsec hc h₁).sec he hg
  · rintro hn t₁ x t₂ call rfl hcall
    obtain ⟨h₁, hx, -⟩ := hr.at
    have hinv := sessionInv_run hsec hc h₁
    obtain ⟨ctx, hctx, hdone⟩ := call_done hx hinv.sec hcall (hn x (by simp))
    exact ⟨⟨ctx, hctx, hdone⟩, hinv.verified ctx hctx hdone⟩

/-! ## The test device -/

def dataEp : CStr := ⟨bytesOf 4 0x64617461, by decide⟩

/-- `"prov-session"` -/
def sessionEp : CStr := ⟨bytesOf 12 0x70726f762d73657373696f6e, by decide⟩

/-- Answers `"echo:"` and the request.
mirrors src/tests/security1/src/main.c:21-36 -/
def echoHandler : ReqHandler Unit := fun a inbuf => (a, 0, bytesOf 5 0x6563686f3a ++ inbuf)

/-- The device of the tests, no session open.
mirrors src/tests/security1/src/main.c:75-82 -/
def testDevice (P : Psa) (pb : Nanopb) (devicePop : Option CStr) : PcSession Unit where
  pc :=
    { endpoints := [⟨dataEp, .data echoHandler⟩, ⟨sessionEp, .security⟩]
      sec := some (networkProvSecurity1 P pb), pop := devicePop, secCtx := none, version := none }
  ext := .empty
  app := ()

def goodReq : ReqEnv := .good (.good devicePriv deviceRandom)

/-- A handshake and one request, `"hello"`. -/
def testOps : List PcOp :=
  [.openSession (.good devicePriv deviceRandom),
   .req goodReq (some sessionEp) (cmd0Head ++ clientPub),
   .req goodReq (some sessionEp) (cmd1Head ++ xorFrom testKs 0 devicePub),
   .req goodReq (some dataEp) (xorFrom testKs 64 (bytesOf 5 0x68656c6c6f))]

theorem gated_iff_test : ∃ t s, machine.Run (testDevice vectors wirePb (some pop)) t s ∧
    t.map (·.lbl) = testOps ∧
    (t.getLast?.bind (·.out.call)).map (·.arg) = some (bytesOf 5 0x68656c6c6f) ∧
    (Gated vectors wirePb t ↔ ∀ x ∈ t, ¬ EmptyBeforeDone x) := by
  have hr := machine.run_get (testDevice vectors wirePb (some pop)) testOps (by rfl)
  exact ⟨_, _, hr, by rfl, by decide +kernel,
    gated_iff vectors wirePb _ _ _ rfl rfl hr⟩

/-- **An empty request reaches the handler unauthenticated.** Right after the
open, with no handshake at all. -/
theorem empty_request_not_gated : ∃ t s, machine.Run (testDevice vectors wirePb (some pop)) t s ∧
    t.map (·.lbl) = [.openSession (.good devicePriv deviceRandom), .req goodReq (some dataEp) []] ∧
    ¬ Gated vectors wirePb t := by
  have hr := machine.run_get (testDevice vectors wirePb (some pop))
    [.openSession (.good devicePriv deviceRandom), .req goodReq (some dataEp) []] (by rfl)
  refine ⟨_, _, hr, by rfl, fun hg => ?_⟩
  obtain ⟨⟨ctx, hc, hdone⟩, -⟩ := hg [_] _ [] ⟨dataEp, [], 0, bytesOf 5 0x6563686f3a⟩ rfl (by rfl)
  cases hc
  cases hdone

end NetworkProv.Security1
