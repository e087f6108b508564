import NetworkProv.Transport.Http

/-!
# Requests of several HTTP clients

The server calls `prov_http_handler` for any number of clients in any order.
Of one client it delivers the parts of a request in order; the request ends
with its last part, when it is aborted, and when the handler refuses a part.
`inFlight` is what the server has delivered of a client's request so far, which
the handler does not see: all it has is one buffer, one cookie and one owner.

* `HttpInv`: the buffer and the cookie are those of the owner's request, and no
  other client has one in flight.
* `requests_isolated`: what is passed to protocomm is one request of one
  client, run in the session its own cookie names or in a fresh one.
-/
namespace NetworkProv.Http
open NetworkProv.Core Core.CText Core.Machine Protocomm

variable {κ σ C W : Type}

structure HttpNet (κ σ C W : Type) where
  http : SoftapHttp κ
  sess : Session σ C W
  inFlight : κ → List HttpRequestCtx

/-- Just started, whatever an earlier session left. -/
def HttpNet.boot (h : SoftapHttp κ) (s : Session σ C W) : HttpNet κ σ C W :=
  ⟨httpStart h, s, fun _ => []⟩

/-- What the server has delivered of the client's request after this call. -/
def delivered (a : HttpCallback κ) (ret : Int) (parts : List HttpRequestCtx) : List HttpRequestCtx :=
  if a.status = .more ∧ ret = 0 then parts ++ [a.ctx] else []

/-- A transaction is not complete before its request is. -/
def HttpNet.step [DecidableEq κ] (w : ULong) (n : HttpNet κ σ C W) (a : HttpCallback κ) :
    Option (HttpNet κ σ C W × HttpOut) :=
  if a.status = .complete ∧ n.inFlight a.client ≠ [] then none
  else
    match provHttpHandler w a n.http n.sess with
    | (h, s, o) =>
      some (⟨h, s, Function.update n.inFlight a.client (delivered a o.ret (n.inFlight a.client))⟩, o)

def httpMachine [DecidableEq κ] (w : ULong) : Machine (HttpNet κ σ C W) (HttpCallback κ) HttpOut :=
  ⟨HttpNet.step w⟩

abbrev HttpEntry (κ σ C W : Type) := Entry (HttpNet κ σ C W) (HttpCallback κ) HttpOut

/-! ## What is claimed of a dispatch -/

/-- The parts of the request that the call belongs to. -/
def partsOf (x : HttpEntry κ σ C W) : List HttpRequestCtx := x.pre.inFlight x.lbl.client ++ [x.lbl.ctx]

/-- The last session that was opened got the id `id`. -/
def OpenedAs (id : UInt32) (t : List (HttpEntry κ σ C W)) : Prop :=
  Since (fun x => x.out.opened = some id) (fun x => x.out.opened = none) t

/-- The request was run in a session opened for it, or in the open one, whose id its own
cookie is. -/
def RunsIn (w : ULong) (t : List (HttpEntry κ σ C W)) (x : HttpEntry κ σ C W) (q : HttpCall) : Prop :=
  ((∃ id, x.out.opened = some id) ∧
    protocommReqHandle x.lbl.env.req (protocommOpenSession x.lbl.env.openSession x.pre.sess)
      (some q.ep) q.inbuf = (x.post.sess, q.reply)) ∨
  (x.out.opened = none ∧ (∃ id, ownCookie w (partsOf x) = some id ∧ OpenedAs id t) ∧
    protocommReqHandle x.lbl.env.req x.pre.sess (some q.ep) q.inbuf = (x.post.sess, q.reply))

/-- A call of protocomm is passed the body of the one request, and runs in its session. -/
def Isolated (w : ULong) (t : List (HttpEntry κ σ C W)) (x : HttpEntry κ σ C W) : Prop :=
  ∀ q, x.out.call = some q →
    q.inbuf = bodyOf (partsOf x) ∧ q.inbuf.length ≤ REQ_BUF_LEN ∧ RunsIn w t x q

/-! ## The owner's request -/

/-- The parts of the request that owns the buffers. -/
def HttpNet.owned (n : HttpNet κ σ C W) : List HttpRequestCtx :=
  match n.http.reqClient with
  | none => []
  | some c => n.inFlight c

structure HttpInv (w : ULong) (n : HttpNet κ σ C W) : Prop where
  bound : n.http.reqBuf.length ≤ REQ_BUF_LEN
  buf : n.http.reqBuf = bodyOf n.owned
  cookie : n.http.cookie = ownCookie w n.owned
  others : ∀ c, n.http.reqClient ≠ some c → n.inFlight c = []

theorem httpInv_boot (w : ULong) (h : SoftapHttp κ) (s : Session σ C W) : HttpInv w (HttpNet.boot h s) :=
  ⟨Nat.zero_le _, rfl, rfl, fun _ _ => rfl⟩

/-- A client that is admitted owns the buffers, if it has a request in flight. -/
theorem HttpInv.owned_eq {w : ULong} {n : HttpNet κ σ C W} {c : κ} (h : HttpInv w n)
    (ha : n.http.Admits c) : n.owned = n.inFlight c := by
  unfold HttpNet.owned
  rcases ha with ha | ha
  · rw [ha, h.others c (by rw [ha]; simp)]
  · rw [ha]

/-- No client but the owner has a request in flight. -/
theorem HttpInv.other {w : ULong} {n : HttpNet κ σ C W} {c d : κ} (h : HttpInv w n)
    (ha : n.http.Admits c) (hd : d ≠ c) : n.inFlight d = [] := by
  refine h.others d fun ho => ?_
  rcases ha with ha | ha <;> rw [ha] at ho
  · cases ho
  · exact hd (Option.some.inj ho).symm

theorem HttpInv.idle [DecidableEq κ] {w : ULong} {n : HttpNet κ σ C W} {c : κ} (h : HttpInv w n)
    (hc : n.http.reqClient ≠ some c) : HttpInv w ⟨n.http, n.sess, Function.update n.inFlight c []⟩ := by
  rw [← h.others c hc, Function.update_eq_self]
  exact h

theorem HttpInv.cleared [DecidableEq κ] {w : ULong} {n : HttpNet κ σ C W} {c : κ} {h' : SoftapHttp κ}
    {s' : Session σ C W} (h : HttpInv w n) (ha : n.http.Admits c) (hbuf : h'.reqBuf = [])
    (hcookie : h'.cookie = none) (hcl : h'.reqClient = none) :
    HttpInv w ⟨h', s', Function.update n.inFlight c []⟩ := by
  refine ⟨by simp [hbuf], by simp [HttpNet.owned, hcl, hbuf, bodyOf],
    by simp [HttpNet.owned, hcl, hcookie, ownCookie], fun d _ => ?_⟩
  dsimp only
  by_cases hd : d = c
  · simp [hd]
  · rw [Function.update_of_ne hd, h.other ha hd]

/-- The parts and the cookie of the request after one more part. -/
theorem HttpInv.take {w : ULong} {n : HttpNet κ σ C W} {a : HttpCallback κ} (h : HttpInv w n)
    (ha : n.http.Admits a.client) :
    (n.http.take w a.client a.ctx).reqBuf = bodyOf (n.inFlight a.client ++ [a.ctx]) ∧
    (n.http.take w a.client a.ctx).cookie = ownCookie w (n.inFlight a.client ++ [a.ctx]) := by
  rw [take_reqBuf, take_cookie, h.buf, h.cookie, h.owned_eq ha]
  constructor
  · simp [bodyOf]
  · simp [ownCookie]

theorem HttpInv.taken [DecidableEq κ] {w : ULong} {n : HttpNet κ σ C W} {a : HttpCallback κ}
    (h : HttpInv w n) (ha : n.http.Admits a.client)
    (hfit : n.http.reqBuf.length + a.ctx.data.length ≤ REQ_BUF_LEN) :
    HttpInv w ⟨n.http.take w a.client a.ctx, n.sess,
      Function.update n.inFlight a.client (n.inFlight a.client ++ [a.ctx])⟩ := by
  obtain ⟨hbuf, hcookie⟩ := h.take ha
  have hown : HttpNet.owned (⟨n.http.take w a.client a.ctx, n.sess,
      Function.update n.inFlight a.client (n.inFlight a.client ++ [a.ctx])⟩ : HttpNet κ σ C W) =
      n.inFlight a.client ++ [a.ctx] := by
    simp [HttpNet.owned]
  refine ⟨by simpa using hfit, by rw [hown]; exact hbuf, by rw [hown]; exact hcookie, fun d hd => ?_⟩
  have hne : d ≠ a.client := by
    rintro rfl
    exact hd (take_reqClient w a.client a.ctx n.http)
  dsimp only
  rw [Function.update_of_ne hne, h.other ha hne]

/-! ## One call, and all of them -/

/-- The session id is that of the session opened last. -/
def IdKept (t : List (HttpEntry κ σ C W)) (n : HttpNet κ σ C W) : Prop :=
  n.http.sessionValid = true → OpenedAs n.http.sessionId t

/-- A call that opens no session and calls nothing keeps the id and shows nothing. -/
theorem quiet_step {w : ULong} {t : List (HttpEntry κ σ C W)} {n n' : HttpNet κ σ C W}
    {a : HttpCallback κ} {ret : Int} (hid : IdKept t n) (hv : n'.http.sessionValid = n.http.sessionValid)
    (hi : n'.http.sessionId = n.http.sessionId) :
    IdKept (t ++ [⟨n, a, .quiet ret, n'⟩]) n' ∧ Isolated w t ⟨n, a, .quiet ret, n'⟩ := by
  constructor
  · intro hvalid
    rw [hi]
    exact Since.snoc (hid (hv ▸ hvalid)) rfl
  · intro q hq
    cases hq

theorem dispatch_step [DecidableEq κ] {w : ULong} {t : List (HttpEntry κ σ C W)} {n : HttpNet κ σ C W}
    {a : HttpCallback κ} {f : κ → List HttpRequestCtx} (h : HttpInv w n) (hid : IdKept t n)
    (hadm : n.http.Admits a.client) (hlen : n.http.reqBuf.length + a.ctx.data.length ≤ REQ_BUF_LEN)
    {h' : SoftapHttp κ} {s' : Session σ C W} {o : HttpOut}
    (hd : dispatch a.env (epName a.userData a.url) (n.http.take w a.client a.ctx) n.sess = (h', s', o)) :
    (h'.reqBuf = [] ∧ h'.cookie = none ∧ h'.reqClient = none) ∧
    IdKept (t ++ [⟨n, a, o, ⟨h', s', f⟩⟩]) ⟨h', s', f⟩ ∧ Isolated w t ⟨n, a, o, ⟨h', s', f⟩⟩ := by
  obtain ⟨hbuf, hcookie⟩ := h.take hadm
  have hbound : (bodyOf (n.inFlight a.client ++ [a.ctx])).length ≤ REQ_BUF_LEN := by
    rw [← hbuf]
    simpa using hlen
  rcases dispatch_cases a.env (epName a.userData a.url) (n.http.take w a.client a.ctx) n.sess with
    ⟨hvalid, hck, s₁, r, hreq, heq⟩ | ⟨-, s₁, r, hreq, heq⟩
  · rw [heq] at hd
    cases hd
    rw [take_sessionValid] at hvalid
    rw [take_sessionId, hcookie] at hck
    refine ⟨⟨rfl, rfl, rfl⟩, fun _ => ?_, ?_⟩
    · have hkept : OpenedAs (n.http.take w a.client a.ctx).sessionId t := by
        rw [take_sessionId]
        exact hid hvalid
      exact Since.snoc hkept rfl
    · rintro q hq
      cases hq
      exact ⟨hbuf, hbuf ▸ hbound, .inr ⟨rfl, ⟨n.http.sessionId, hck, hid hvalid⟩, hreq⟩⟩
  · rw [heq] at hd
    cases hd
    refine ⟨⟨rfl, rfl, rfl⟩, fun _ => Since.now rfl, ?_⟩
    rintro q hq
    cases hq
    exact ⟨hbuf, hbuf ▸ hbound, .inl ⟨⟨_, rfl⟩, hreq⟩⟩

theorem http_step [DecidableEq κ] {w : ULong} {t : List (HttpEntry κ σ C W)} {x : HttpEntry κ σ C W}
    (hx : (httpMachine w).Ok x) (h : HttpInv w x.pre) (hid : IdKept t x.pre) :
    HttpInv w x.post ∧ IdKept (t ++ [x]) x.post ∧ Isolated w t x := by
  obtain ⟨n, a, o, n'⟩ := x
  change HttpNet.step w n a = some (n', o) at hx
  unfold HttpNet.step at hx
  split at hx
  · cases hx
  dsimp only at h hid
  have hend {ret : Int} (hne : ¬ (a.status = .more ∧ ret = 0)) :
      delivered a ret (n.inFlight a.client) = [] := if_neg hne
  by_cases hp : a.IsPart
  · by_cases hadm : n.http.Admits a.client
    · by_cases hfit : n.http.reqBuf.length + a.ctx.data.length ≤ REQ_BUF_LEN
      · rcases hp with hm | hf
        · -- a part that is not the last
          have hmore : delivered a 0 (n.inFlight a.client) = n.inFlight a.client ++ [a.ctx] :=
            if_pos ⟨hm, rfl⟩
          rw [handler_more _ hm hadm hfit] at hx
          simp only [HttpOut.quiet, hmore, Option.some.injEq, Prod.mk.injEq] at hx
          obtain ⟨rfl, rfl⟩ := hx
          exact ⟨h.taken hadm hfit, quiet_step hid (take_sessionValid w _ _ _) (take_sessionId w _ _ _)⟩
        · -- the last part
          rw [handler_final _ hf hadm hfit] at hx
          generalize hd : dispatch a.env (epName a.userData a.url) (n.http.take w a.client a.ctx)
            n.sess = d at hx
          obtain ⟨h', s', o'⟩ := d
          dsimp only at hx
          rw [hend fun hm => by rw [hf] at hm; cases hm.1] at hx
          cases hx
          obtain ⟨⟨hbuf, hcookie, hcl⟩, hkept, hiso⟩ := dispatch_step h hid hadm hfit hd
          exact ⟨h.cleared hadm hbuf hcookie hcl, hkept, hiso⟩
      · -- the body is too long
        simp only [handler_long _ hp hadm (Nat.lt_of_not_le hfit)] at hx
        rw [hend fun hm => by cases hm.2] at hx
        cases hx
        exact ⟨h.cleared hadm rfl rfl rfl,
          quiet_step hid (take_sessionValid w _ _ _) (take_sessionId w _ _ _)⟩
    · -- another client's request is in flight
      simp only [handler_busy _ hp hadm] at hx
      rw [hend fun hm => by cases hm.2] at hx
      cases hx
      exact ⟨h.idle fun ho => hadm (.inr ho), quiet_step hid rfl rfl⟩
  · -- the transaction is over
    simp only [handler_over _ hp] at hx
    rw [hend fun hm => hp (.inl hm.1)] at hx
    split at hx <;> cases hx
    · rename_i howner
      exact ⟨h.cleared (.inr howner) rfl rfl rfl, quiet_step hid rfl rfl⟩
    · rename_i howner
      exact ⟨h.idle howner, quiet_step hid rfl rfl⟩

/-- **Requests are isolated.** In every run of callbacks of any number of clients, whatever
their headers and however their bodies are cut up, aborted or too long: what is passed to
protocomm is the concatenation of the parts of one request of one client, at most 4096 bytes;
it runs in the open session only if the request's own cookie is the id drawn when that session
was opened, and in a session opened for it otherwise. -/
theorem requests_isolated [DecidableEq κ] (w : ULong) (h₀ : SoftapHttp κ) (s₀ : Session σ C W)
    (t : List (HttpEntry κ σ C W)) (n : HttpNet κ σ C W)
    (hr : (httpMachine w).Run (HttpNet.boot h₀ s₀) t n) : Always (Isolated w) t := by
  have h0 : HttpInv w (HttpNet.boot h₀ s₀) ∧ IdKept [] (HttpNet.boot h₀ s₀) :=
    ⟨httpInv_boot w h₀ s₀, fun h => by cases h⟩
  refine (hr.always (C := fun _ => True) (Q := Isolated w)
    (P := fun t n => HttpInv w n ∧ IdKept t n) h0 (fun t x _ hx hp _ => ?_) fun _ _ => trivial).2
  obtain ⟨hinv, hkept, hiso⟩ := http_step hx hp.1 hp.2
  exact ⟨⟨hinv, hkept⟩, hiso⟩

/-! ## Two clients -/

def testEnv (rand : UInt32) : HttpEnv :=
  ⟨.good [] (Buf.zero 16), rand, .good (.good [] (Buf.zero 16))⟩

def testHttp : SoftapHttp Nat := ⟨[], false, 0, none, false, 0⟩

/-- The headers of a request with the cookie of session 7. -/
def cookie7 : List HttpHeader :=
  [⟨some ⟨ofChars ['c', 'o', 'o', 'k', 'i', 'e'], by decide⟩, some ⟨setCookie 7, by decide⟩⟩]

def testPart (client : Nat) (status : HttpTransactionStatus) (data : Bytes)
    (headers : Option (List HttpHeader)) : HttpCallback Nat :=
  ⟨client, .empty, status, ⟨data, if headers.isSome then .ok else .none, headers.getD []⟩,
    some versionEp, testEnv 7⟩

/-- A request of client 1 in two parts, one of client 2 refused meanwhile; then client 2 with
the cookie of the session, aborted the first time. -/
def testCallbacks : List (HttpCallback Nat) :=
  [testPart 1 .more [1, 2] (some []), testPart 2 .more [9] (some []), testPart 1 .final [3] none,
    testPart 1 .complete [] none, testPart 2 .more [9] (some cookie7), testPart 2 .aborted [] none,
    testPart 2 .more [4] (some cookie7), testPart 2 .final [5] none]

theorem requests_isolated_test : ∃ t n,
    (httpMachine .bits32).Run (HttpNet.boot testHttp versionDevice) t n ∧
    t.map (·.lbl) = testCallbacks ∧
    t.map (·.out.ret) = [0, -EBUSY, 0, 0, 0, 0, 0, 0] ∧
    t.filterMap (fun x => x.out.call.map fun q => (q.inbuf, x.out.opened)) =
      [([1, 2, 3], some 7), ([4, 5], none)] ∧ Always (Isolated .bits32) t := by
  have hr := (httpMachine .bits32).run_get (HttpNet.boot testHttp versionDevice) testCallbacks (by rfl)
  exact ⟨_, _, hr, by rfl, by decide, by decide, requests_isolated .bits32 testHttp versionDevice _ _ hr⟩

end NetworkProv.Http
