import NetworkProv.Manager.EndpointRequests
import NetworkProv.Transport.HttpIsolation

/-!
# The fallback resource (`src/protocomm_softap.c`)

A request for a URI without a resource of its own is routed by its path.
`ep_name_from_url` copies the path to a buffer of 16 bytes and leaves an empty
name there if it does not fit.

* `copyLoop`: the loop, as the writes it makes; all are within the buffer
  (`copyLoop_bounds`), and what they leave is the name (`readName_copyLoop`).
* `named_run`: no endpoint has an empty name.
* `fallback_never_aliases`: which endpoint a URL selects.
-/
namespace NetworkProv.Http
open NetworkProv.Core Core.CText Protocomm Endpoints

variable {A C W H X κ : Type} {S : Service A C W H X} {n : Nat}

/-! ## The copy loop -/

/-- `out[i] = c` -/
structure Write where
  index : Nat
  char : UInt8
  deriving DecidableEq

/-- What the loop writes from the `i`th character on.
mirrors src/protocomm_softap.c:181-189 -/
def copyLoop (cap : Nat) : Nat → Bytes → List Write
  | i, [] => [⟨i, 0⟩]
  | i, c :: cs =>
    if c = 0x3f then [⟨i, 0⟩]
    else if i ≥ cap - 1 then [⟨0, 0⟩]
    else ⟨i, c⟩ :: copyLoop cap (i + 1) cs

/-- mirrors src/protocomm_softap.c:173-190 -/
def nameWrites (url : CStr) (cap : Nat) : List Write := copyLoop cap 0 (skipSlash url.chars)

def store (buf : Bytes) (writes : List Write) : Bytes := writes.foldl (fun b w => b.set w.index w.char) buf

/-- The string in a buffer. -/
def readName (buf : Bytes) : Bytes := buf.takeWhile (· ≠ 0)

theorem copyLoop_bounds {cap : Nat} (hcap : 0 < cap) (p : Bytes) :
    ∀ i, i < cap → ∀ w ∈ copyLoop cap i p, w.index < cap := by
  induction p with
  | nil =>
    intro i hi w hw
    rw [copyLoop, List.mem_singleton] at hw
    rw [hw]
    exact hi
  | cons c cs ih =>
    intro i hi w hw
    rw [copyLoop] at hw
    split at hw
    · rw [List.mem_singleton.mp hw]
      exact hi
    split at hw
    · rw [List.mem_singleton.mp hw]
      exact hcap
    · rename_i hroom
      rcases List.mem_cons.mp hw with rfl | hw
      · exact hi
      · exact ih (i + 1) (by omega) w hw

/-- A NUL after `name` ends it. -/
theorem readName_set {buf name : Bytes} (hn : (0 : UInt8) ∉ name) (hp : buf.take name.length = name)
    (hi : name.length < buf.length) : readName (buf.set name.length 0) = name := by
  have hset : buf.set name.length 0 = name ++ 0 :: buf.drop (name.length + 1) := by
    rw [List.set_eq_take_append_cons_drop, if_pos hi, hp]
  have hne : ∀ c ∈ name, decide (c ≠ 0) = true := by
    intro c hc
    rw [decide_eq_true_iff]
    intro he
    exact hn (he ▸ hc)
  rw [readName, hset, List.takeWhile_append_of_pos hne]
  simp

/-- With the first `i` characters copied: the rest of the loop leaves the name, or none. -/
theorem readName_copyLoop {cap : Nat} (hcap : 0 < cap) (p : Bytes) :
    ∀ (done buf : Bytes), buf.length = cap → done.length < cap → buf.take done.length = done →
      (0 : UInt8) ∉ done → (0 : UInt8) ∉ p →
      readName (store buf (copyLoop cap done.length p)) =
        match copyName (cap - 1 - done.length) p with
        | none => []
        | some rest => done ++ rest := by
  induction p with
  | nil =>
    intro done buf hbuf hlt htake hdone _
    rw [copyLoop, copyName]
    simpa [store] using readName_set hdone htake (by omega)
  | cons c cs ih =>
    intro done buf hbuf hlt htake hdone hp
    obtain ⟨hc, hcs⟩ := not_or.mp (mt List.mem_cons.mpr hp)
    rw [copyLoop]
    by_cases hq : c = 0x3f
    · rw [if_pos hq, copyName.eq_def]
      simpa [store, hq] using readName_set hdone htake (by omega)
    rw [if_neg hq]
    by_cases hroom : done.length ≥ cap - 1
    · have hzero : cap - 1 - done.length = 0 := by omega
      rw [if_pos hroom, hzero, copyName, if_neg hq]
      have hempty : readName (buf.set ([] : Bytes).length 0) = [] :=
        readName_set (by simp) rfl (by simp; omega)
      simpa [store] using hempty
    · obtain ⟨room, hr⟩ : ∃ room, cap - 1 - done.length = room + 1 := ⟨cap - 1 - done.length - 1, by omega⟩
      have hnext : cap - 1 - (done ++ [c]).length = room := by
        rw [List.length_append, List.length_singleton]
        omega
      have htake' : (buf.set done.length c).take (done ++ [c]).length = done ++ [c] := by
        rw [List.set_eq_take_append_cons_drop, if_pos (by omega), htake, List.length_append,
          List.take_length_add_append]
        rfl
      have hdone' : (0 : UInt8) ∉ done ++ [c] := by
        simpa using ⟨hdone, hc⟩
      have hstep := ih (done ++ [c]) (buf.set done.length c) (by simpa using hbuf) (by simp; omega) htake'
        hdone' hcs
      rw [hnext, List.length_append, List.length_singleton] at hstep
      rw [if_neg hroom, hr, copyName, if_neg hq, store, List.foldl_cons, ← store, hstep]
      cases copyName room cs with
      | none => rfl
      | some rest => simp

/-! ## The name a URL selects -/

/-- The URL without one leading slash, up to the first question mark. -/
def pathOf (url : CStr) : Bytes := (skipSlash url.chars).takeWhile (· ≠ 0x3f)

theorem epNameFromUrl_chars (url : CStr) (cap : Nat) :
    (epNameFromUrl url cap).chars = if (pathOf url).length ≤ cap - 1 then pathOf url else [] := by
  unfold epNameFromUrl
  split
  · rename_i h
    rw [copyName_eq] at h
    split at h
    · cases h
    · rename_i hlong
      rw [pathOf, if_neg hlong]
      rfl
  · rename_i name h
    rw [copyName_eq] at h
    split at h
    · rename_i hfit
      cases h
      rw [pathOf, if_pos hfit]
    · cases h

/-- Whatever the buffer held, the loop leaves the name there. -/
theorem readName_nameWrites (url : CStr) {cap : Nat} (hcap : 0 < cap) {buf : Bytes} (hbuf : buf.length = cap) :
    readName (store buf (nameWrites url cap)) = (epNameFromUrl url cap).chars := by
  have hnul : (0 : UInt8) ∉ skipSlash url.chars := fun h => url.noNul ((skipSlash_suffix _).subset h)
  have h := readName_copyLoop hcap (skipSlash url.chars) [] buf hbuf hcap rfl (by simp) hnul
  rw [List.length_nil, Nat.sub_zero, copyName_eq, ← pathOf] at h
  rw [nameWrites, h, epNameFromUrl_chars]
  by_cases hfit : (pathOf url).length ≤ cap - 1
  · rw [if_pos hfit, if_pos hfit]
    rfl
  · rw [if_neg hfit, if_neg hfit]

/-! ## Names in the table -/

/-- Every name that was created, or is in the instance's table, has characters. -/
def Named (r : Spec H X) : Prop := (∀ k ∈ r.reg.names, k.chars ≠ []) ∧ ∀ k ∈ r.table, k.chars ≠ []

theorem named_step {r : Spec H X} {e : EpEntry A C W H X} (he : (epMachine S).Ok e) (h : Named r) :
    Named (r.next e) := by
  obtain ⟨s, op, out, s'⟩ := e
  change step S s op = some (s', out) at he
  unfold Spec.next
  split
  · split
    · exact h
    · exact ⟨by simp [Registry.empty], h.2⟩
  · rename_i name hop
    dsimp only at hop
    subst hop
    split
    · rename_i hret
      generalize hs : networkProvMgrEndpointCreate (some name) s = q
      obtain ⟨ret, q⟩ := q
      simp only [step, hs, Option.some.injEq, Prod.mk.injEq] at he
      obtain ⟨-, rfl⟩ := he
      rcases create_cases hs with ⟨hne, -⟩ | ⟨name', i, heq, -, hne, -⟩
      · exact absurd hret hne
      · cases heq
        refine ⟨?_, h.2⟩
        intro k hk
        rcases List.mem_append.mp hk with hk | hk
        · exact h.1 k hk
        · rw [List.mem_singleton.mp hk]
          exact hne
    · exact h
  · split
    · exact ⟨h.1, h.2⟩
    · exact h
  · split
    · exact ⟨h.1, h.2⟩
    · exact h
  · split
    · exact ⟨h.1, h.1⟩
    · exact h
  · exact h

theorem named_run {ext : W} {app : A} {s : Endpoints.World A C W H X} {t : List (EpEntry A C W H X)}
    (h : (epMachine S).Run (.boot n ext app) t s) : Named (specOf t) := by
  refine h.history (P := fun t _ => Named (specOf t)) ?_ ?_
  · exact ⟨by simp [specOf, Spec.boot, Registry.empty], by simp [specOf, Spec.boot]⟩
  · intro t e _ he ih
    rw [specOf_snoc]
    exact named_step he ih

/-- The names in the table are short, and none is empty. -/
theorem names_short {ext : W} {app : A} (hn : n ≤ 3) {s : Endpoints.World A C W H X}
    {t : List (EpEntry A C W H X)} (h : (epMachine S).Run (.boot n ext app) t s) {pc : Pc A C W H X}
    (hpc : s.pc = some pc) {ep : ProtocommEp (EpApp A H X)} (hep : ep ∈ pc.endpoints) :
    ep.name.chars ≠ [] ∧ ep.name.chars.length < PROTOCOMM_EP_NAME_MAX := by
  have hrun := (run_inv hn h).running pc hpc
  rw [hrun.endpoints] at hep
  rcases List.mem_append.mp hep with hb | hc
  · have hall : ∀ k ∈ (builtinEps S).map (·.name), k.chars ≠ [] ∧ k.chars.length < PROTOCOMM_EP_NAME_MAX := by
      change ∀ k ∈ [EP_VERSION, EP_SESSION, EP_SCAN, EP_CONFIG, EP_CTRL], _
      decide
    exact hall ep.name (List.mem_map_of_mem hb)
  · have hname : ep.name ∈ (specOf t).table := by
      rw [← names_customEps (S := S) 0 (specOf t).table]
      exact List.mem_map_of_mem hc
    exact ⟨(named_run h).2 _ hname, (hrun.good _ hname).1⟩

/-! ## Requests -/

/-- What a call of protocomm leads to is decided by the table. -/
theorem reqHandle_unknown {σ : Type} {e : ReqEnv} {q : Session σ C W} {name : CStr} {inbuf : Bytes}
    (h : q.pc.findEp name = none) : protocommReqHandle e q (some name) inbuf = (q, .fail (-ENOENT)) := by
  unfold protocommReqHandle
  dsimp only
  rw [h]

/-- A request that gets as far as protocomm asks for the endpoint of its resource. -/
theorem handler_call [DecidableEq κ] {σ : Type} {w : ULong} {a : HttpCallback κ} {h h' : SoftapHttp κ}
    {q q' : Session σ C W} {out : HttpOut} {c : HttpCall} (hstep : provHttpHandler w a h q = (h', q', out))
    (hc : out.call = some c) :
    c.ep = epName a.userData a.url ∧ (q.pc.findEp c.ep = none →
      c.reply = .fail (-ENOENT) ∧ out.resp = some .error) := by
  by_cases hp : a.IsPart
  · by_cases hadm : h.Admits a.client
    · rw [handler_part q hp hadm] at hstep
      split at hstep
      · cases hstep
        cases hc
      split at hstep
      · cases hstep
        cases hc
      rcases dispatch_cases a.env (epName a.userData a.url) (h.take w a.client a.ctx) q with
        ⟨-, -, s', r, hr, hd⟩ | ⟨-, s', r, hr, hd⟩
      · rw [hd] at hstep
        cases hstep
        cases hc
        refine ⟨rfl, fun hnone => ?_⟩
        rw [reqHandle_unknown hnone] at hr
        cases hr
        exact ⟨rfl, rfl⟩
      · rw [hd] at hstep
        cases hstep
        cases hc
        refine ⟨rfl, fun hnone => ?_⟩
        have hnone' : (protocommOpenSession a.env.openSession q).pc.findEp (epName a.userData a.url) = none := by
          rw [openSession_config]
          exact hnone
        rw [reqHandle_unknown hnone'] at hr
        cases hr
        exact ⟨rfl, rfl⟩
    · rw [handler_busy q hp hadm] at hstep
      cases hstep
      cases hc
  · rw [handler_over q hp] at hstep
    cases hstep
    cases hc

/-- A request to the fallback resource selects the endpoint whose name the URL spells, if there is one. -/
structure Routes (pc : Pc A C W H X) (url : CStr) (out : HttpOut) (c : HttpCall) : Prop where
  selects : ∀ ep, pc.findEp c.ep = some ep ↔ ep ∈ pc.endpoints ∧ ep.name.chars = pathOf url
  unknown : (∀ ep ∈ pc.endpoints, ep.name.chars ≠ pathOf url) →
    c.reply = .fail (-ENOENT) ∧ out.resp = some .error

/-- In every run: where the requests to the fallback resource go; that no name is empty or long;
and that the name is copied within its buffer. -/
theorem fallback_never_aliases [DecidableEq κ] (hn : n ≤ 3) {ext : W} {app : A} {s : Endpoints.World A C W H X}
    {t : List (EpEntry A C W H X)} (h : (epMachine S).Run (.boot n ext app) t s) {pc : Pc A C W H X}
    (hpc : s.pc = some pc) :
    (∀ w (a : HttpCallback κ) hs hs' q' out c, a.userData = none →
      provHttpHandler w a hs ⟨pc, s.ext, s.app⟩ = (hs', q', out) → out.call = some c →
      Routes pc a.url out c) ∧
    (∀ url, pathOf url = [] ∨ 15 < (pathOf url).length → ∀ ep ∈ pc.endpoints, ep.name.chars ≠ pathOf url) ∧
    ∀ url buf, buf.length = PROTOCOMM_EP_NAME_MAX →
      (∀ wr ∈ nameWrites url PROTOCOMM_EP_NAME_MAX, wr.index < PROTOCOMM_EP_NAME_MAX) ∧
      readName (store buf (nameWrites url PROTOCOMM_EP_NAME_MAX)) =
        (epNameFromUrl url PROTOCOMM_EP_NAME_MAX).chars := by
  have hrun := (run_inv hn h).running pc hpc
  have hnodup : (pc.endpoints.map (·.name)).Nodup := by
    rw [hrun.endpoints]
    exact names_nodup hrun.nodup hrun.good
  have hshort : ∀ ep ∈ pc.endpoints, ep.name.chars ≠ [] ∧ ep.name.chars.length < 16 :=
    fun ep hep => names_short hn h hpc hep
  refine ⟨?_, ?_, ?_⟩
  · intro w a hs hs' q' out c hfallback hstep hc
    obtain ⟨hname, hunknown⟩ := handler_call hstep hc
    rw [hfallback, epName] at hname
    -- the empty name, left by a path that is too long, is nobody's
    have hchars : ∀ ep ∈ pc.endpoints, ep.name = c.ep ↔ ep.name.chars = pathOf a.url := by
      intro ep hep
      have hep' := hshort ep hep
      have hurl := epNameFromUrl_chars a.url PROTOCOMM_EP_NAME_MAX
      rw [hname]
      constructor
      · intro heq
        rw [heq] at hep' ⊢
        rw [hurl] at hep' ⊢
        split
        · rfl
        · rename_i hlong
          rw [if_neg hlong] at hep'
          exact absurd rfl hep'.1
      · intro heq
        rw [heq] at hep'
        rw [if_pos (show (pathOf a.url).length ≤ 16 - 1 by omega)] at hurl
        exact CStr.ext (heq.trans hurl.symm)
    have hselects : ∀ ep, pc.findEp c.ep = some ep ↔ ep ∈ pc.endpoints ∧ ep.name.chars = pathOf a.url := by
      intro ep
      rw [findEp_iff hnodup]
      constructor
      · intro hep
        exact ⟨hep.1, (hchars ep hep.1).mp hep.2⟩
      · intro hep
        exact ⟨hep.1, (hchars ep hep.1).mpr hep.2⟩
    refine ⟨hselects, fun hnone => hunknown ?_⟩
    cases hfind : pc.findEp c.ep with
    | none => rfl
    | some ep =>
      obtain ⟨hep, heq⟩ := (hselects ep).mp hfind
      exact absurd heq (hnone ep hep)
  · intro url hurl ep hep heq
    have hep' := hshort ep hep
    rw [heq] at hep'
    rcases hurl with hempty | hlong
    · exact hep'.1 hempty
    · omega
  · intro url buf hbuf
    exact ⟨copyLoop_bounds (by decide) _ 0 (by decide), readName_nameWrites url (by decide) hbuf⟩

/-! ## A request for a custom endpoint -/

def testPc : Pc Unit Unit Unit Nat Unit := testRun.2.pc.get (by decide)

/-- `POST /my-ep?x` -/
def fallbackPost : HttpCallback Nat :=
  ⟨1, ⟨lit "/my-ep?x", by decide⟩, .final, ⟨[], .ok, []⟩, none, testEnv 7⟩

def fallbackResult : SoftapHttp Nat × Session (EpApp Unit Nat Unit) Unit Unit × HttpOut :=
  provHttpHandler .bits64 fallbackPost testHttp ⟨testPc, testRun.2.ext, testRun.2.app⟩

theorem fallback_never_aliases_test :
    fallbackResult.2.2.call.map (·.ep) = some myEp ∧
    fallbackResult.2.2.resp = some (.ok (setCookie 7) []) ∧
    Routes testPc fallbackPost.url fallbackResult.2.2 (fallbackResult.2.2.call.get (by decide +kernel)) := by
  refine ⟨by decide +kernel, by decide +kernel, ?_⟩
  have hrun : (epMachine testService).Run testBoot testRun.1 testRun.2 :=
    Machine.run_get testBoot testOps (by decide)
  have hpc : testRun.2.pc = some testPc := (Option.some_get _).symm
  have hcall : provHttpHandler .bits64 fallbackPost testHttp ⟨testPc, testRun.2.ext, testRun.2.app⟩ =
      (fallbackResult.1, fallbackResult.2.1, fallbackResult.2.2) := by
    rw [Prod.eta]
    rfl
  obtain ⟨hroutes, -⟩ := fallback_never_aliases (κ := Nat) (n := 3) (by decide) hrun hpc
  exact hroutes .bits64 fallbackPost testHttp _ _ _ _ rfl hcall (Option.some_get _).symm

end NetworkProv.Http
