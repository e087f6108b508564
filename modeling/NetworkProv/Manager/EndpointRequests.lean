import NetworkProv.Manager.EndpointTable

/-!
# Requests to custom endpoints

`endpoint_table`: in every run, a start registers the built-in endpoints and the
created ones; while the service runs, a request selects the endpoint of its name,
and one for a custom endpoint reaches what was registered last.
-/
namespace NetworkProv.Endpoints
open NetworkProv.Core Core.CText Protocomm

variable {A C W H X : Type} {S : Service A C W H X} {n : Nat}

/-! ## Requests -/

theorem findEp_iff {pc : Pc A C W H X} (h : (pc.endpoints.map (·.name)).Nodup) {name : CStr}
    {ep : ProtocommEp (EpApp A H X)} :
    pc.findEp name = some ep ↔ ep ∈ pc.endpoints ∧ ep.name = name := by
  constructor
  · exact fun hf => ⟨List.mem_of_find?_eq_some hf, findEp_name hf⟩
  · rintro ⟨hm, rfl⟩
    unfold findEp
    obtain ⟨l₁, l₂, hsplit⟩ := List.append_of_mem hm
    rw [hsplit, List.map_append, List.map_cons, List.nodup_append] at h
    have hbefore : l₁.find? (fun x => x.name = ep.name) = none := by
      refine List.find?_eq_none.mpr fun x hx => ?_
      simpa using h.2.2 x.name (List.mem_map_of_mem hx) ep.name (by simp)
    rw [hsplit, List.find?_append, hbefore]
    simp

/-- What a request with the plaintext `plain` comes to. The handler that is registered is called on
it, with its context and on the application's state, and its answer is that of the request; if there
is none, nobody is called and the answer is `-ENOTSUP`. -/
def Forwarded (S : Service A C W H X) (registered : Option (H × Option X)) (sec : ProtocommSecurity C W)
    (e : ReqEnv) (q q' : Session (EpApp A H X) C W) (name : CStr) (plain : Bytes) (r : Reply) : Prop :=
  match registered with
  | some (h, ctx) =>
    q'.app.app = (S.invoke h ctx q.app.app plain).1 ∧
      AnsweredWith sec e q.pc.secCtx name plain (S.invoke h ctx q.app.app plain).2.1
        (S.invoke h ctx q.app.app plain).2.2 r
  | none => q'.app.app = q.app.app ∧ AnsweredWith sec e q.pc.secCtx name plain (-ENOTSUP) [] r

/-- The slot of an endpoint has what was registered last. -/
theorem registered_eq {r : Spec H X} {s : World A C W H X} {pc : Pc A C W H X} (h : Inv S n r s)
    (hrun : Running S r s.started pc) {i : Nat} {name : CStr} (hi : r.table[i]? = some name) :
    (s.app.custom[i]?).bind (·.registered) = r.reg.value name := by
  rw [h.custom]
  rcases hrun.current with htable | hreset
  · rw [htable] at hi
    rw [Registry.getElem?_render hi]
    exact registered_slot ..
  · rw [hreset, Registry.render_empty, List.getElem?_replicate]
    split <;> rfl

/-- The endpoint that a request for a custom name selects. -/
theorem dataEp_custom {r : Spec H X} {started : Bool} {pc : Pc A C W H X} (hrun : Running S r started pc)
    {i : Nat} {name : CStr} (hi : r.table[i]? = some name) : DataEp pc name (customTrampoline S i) := by
  have hmem : (⟨name, .data (customTrampoline S i)⟩ : ProtocommEp (EpApp A H X)) ∈ pc.endpoints := by
    rw [hrun.endpoints]
    refine List.mem_append.mpr (.inr (List.mem_map.mpr ⟨(name, i), ?_, rfl⟩))
    exact List.mk_mem_zipIdx_iff_getElem?.mpr hi
  have hnodup : (pc.endpoints.map (·.name)).Nodup := by
    rw [hrun.endpoints]
    exact names_nodup hrun.nodup hrun.good
  exact (findEp_iff hnodup).mpr ⟨hmem, rfl⟩

theorem reqHandle_data {pc : Pc A C W H X} {ext : W} {app : EpApp A H X} {name : CStr}
    {handler : ReqHandler (EpApp A H X)} (hep : DataEp pc name handler) {sec : ProtocommSecurity C W}
    (hsec : pc.sec = some sec) (hctx : pc.secCtx.isSome = true) (e : ReqEnv) (inbuf : Bytes) :
    protocommReqHandle e ⟨pc, ext, app⟩ (some name) inbuf =
      handleData sec e ⟨pc, ext, app⟩ name handler inbuf := by
  obtain ⟨c, hc⟩ := Option.isSome_iff_exists.mp hctx
  unfold protocommReqHandle
  dsimp only
  rw [hep]
  dsimp only
  rw [hsec, hc]

theorem forward_forwarded {registered : Option (H × Option X)} {sec : ProtocommSecurity C W} {e : ReqEnv}
    {q q' : Session (EpApp A H X) C W} {name : CStr} {plain : Bytes} {rep : Reply}
    {handler : ReqHandler (EpApp A H X)} (hh : handler q.app plain = forward S registered q.app plain)
    (h : runHandler sec e q name handler plain = (q', rep)) :
    Forwarded S registered sec e q q' name plain rep := by
  have happ := runHandler_app h
  have hans := runHandler_answered h
  rw [hh] at happ hans
  cases registered with
  | none => exact ⟨by rw [happ]; rfl, hans⟩
  | some p => exact ⟨by rw [happ]; rfl, hans⟩

/-- A request that is read reaches what was registered last. -/
theorem request_forwarded {r : Spec H X} {s : World A C W H X} {pc : Pc A C W H X} (h : Inv S n r s)
    (hpc : s.pc = some pc) {name : CStr} (hname : name ∈ r.table) {e : ReqEnv} {inbuf plain : Bytes}
    {sec : ProtocommSecurity C W} {q : Session (EpApp A H X) C W} (hsec : pc.sec = some sec)
    (hctx : pc.secCtx.isSome = true) (hd : Decrypts sec e ⟨pc, s.ext, s.app⟩ inbuf plain q) :
    Forwarded S (r.reg.value name) sec e q
      (protocommReqHandle e ⟨pc, s.ext, s.app⟩ (some name) inbuf).1 name plain
      (protocommReqHandle e ⟨pc, s.ext, s.app⟩ (some name) inbuf).2 := by
  have hrun := h.running pc hpc
  obtain ⟨i, hi⟩ := List.mem_iff_getElem?.mp hname
  have happ : q.app = s.app := by cases hd <;> rfl
  rw [reqHandle_data (dataEp_custom hrun hi) hsec hctx, handleData_decrypts hd]
  refine forward_forwarded ?_ rfl
  change forward S ((q.app.custom[i]?).bind (·.registered)) q.app plain = _
  rw [happ, registered_eq h hrun hi]

/-- One that is not read calls nobody. -/
theorem request_unread {r : Spec H X} {s : World A C W H X} {pc : Pc A C W H X} (h : Inv S n r s)
    (hpc : s.pc = some pc) {name : CStr} (hname : name ∈ r.table) {e : ReqEnv} {inbuf : Bytes}
    (hno : ∀ sec plain q, pc.sec = some sec → pc.secCtx.isSome = true →
      ¬ Decrypts sec e ⟨pc, s.ext, s.app⟩ inbuf plain q) :
    (protocommReqHandle e ⟨pc, s.ext, s.app⟩ (some name) inbuf).2.call = none := by
  obtain ⟨i, hi⟩ := List.mem_iff_getElem?.mp hname
  have hep := dataEp_custom (h.running pc hpc) hi
  generalize hq : protocommReqHandle e ⟨pc, s.ext, s.app⟩ (some name) inbuf = out
  obtain ⟨q', rep⟩ := out
  rcases reqHandle_cases hq with ⟨-, hnone⟩ | ⟨n', sec, hs, o, c, w, hn, -, -, -, -, -, rfl⟩ |
      ⟨n', hd, sec, c, heq, -, hsec, hc, hh⟩
  · exact hnone
  · exact ofExcept_call o
  · rcases handleData_cases hh with ⟨-, -, -, rfl⟩ | ⟨-, -, ret, c', -, -, rfl⟩ | ⟨plain, s₁, hde, -⟩
    · rfl
    · rfl
    · exact absurd hde (hno sec plain s₁ hsec (by rw [hc]; rfl))

/-! ## In every run -/

/-- A start whose handlers can be set up registers all endpoints, and answers what the transport does. -/
structure StartRegisters (S : Service A C W H X) (r : Spec H X) (s : World A C W H X) (security1 : Bool)
    (pop : Option CStr) (e : StartEnv) : Prop where
  registers : ∃ pc, registerEndpoints S security1 pop e s.app.custom = .ok pc ∧
    pc.endpoints = endpointsOf S r.reg.names ∧ (pc.endpoints.map (·.name)).Nodup
  ret : s.inited = true → s.started = false → e.new = true →
    (networkProvMgrStartProvisioning S security1 pop e s).1 = e.scheme

/-- The instance's table, and what its requests come to. -/
structure TableServes (S : Service A C W H X) (r : Spec H X) (s : World A C W H X) (pc : Pc A C W H X) :
    Prop where
  endpoints : pc.endpoints = endpointsOf S r.table
  distinct : (pc.endpoints.map (·.name)).Nodup
  selects : ∀ name ep, pc.findEp name = some ep ↔ ep ∈ pc.endpoints ∧ ep.name = name
  forwards : ∀ name ∈ r.table, ∀ e inbuf sec plain q, pc.sec = some sec → pc.secCtx.isSome = true →
    Decrypts sec e ⟨pc, s.ext, s.app⟩ inbuf plain q →
      Forwarded S (r.reg.value name) sec e q
        (protocommReqHandle e ⟨pc, s.ext, s.app⟩ (some name) inbuf).1 name plain
        (protocommReqHandle e ⟨pc, s.ext, s.app⟩ (some name) inbuf).2
  unread : ∀ name ∈ r.table, ∀ e inbuf,
    (∀ sec plain q, pc.sec = some sec → pc.secCtx.isSome = true →
      ¬ Decrypts sec e ⟨pc, s.ext, s.app⟩ inbuf plain q) →
    (protocommReqHandle e ⟨pc, s.ext, s.app⟩ (some name) inbuf).2.call = none

theorem endpoint_table (hn : n ≤ 3) {ext : W} {app : A} {s : World A C W H X} {t : List (EpEntry A C W H X)}
    (h : (epMachine S).Run (.boot n ext app) t s) :
    (∀ security1 pop e, e.scanInit = 0 → e.configInit = 0 →
      StartRegisters S (specOf t) s security1 pop e) ∧
    ∀ pc, s.pc = some pc → TableServes S (specOf t) s pc := by
  have hinv := run_inv hn h
  refine ⟨fun security1 pop e hs hc => ?_, fun pc hpc => ?_⟩
  · have hreg := registerEndpoints_ok (S := S) security1 pop hs hc hn hinv.room hinv.nodup hinv.good
    rw [← hinv.custom] at hreg
    refine ⟨⟨_, hreg, rfl, names_nodup hinv.nodup hinv.good⟩, fun hi hstopped hnew => ?_⟩
    unfold networkProvMgrStartProvisioning
    rw [if_neg (by simp [hi]), if_neg (by simp [hstopped]), if_neg (by simp [hnew]), hreg]
    dsimp only
    split
    · rfl
    · rename_i hscheme
      exact (of_not_not hscheme).symm
  · have hrun := hinv.running pc hpc
    have hnodup : (pc.endpoints.map (·.name)).Nodup := by
      rw [hrun.endpoints]
      exact names_nodup hrun.nodup hrun.good
    refine ⟨hrun.endpoints, hnodup, fun name ep => findEp_iff hnodup, ?_, ?_⟩
    · intro name hname e inbuf sec plain q hsec hctx hd
      exact request_forwarded hinv hpc hname hsec hctx hd
    · exact fun name hname e inbuf hno => request_unread hinv hpc hname hno

/-- A scheme that takes any session and copies. -/
def testSecurity : ProtocommSecurity Unit Unit :=
  ⟨0, some fun _ w _ => (.ok (), w), none, none, fun _ c inp => (.ok inp, c), fun _ c inp => (.ok inp, c)⟩

/-- The application's handlers answer with the request. -/
def testService : Service Unit Unit Unit Nat Unit :=
  ⟨fun a _ => (a, 0, []), fun a _ => (a, 0, []), fun a _ => (a, 0, []),
    fun _ _ a inbuf => (a, 0, inbuf), testSecurity, testSecurity⟩

def myEp : CStr := ⟨ofChars ['m', 'y', '-', 'e', 'p'], by decide⟩

/-- A name is created, created again and refused, as is a built-in one; then it gets a handler. -/
def testOps : List (Op Unit Nat Unit) :=
  [.init true 0, .create (some myEp), .create (some myEp), .create (some EP_SCAN),
    .start false none ⟨true, .empty, 0, 0, 0⟩, .create (some EP_CTRL), .register (some myEp) (some 7) none]

def testBoot : World Unit Unit Unit Nat Unit := .boot 3 () ()

def testRun : List (EpEntry Unit Unit Unit Nat Unit) × World Unit Unit Unit Nat Unit :=
  ((epMachine testService).exec testBoot testOps).get (by decide)

/-- Every call answers, and nothing is drawn. -/
def testCalls : Env := .good [] (Buf.zero 16)

/-- The same, and a session is opened. -/
def openRun : List (EpEntry Unit Unit Unit Nat Unit) × World Unit Unit Unit Nat Unit :=
  ((epMachine testService).exec testBoot (testOps ++ [.pc (.openSession testCalls)])).get (by decide)

def openPc : Pc Unit Unit Unit Nat Unit := openRun.2.pc.get (by decide)

def openReply : Reply :=
  (protocommReqHandle (.good testCalls) ⟨openPc, openRun.2.ext, openRun.2.app⟩ (some myEp) [0x68, 0x69]).2

/-- The request "hi" to "my-ep" reaches its handler, which answers. -/
theorem endpoint_table_test :
    (specOf openRun.1).table = [myEp] ∧ (specOf openRun.1).reg.value myEp = some (7, none) ∧
    TableServes testService (specOf openRun.1) openRun.2 openPc ∧
    openReply.call = some ⟨myEp, [0x68, 0x69], 0, [0x68, 0x69]⟩ ∧ openReply.out = [0x68, 0x69] := by
  have hrun : (epMachine testService).Run testBoot openRun.1 openRun.2 :=
    Machine.run_get testBoot (testOps ++ [.pc (.openSession testCalls)]) (by decide)
  have hpc : openRun.2.pc = some openPc := (Option.some_get _).symm
  have hserves := (endpoint_table (n := 3) (by decide) hrun).2 openPc hpc
  have hvalue : (specOf openRun.1).reg.value myEp = some (7, none) := by decide
  have htable : (specOf openRun.1).table = [myEp] := by decide
  have hread : Decrypts testSecurity (.good testCalls) ⟨openPc, openRun.2.ext, openRun.2.app⟩
      [0x68, 0x69] [0x68, 0x69] _ := .decrypt (by decide) rfl rfl
  have hf := hserves.forwards myEp (by rw [htable]; exact List.mem_singleton_self _) _ _ _ _ _ rfl rfl hread
  rw [hvalue] at hf
  exact ⟨htable, hvalue, hserves, hf.2.call, (hf.2.encrypted rfl (by decide) rfl _ rfl).2⟩

end NetworkProv.Endpoints
