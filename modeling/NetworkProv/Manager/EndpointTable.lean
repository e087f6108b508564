import NetworkProv.Manager.Endpoints

/-!
# What the endpoint tables hold

* `registerEndpoints_ok`: a start registers the built-in endpoints and the
  created ones, and none is refused.
* `create_zero_iff`: which names are created.
* `Inv`, `step_inv`: the manager's table renders a registry, the names in order
  of creation and what is registered for each; the instance's table is the
  built-in endpoints and the names that there were at the start.
-/
namespace NetworkProv.Endpoints
open NetworkProv.Core Protocomm

variable {A C W H X : Type} {S : Service A C W H X} {n : Nat}

/-! ## The tables -/

/-- A name, and what is registered for it. -/
def slot : Slot CStr (Option (H × Option X)) (CustomEp H X) where
  used k v := ⟨k, v.map Prod.fst, v.bind Prod.snd, true⟩
  free := .zero
  taken e := e.created
  holds k e := e.created && e.name = k
  taken_used _ _ := rfl
  taken_free := rfl
  holds_used k k' v := by simp
  holds_free _ := rfl

/-- What a slot was given is what can be read from it. -/
theorem registered_slot (k : CStr) (v : Option (H × Option X)) :
    (slot.used k v).registered = v := by cases v <;> rfl

/-- The names in order of creation, and what is registered for each. -/
abbrev Reg (H X : Type) := Registry CStr (Option (H × Option X))

/-- In the order in which a start registers them. -/
def builtinEps (S : Service A C W H X) : List (ProtocommEp (EpApp A H X)) :=
  [⟨EP_VERSION, .version⟩, ⟨EP_SESSION, .security⟩, ⟨EP_SCAN, .data (onApp S.scan)⟩,
    ⟨EP_CONFIG, .data (onApp S.config)⟩, ⟨EP_CTRL, .data (onApp S.ctrl)⟩]

/-- The endpoints for the slots from the `i`th on. -/
def customEps (S : Service A C W H X) (i : Nat) (names : List CStr) : List (ProtocommEp (EpApp A H X)) :=
  (names.zipIdx i).map fun p => ⟨p.1, .data (customTrampoline S p.2)⟩

/-- The built-in endpoints, then the custom ones. -/
def endpointsOf (S : Service A C W H X) (names : List CStr) : List (ProtocommEp (EpApp A H X)) :=
  builtinEps S ++ customEps S 0 names

/-- The endpoints are under the names. -/
theorem names_customEps (i : Nat) (names : List CStr) :
    (customEps S i names).map (·.name) = names := by
  simp [customEps, Function.comp_def]

/-- The list of names in the check is that of the endpoints that a start registers. -/
theorem isBuiltinEp_iff {name : CStr} :
    isBuiltinEp name = true ↔ name ∈ (builtinEps S).map (·.name) := by
  simp [isBuiltinEp, builtinEps, or_assoc]

/-- Names that `endpoint_create` takes: short, and none of the built-in ones. -/
def GoodName (name : CStr) : Prop := name.chars.length < PROTOCOMM_EP_NAME_MAX ∧ isBuiltinEp name = false

/-- No name is there twice; `add_ep` would refuse it. -/
theorem names_nodup {names : List CStr} (hn : names.Nodup) (hg : ∀ k ∈ names, GoodName k) :
    ((endpointsOf S names).map (·.name)).Nodup := by
  have hbuiltin : ((builtinEps S).map (·.name)).Nodup := by
    change [EP_VERSION, EP_SESSION, EP_SCAN, EP_CONFIG, EP_CTRL].Nodup
    decide
  rw [endpointsOf, List.map_append, names_customEps, List.nodup_append]
  refine ⟨hbuiltin, hn, fun k hk k' hk' heq => ?_⟩
  rw [← isBuiltinEp_iff, heq, (hg k' hk').2] at hk
  cases hk

/-! ## Registering -/

/-- What `add_ep` asks of a name and of the table. -/
theorem addEp_ok {pc : Pc A C W H X} {name : CStr} {type : EpType (EpApp A H X)}
    (hlen : name.chars.length < PROTOCOMM_EP_NAME_MAX) (hnew : name ∉ pc.endpoints.map (·.name))
    (hroom : pc.endpoints.length < PROTOCOMM_MAX_ENDPOINTS) :
    addEp pc (some name) type = .ok { pc with endpoints := pc.endpoints ++ [⟨name, type⟩] } := by
  have hfind : pc.findEp name = none := by
    refine List.find?_eq_none.mpr fun ep hep => ?_
    rw [decide_eq_true_iff]
    rintro rfl
    exact hnew (List.mem_map_of_mem hep)
  unfold addEp
  dsimp only
  rw [if_neg (by omega), hfind, if_neg (by simp), if_neg (by omega)]

/-- Free slots are passed over. -/
theorem addCustomEndpoints_free (m i : Nat) (pc : Pc A C W H X) :
    addCustomEndpoints S i (List.replicate m .zero) pc = .ok pc := by
  induction m generalizing i with
  | zero => rfl
  | succ m ih => exact ih (i + 1)

/-- The loop over the slots: each name gets the handler of its own slot, after those before it.
The induction is on the names that are left, with the table as far as it is built. -/
theorem addCustomEndpoints_ok {v : CStr → Option (H × Option X)} {m : Nat} {names : List CStr} :
    ∀ {i : Nat} {pc : Pc A C W H X}, names.Nodup →
      (∀ k ∈ names, k.chars.length < PROTOCOMM_EP_NAME_MAX ∧ k ∉ pc.endpoints.map (·.name)) →
      pc.endpoints.length + names.length ≤ PROTOCOMM_MAX_ENDPOINTS →
      addCustomEndpoints S i (names.map (fun k => slot.used k (v k)) ++ List.replicate m .zero) pc =
        .ok { pc with endpoints := pc.endpoints ++ customEps S i names } := by
  induction names with
  | nil =>
    intro i pc _ _ _
    rw [List.map_nil, List.nil_append, addCustomEndpoints_free]
    simp [customEps]
  | cons k names ih =>
    intro i pc hnodup hgood hroom
    obtain ⟨hk, hnodup⟩ := List.nodup_cons.mp hnodup
    obtain ⟨hlen, hnew⟩ := hgood k (by simp)
    rw [List.length_cons] at hroom
    let pc' : Pc A C W H X := { pc with endpoints := pc.endpoints ++ [⟨k, .data (customTrampoline S i)⟩] }
    have hadd : addEp pc (some k) (.data (customTrampoline S i)) = .ok pc' := addEp_ok hlen hnew (by omega)
    have hgood' : ∀ k' ∈ names,
        k'.chars.length < PROTOCOMM_EP_NAME_MAX ∧ k' ∉ pc'.endpoints.map (·.name) := by
      intro k' hk'
      obtain ⟨hlen', hnew'⟩ := hgood k' (List.mem_cons_of_mem _ hk')
      have hne : k' ≠ k := fun heq => hk (heq ▸ hk')
      simpa [pc', hne] using ⟨hlen', by simpa using hnew'⟩
    change (addEp pc (some k) (.data (customTrampoline S i))).bind _ = _
    rw [hadd]
    refine (ih hnodup hgood' (by simp [pc']; omega)).trans ?_
    simp [pc', customEps, List.zipIdx_cons]

/-- The table before the custom endpoints. -/
theorem builtins_ok (security1 : Bool) (pop : Option CStr) {e : StartEnv} (hs : e.scanInit = 0)
    (hc : e.configInit = 0) (custom : List (CustomEp H X)) :
    registerEndpoints S security1 pop e custom = addCustomEndpoints S 0 custom
      ⟨builtinEps S, some (if security1 then S.security1 else S.security0), if security1 then pop else none,
        none, some e.versionJson⟩ := by
  unfold registerEndpoints netEndpointsInit check
  rw [hs, hc]
  rfl

/-- A start registers the built-in endpoints and the created ones, and none is refused. -/
theorem registerEndpoints_ok (security1 : Bool) (pop : Option CStr) {e : StartEnv} (hs : e.scanInit = 0)
    (hc : e.configInit = 0) {r : Reg H X} (hn : n ≤ 3) (hroom : r.names.length ≤ n)
    (hnodup : r.names.Nodup) (hgood : ∀ k ∈ r.names, GoodName k) :
    registerEndpoints S security1 pop e (r.render slot n) =
      .ok ⟨endpointsOf S r.names, some (if security1 then S.security1 else S.security0),
        if security1 then pop else none, none, some e.versionJson⟩ := by
  rw [builtins_ok security1 pop hs hc]
  refine addCustomEndpoints_ok hnodup (fun k hk => ⟨(hgood k hk).1, fun hm => ?_⟩) ?_
  · rw [← isBuiltinEp_iff, (hgood k hk).2] at hm
    cases hm
  · change 5 + r.names.length ≤ 8
    omega

/-! ## What the calls can do -/

/-- A creation that answers 0 writes the first free slot; any other leaves everything as it is. -/
theorem create_cases {epName : Option CStr} {s s' : World A C W H X} {ret : Int}
    (h : networkProvMgrEndpointCreate epName s = (ret, s')) :
    (ret ≠ 0 ∧ s' = s) ∨
    ∃ name i, epName = some name ∧ ret = 0 ∧ name.chars ≠ [] ∧ GoodName name ∧ s.inited = true ∧
      s.started = false ∧ findCustomEp s.app.custom name = none ∧
      (s.app.custom.findIdx? fun e => !e.created) = some i ∧
      s' = s.withCustom (s.app.custom.set i ⟨name, none, none, true⟩) := by
  unfold networkProvMgrEndpointCreate at h
  split at h
  · cases h; exact .inl ⟨(by decide : -EINVAL ≠ 0), rfl⟩
  rename_i name
  split at h
  · cases h; exact .inl ⟨(by decide : -EINVAL ≠ 0), rfl⟩
  rename_i hlen
  split at h
  · cases h; exact .inl ⟨(by decide : -EPERM ≠ 0), rfl⟩
  rename_i hinited
  split at h
  · cases h; exact .inl ⟨(by decide : -EPERM ≠ 0), rfl⟩
  rename_i hstarted
  split at h
  · cases h; exact .inl ⟨(by decide : -EALREADY ≠ 0), rfl⟩
  rename_i htaken
  rw [Bool.or_eq_true, not_or, Bool.not_eq_true, Bool.not_eq_true, Option.isSome_eq_false_iff,
    Option.isNone_iff_eq_none] at htaken
  obtain ⟨hne, hlong⟩ := not_or.mp hlen
  have hshort : name.chars.length < PROTOCOMM_EP_NAME_MAX := Nat.lt_of_not_le hlong
  split at h
  · rename_i i hi
    cases h
    rw [strncpyName_eq hshort]
    exact .inr ⟨name, i, rfl, rfl, hne, ⟨hshort, htaken.1⟩, by simpa using hinited,
      by simpa using hstarted, htaken.2, hi, rfl⟩
  · cases h; exact .inl ⟨(by decide : -ENOSPC ≠ 0), rfl⟩

/-- So does a registration, with the slot of the name, created before, -/
theorem register_cases {epName : Option CStr} {handler : Option H} {userCtx : Option X}
    {s s' : World A C W H X} {ret : Int}
    (h : networkProvMgrEndpointRegister epName handler userCtx s = (ret, s')) :
    (ret ≠ 0 ∧ s' = s) ∨
    ∃ name hd i, epName = some name ∧ handler = some hd ∧ ret = 0 ∧
      findCustomEp s.app.custom name = some i ∧
      s' = s.withCustom (s.app.custom.modify i fun e => { e with ctx := userCtx, handler := some hd }) := by
  unfold networkProvMgrEndpointRegister at h
  split at h
  · split at h
    · cases h; exact .inl ⟨(by decide : -EPERM ≠ 0), rfl⟩
    split at h
    · cases h; exact .inl ⟨(by decide : -ENOENT ≠ 0), rfl⟩
    · rename_i i hi
      cases h
      exact .inr ⟨_, _, i, rfl, rfl, rfl, hi, rfl⟩
  · cases h; exact .inl ⟨(by decide : -EINVAL ≠ 0), rfl⟩

/-- and so does an unregistration. -/
theorem unregister_cases {epName : Option CStr} {s s' : World A C W H X} {ret : Int}
    (h : networkProvMgrEndpointUnregister epName s = (ret, s')) :
    (ret ≠ 0 ∧ s' = s) ∨
    ∃ name i, epName = some name ∧ ret = 0 ∧ findCustomEp s.app.custom name = some i ∧
      s' = s.withCustom (s.app.custom.modify i fun e => { e with handler := none, ctx := none }) := by
  unfold networkProvMgrEndpointUnregister at h
  split at h
  · cases h; exact .inl ⟨(by decide : -EINVAL ≠ 0), rfl⟩
  split at h
  · cases h; exact .inl ⟨(by decide : -ENOENT ≠ 0), rfl⟩
  · rename_i i hi
    cases h
    exact .inr ⟨_, i, rfl, rfl, hi, rfl⟩

/-- What fails does not answer 0. -/
def Fails {α : Type} (x : Except Int α) : Prop := ∀ ret, x = .error ret → ret ≠ 0

theorem Fails.bind {α β : Type} {x : Except Int α} {f : α → Except Int β} (hx : Fails x)
    (hf : ∀ a, Fails (f a)) : Fails (x >>= f) := by
  intro ret h
  cases x with
  | error r =>
    cases h
    exact hx _ rfl
  | ok a => exact hf a ret h

/-- A handler whose init fails has the start fail with the same code. -/
theorem fails_check (ret : Int) : Fails (check ret) := by
  intro r h
  unfold check at h
  split at h
  · cases h
    assumption
  · cases h

theorem fails_addEp (pc : Pc A C W H X) (name : Option CStr) (type : EpType (EpApp A H X)) :
    Fails (addEp pc name type) := by
  intro ret h
  unfold addEp at h
  split at h
  · cases h; decide
  split at h
  · cases h; decide
  split at h
  · cases h; decide
  split at h
  · cases h; decide
  · cases h

theorem Fails.map {α β : Type} {x : Except Int α} {f : α → β} (hx : Fails x) : Fails (x.map f) := by
  intro ret h
  cases x with
  | error r =>
    cases h
    exact hx _ rfl
  | ok a => cases h

theorem fails_setVersion (pc : Pc A C W H X) (name version : Option CStr) :
    Fails (protocommSetVersion pc name version) := by
  unfold protocommSetVersion
  split
  · rintro ret ⟨⟩
    decide
  · exact (fails_addEp pc name _).map

theorem fails_setSecurity (pc : Pc A C W H X) (name : Option CStr)
    (sec : Option (ProtocommSecurity C W)) (pop : Option CStr) :
    Fails (protocommSetSecurity pc name sec pop) := by
  unfold protocommSetSecurity
  split
  · rintro ret ⟨⟩
    decide
  · exact (fails_addEp pc name _).map

theorem fails_addCustomEndpoints (eps : List (CustomEp H X)) :
    ∀ (i : Nat) (pc : Pc A C W H X), Fails (addCustomEndpoints S i eps pc) := by
  induction eps with
  | nil =>
    intro i pc ret h
    cases h
  | cons ep eps ih =>
    intro i pc
    unfold addCustomEndpoints
    split
    · exact ih (i + 1) pc
    · exact (fails_addEp pc _ _).bind fun pc => ih (i + 1) pc

/-- None of the calls that a start is made of fails with 0, so neither does the start. -/
theorem fails_registerEndpoints (security1 : Bool) (pop : Option CStr) (e : StartEnv)
    (custom : List (CustomEp H X)) : Fails (registerEndpoints S security1 pop e custom) := by
  unfold registerEndpoints netEndpointsInit
  refine (fails_setVersion _ _ _).bind fun pc => (fails_setSecurity _ _ _ _).bind fun pc => ?_
  refine Fails.bind ?_ fun pc => fails_addCustomEndpoints custom 0 pc
  refine (fails_check _).bind fun _ => (fails_addEp _ _ _).bind fun pc => ?_
  exact (fails_check _).bind fun _ => (fails_addEp _ _ _).bind fun pc => fails_addEp _ _ _

/-- A start gets to the custom endpoints only when the handlers' inits succeed. -/
theorem inits_of_ok {security1 : Bool} {pop : Option CStr} {e : StartEnv} {custom : List (CustomEp H X)}
    {pc : Pc A C W H X} (h : registerEndpoints S security1 pop e custom = .ok pc) :
    e.scanInit = 0 ∧ e.configInit = 0 := by
  by_cases hs : e.scanInit = 0
  · by_cases hc : e.configInit = 0
    · exact ⟨hs, hc⟩
    · unfold registerEndpoints netEndpointsInit check at h
      rw [hs, if_pos hc] at h
      cases h
  · unfold registerEndpoints netEndpointsInit check at h
    rw [if_pos hs] at h
    cases h

/-- A start that answers 0 leaves an instance with a table; any other has at most taken the old instance
from the manager. -/
theorem start_cases {security1 : Bool} {pop : Option CStr} {e : StartEnv} {s s' : World A C W H X} {ret : Int}
    (h : networkProvMgrStartProvisioning S security1 pop e s = (ret, s')) :
    (ret ≠ 0 ∧ (s' = s ∨ s' = { s with pc := none })) ∨
    ∃ pc, ret = 0 ∧ s.started = false ∧ e.scanInit = 0 ∧ e.configInit = 0 ∧
      registerEndpoints S security1 pop e s.app.custom = .ok pc ∧
      s' = { s with started := true, pc := some pc } := by
  unfold networkProvMgrStartProvisioning at h
  split at h
  · cases h; exact .inl ⟨(by decide : -EPERM ≠ 0), .inl rfl⟩
  split at h
  · cases h; exact .inl ⟨(by decide : -EALREADY ≠ 0), .inl rfl⟩
  rename_i hstarted
  split at h
  · cases h; exact .inl ⟨(by decide : -ENOMEM ≠ 0), .inr rfl⟩
  split at h
  · rename_i hreg
    cases h
    exact .inl ⟨fails_registerEndpoints security1 pop e _ _ hreg, .inr rfl⟩
  · rename_i pc hreg
    split at h
    · rename_i hscheme
      cases h
      exact .inl ⟨hscheme, .inr rfl⟩
    · cases h
      obtain ⟨hs, hc⟩ := inits_of_ok hreg
      exact .inr ⟨pc, rfl, by simpa using hstarted, hs, hc, hreg, rfl⟩

/-- A teardown takes the instance, and nothing from the table of names. -/
theorem doTeardown_spec (s : World A C W H X) :
    (doTeardown s).started = false ∧ (doTeardown s).app = s.app ∧
      ((doTeardown s).pc = none ∨ s.started = false ∧ (doTeardown s).pc = s.pc) := by
  unfold doTeardown
  split
  · rename_i hs
    exact ⟨hs, rfl, .inr ⟨hs, rfl⟩⟩
  · rename_i _ hpc
    exact ⟨rfl, rfl, .inl hpc⟩
  · exact ⟨rfl, closeSession_app _, .inl rfl⟩

/-! ## The history in terms of names -/

abbrev EpEntry (A C W H X : Type) := Entry (World A C W H X) (Op A H X) Out

/-- `reg`: the names created since the table was last emptied, in order, and what was registered for
them last; `table`: the custom endpoints of the last start. -/
structure Spec (H X : Type) where
  reg : Reg H X
  table : List CStr

def Spec.boot : Spec H X := ⟨.empty none, []⟩

/-- One more call, by its answer. A start has the names as they are then; `network_prov_mgr_init` empties
the names even when its settings fail, but it does not reach the instance. -/
def Spec.next (r : Spec H X) (e : EpEntry A C W H X) : Spec H X :=
  match e.lbl with
  | .init valid _ => if e.pre.inited || !valid then r else { r with reg := .empty none }
  | .create (some name) => if e.out.1 = 0 then { r with reg := r.reg.add name none } else r
  | .register (some name) (some h) ctx =>
    if e.out.1 = 0 then { r with reg := r.reg.set name (some (h, ctx)) } else r
  | .unregister (some name) => if e.out.1 = 0 then { r with reg := r.reg.set name none } else r
  | .start _ _ _ => if e.out.1 = 0 then { r with table := r.reg.names } else r
  | _ => r

/-- A call that fails changes nothing, unless it is `network_prov_mgr_init`. -/
theorem Spec.next_failed {r : Spec H X} {e : EpEntry A C W H X} (hret : e.out.1 ≠ 0)
    (hinit : ∀ valid settings, e.lbl ≠ .init valid settings) : r.next e = r := by
  unfold Spec.next
  split
  · rename_i heq
    exact absurd heq (hinit _ _)
  · exact if_neg hret
  · exact if_neg hret
  · exact if_neg hret
  · exact if_neg hret
  · rfl

/-- After these calls. -/
def specOf (t : List (EpEntry A C W H X)) : Spec H X := t.foldl Spec.next .boot

theorem specOf_snoc (t : List (EpEntry A C W H X)) (e : EpEntry A C W H X) :
    specOf (t ++ [e]) = (specOf t).next e := by
  simp [specOf, List.foldl_append]

/-- The instance has the endpoints of the last start; the names are still the manager's, unless its
table has been emptied since. -/
structure Running (S : Service A C W H X) (r : Spec H X) (started : Bool) (pc : Pc A C W H X) : Prop where
  started : started = true
  endpoints : pc.endpoints = endpointsOf S r.table
  nodup : r.table.Nodup
  good : ∀ k ∈ r.table, GoodName k
  current : r.table = r.reg.names ∨ r.reg = .empty none

/-- The slots are the registry, in its order, and the instance is that of the last start. -/
structure Inv (S : Service A C W H X) (n : Nat) (r : Spec H X) (s : World A C W H X) : Prop where
  custom : s.app.custom = r.reg.render slot n
  room : r.reg.names.length ≤ n
  nodup : r.reg.names.Nodup
  good : ∀ k ∈ r.reg.names, GoodName k
  running : ∀ pc, s.pc = some pc → Running S r s.started pc

/-- Steps that leave the slots alone. -/
theorem Inv.keep {r : Spec H X} {s s' : World A C W H X} (h : Inv S n r s)
    (hcustom : s'.app.custom = s.app.custom)
    (hrun : ∀ pc, s'.pc = some pc → Running S r s'.started pc) : Inv S n r s' :=
  ⟨hcustom.trans h.custom, h.room, h.nodup, h.good, hrun⟩

/-- Nor does what it is forwarded to. -/
theorem forward_custom (v : Option (H × Option X)) (app : EpApp A H X) (inbuf : Bytes) :
    (forward S v app inbuf).1.custom = app.custom := by
  cases v <;> rfl

/-- No endpoint handler touches the manager's table. -/
theorem handler_custom {names : List CStr} {ep : ProtocommEp (EpApp A H X)} (hep : ep ∈ endpointsOf S names)
    {hd : ReqHandler (EpApp A H X)} (ht : ep.type = .data hd) (app : EpApp A H X) (inbuf : Bytes) :
    (hd app inbuf).1.custom = app.custom := by
  rcases List.mem_append.mp hep with hb | hc
  · simp only [builtinEps, List.mem_cons, List.not_mem_nil, or_false] at hb
    rcases hb with rfl | rfl | rfl | rfl | rfl <;> cases ht <;> rfl
  · obtain ⟨p, -, rfl⟩ := List.mem_map.mp hc
    cases ht
    exact forward_custom ..

/-- The slot of a name is its place in the order of creation. -/
theorem findCustomEp_eq {r : Spec H X} {s : World A C W H X} (h : Inv S n r s) (name : CStr) :
    findCustomEp s.app.custom name = r.reg.names.findIdx? (· = name) := by
  rw [h.custom]
  exact Registry.findIdx?_render (S := slot) name

theorem findCustomEp_none {r : Spec H X} {s : World A C W H X} (h : Inv S n r s) {name : CStr} :
    findCustomEp s.app.custom name = none ↔ name ∉ r.reg.names := by
  rw [findCustomEp_eq h, List.findIdx?_eq_none_iff]
  constructor
  · intro hnew hm
    simpa using hnew name hm
  · intro hnew k hk
    rw [decide_eq_false_iff_not]
    rintro rfl
    exact hnew hk

/-- The first free slot is the one after the last name. -/
theorem findIdx?_created {r : Spec H X} {s : World A C W H X} (h : Inv S n r s) :
    (s.app.custom.findIdx? fun e => !e.created) =
      if r.reg.names.length < n then some r.reg.names.length else none := by
  rw [h.custom]
  exact Registry.findIdx?_free (S := slot)

/-- A creation: the new name comes last, and no service is running that would miss it. -/
theorem create_inv {epName : Option CStr} {s s' : World A C W H X} {ret : Int} {r : Spec H X}
    (h : Inv S n r s) (hs : networkProvMgrEndpointCreate epName s = (ret, s')) :
    Inv S n (r.next (⟨s, .create epName, (ret, none), s'⟩ : EpEntry A C W H X)) s' := by
  rcases create_cases hs with ⟨hret, rfl⟩ | ⟨name, i, rfl, rfl, -, hgood, -, hstarted, hnew, hfree, rfl⟩
  · rwa [Spec.next_failed hret (by simp)]
  change Inv S n { r with reg := r.reg.add name none } _
  have hname := (findCustomEp_none h).mp hnew
  have hslot := (findIdx?_created h).symm.trans hfree
  split at hslot
  · rename_i hroom
    cases hslot
    refine ⟨?_, ?_, ?_, ?_, fun pc hpc => ?_⟩
    · change s.app.custom.set _ _ = _
      rw [h.custom]
      exact Registry.render_add (S := slot) (v := none) hname hroom
    · simpa [Registry.add] using Nat.succ_le_of_lt hroom
    · refine List.nodup_append.mpr ⟨h.nodup, List.nodup_singleton name, fun k hk k' hk' heq => ?_⟩
      rw [heq, List.mem_singleton.mp hk'] at hk
      exact hname hk
    · rintro k hk
      rcases List.mem_append.mp hk with hk | hk
      · exact h.good k hk
      · rw [List.mem_singleton.mp hk]
        exact hgood
    -- a creation is refused while the service runs
    · have hrun := (h.running pc hpc).started
      rw [hstarted] at hrun
      cases hrun
  · cases hslot

/-- A write to the slot of a name. -/
theorem set_inv {s : World A C W H X} {r : Spec H X} {name : CStr} {i : Nat} (h : Inv S n r s)
    (hi : findCustomEp s.app.custom name = some i) (v : Option (H × Option X))
    {f : CustomEp H X → CustomEp H X} (hf : ∀ v', f (slot.used name v') = slot.used name v) :
    Inv S n { r with reg := r.reg.set name v } (s.withCustom (s.app.custom.modify i f)) := by
  rw [findCustomEp_eq h] at hi
  refine ⟨?_, h.room, h.nodup, h.good, fun pc hpc => ?_⟩
  · change s.app.custom.modify i f = _
    rw [h.custom]
    exact Registry.render_set h.nodup hi (hf _)
  · obtain ⟨hstarted, heps, hnodup, hgood, hcur⟩ := h.running pc hpc
    refine ⟨hstarted, heps, hnodup, hgood, .inl ?_⟩
    rcases hcur with htable | hreset
    · exact htable
    -- an empty registry has no slot to write to
    · rw [hreset] at hi
      cases hi

/-- Exactly these calls create an endpoint. -/
theorem create_zero_iff {name : CStr} {s : World A C W H X} {r : Spec H X} (h : Inv S n r s) :
    (networkProvMgrEndpointCreate (some name) s).1 = 0 ↔
      name.chars ≠ [] ∧ GoodName name ∧ s.inited = true ∧ s.started = false ∧ name ∉ r.reg.names ∧
        r.reg.names.length < n := by
  constructor
  · intro hret
    generalize hs : networkProvMgrEndpointCreate (some name) s = out at hret
    rcases create_cases hs with ⟨hne, -⟩ | ⟨name', i, heq, -, hne, hgood, hinited, hstarted, hnew, hfree, -⟩
    · exact absurd hret hne
    · cases heq
      rw [findIdx?_created h] at hfree
      split at hfree
      · rename_i hroom
        exact ⟨hne, hgood, hinited, hstarted, (findCustomEp_none h).mp hnew, hroom⟩
      · cases hfree
  · rintro ⟨hne, ⟨hshort, hbuiltin⟩, hinited, hstarted, hnew, hroom⟩
    unfold networkProvMgrEndpointCreate
    dsimp only
    rw [if_neg (not_or.mpr ⟨hne, Nat.not_le_of_lt hshort⟩), if_neg (by simp [hinited]),
      if_neg (by simp [hstarted]), if_neg (by simp [hbuiltin, (findCustomEp_none h).mpr hnew]),
      findIdx?_created h, if_pos hroom]

theorem register_inv {epName : Option CStr} {handler : Option H} {userCtx : Option X}
    {s s' : World A C W H X} {ret : Int} {r : Spec H X} (h : Inv S n r s)
    (hs : networkProvMgrEndpointRegister epName handler userCtx s = (ret, s')) :
    Inv S n (r.next (⟨s, .register epName handler userCtx, (ret, none), s'⟩ : EpEntry A C W H X)) s' := by
  rcases register_cases hs with ⟨hret, rfl⟩ | ⟨name, hd, i, rfl, rfl, rfl, hi, rfl⟩
  · rwa [Spec.next_failed hret (by simp)]
  · exact set_inv h hi (some (hd, userCtx)) fun v' => rfl

theorem unregister_inv {epName : Option CStr} {s s' : World A C W H X} {ret : Int} {r : Spec H X}
    (h : Inv S n r s) (hs : networkProvMgrEndpointUnregister epName s = (ret, s')) :
    Inv S n (r.next (⟨s, .unregister epName, (ret, none), s'⟩ : EpEntry A C W H X)) s' := by
  rcases unregister_cases hs with ⟨hret, rfl⟩ | ⟨name, i, rfl, rfl, hi, rfl⟩
  · rwa [Spec.next_failed hret (by simp)]
  · exact set_inv h hi none fun v' => rfl

/-- A start: the table is what the registry says now. -/
theorem start_inv (hn : n ≤ 3) {security1 : Bool} {pop : Option CStr} {e : StartEnv}
    {s s' : World A C W H X} {ret : Int} {r : Spec H X} (h : Inv S n r s)
    (hs : networkProvMgrStartProvisioning S security1 pop e s = (ret, s')) :
    Inv S n (r.next (⟨s, .start security1 pop e, (ret, none), s'⟩ : EpEntry A C W H X)) s' := by
  rcases start_cases hs with ⟨hret, hs'⟩ | ⟨pc, rfl, -, hscan, hconfig, hreg, rfl⟩
  · rw [Spec.next_failed hret (by simp)]
    rcases hs' with rfl | rfl
    · exact h
    · exact h.keep rfl fun pc hpc => by cases hpc
  · rw [h.custom, registerEndpoints_ok security1 pop hscan hconfig hn h.room h.nodup h.good] at hreg
    refine ⟨h.custom, h.room, h.nodup, h.good, fun pc' hpc' => ?_⟩
    cases hpc'
    cases hreg
    exact ⟨rfl, rfl, h.nodup, h.good, .inl rfl⟩

/-- A teardown, after which there is no instance to speak of. -/
theorem doTeardown_inv {s : World A C W H X} {r : Spec H X} (h : Inv S n r s) : Inv S n r (doTeardown s) := by
  obtain ⟨-, happ, hpc⟩ := doTeardown_spec s
  refine h.keep (by rw [happ]) fun pc hpc' => ?_
  rcases hpc with hnone | ⟨hstopped, hsame⟩
  · rw [hnone] at hpc'
    cases hpc'
  · rw [hsame] at hpc'
    have hrun := (h.running pc hpc').started
    rw [hstopped] at hrun
    cases hrun

theorem deinit_inv {s : World A C W H X} {r : Spec H X} (h : Inv S n r s) :
    Inv S n r (networkProvMgrDeinit s) := by
  unfold networkProvMgrDeinit
  split
  · exact h
  split
  · have hdown := doTeardown_inv h
    exact hdown.keep rfl hdown.running
  · exact h.keep rfl h.running

/-- `network_prov_mgr_init`: an empty table, under a service that may still be running. -/
theorem init_inv {valid : Bool} {settings ret : Int} {s s' : World A C W H X} {r : Spec H X}
    (h : Inv S n r s) (hs : networkProvMgrInit valid settings s = (ret, s')) :
    Inv S n (r.next (⟨s, .init valid settings, (ret, none), s'⟩ : EpEntry A C W H X)) s' := by
  unfold networkProvMgrInit at hs
  split at hs
  · rename_i hi
    cases hs
    simpa [Spec.next, hi] using h
  rename_i hi
  split at hs
  · rename_i hv
    cases hs
    simpa [Spec.next, hv] using h
  rename_i hv
  have hempty : Inv S n { r with reg := .empty none } (s.withCustom (s.app.custom.map fun _ => .zero)) := by
    refine ⟨?_, Nat.zero_le n, List.nodup_nil, by simp [Registry.empty], fun pc hpc => ?_⟩
    · change s.app.custom.map _ = _
      rw [Registry.render_empty, List.map_const', h.custom]
      simp [Registry.render, slot, Nat.add_sub_cancel' h.room]
    · obtain ⟨hstarted, heps, hnodup, hgood, -⟩ := h.running pc hpc
      exact ⟨hstarted, heps, hnodup, hgood, .inr rfl⟩
  have hnext : r.next (⟨s, .init valid settings, (ret, none), s'⟩ : EpEntry A C W H X) =
      { r with reg := .empty none } := by
    simp only [Spec.next]
    rw [Bool.not_eq_true] at hi
    rw [if_neg (by simpa using ⟨hi, by simpa using hv⟩)]
  rw [hnext]
  dsimp only at hs
  split at hs
  · cases hs
    exact hempty
  · cases hs
    exact hempty.keep rfl hempty.running

/-- A step of the instance: neither its own table nor that of the manager changes. -/
theorem pc_inv {s : World A C W H X} {r : Spec H X} {op : PcOp} {pc : Pc A C W H X} (h : Inv S n r s)
    (hpc : s.pc = some pc) {q : Session (EpApp A H X) C W} {reply : Reply}
    (hq : Session.step ⟨pc, s.ext, s.app⟩ op = some (q, reply)) :
    Inv S n r { s with pc := some q.pc, ext := q.ext, app := q.app } := by
  obtain ⟨hstarted, heps, hnodup, hgood, hcur⟩ := h.running pc hpc
  have hcustom : q.app.custom = s.app.custom := by
    rcases Session.step_app hq with happ | ⟨name, hd, plain, hep, happ⟩
    · exact congrArg EpApp.custom happ
    · rw [happ]
      have hmem : (⟨name, .data hd⟩ : ProtocommEp (EpApp A H X)) ∈ endpointsOf S r.table := by
        rw [← heps]
        exact List.mem_of_find?_eq_some hep
      exact handler_custom hmem rfl s.app plain
  have hsame : q.pc.endpoints = pc.endpoints := by
    rw [Session.step_config hq]
  refine h.keep hcustom fun pc' hpc' => ?_
  cases hpc'
  exact ⟨hstarted, hsame.trans heps, hnodup, hgood, hcur⟩

/-- Each call keeps the invariant; one case an operation. -/
theorem step_inv (hn : n ≤ 3) {e : EpEntry A C W H X} (he : (epMachine S).Ok e) {r : Spec H X}
    (h : Inv S n r e.pre) : Inv S n (r.next e) e.post := by
  obtain ⟨s, op, out, s'⟩ := e
  change step S s op = some (s', out) at he
  dsimp only at h ⊢
  cases op with
  | init valid settings =>
    cases he
    exact init_inv h rfl
  | deinit =>
    cases he
    exact deinit_inv h
  | deinitReturns =>
    unfold step at he
    dsimp only at he
    split at he
    · cases he
    · cases he
      exact h.keep rfl h.running
  | create epName =>
    cases he
    exact create_inv h rfl
  | register epName handler userCtx =>
    cases he
    exact register_inv h rfl
  | unregister epName =>
    cases he
    exact unregister_inv h rfl
  | start security1 pop env =>
    cases he
    exact start_inv hn h rfl
  | teardown =>
    cases he
    exact doTeardown_inv h
  | pc op =>
    obtain ⟨pc, hpc, hmap⟩ := Option.bind_eq_some_iff.mp he
    obtain ⟨⟨q, reply⟩, hq, heq⟩ := Option.map_eq_some_iff.mp hmap
    cases heq
    exact pc_inv h hpc hq
  | other app =>
    cases he
    exact h.keep rfl h.running

theorem boot_inv (ext : W) (app : A) : Inv S n (.boot : Spec H X) (World.boot n ext app) where
  custom := rfl
  room := Nat.zero_le n
  nodup := List.nodup_nil
  good k hk := by cases hk
  running pc hpc := by cases hpc

/-- So the table is what the history says, in every state. -/
theorem run_inv (hn : n ≤ 3) {ext : W} {app : A} {s : World A C W H X} {t : List (EpEntry A C W H X)}
    (h : (epMachine S).Run (.boot n ext app) t s) : Inv S n (specOf t) s := by
  refine h.history (P := fun t s => Inv S n (specOf t) s) (boot_inv ext app) fun t e _ he ih => ?_
  rw [specOf_snoc]
  exact step_inv hn he ih

end NetworkProv.Endpoints
