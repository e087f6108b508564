import NetworkProv.Core.Machine
import NetworkProv.Thread.Config

/-!
# The Thread handler and its environment

A run of the device as the Thread handler sees it: starts and stops of the
service, requests, the manager's calls, the state-change callback of OpenThread
and the attach timeout. The callback is called while it is registered, with
whatever role the node has then; the timeout fires while it is armed.

* `Input.op`: what an input comes to, once arguments are checked.
* `Effect`, `step_effect`: all a step can do.
-/
namespace NetworkProv.Thread

open NetworkProv.Core NetworkProv.Wifi

/-- What the handler has, and the active dataset of OpenThread. -/
structure World where
  tc : Tc
  active : Option DatasetTlvs

def World.boot (active : Option DatasetTlvs) : World := ⟨Tc.zero, active⟩

inductive Input
  | start (ret : Int)
  | stop
  | config (e : OtEnv) (req : Option NetworkConfigReq)
  | ctrl (e : OtEnv) (req : Option NetworkCtrlReq)
  | resetSmState
  | setAndApply (e : OtEnv) (dataset : Option Bytes)
  | resetProvisioning (inited : Bool) (e : OtEnv)
  | stateChanged (roleChanged : Bool) (role : OtDeviceRole)
  | attachTimeout

/-- What a step returns, answers and reports. -/
structure Output where
  ret : Int
  resp : Option Resp
  events : List CredEvent
  deriving DecidableEq

def World.begin (w : World) : CallState := ⟨w.tc, w.active, []⟩

def World.answer (r : Int × Option Resp) (s : CallState) : Option (World × Output) :=
  some (⟨s.tc, s.active⟩, ⟨r.1, r.2, s.events⟩)

def step (w : World) : Input → Option (World × Output)
  | .start ret =>
    if w.tc.cbRegistered then none
    else
      match networkProvThreadConfigInit ret with
      | (r, tc) => World.answer (r, none) { w.begin with tc := tc }
  | .stop =>
    if w.tc.cbRegistered then
      World.answer (0, none) { w.begin with tc := networkProvThreadConfigDeinit w.tc }
    else none
  | .config e req =>
    if w.tc.cbRegistered then
      match networkProvThreadConfigHandler e req w.begin with
      | (r, s) => World.answer r s
    else none
  | .ctrl e req =>
    if w.tc.cbRegistered then
      match networkProvThreadCtrlHandler e req w.begin with
      | (r, s) => World.answer r s
    else none
  | .resetSmState =>
    match networkProvMgrResetSmState w.tc.cbRegistered w.begin with
    | (ret, s) => World.answer (ret, none) s
  | .setAndApply e dataset =>
    if w.tc.cbRegistered then
      match networkProvThreadConfigSetAndApply e dataset w.begin with
      | (ret, s) => World.answer (ret, none) s
    else none
  | .resetProvisioning inited e =>
    match networkProvMgrResetProvisioning inited e w.begin with
    | (ret, s) => World.answer (ret, none) s
  | .stateChanged roleChanged role =>
    if w.tc.cbRegistered then World.answer (0, none) (otStateChanged roleChanged role w.begin) else none
  | .attachTimeout =>
    if w.tc.attachTimeout then
      World.answer (0, none)
        (attachTimeoutFn { w.begin with tc := { w.tc with attachTimeout := false } })
    else none

def threadMachine : Machine World Input Output := ⟨step⟩

/-- A step of a run. -/
abbrev Step := Entry World Input Output

/-! ## What an input comes to -/

/-- The operations behind the inputs. -/
inductive Op
  | idle
  | start (ret : Int)
  | stop
  | reset
  | stage (d : DatasetTlvs)
  /-- `do_apply_config` with `d` staged -/
  | apply (d : DatasetTlvs) (e : OtEnv)
  | erase (ret : Int)
  /-- the callback finds the node attached -/
  | attached
  | timeout

theorem dataset_le {d : Bytes} (h : ¬ (d.length = 0 ∨ d.length > OT_OPERATIONAL_DATASET_MAX_LENGTH)) :
    d.length ≤ OT_OPERATIONAL_DATASET_MAX_LENGTH := Nat.le_of_not_lt (not_or.mp h).2

/-- The dataset that `CmdSetThreadConfig` or `set_and_apply` stages; `none`: it is refused. -/
def datasetOf (d : Bytes) : Option DatasetTlvs :=
  if h : d.length = 0 ∨ d.length > OT_OPERATIONAL_DATASET_MAX_LENGTH then none
  else some ⟨d, dataset_le h⟩

/-- An Apply is one of what is staged; requests and calls that are refused come to nothing. -/
def Input.op (tc : Tc) : Input → Op
  | .start ret => .start ret
  | .stop => .stop
  | .config e (some .cmdApplyThreadConfig) => if tc.datasetStaged then .apply tc.dataset e else .idle
  | .config _ (some (.cmdSetThreadConfig d)) => ((datasetOf d).map .stage).getD .idle
  | .config _ _ => .idle
  | .ctrl _ (some .cmdCtrlThreadReset) => .reset
  | .ctrl _ (some .cmdCtrlThreadReprov) => .reset
  | .ctrl _ _ => .idle
  | .resetSmState => if tc.cbRegistered then .reset else .idle
  | .setAndApply e dataset => ((dataset.bind datasetOf).map (.apply · e)).getD .idle
  | .resetProvisioning inited e => if inited then .erase e.erasePersistentInfo else .idle
  | .stateChanged roleChanged role => if roleChanged && roleIsAttached role then .attached else .idle
  | .attachTimeout => .timeout

/-- The operation of a step. -/
def opOf (e : Step) : Op := e.lbl.op e.pre.tc

/-- OpenThread takes the dataset and starts to attach. -/
def OtEnv.Accepts (e : OtEnv) : Prop := e.setActiveTlvs = 0 ∧ e.setEnabled = 0

instance (e : OtEnv) : Decidable e.Accepts := inferInstanceAs (Decidable (_ ∧ _))

/-- The dataset committed after an Apply of `d`. -/
def committed (e : OtEnv) (d : DatasetTlvs) (active : Option DatasetTlvs) : Option DatasetTlvs :=
  if e.setActiveTlvs = 0 then some d else active

def Tc.staged (tc : Tc) (d : DatasetTlvs) : Tc := { tc with dataset := d, datasetStaged := true }

/-- All a step can do: operation, state after, events. -/
inductive Effect (w : World) : Op → World → List CredEvent → Prop
  | idle : Effect w .idle w []
  | start (ret : Int) : w.tc.cbRegistered = false →
      Effect w (.start ret) { w with tc := (networkProvThreadConfigInit ret).2 } []
  | stop : w.tc.cbRegistered = true →
      Effect w .stop { w with tc := networkProvThreadConfigDeinit w.tc } []
  | reset : w.tc.cbRegistered = true →
      Effect w .reset { w with tc := networkProvThreadConfigReset w.tc } []
  | stage (d : DatasetTlvs) : w.tc.cbRegistered = true →
      Effect w (.stage d) { w with tc := w.tc.staged d } []
  | refused (d : DatasetTlvs) (e : OtEnv) : w.tc.cbRegistered = true → ¬ e.Accepts →
      Effect w (.apply d e)
        { tc := { w.tc.staged d with state := .attachingFailed, failReason := .datasetInvalid }
          active := committed e d w.active }
        [.credRecv, .credFail .wifiAuthError]
  | attaching (d : DatasetTlvs) (e : OtEnv) : w.tc.cbRegistered = true → e.Accepts →
      roleIsAttached e.role = false →
      Effect w (.apply d e)
        { tc := { w.tc.staged d with state := .attaching, pending := 1, attachTimeout := true }
          active := some d }
        [.credRecv]
  | already (d : DatasetTlvs) (e : OtEnv) : w.tc.cbRegistered = true → e.Accepts →
      roleIsAttached e.role = true →
      Effect w (.apply d e)
        { tc := { w.tc.staged d with state := .attached, pending := 0, attachTimeout := false }
          active := some d }
        [.credRecv, .credSuccess]
  | erase (ret : Int) :
      Effect w (.erase ret)
        { tc := { w.tc with attachTimeout := false, datasetStaged := false, pending := 0,
                            state := .dettached }
          active := if ret = 0 then none else w.active }
        []
  | attached : w.tc.cbRegistered = true → w.tc.pending = 1 →
      Effect w .attached
        { w with tc := { w.tc with pending := 0, state := .attached, attachTimeout := false } }
        [.credSuccess]
  | unclaimed : w.tc.cbRegistered = true → w.tc.pending ≠ 1 → Effect w .attached w []
  | timedOut : w.tc.attachTimeout = true → w.tc.pending = 1 →
      Effect w .timeout
        { w with tc := { w.tc with pending := 0, state := .attachingFailed,
                                   failReason := .threadNetworkNotFound, attachTimeout := false } }
        [.credFail .wifiNetworkNotFound]
  | lapsed : w.tc.attachTimeout = true → w.tc.pending ≠ 1 →
      Effect w .timeout { w with tc := { w.tc with attachTimeout := false } } []

/-! ## The functions, one by one -/

theorem doSetConfig_datasetOf (d : Bytes) (tc : Tc) :
    (doSetConfig d tc).2 = ((datasetOf d).map tc.staged).getD tc := by
  unfold doSetConfig datasetOf
  split <;> rfl

/-- The outcome is reported once: whoever takes `pending` from 1 to 0 reports it, -/
theorem onAttached_pending {s : CallState} (h : s.tc.pending = 1) :
    onAttached s = { s with
      tc := { s.tc with pending := 0, state := .attached, attachTimeout := false }
      events := s.events ++ [.credSuccess] } := by
  simp [onAttached, atomicCas, h, CallState.emit]

/-- and who comes later does nothing. -/
theorem onAttached_claimed {s : CallState} (h : s.tc.pending ≠ 1) : onAttached s = s := by
  simp [onAttached, atomicCas, h]

theorem attachTimeoutFn_pending {s : CallState} (h : s.tc.pending = 1) :
    attachTimeoutFn s = { s with
      tc := { s.tc with pending := 0, state := .attachingFailed, failReason := .threadNetworkNotFound }
      events := s.events ++ [.credFail .wifiNetworkNotFound] } := by
  simp [attachTimeoutFn, atomicCas, h, CallState.emit]

theorem attachTimeoutFn_claimed {s : CallState} (h : s.tc.pending ≠ 1) : attachTimeoutFn s = s := by
  simp [attachTimeoutFn, atomicCas, h]

/-- An Apply of the staged dataset always answers success. -/
theorem doApplyConfig_staged {e : OtEnv} {s : CallState} (h : s.tc.datasetStaged = true) :
    (doApplyConfig e s).1 = .success := by
  unfold doApplyConfig
  simp only [h, Bool.not_true, Bool.false_eq_true, if_false]
  split <;> rfl

/-- The three ways of an Apply. -/
theorem doApplyConfig_effect {w : World} {e : OtEnv} {d : DatasetTlvs} (hcb : w.tc.cbRegistered = true)
    {s : CallState} (hs : s = { w.begin with tc := w.tc.staged d }) :
    Effect w (.apply d e) ⟨(doApplyConfig e s).2.tc, (doApplyConfig e s).2.active⟩
      (doApplyConfig e s).2.events := by
  subst hs
  by_cases hset : e.setActiveTlvs = 0
  · by_cases hen : e.setEnabled = 0
    · cases hrole : roleIsAttached e.role with
      | true =>
        have heff := Effect.already (w := w) d e hcb ⟨hset, hen⟩ hrole
        simpa [doApplyConfig, applied, Tc.staged, World.begin, hset, hen, hrole, CallState.emit,
          onAttached_pending] using heff
      | false =>
        have heff := Effect.attaching (w := w) d e hcb ⟨hset, hen⟩ hrole
        simpa [doApplyConfig, applied, Tc.staged, World.begin, hset, hen, hrole, CallState.emit]
          using heff
    · have heff := Effect.refused (w := w) d e hcb fun h => hen h.2
      simpa [doApplyConfig, applied, Tc.staged, World.begin, hset, hen, CallState.emit, committed]
        using heff
  · have heff := Effect.refused (w := w) d e hcb fun h => hset h.1
    simpa [doApplyConfig, applied, Tc.staged, World.begin, hset, CallState.emit, committed]
      using heff

theorem answer_eq_some {r : Int × Option Resp} {s : CallState} {w' : World} {o : Output}
    (h : World.answer r s = some (w', o)) :
    w' = ⟨s.tc, s.active⟩ ∧ o = ⟨r.1, r.2, s.events⟩ := by
  simp only [World.answer, Option.some.injEq, Prod.mk.injEq] at h
  exact ⟨h.1.symm, h.2.symm⟩

/-- A request to `prov-config`, by its message. -/
theorem config_effect {w w' : World} {e : OtEnv} {req : Option NetworkConfigReq} {o : Output}
    (hcb : w.tc.cbRegistered = true)
    (h : World.answer (networkProvThreadConfigHandler e req w.begin).1
      (networkProvThreadConfigHandler e req w.begin).2 = some (w', o)) :
    Effect w (Input.op w.tc (.config e req)) w' o.events := by
  obtain ⟨rfl, rfl⟩ := answer_eq_some h
  match req with
  | none => exact .idle
  | some .cmdGetThreadStatus => exact .idle
  | some .other => exact .idle
  | some (.cmdSetThreadConfig d) =>
    simp only [networkProvThreadConfigHandler, Input.op]
    rw [doSetConfig_datasetOf]
    cases datasetOf d with
    | none => exact .idle
    | some d => exact .stage d hcb
  | some .cmdApplyThreadConfig =>
    simp only [networkProvThreadConfigHandler, Input.op]
    cases hst : w.tc.datasetStaged with
    | false =>
      simp only [doApplyConfig, World.begin, hst, Bool.not_false, if_true, Bool.false_eq_true, if_false]
      exact .idle
    | true =>
      simp only [if_true]
      refine doApplyConfig_effect hcb ?_
      simp [World.begin, Tc.staged, ← hst]

theorem setAndApply_effect {w w' : World} {e : OtEnv} {dataset : Option Bytes} {o : Output}
    (hcb : w.tc.cbRegistered = true)
    (h : World.answer ((networkProvThreadConfigSetAndApply e dataset w.begin).1, none)
      (networkProvThreadConfigSetAndApply e dataset w.begin).2 = some (w', o)) :
    Effect w (Input.op w.tc (.setAndApply e dataset)) w' o.events := by
  obtain ⟨rfl, rfl⟩ := answer_eq_some h
  cases dataset with
  | none => exact .idle
  | some d =>
    simp only [networkProvThreadConfigSetAndApply, Input.op, Option.bind_some, datasetOf]
    split
    · exact .idle
    · exact doApplyConfig_effect hcb rfl

theorem erase_effect (w : World) (e : OtEnv) :
    Effect w (.erase e.erasePersistentInfo)
      ⟨(networkProvThreadConfigErase e w.begin).2.tc, (networkProvThreadConfigErase e w.begin).2.active⟩
      (networkProvThreadConfigErase e w.begin).2.events := by
  have heff := Effect.erase (w := w) e.erasePersistentInfo
  by_cases hr : e.erasePersistentInfo = 0
  · simpa [networkProvThreadConfigErase, hr, World.begin] using heff
  · simpa [networkProvThreadConfigErase, hr, World.begin] using heff

/-- All a step can do: the cases of `Effect`. -/
theorem step_effect {w w' : World} {i : Input} {o : Output} (h : step w i = some (w', o)) :
    Effect w (i.op w.tc) w' o.events := by
  cases i with
  | start ret =>
    simp only [step] at h
    split at h
    · cases h
    · rename_i hcb
      obtain ⟨rfl, rfl⟩ := answer_eq_some h
      exact .start ret (by simpa using hcb)
  | stop =>
    simp only [step] at h
    split at h
    · rename_i hcb
      obtain ⟨rfl, rfl⟩ := answer_eq_some h
      exact .stop hcb
    · cases h
  | config e req =>
    simp only [step] at h
    split at h
    · rename_i hcb; exact config_effect hcb h
    · cases h
  | ctrl e req =>
    simp only [step] at h
    split at h
    · rename_i hcb
      obtain ⟨rfl, rfl⟩ := answer_eq_some h
      match req with
      | none => exact .idle
      | some .other => exact .idle
      | some .cmdCtrlThreadReset => exact .reset hcb
      | some .cmdCtrlThreadReprov => exact .reset hcb
    · cases h
  | resetSmState =>
    obtain ⟨rfl, rfl⟩ := answer_eq_some h
    simp only [Input.op]
    cases hcb : w.tc.cbRegistered with
    | false => exact .idle
    | true => exact .reset hcb
  | setAndApply e dataset =>
    simp only [step] at h
    split at h
    · rename_i hcb; exact setAndApply_effect hcb h
    · cases h
  | resetProvisioning inited e =>
    obtain ⟨rfl, rfl⟩ := answer_eq_some h
    cases inited with
    | false => exact .idle
    | true => exact erase_effect w e
  | stateChanged roleChanged role =>
    simp only [step] at h
    split at h
    · rename_i hcb
      obtain ⟨rfl, rfl⟩ := answer_eq_some h
      simp only [otStateChanged, Input.op]
      cases roleChanged with
      | false => exact .idle
      | true =>
        cases roleIsAttached role with
        | false => exact .idle
        | true =>
          by_cases hp : w.tc.pending = 1
          · rw [Bool.not_true, if_neg Bool.false_ne_true, if_pos rfl, onAttached_pending hp]
            exact .attached hcb hp
          · rw [Bool.not_true, if_neg Bool.false_ne_true, if_pos rfl, onAttached_claimed hp]
            exact .unclaimed hcb hp
    · cases h
  | attachTimeout =>
    simp only [step] at h
    split at h
    · rename_i ha
      obtain ⟨rfl, rfl⟩ := answer_eq_some h
      by_cases hp : w.tc.pending = 1
      · rw [attachTimeoutFn_pending hp]
        exact .timedOut ha hp
      · rw [attachTimeoutFn_claimed hp]
        exact .lapsed ha hp
    · cases h

theorem ok_effect {e : Step} (h : threadMachine.Ok e) : Effect e.pre (opOf e) e.post e.out.events :=
  step_effect h

/-! ## Values for concrete runs -/

/-- OpenThread accepts everything; the node is detached. -/
def okEnv : OtEnv := ⟨0, 0, .detached, 0, ⟨0x1234, 15, Buf.zero _, []⟩, 0⟩

/-- It refuses the dataset (`OT_ERROR_INVALID_ARGS`). -/
def refuseEnv : OtEnv := { okEnv with setActiveTlvs := 7 }

/-- Stage the TLVs of a channel. -/
def setChannel (c : UInt8) : Input := .config okEnv (some (.cmdSetThreadConfig [0x00, 0x03, 0x00, 0x00, c]))

def apply (e : OtEnv) : Input := .config e (some .cmdApplyThreadConfig)

end NetworkProv.Thread
