import NetworkProv.Wifi.World

/-!
# What a Set stages, an Apply stores and its requests ask for

The values of a `CmdSetWifiConfig` are copied three times: into the staging
fields, from there into the store entry, and through the snapshot into the
parameters of every connect request of the attempt. `EntryOf` and `RequestOf`
say what the entry and the requests are to be for the command, `Faithful` that
they are, in every run in which an Apply follows the Set.

Two of the fields are not checked like the others: a BSSID of the wrong length
counts as none, and the channel, `int32` on the wire, is cut to a byte.

* `staged_kept`: what is staged stays, but for Sets, resets and
  `network_prov_mgr_configure_wifi_sta`.
* `pending_step`: until the next Apply the attempt and its entry stay the same,
  or are dropped.
* `faithful_iff`: the commands that are refused or delivered.
-/
namespace NetworkProv.Wifi

open NetworkProv.Core

/-! ## What a command asks for -/

/-- The entry to store for `cmd`. -/
structure EntryOf (cmd : CmdSetWifiConfig) (c : WifiCred) : Prop where
  password : c.password = cmd.passphrase
  type : c.type = if cmd.passphrase = [] then .none else .psk
  bssid : c.bssid.map (·.val) = if cmd.bssid = [] then none else some cmd.bssid
  flags : c.flags = if cmd.bssid = [] then 0 else WIFI_CREDENTIALS_FLAG_BSSID
  channel : (c.channel.toNat : Int) = cmd.channel

/-- The connect request to issue for `cmd`. -/
structure RequestOf (cmd : CmdSetWifiConfig) (p : ConnectReqParams) : Prop where
  ssid : p.ssid = cmd.ssid
  psk : p.psk = if cmd.passphrase = [] then none else some cmd.passphrase
  security : p.security = if cmd.passphrase = [] then .none else .psk
  channel : (p.channel.toNat : Int) = if cmd.channel = 0 then (WIFI_CHANNEL_ANY.toNat : Int) else cmd.channel
  bssid : p.bssid.val = if cmd.bssid = [] then (Buf.zero WIFI_MAC_ADDR_LEN).val else cmd.bssid

/-- The step is an Apply of what is staged. -/
def IsApply (e : Step) : Prop := ∃ env, e.lbl = .config env (some .cmdApplyWifiConfig)

/-- What is staged changes. -/
def Input.restages : Input → Bool
  | .config _ (some (.cmdSetWifiConfig _)) => true
  | .ctrl _ (some .cmdCtrlWifiReset) => true
  | .ctrl _ (some .cmdCtrlWifiReprov) => true
  | .resetSmState => true
  | .configureWifiSta .. => true
  | _ => false

/-- The Apply `a` of `cmd` and the steps `rest` after it, up to the next Apply. -/
structure Delivered (cmd : CmdSetWifiConfig) (a : Step) (rest : List Step) : Prop where
  requested : a.out.connects ≠ []
  requests : ∀ x ∈ a :: rest, ∀ r ∈ x.out.connects, RequestOf cmd r.params
  /-- the entry is there if the request is accepted -/
  stored : (∀ r ∈ a.out.connects, r.ret = 0) → a.post.store.lookup cmd.ssid ≠ none
  entries : ∀ x ∈ a :: rest, ∀ c, x.post.store.lookup cmd.ssid = some c → EntryOf cmd c

/-- `cmd`, sent in the state `w`, is refused and changes nothing, or it is what
the next Apply delivers, whatever happens between the two and after. -/
def Faithful (cmd : CmdSetWifiConfig) (w : World) : Prop :=
  doSetConfig cmd w.wc = (.invalidArgument, w.wc) ∨
    (doSetConfig cmd w.wc).1 = .success ∧
      ∀ set mid a rest w', wifiMachine.Run w (set :: (mid ++ a :: rest)) w' →
        (∃ e, set.lbl = .config e (some (.cmdSetWifiConfig cmd))) →
        (∀ x ∈ mid, x.lbl.restages = false) →
        IsApply a → Applies a → (∀ x ∈ rest, ¬ Applies x) →
        Delivered cmd a rest

/-- The lengths that `do_set_config` refuses. -/
def Refused (cmd : CmdSetWifiConfig) : Prop :=
  cmd.ssid.length = 0 ∨ cmd.ssid.length > SSID_MAX ∨ cmd.passphrase.length > PASS_MAX

instance (cmd : CmdSetWifiConfig) : Decidable (Refused cmd) := inferInstanceAs (Decidable (_ ∨ _))

/-- The BSSID is absent or whole, and the channel fits its field. -/
def Carried (cmd : CmdSetWifiConfig) : Prop :=
  (cmd.bssid.length = 0 ∨ cmd.bssid.length = WIFI_MAC_ADDR_LEN) ∧ 0 ≤ cmd.channel ∧ cmd.channel ≤ 255

instance (cmd : CmdSetWifiConfig) : Decidable (Carried cmd) := inferInstanceAs (Decidable (_ ∧ _))

/-! ## Staging -/

/-- `c` is what `do_set_config` stages for `cmd`. -/
structure Stages (cmd : CmdSetWifiConfig) (c : ConnectConf) : Prop where
  named : cmd.ssid ≠ []
  ssid : c.ssid.val = cmd.ssid
  pass : c.pass.val = cmd.passphrase
  hasBssid : c.hasBssid = decide (cmd.bssid.length = WIFI_MAC_ADDR_LEN)
  bssid : cmd.bssid.length = WIFI_MAC_ADDR_LEN → c.bssid.val = cmd.bssid
  channel : c.channel = UInt8.ofInt cmd.channel

theorem doSetConfig_invalid {cmd : CmdSetWifiConfig} (h : Refused cmd) (wc : Wc) :
    doSetConfig cmd wc = (.invalidArgument, wc) := by
  unfold Refused at h
  unfold doSetConfig
  split
  · rfl
  · rw [dif_pos (by omega)]

theorem doSetConfig_success {cmd : CmdSetWifiConfig} (h : ¬ Refused cmd) (wc : Wc) :
    (doSetConfig cmd wc).1 = .success ∧ Stages cmd (doSetConfig cmd wc).2.staged := by
  unfold Refused at h
  have hne : cmd.ssid ≠ [] := by
    intro hs
    simp [hs] at h
  unfold doSetConfig
  rw [dif_neg (by omega), dif_neg (by omega)]
  refine ⟨rfl, hne, rfl, rfl, rfl, ?_, rfl⟩
  intro hb
  simp [hb]

theorem toNat_ofInt (z : Int) : ((UInt8.ofInt z).toNat : Int) = z % 256 := by
  rw [UInt8.ofInt, UInt8.toNat_ofNat']
  omega

/-- A byte holds the channel exactly when it is one. -/
theorem toNat_ofInt_eq_iff (z : Int) : ((UInt8.ofInt z).toNat : Int) = z ↔ 0 ≤ z ∧ z ≤ 255 := by
  rw [toNat_ofInt]
  omega

theorem length_pos_iff_ne {b : Bytes} : b.length > 0 ↔ ¬ b = [] := List.length_pos_iff

theorem Stages.hasBssid_iff {cmd : CmdSetWifiConfig} {c : ConnectConf} (h : Stages cmd c)
    (hb : cmd.bssid.length = 0 ∨ cmd.bssid.length = WIFI_MAC_ADDR_LEN) :
    c.hasBssid = true ∧ cmd.bssid ≠ [] ∧ c.bssid.val = cmd.bssid ∨
      c.hasBssid = false ∧ cmd.bssid = [] := by
  rcases hb with hb | hb
  · have hnil : cmd.bssid = [] := List.eq_nil_of_length_eq_zero hb
    exact .inr ⟨by simp [h.hasBssid, hnil], hnil⟩
  · refine .inl ⟨by simp [h.hasBssid, hb], ?_, h.bssid hb⟩
    intro hnil
    simp [hnil] at hb

/-- Every field but two reaches the entry whatever it is. -/
theorem Stages.entryOf_iff {cmd : CmdSetWifiConfig} {c : ConnectConf} (h : Stages cmd c) :
    EntryOf cmd (storedCred c) ↔ Carried cmd := by
  have hch : ((storedCred c).channel.toNat : Int) = cmd.channel ↔
      0 ≤ cmd.channel ∧ cmd.channel ≤ 255 := by
    rw [← toNat_ofInt_eq_iff, ← h.channel]
    rfl
  constructor
  · intro hentry
    refine ⟨?_, hch.1 hentry.channel⟩
    have hb := hentry.bssid
    by_cases hlen : cmd.bssid.length = WIFI_MAC_ADDR_LEN
    · exact .inr hlen
    · by_cases hnil : cmd.bssid = []
      · exact .inl (by rw [hnil]; rfl)
      · simp [storedCred, h.hasBssid, hlen, hnil] at hb
  · intro hcar
    obtain ⟨hb, hc⟩ := hcar
    have htype : (storedCred c).type = if cmd.passphrase = [] then .none else .psk := by
      simp only [storedCred, securityFromPass, h.pass, length_pos_iff_ne, ite_not]
    rcases h.hasBssid_iff hb with ⟨hhas, hne, heq⟩ | ⟨hhas, hnil⟩
    · exact ⟨h.pass, htype, by simp [storedCred, hhas, hne, heq], by simp [storedCred, hhas, hne],
        hch.2 hc⟩
    · exact ⟨h.pass, htype, by simp [storedCred, hhas, hnil], by simp [storedCred, hhas, hnil],
        hch.2 hc⟩

theorem Stages.requestOf {cmd : CmdSetWifiConfig} {c : ConnectConf} (h : Stages cmd c)
    (hcar : Carried cmd) : RequestOf cmd (connectParams c) := by
  obtain ⟨hb, hc⟩ := hcar
  refine ⟨h.ssid, ?_, ?_, ?_, ?_⟩
  · simp only [connectParams, h.pass, length_pos_iff_ne, ite_not]
  · simp only [connectParams, h.pass, length_pos_iff_ne, ite_not]
  · have hval : (c.channel.toNat : Int) = cmd.channel := by
      rw [h.channel]
      exact (toNat_ofInt_eq_iff _).2 hc
    have hpos : c.channel > 0 ↔ ¬ cmd.channel = 0 := by
      rw [gt_iff_lt, UInt8.lt_iff_toNat_lt, UInt8.toNat_zero]
      omega
    by_cases hz : cmd.channel = 0
    · simp [connectParams, hpos, hz]
    · simp [connectParams, hpos, hz, hval]
  · rcases h.hasBssid_iff hb with ⟨hhas, hne, heq⟩ | ⟨hhas, hnil⟩
    · simp [connectParams, hhas, hne, heq]
    · simp [connectParams, hhas, hnil]

/-- The operation leaves `c` staged. -/
def Op.KeepsStaged (c : ConnectConf) : Op → Prop
  | .stage d => d = c
  | .apply d _ => d = c
  | .reset => False
  | _ => True

theorem op_keeps {i : Input} (h : i.restages = false) (wc : Wc) : (i.op wc).KeepsStaged wc.staged := by
  cases i with
  | start | stop | connectResult | retry => trivial
  | resetSmState | configureWifiSta => cases h
  | resetWifiProvisioning inited => cases inited <;> trivial
  | config e req =>
    match req with
    | some .cmdApplyWifiConfig =>
      show (applyOp wc.staged e).KeepsStaged wc.staged
      unfold applyOp
      split <;> rfl
    | some (.cmdSetWifiConfig cmd) => cases h
    | none | some .cmdGetWifiStatus | some .other => trivial
  | ctrl e req =>
    match req with
    | some .cmdCtrlWifiReset | some .cmdCtrlWifiReprov => cases h
    | none | some .other => trivial

/-- Between the Set and its Apply. -/
theorem staged_kept {e : Step} (he : wifiMachine.Ok e) (hn : e.lbl.restages = false) :
    e.post.wc.staged = e.pre.wc.staged := by
  have heff := ok_effect he
  have hop : (opOf e).KeepsStaged e.pre.wc.staged := op_keeps hn _
  generalize opOf e = op at heff hop
  generalize e.out.events = ev at heff
  generalize e.out.connects = cs at heff
  generalize e.post = post at heff
  cases heff with
  | reset => exact hop.elim
  | stage | refused | rejected | started => exact hop
  | _ => rfl

/-! ## The attempt of an Apply -/

/-- The attempt of `c` goes on or is over, and its entry is as stored or gone. -/
structure Pending (c : ConnectConf) (w : World) : Prop where
  inflight : w.wc.NoSnapshot ∨ connectParams w.wc.inflight = connectParams c
  entry : ∀ d, w.store.lookup c.ssid.val = some d → d = storedCred c

/-- A store that only lost entries. -/
theorem Pending.lose {c : ConnectConf} {w w' : World} (h : Pending c w)
    (hi : w'.wc.inflight = w.wc.inflight ∨ w'.wc.NoSnapshot)
    (hs : ∀ d, w'.store.lookup c.ssid.val = some d → w.store.lookup c.ssid.val = some d) :
    Pending c w' := by
  refine ⟨?_, fun d hd => h.entry d (hs d hd)⟩
  rcases hi with hi | hi
  · unfold Wc.NoSnapshot
    rw [hi]
    exact h.inflight
  · exact .inl hi

theorem pending_step {c : ConnectConf} {e : Step} (h : Pending c e.pre) (he : wifiMachine.Ok e)
    (hn : ¬ Applies e) :
    Pending c e.post ∧ ∀ r ∈ e.out.connects, r.params = connectParams c := by
  have heff := ok_effect he
  rw [applies_iff he] at hn
  generalize opOf e = op at heff
  generalize e.out.events = ev at heff hn
  generalize e.out.connects = cs at heff ⊢
  generalize e.post = post at heff ⊢
  cases heff with
  | rejected | started => simp at hn
  | refused c' env =>
    exact ⟨h.lose (.inl rfl) fun _ => WifiCredentials.lookup_of_deleteBySsid, by simp⟩
  | erase ret deleted =>
    exact ⟨h.lose (.inl rfl) fun _ => WifiCredentials.lookup_of_deleteAll, by simp⟩
  | stop | reset | connected => exact ⟨h.lose (.inr rfl) fun _ => id, by simp⟩
  | failed => exact ⟨h.lose (.inr rfl) fun _ => WifiCredentials.lookup_of_deleteBySsid, by simp⟩
  | retried env hret hs =>
    have hp := h.inflight.resolve_left hs
    exact ⟨h.lose (.inl rfl) fun _ => id, by simp [hp]⟩
  | abandoned env cs hret hs hcs =>
    have hp := h.inflight.resolve_left hs
    refine ⟨h.lose (.inr rfl) fun _ => WifiCredentials.lookup_of_deleteBySsid, ?_⟩
    rcases hcs with ⟨-, rfl⟩ | ⟨-, rfl⟩
    · simp
    · simp [hp]
  | _ => exact ⟨h.lose (.inl rfl) fun _ => id, by simp⟩

theorem apply_pending {c : ConnectConf} {a : Step} (he : wifiMachine.Ok a) (ha : IsApply a)
    (hc : a.pre.wc.staged = c) (ht : Applies a) :
    Pending c a.post ∧ ∃ ret, a.out.connects = [⟨connectParams c, ret⟩] ∧
      (ret = 0 → a.post.store.lookup c.ssid.val = some (storedCred c)) := by
  obtain ⟨env, hl⟩ := ha
  have heff := ok_effect he
  have hop : opOf a = applyOp c env := by
    rw [opOf, hl, ← hc]
    rfl
  rw [hop, applyOp] at heff
  rw [applies_iff he] at ht
  generalize a.out.events = ev at heff ht
  generalize a.out.connects = cs at heff ⊢
  generalize a.post = post at heff ⊢
  split at heff
  · cases heff with
    | refused => cases ht
    | rejected _ _ hne _ _ hr =>
      refine ⟨⟨.inl rfl, fun d hd => ?_⟩, env.connectRet, rfl, fun h0 => absurd h0 hr⟩
      -- stored, and deleted again unless the store refuses
      simpa using (WifiCredentials.lookup_of_deleteBySsid hd).symm
    | started _ _ hne =>
      have hput : (a.pre.store.put c.ssid.val hne (storedCred c)).lookup c.ssid.val =
          some (storedCred c) := by simp
      refine ⟨⟨.inr ?_, fun d hd => ?_⟩, 0, rfl, fun _ => hput⟩
      · exact connectParams_snapshot { a.pre.wc with staged := c }
      · exact (Option.some.inj (hput.symm.trans hd)).symm
  · cases heff with
    | stage => cases ht

/-- The Apply and what follows it keep to what is staged. -/
theorem pending_run {c : ConnectConf} {a : Step} {rest : List Step} {w : World}
    (h : wifiMachine.Run a.post rest w) (ha : Pending c a.post) (hn : ∀ x ∈ rest, ¬ Applies x) :
    ∀ x ∈ rest, Pending c x.post ∧ ∀ r ∈ x.out.connects, r.params = connectParams c := by
  have hall := (h.always (C := fun x => ¬ Applies x) (P := fun _ => Pending c)
    (Q := fun _ x => Pending c x.post ∧ ∀ r ∈ x.out.connects, r.params = connectParams c) ha
    (fun _ x _ hx hp ht => ⟨(pending_step hp hx ht).1, pending_step hp hx ht⟩) hn).2
  exact always_iff_forall.1 hall

/-! ## The commands that are delivered -/

theorem set_staged {e : Step} {env : WifiEnv} {cmd : CmdSetWifiConfig} (he : wifiMachine.Ok e)
    (hl : e.lbl = .config env (some (.cmdSetWifiConfig cmd))) :
    e.post.wc = { e.pre.wc with staged := (doSetConfig cmd e.pre.wc).2.staged } := by
  have heff := ok_effect he
  have hop : opOf e = .stage (doSetConfig cmd e.pre.wc).2.staged := by
    rw [opOf, hl]
    rfl
  rw [hop] at heff
  generalize e.out.events = ev at heff
  generalize e.out.connects = cs at heff
  generalize e.post = post at heff ⊢
  cases heff with
  | stage => rfl

theorem delivered_of_carried {cmd : CmdSetWifiConfig} (hr : ¬ Refused cmd) (hcar : Carried cmd)
    {w w' : World} {set a : Step} {mid rest : List Step}
    (h : wifiMachine.Run w (set :: (mid ++ a :: rest)) w') {env : WifiEnv}
    (hl : set.lbl = .config env (some (.cmdSetWifiConfig cmd)))
    (hmid : ∀ x ∈ mid, x.lbl.restages = false) (ha : IsApply a) (ht : Applies a)
    (hrest : ∀ x ∈ rest, ¬ Applies x) : Delivered cmd a rest := by
  obtain ⟨rfl, hset, hrun⟩ := Machine.run_cons h
  obtain ⟨hrmid, hok, hrrest⟩ := hrun.at
  obtain ⟨-, hst⟩ := doSetConfig_success hr set.pre.wc
  have hstaged : a.pre.wc.staged = (doSetConfig cmd set.pre.wc).2.staged := by
    refine hrmid.guarded (P := fun w => w.wc.staged = (doSetConfig cmd set.pre.wc).2.staged)
      (by rw [set_staged hset hl]) ?_ hmid
    intro x hx hk hp
    rw [staged_kept hx hk, hp]
  generalize (doSetConfig cmd set.pre.wc).2.staged = c at hst hstaged
  obtain ⟨hpend, ret, hcs, hput⟩ := apply_pending hok ha hstaged ht
  have hall := pending_run hrrest hpend hrest
  have hreq := hst.requestOf hcar
  have hentry := hst.entryOf_iff.2 hcar
  refine ⟨by simp [hcs], ?_, ?_, ?_⟩
  · intro x hx r hxr
    rcases List.mem_cons.1 hx with rfl | hx
    · rw [hcs, List.mem_singleton] at hxr
      rw [hxr]
      exact hreq
    · rw [(hall x hx).2 r hxr]
      exact hreq
  · intro hret
    have h0 : ret = 0 := hret ⟨connectParams c, ret⟩ (by simp [hcs])
    rw [← hst.ssid, hput h0]
    simp
  · intro x hx d hd
    have hp : Pending c x.post := by
      rcases List.mem_cons.1 hx with rfl | hx
      · exact hpend
      · exact (hall x hx).1
    rw [hp.entry d (by rw [hst.ssid]; exact hd)]
    exact hentry

/-- An Apply of a named network is answered Success if every call succeeds. -/
theorem applies_ok {a : Step} (hne : a.pre.wc.staged.ssid.val ≠ []) (he : wifiMachine.Ok a)
    (hl : a.lbl = .config okEnv (some .cmdApplyWifiConfig)) :
    Applies a ∧ ∀ r ∈ a.out.connects, r.ret = 0 := by
  have heff := ok_effect he
  have hop : opOf a = .apply a.pre.wc.staged okEnv := by
    rw [opOf, hl]
    rfl
  rw [hop] at heff
  rw [applies_iff he]
  generalize a.out.events = ev at heff ⊢
  generalize a.out.connects = cs at heff ⊢
  generalize a.post = post at heff
  cases heff with
  | refused _ _ _ hs => exact absurd ⟨hne, rfl⟩ hs
  | rejected _ _ _ _ _ hr => exact absurd rfl hr
  | started => simp

theorem config_enabled {w : World} (hst : w.wc.cbRegistered = true) (e : WifiEnv)
    (req : Option NetworkConfigReq) : ∃ w' o, step w (.config e req) = some (w', o) := by
  simp [step, hst, World.answer]

/-- Sent and applied with everything succeeding, the entry tells. -/
theorem carried_of_faithful {cmd : CmdSetWifiConfig} (hr : ¬ Refused cmd) {w : World}
    (hst : w.wc.cbRegistered = true) (h : Faithful cmd w) : Carried cmd := by
  obtain ⟨hsucc, hstages⟩ := doSetConfig_success hr w.wc
  rcases h with h | ⟨-, h⟩
  · rw [h] at hsucc
    cases hsucc
  obtain ⟨w₁, o₁, hset⟩ := config_enabled hst okEnv (some (.cmdSetWifiConfig cmd))
  let set : Step := ⟨w, .config okEnv (some (.cmdSetWifiConfig cmd)), o₁, w₁⟩
  have hwc : w₁.wc = { w.wc with staged := (doSetConfig cmd w.wc).2.staged } :=
    set_staged (e := set) hset rfl
  generalize (doSetConfig cmd w.wc).2.staged = c at hstages hwc
  have hst₁ : w₁.wc.cbRegistered = true := by rw [hwc]; exact hst
  obtain ⟨w₂, o₂, happly⟩ := config_enabled hst₁ okEnv (some .cmdApplyWifiConfig)
  let a : Step := ⟨w₁, .config okEnv (some .cmdApplyWifiConfig), o₂, w₂⟩
  have hrun : wifiMachine.Run w (set :: ([] ++ a :: [])) w₂ :=
    Machine.Run.cons (e := set) hset (Machine.Run.cons (e := a) happly .nil)
  have hc : a.pre.wc.staged = c := by
    show w₁.wc.staged = c
    rw [hwc]
  obtain ⟨ht, hret⟩ := applies_ok (a := a) (by rw [hc, hstages.ssid]; exact hstages.named) happly rfl
  have hdel := h set [] a [] w₂ hrun ⟨okEnv, rfl⟩ (by simp) ⟨okEnv, rfl⟩ ht (by simp)
  obtain ⟨hpend, -⟩ := apply_pending (a := a) happly ⟨okEnv, rfl⟩ hc ht
  obtain ⟨d, hd⟩ := Option.ne_none_iff_exists'.1 (hdel.stored hret)
  have hentry : EntryOf cmd d := hdel.entries a (by simp) d hd
  rw [hpend.entry d (by rw [hstages.ssid]; exact hd)] at hentry
  exact hstages.entryOf_iff.1 hentry

/-- For every state of a started service. -/
theorem faithful_iff {w : World} (hst : w.wc.cbRegistered = true) (cmd : CmdSetWifiConfig) :
    Faithful cmd w ↔ Refused cmd ∨ Carried cmd := by
  by_cases hr : Refused cmd
  · exact iff_of_true (.inl (doSetConfig_invalid hr w.wc)) (.inl hr)
  · rw [or_iff_right hr]
    constructor
    · exact carried_of_faithful hr hst
    · intro hcar
      refine .inr ⟨(doSetConfig_success hr w.wc).1, ?_⟩
      intro set mid a rest w' hrun hset hmid ha ht hrest
      obtain ⟨env, hl⟩ := hset
      exact delivered_of_carried hr hcar hrun hl hmid ha ht hrest

/-- A BSSID, and a channel of the 5 GHz band. -/
theorem faithful_iff_test :
    Faithful ⟨homeSsid.chars, passphrase.chars, [2, 0, 0, 0, 0, 1], 36⟩ startedTwo :=
  (faithful_iff rfl _).2 (by decide)

/-- Channel 300 is cut to 44; a BSSID of three bytes is dropped. -/
theorem unfaithful :
    ¬ Faithful ⟨homeSsid.chars, passphrase.chars, [], 300⟩ startedTwo ∧
      ¬ Faithful ⟨homeSsid.chars, passphrase.chars, [2, 0, 0], 0⟩ startedTwo := by
  constructor
  · exact fun h => absurd (carried_of_faithful (by decide) rfl h) (by decide)
  · exact fun h => absurd (carried_of_faithful (by decide) rfl h) (by decide)

end NetworkProv.Wifi
