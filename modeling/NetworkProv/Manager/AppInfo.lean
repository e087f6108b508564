import Mathlib.Data.Set.List
import NetworkProv.Basic
import NetworkProv.Core.Json

/-!
# The version JSON (`src/network_prov_mgr.c`)

`network_prov_mgr_set_app_info` renders the section of the application, and
`build_version_json` puts it before the one of the manager. Both render with
`snprintf` into buffers of fixed size; a buffer is the string in it.

* `setAppInfo_eq`: with good arguments, the section is kept if it fits, else there is none.
* `buildVersionJson_eq`: the version JSON is never cut off.
* `version_json_roundtrip`: what it is read as.
-/
namespace NetworkProv.Manager
open NetworkProv.Core Core.CText

abbrev APP_INFO_JSON_SIZE := 256
abbrev VERSION_JSON_SIZE := 448

/-- `enum network_prov_security` -/
inductive NetworkProvSecurity
  | security0
  | security1
  deriving DecidableEq

/-- mirrors src/security0.c:83, src/security1.c:375 -/
def NetworkProvSecurity.version : NetworkProvSecurity → Nat
  | .security0 => 0
  | .security1 => 1

/-- `NETWORK_PROV_NETWORK_TYPE` -/
inductive NetworkType
  | wifi
  | thread
  deriving DecidableEq

/-- What the functions here read and write of `mgr`. -/
structure AppInfo where
  inited : Bool
  started : Bool
  appInfoJson : Text
  versionJson : Text
  deriving DecidableEq

/-- `capabilities` and `capabilities_count`: an array of so many pointers, or `NULL`. -/
inductive Capabilities
  | null (count : Nat)
  | array (caps : List (Option CStr))

def Capabilities.entries : Capabilities → List (Option CStr)
  | .null _ => []
  | .array caps => caps

/-- mirrors src/network_prov_mgr.c:187-197 -/
def jsonTokenOk : Text → Bool
  | [] => true
  | c :: s => if c < 0x20 ∨ c = 0x22 ∨ c = 0x5c then false else jsonTokenOk s

/-- The checks of the capabilities. mirrors src/network_prov_mgr.c:219-223 -/
def capabilitiesOk : List (Option CStr) → Bool
  | [] => true
  | none :: _ => false
  | some c :: caps => if !jsonTokenOk c.chars then false else capabilitiesOk caps

/-! ## Rendering -/

/-- One piece rendered at the end of what is there: `off` and the string.
mirrors src/network_prov_mgr.c:237-242 -/
def renderAt (size : Nat) (piece : Text) (r : Nat × Text) : Option (Nat × Text) :=
  match snprintf (size - r.1) piece with
  | (n, out) =>
    if n < 0 ∨ n.toNat ≥ size - r.1 then none else some (r.1 + n.toNat, r.2.take r.1 ++ out)

/-- mirrors src/network_prov_mgr.c:229 -/
def headPiece (label version : Text) : Text :=
  lit "\"" ++ label ++ lit "\":\x7b\"ver\":\"" ++ version ++ lit "\",\"cap\":["

/-- mirrors src/network_prov_mgr.c:238 -/
def capPiece (i : Nat) (cap : Text) : Text :=
  (if i = 0 then lit "" else lit ",") ++ lit "\"" ++ cap ++ lit "\""

/-- The capabilities from the `i`th on.
mirrors src/network_prov_mgr.c:236-243 -/
def renderCaps (size : Nat) : Nat → List (Option CStr) → Nat × Text → Option (Nat × Text)
  | _, [], r => some r
  | i, c :: caps, r => (renderAt size (capPiece i (charsOf c)) r).bind (renderCaps size (i + 1) caps)

/-- mirrors src/network_prov_mgr.c:228-248; `none`: the section does not fit. -/
def renderAppInfo (label version : Text) (caps : List (Option CStr)) (json : Text) :
    Option (Nat × Text) :=
  ((renderAt APP_INFO_JSON_SIZE (headPiece label version) (0, json)).bind
    (renderCaps APP_INFO_JSON_SIZE 0 caps)).bind (renderAt APP_INFO_JSON_SIZE (lit "]\x7d,"))

/-- mirrors src/network_prov_mgr.c:199-254 -/
def networkProvMgrSetAppInfo (label version : Option CStr) (caps : Capabilities) (s : AppInfo) :
    Int × AppInfo :=
  match label, version, caps with
  | none, _, _ => (-EINVAL, s)
  | some _, none, _ => (-EINVAL, s)
  | some _, some _, .null (_ + 1) => (-EINVAL, s)
  | some label, some version, caps =>
    if label.chars = [] then (-EINVAL, s)
    else if !s.inited then (-EPERM, s)
    else if s.started then (-EPERM, s)
    else if !jsonTokenOk label.chars || !jsonTokenOk version.chars then (-EINVAL, s)
    else if !capabilitiesOk caps.entries then (-EINVAL, s)
    else
      match renderAppInfo label.chars version.chars caps.entries s.appInfoJson with
      | some (_, json) => (0, { s with appInfoJson := json })
      | none => (-ENOMEM, { s with appInfoJson := [] })

/-- mirrors src/network_prov_mgr.c:361-365 -/
def PROV_CAPS : NetworkType → Text
  | .thread => lit "\"thread_prov\",\"thread_scan\""
  | .wifi => lit "\"wifi_prov\",\"wifi_scan\""

/-- What `build_version_json` prints. mirrors src/network_prov_mgr.c:369-376 -/
def versionText (net : NetworkType) (security : NetworkProvSecurity) (pop : Option CStr)
    (appInfoJson : Text) : Text :=
  let secVer := if security = .security1 then 1 else 0
  let noPop := security = .security1 ∧ (pop = none ∨ charsOf pop = [])
  lit "\x7b" ++ appInfoJson ++ lit "\"prov\":\x7b\"ver\":\"v1.1\",\"sec_ver\":" ++ printDecimal secVer ++
    lit ",\"cap\":[" ++ PROV_CAPS net ++ (if noPop then lit ",\"no_pop\"" else lit "") ++ lit "]\x7d\x7d"

/-- mirrors src/network_prov_mgr.c:367-377 -/
def buildVersionJson (net : NetworkType) (security : NetworkProvSecurity) (pop : Option CStr)
    (s : AppInfo) : AppInfo :=
  { s with versionJson := (snprintf VERSION_JSON_SIZE (versionText net security pop s.appInfoJson)).2 }

/-! ## What is rendered -/

/-- The section, if there is room for it. -/
def sectionText (label version : Text) (caps : List Text) : Text :=
  Json.member label (Json.object [Json.member (lit "ver") (Json.quote version),
    Json.member (lit "cap") (Json.array (caps.map Json.quote))]) ++ lit ","

theorem jsonTokenOk_iff {s : Text} : jsonTokenOk s = true ↔ Json.Plain s := by
  induction s with
  | nil => simp [jsonTokenOk, Json.Plain]
  | cons c s ih =>
    rw [jsonTokenOk, Json.Plain, List.forall_mem_cons, ← Json.Plain, ← ih]
    by_cases h : c < 0x20 ∨ c = 0x22 ∨ c = 0x5c
    · rw [if_pos h]
      simp only [Bool.false_eq_true, false_iff]
      intro hn
      simp_all
    · rw [if_neg h]
      simp_all

theorem capabilitiesOk_iff {caps : List (Option CStr)} :
    capabilitiesOk caps = true ↔ ∀ c ∈ caps, ∃ d, c = some d ∧ Json.Plain d.chars := by
  induction caps with
  | nil => simp [capabilitiesOk]
  | cons c caps ih =>
    rw [List.forall_mem_cons, ← ih]
    cases c with
    | none => simp [capabilitiesOk]
    | some c =>
      rw [capabilitiesOk]
      by_cases hc : jsonTokenOk c.chars = true
      · simp [hc, jsonTokenOk_iff.mp hc]
      · simp [hc, mt jsonTokenOk_iff.mpr hc]

/-- A piece is appended, if the string still fits with its NUL. -/
theorem renderAt_eq {size off : Nat} {buf json : Text} (hsize : size ≤ INT_MAX) (hbuf : json.take off = buf)
    (hoff : buf.length = off) (piece : Text) :
    renderAt size piece (off, json) =
      if (buf ++ piece).length < size then some ((buf ++ piece).length, buf ++ piece) else none := by
  unfold renderAt
  dsimp only
  by_cases h : (buf ++ piece).length < size
  · have hlen : off + piece.length < size := by simpa [hoff] using h
    rw [if_pos h, snprintf_fits (by omega) (by omega)]
    dsimp only
    rw [if_neg (by omega), hbuf]
    simp [hoff]
  · have hlen : size ≤ off + piece.length := by simpa [hoff] using h
    rw [if_neg h, if_pos (snprintf_long (by omega))]

/-- The capabilities from the `i`th on, with the commas before them. -/
def capsFrom (i : Nat) (caps : List Text) : Text :=
  if i = 0 then Json.commaSep (caps.map Json.quote) else caps.flatMap fun c => 0x2c :: Json.quote c

theorem capsFrom_cons (i : Nat) (c : Text) (caps : List Text) :
    capsFrom i (c :: caps) = capPiece i c ++ capsFrom (i + 1) caps := by
  have hq : lit "\"" = [0x22] := by decide
  have hc : lit "," = [0x2c] := by decide
  have he : lit "" = [] := by decide
  unfold capsFrom capPiece
  by_cases hi : i = 0 <;>
    simp [hi, hq, hc, he, Json.commaSep, Json.quote, List.flatMap_map]

theorem renderCaps_eq {size : Nat} (hsize : size ≤ INT_MAX) (caps : List CStr) :
    ∀ (i : Nat) (buf : Text), buf.length < size →
      renderCaps size i (caps.map some) (buf.length, buf) =
        let out := buf ++ capsFrom i (caps.map (·.chars))
        if out.length < size then some (out.length, out) else none := by
  induction caps with
  | nil =>
    intro i buf hbuf
    have hnil : capsFrom i [] = [] := by simp [capsFrom, Json.commaSep]
    simp [renderCaps, hnil, hbuf]
  | cons c caps ih =>
    intro i buf _
    rw [List.map_cons, renderCaps, renderAt_eq hsize (List.take_length) rfl, charsOf, List.map_cons,
      capsFrom_cons]
    by_cases h : (buf ++ capPiece i c.chars).length < size
    · rw [if_pos h, Option.bind_some, ih (i + 1) _ h]
      simp
    · rw [if_neg h, Option.bind_none]
      dsimp only
      rw [if_neg]
      simp at h ⊢
      omega

/-- What is rendered, piece by piece. -/
theorem pieces_eq (label version : Text) (caps : List Text) :
    headPiece label version ++ capsFrom 0 caps ++ lit "]\x7d," = sectionText label version caps := by
  have h1 : lit "\"" = [0x22] := by decide
  have h2 : lit "\":\x7b\"ver\":\"" = [0x22, 0x3a, 0x7b] ++ Json.quote (lit "ver") ++ [0x3a, 0x22] := by decide
  have h3 : lit "\",\"cap\":[" = [0x22, 0x2c] ++ Json.quote (lit "cap") ++ [0x3a, 0x5b] := by decide
  have h4 : lit "]\x7d," = [0x5d, 0x7d] ++ lit "," := by decide
  unfold headPiece capsFrom sectionText
  rw [h1, h2, h3, h4]
  simp [Json.member, Json.object, Json.array, Json.quote, Json.commaSep]

theorem renderAppInfo_eq (label version : Text) (caps : List CStr) (json : Text) :
    renderAppInfo label version (caps.map some) json =
      let out := sectionText label version (caps.map (·.chars))
      if out.length < APP_INFO_JSON_SIZE then some (out.length, out) else none := by
  have hsize : APP_INFO_JSON_SIZE ≤ INT_MAX := by decide
  have hhead := renderAt_eq hsize (List.take_zero (l := json)) rfl (headPiece label version)
  unfold renderAppInfo
  rw [hhead, List.nil_append, ← pieces_eq]
  by_cases h1 : (headPiece label version).length < APP_INFO_JSON_SIZE
  · rw [if_pos h1, Option.bind_some, renderCaps_eq hsize caps 0 _ h1]
    dsimp only
    by_cases h2 : (headPiece label version ++ capsFrom 0 (caps.map (·.chars))).length < APP_INFO_JSON_SIZE
    · rw [if_pos h2, Option.bind_some, renderAt_eq hsize List.take_length rfl]
    · rw [if_neg h2, Option.bind_none, if_neg]
      rw [List.length_append]
      omega
  · rw [if_neg h1, Option.bind_none, Option.bind_none, if_neg]
    simp only [List.length_append]
    omega

/-! ## `set_app_info` -/

/-- The arguments pass the checks; `caps` are the capabilities. -/
structure Passes (label version : Option CStr) (capabilities : Capabilities) (s : AppInfo)
    (l v : CStr) (caps : List CStr) : Prop where
  label : label = some l
  version : version = some v
  capabilities : capabilities = .array (caps.map some) ∨ capabilities = .null 0 ∧ caps = []
  named : l.chars ≠ []
  inited : s.inited = true
  stopped : s.started = false
  plainLabel : Json.Plain l.chars
  plainVersion : Json.Plain v.chars
  plainCaps : ∀ c ∈ caps, Json.Plain c.chars

theorem setAppInfo_passes {label version : Option CStr} {capabilities : Capabilities} {s : AppInfo} {l v : CStr}
    {caps : List CStr} (h : Passes label version capabilities s l v caps) :
    networkProvMgrSetAppInfo label version capabilities s =
      let out := sectionText l.chars v.chars (caps.map (·.chars))
      if out.length < APP_INFO_JSON_SIZE then (0, { s with appInfoJson := out })
      else (-ENOMEM, { s with appInfoJson := [] }) := by
  have hentries : capabilities.entries = caps.map some ∧
      networkProvMgrSetAppInfo (some l) (some v) capabilities s =
        networkProvMgrSetAppInfo (some l) (some v) (.array (caps.map some)) s := by
    rcases h.capabilities with rfl | ⟨rfl, rfl⟩
    · exact ⟨rfl, rfl⟩
    · exact ⟨rfl, rfl⟩
  have hok : capabilitiesOk (caps.map some) = true := by
    rw [capabilitiesOk_iff]
    intro c hc
    obtain ⟨d, hd, rfl⟩ := List.mem_map.mp hc
    exact ⟨d, rfl, h.plainCaps d hd⟩
  rw [h.label, h.version, hentries.2]
  unfold networkProvMgrSetAppInfo Capabilities.entries
  dsimp only
  rw [if_neg h.named, if_neg (by simp [h.inited]), if_neg (by simp [h.stopped]),
    if_neg (by simp [jsonTokenOk_iff.mpr h.plainLabel, jsonTokenOk_iff.mpr h.plainVersion]),
    if_neg (by simp [hok]), renderAppInfo_eq]
  dsimp only
  by_cases hfit : (sectionText l.chars v.chars (caps.map (·.chars))).length < APP_INFO_JSON_SIZE
  · rw [if_pos hfit, if_pos hfit]
  · rw [if_neg hfit, if_neg hfit]

/-- A call that gets as far as rendering had good arguments; the others change nothing. -/
theorem setAppInfo_cases {label version : Option CStr} {capabilities : Capabilities} {s s' : AppInfo} {ret : Int}
    (h : networkProvMgrSetAppInfo label version capabilities s = (ret, s')) :
    (ret = -EINVAL ∨ ret = -EPERM) ∧ s' = s ∨ ∃ l v caps, Passes label version capabilities s l v caps := by
  unfold networkProvMgrSetAppInfo at h
  split at h
  · cases h; exact .inl ⟨.inl rfl, rfl⟩
  · cases h; exact .inl ⟨.inl rfl, rfl⟩
  · cases h; exact .inl ⟨.inl rfl, rfl⟩
  rename_i l v hcaps
  split at h
  · cases h; exact .inl ⟨.inl rfl, rfl⟩
  rename_i hnamed
  split at h
  · cases h; exact .inl ⟨.inr rfl, rfl⟩
  rename_i hinited
  split at h
  · cases h; exact .inl ⟨.inr rfl, rfl⟩
  rename_i hstopped
  split at h
  · cases h; exact .inl ⟨.inl rfl, rfl⟩
  rename_i htokens
  split at h
  · cases h; exact .inl ⟨.inl rfl, rfl⟩
  rename_i hok
  simp only [Bool.or_eq_true, Bool.not_eq_true', not_or, Bool.not_eq_false, Bool.not_eq_true]
    at hinited hstopped htokens hok
  have hplain := capabilitiesOk_iff.mp hok
  obtain ⟨caps, hmap⟩ : ∃ caps : List CStr, caps.map some = capabilities.entries := by
    change capabilities.entries ∈ Set.range (List.map some)
    rw [Set.range_list_map]
    intro c hc
    obtain ⟨d, hd, -⟩ := hplain c hc
    exact ⟨d, hd.symm⟩
  refine .inr ⟨l, v, caps, rfl, rfl, ?_, hnamed, hinited, hstopped, jsonTokenOk_iff.mp htokens.1,
    jsonTokenOk_iff.mp htokens.2, ?_⟩
  · cases capabilities with
    | array entries => exact .inl (congrArg Capabilities.array hmap.symm)
    | null count =>
      cases count with
      | zero => exact .inr ⟨rfl, List.map_eq_nil_iff.mp hmap⟩
      | succ n => exact absurd rfl (hcaps n)
  · intro c hc
    obtain ⟨d, hd, hd'⟩ := hplain (some c) (by rw [← hmap]; exact List.mem_map_of_mem hc)
    cases hd
    exact hd'

/-! ## The version JSON -/

/-- The member the section stands for. -/
def sectionMember (label version : Text) (caps : List Text) : Text × Json :=
  (label, .obj [(lit "ver", .str version), (lit "cap", .arr (caps.map .str))])

def provCaps : NetworkType → List Text
  | .thread => [lit "thread_prov", lit "thread_scan"]
  | .wifi => [lit "wifi_prov", lit "wifi_scan"]

/-- Scheme 1 without a proof of possession. -/
def NoPop (security : NetworkProvSecurity) (pop : Option CStr) : Prop :=
  security = .security1 ∧ charsOf pop = []

instance (security : NetworkProvSecurity) (pop : Option CStr) : Decidable (NoPop security pop) :=
  inferInstanceAs (Decidable (_ ∧ _))

def advertised (net : NetworkType) (noPop : Bool) : List Text :=
  provCaps net ++ if noPop then [lit "no_pop"] else []

/-- The member of the manager. -/
def provMember (net : NetworkType) (security : NetworkProvSecurity) (pop : Option CStr) : Text × Json :=
  (lit "prov", .obj [(lit "ver", .str (lit "v1.1")), (lit "sec_ver", .num security.version),
    (lit "cap", .arr ((advertised net (NoPop security pop)).map .str))])

def provText (net : NetworkType) (security : NetworkProvSecurity) (noPop : Bool) : Text :=
  Json.member (lit "prov") (Json.object [Json.member (lit "ver") (Json.quote (lit "v1.1")),
    Json.member (lit "sec_ver") (printDecimal security.version),
    Json.member (lit "cap") (Json.array ((advertised net noPop).map Json.quote))])

/-- The text of an array of strings. -/
theorem renders_strings {ss : List Text} (h : ∀ s ∈ ss, Json.Plain s) :
    Json.Renders (Json.array (ss.map Json.quote)) (.arr (ss.map .str)) := by
  refine Json.renders_arr ?_
  induction ss with
  | nil => exact .nil
  | cons s ss ih =>
    rw [List.forall_mem_cons] at h
    exact .cons (Json.renders_str h.1) (ih h.2)

theorem rendersMember_mk {key s : Text} {v : Json} (hk : Json.Plain key) (hs : Json.Renders s v) :
    Json.RendersMember (Json.member key s) (key, v) := ⟨s, hk, hs, rfl⟩

theorem plain_lit {s : String} (h : jsonTokenOk (lit s) = true) : Json.Plain (lit s) := jsonTokenOk_iff.mp h

theorem renders_section {label version : Text} {caps : List Text} (hl : Json.Plain label)
    (hv : Json.Plain version) (hc : ∀ c ∈ caps, Json.Plain c) :
    ∃ t, sectionText label version caps = t ++ lit "," ∧
      Json.RendersMember t (sectionMember label version caps) := by
  refine ⟨_, rfl, rendersMember_mk hl (Json.renders_obj ?_)⟩
  exact .cons (rendersMember_mk (plain_lit (by decide)) (Json.renders_str hv))
    (.cons (rendersMember_mk (plain_lit (by decide)) (renders_strings hc)) .nil)

theorem renders_prov (net : NetworkType) (security : NetworkProvSecurity) (pop : Option CStr) :
    Json.RendersMember (provText net security (NoPop security pop)) (provMember net security pop) := by
  have hnum : Json.Renders (printDecimal security.version) (.num security.version) := by
    refine Json.renders_num (decimal?_printDecimal _) ?_
    cases security <;> decide
  have hcaps : ∀ noPop, ∀ c ∈ advertised net noPop, Json.Plain c := by
    intro noPop c hc
    have hall : (advertised net noPop).all jsonTokenOk = true := by
      cases net <;> cases noPop <;> decide
    exact jsonTokenOk_iff.mp (List.all_eq_true.mp hall c hc)
  refine rendersMember_mk (plain_lit (by decide)) (Json.renders_obj ?_)
  exact .cons (rendersMember_mk (plain_lit (by decide)) (Json.renders_str (plain_lit (by decide))))
    (.cons (rendersMember_mk (plain_lit (by decide)) hnum)
      (.cons (rendersMember_mk (plain_lit (by decide)) (renders_strings (hcaps _))) .nil))

/-- The brace, the section, the member of the manager and the brace. -/
theorem versionText_eq (net : NetworkType) (security : NetworkProvSecurity) (pop : Option CStr)
    (appInfoJson : Text) :
    versionText net security pop appInfoJson =
      0x7b :: (appInfoJson ++ provText net security (NoPop security pop) ++ [0x7d]) := by
  have hpop : (security = .security1 ∧ (pop = none ∨ charsOf pop = [])) ↔ NoPop security pop := by
    cases pop <;> simp [NoPop, charsOf]
  have hrest : ∀ noPop : Bool, lit "\"prov\":\x7b\"ver\":\"v1.1\",\"sec_ver\":" ++
      printDecimal (if security = .security1 then 1 else 0) ++ lit ",\"cap\":[" ++ PROV_CAPS net ++
      (if noPop then lit ",\"no_pop\"" else lit "") ++ lit "]\x7d\x7d" =
      provText net security noPop ++ [0x7d] := by
    intro noPop
    cases net <;> cases security <;> cases noPop <;> decide
  have h := hrest (NoPop security pop)
  have hopen : lit "\x7b" = [0x7b] := by decide
  unfold versionText
  dsimp only
  simp only [hpop]
  simp only [decide_eq_true_eq] at h
  simp only [List.append_assoc] at h ⊢
  rw [h, hopen]
  rfl

theorem length_provText (net : NetworkType) (security : NetworkProvSecurity) (noPop : Bool) :
    (provText net security noPop).length < 80 := by
  cases net <;> cases security <;> cases noPop <;> decide

/-- With any section that fits its buffer, the version JSON fits its own. -/
theorem buildVersionJson_eq (net : NetworkType) (security : NetworkProvSecurity) (pop : Option CStr)
    {s : AppInfo} (h : s.appInfoJson.length < APP_INFO_JSON_SIZE) :
    (versionText net security pop s.appInfoJson).length < VERSION_JSON_SIZE ∧
    buildVersionJson net security pop s =
      { s with versionJson := versionText net security pop s.appInfoJson } := by
  have hlen : (versionText net security pop s.appInfoJson).length < VERSION_JSON_SIZE := by
    have hprov := length_provText net security (NoPop security pop)
    have hfit : s.appInfoJson.length < 256 := h
    rw [versionText_eq]
    change _ < 448
    simp only [List.length_cons, List.length_append, List.length_nil]
    omega
  refine ⟨hlen, ?_⟩
  rw [buildVersionJson, snprintf_fits hlen (by decide)]

/-- What a version JSON with a section is read as. -/
theorem parse_version {label version : Text} {caps : List Text} (hl : Json.Plain label)
    (hv : Json.Plain version) (hc : ∀ c ∈ caps, Json.Plain c) (net : NetworkType)
    (security : NetworkProvSecurity) (pop : Option CStr) :
    Json.parse (versionText net security pop (sectionText label version caps)) =
      some (.obj [sectionMember label version caps, provMember net security pop]) := by
  obtain ⟨t, ht, hrenders⟩ := renders_section hl hv hc
  have hobject : versionText net security pop (sectionText label version caps) =
      Json.object [t, provText net security (NoPop security pop)] := by
    rw [versionText_eq, ht]
    simp [Json.object, Json.commaSep, show lit "," = [0x2c] by decide]
  rw [hobject]
  exact Json.parse_renders (Json.renders_obj (.cons hrenders (.cons (renders_prov net security pop) .nil)))

/-- The version JSON is rendered whole, and read as these members. -/
structure ReadsAs (net : NetworkType) (security : NetworkProvSecurity) (pop : Option CStr) (s : AppInfo)
    (members : List (Text × Json)) : Prop where
  whole : (buildVersionJson net security pop s).versionJson = versionText net security pop s.appInfoJson
  fits : (versionText net security pop s.appInfoJson).length < VERSION_JSON_SIZE
  parsed : Json.parse (buildVersionJson net security pop s).versionJson = some (.obj members)

/-- Every section that is accepted is read back from the version JSON, and good arguments are
refused exactly if their section is too long. -/
theorem version_json_roundtrip (label version : Option CStr) (capabilities : Capabilities) (s : AppInfo) :
    ((networkProvMgrSetAppInfo label version capabilities s).1 = 0 →
      ∃ l v caps, Passes label version capabilities s l v caps ∧ ∀ net security pop,
        ReadsAs net security pop (networkProvMgrSetAppInfo label version capabilities s).2
          [sectionMember l.chars v.chars (caps.map (·.chars)), provMember net security pop]) ∧
    ∀ l v caps, Passes label version capabilities s l v caps →
      ((networkProvMgrSetAppInfo label version capabilities s).1 = -ENOMEM ↔
        255 < (sectionText l.chars v.chars (caps.map (·.chars))).length) := by
  constructor
  · intro hret
    generalize h : networkProvMgrSetAppInfo label version capabilities s = out at hret
    obtain ⟨ret, s'⟩ := out
    rcases setAppInfo_cases h with ⟨herr, -⟩ | ⟨l, v, caps, hpass⟩
    · rcases herr with rfl | rfl <;> cases hret
    · rw [setAppInfo_passes hpass] at h
      dsimp only at h hret ⊢
      split at h
      · rename_i hfit
        cases h
        refine ⟨l, v, caps, hpass, fun net security pop => ?_⟩
        have hplain : ∀ c ∈ caps.map (·.chars), Json.Plain c := by
          intro c hc
          obtain ⟨d, hd, rfl⟩ := List.mem_map.mp hc
          exact hpass.plainCaps d hd
        obtain ⟨hlen, hbuild⟩ := buildVersionJson_eq net security pop
          (s := { s with appInfoJson := sectionText l.chars v.chars (caps.map (·.chars)) }) hfit
        exact ⟨by rw [hbuild], hlen, by
          rw [hbuild]; exact parse_version hpass.plainLabel hpass.plainVersion hplain net security pop⟩
      · cases h
        cases hret
  · intro l v caps hpass
    rw [setAppInfo_passes hpass]
    dsimp only
    split
    · rename_i hfit
      have hfit' : (sectionText l.chars v.chars (caps.map (·.chars))).length < 256 := hfit
      constructor
      · intro h
        cases h
      · intro h
        omega
    · rename_i hlong
      have hlong' : ¬ (sectionText l.chars v.chars (caps.map (·.chars))).length < 256 := hlong
      simp only [true_iff]
      omega

def demoLabel : CStr := ⟨lit "app", by decide⟩
def demoVersion : CStr := ⟨lit "1.0", by decide⟩
def demoCap : CStr := ⟨lit "led", by decide⟩

/-- Initialised, with nothing set. -/
def demoInfo : AppInfo := ⟨true, false, [], []⟩

/-- A section that fits, with the same capability twice. -/
theorem version_json_roundtrip_test :
    (∃ l v caps, Passes (some demoLabel) (some demoVersion) (.array [some demoCap, some demoCap]) demoInfo l v caps ∧
      ∀ net security pop, ReadsAs net security pop
        (networkProvMgrSetAppInfo (some demoLabel) (some demoVersion) (.array [some demoCap, some demoCap])
          demoInfo).2
        [sectionMember l.chars v.chars (caps.map (·.chars)), provMember net security pop]) ∧
    ((networkProvMgrSetAppInfo (some demoLabel) (some demoVersion) (.array [some demoCap]) demoInfo).1 = -ENOMEM ↔
      255 < (sectionText demoLabel.chars demoVersion.chars [demoCap.chars]).length) :=
  ⟨(version_json_roundtrip (some demoLabel) (some demoVersion) (.array [some demoCap, some demoCap])
      demoInfo).1 (by decide),
    (version_json_roundtrip (some demoLabel) (some demoVersion) (.array [some demoCap]) demoInfo).2 demoLabel
      demoVersion [demoCap] ⟨rfl, rfl, .inl rfl, by decide, rfl, rfl, jsonTokenOk_iff.mp (by decide),
        jsonTokenOk_iff.mp (by decide), by
          intro c hc
          rw [List.mem_singleton.mp hc]
          exact jsonTokenOk_iff.mp (by decide)⟩⟩

end NetworkProv.Manager
