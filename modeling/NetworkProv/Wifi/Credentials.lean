import Mathlib.Data.Finmap
import NetworkProv.Basic

/-!
# The `wifi_credentials` store

The native store is not part of the repository; the handler relies on this
much of it. At most one entry an SSID, never one under the empty SSID.
`wifi_credentials_set_personal` replaces the entry or refuses (an empty SSID,
or whatever the storage answers) and then leaves the store as it was;
`wifi_credentials_delete_by_ssid` removes the entry, or fails and leaves it;
`wifi_credentials_delete_all` removes everything, or fails half way.

* `lookup_deleteBySsid`, `lookup_put`: the store as a map.
* `deleteBySsid_eq_self`, `put_eq_self`: when a deletion, and when storing an entry,
  is without effect.
-/
namespace NetworkProv

abbrev WIFI_MAC_ADDR_LEN := 6

/-- The two of `enum wifi_security_type` this code uses. -/
inductive WifiSecurityType
  | none
  | psk
  deriving DecidableEq

/-- `WIFI_CREDENTIALS_FLAG_BSSID` -/
def WIFI_CREDENTIALS_FLAG_BSSID : Nat := 1

/-- An entry: the arguments of `wifi_credentials_set_personal` after the SSID. -/
structure WifiCred where
  type : WifiSecurityType
  bssid : Option (Buf WIFI_MAC_ADDR_LEN)
  password : Bytes
  flags : Nat
  channel : UInt8
  timeout : Nat
  deriving DecidableEq

structure WifiCredentials where
  entries : Finmap fun _ : Bytes => WifiCred
  named : [] ∉ entries

namespace WifiCredentials

def empty : WifiCredentials := ⟨∅, Finmap.notMem_empty⟩

def lookup (s : WifiCredentials) (ssid : Bytes) : Option WifiCred := s.entries.lookup ssid

/-- The store without the entry of `ssid`. -/
def erase (s : WifiCredentials) (ssid : Bytes) : WifiCredentials :=
  ⟨s.entries.erase ssid, fun h => s.named (Finmap.mem_erase.1 h).2⟩

/-- `ret` is what the storage behind the store answers. -/
def deleteBySsid (ret : Int) (s : WifiCredentials) (ssid : Bytes) : Int × WifiCredentials :=
  if ret ≠ 0 then (ret, s) else (0, s.erase ssid)

/-- The store with `c` as the entry of `ssid`. -/
def put (s : WifiCredentials) (ssid : Bytes) (hs : ssid ≠ []) (c : WifiCred) : WifiCredentials :=
  ⟨s.entries.insert ssid c, fun h => (Finmap.mem_insert.1 h).elim (fun h => hs h.symm) s.named⟩

/-- `ret` is what the storage behind the store answers. -/
def setPersonal (ret : Int) (s : WifiCredentials) (ssid : Bytes) (c : WifiCred) :
    Int × WifiCredentials :=
  if h : ssid = [] then (-EINVAL, s)
  else if ret ≠ 0 then (ret, s)
  else (0, s.put ssid h c)

/-- A deletion that fails with `ret` has removed the entries of `deleted`. -/
def deleteAll (ret : Int) (deleted : List Bytes) (s : WifiCredentials) : Int × WifiCredentials :=
  if ret ≠ 0 then (ret, deleted.foldl erase s) else (0, empty)

theorem ext_lookup {a b : WifiCredentials} (h : ∀ k, a.lookup k = b.lookup k) : a = b := by
  cases a; cases b
  congr
  exact Finmap.ext_lookup h

@[simp] theorem lookup_empty (k : Bytes) : empty.lookup k = none := Finmap.lookup_empty k

@[simp] theorem lookup_nil (s : WifiCredentials) : s.lookup [] = none :=
  Finmap.lookup_eq_none.2 s.named

@[simp] theorem lookup_erase (s : WifiCredentials) (k x : Bytes) :
    (s.erase k).lookup x = if x = k then none else s.lookup x := by
  by_cases h : x = k
  · subst h
    rw [if_pos rfl]
    exact Finmap.lookup_erase x s.entries
  · rw [if_neg h]
    exact Finmap.lookup_erase_ne h

@[simp] theorem deleteBySsid_ok (s : WifiCredentials) (k : Bytes) : (s.deleteBySsid 0 k).2 = s.erase k := rfl

theorem deleteBySsid_failed {ret : Int} (h : ret ≠ 0) (s : WifiCredentials) (k : Bytes) :
    (s.deleteBySsid ret k).2 = s := by
  rw [deleteBySsid, if_pos h]

theorem lookup_deleteBySsid (ret : Int) (s : WifiCredentials) (k x : Bytes) :
    (s.deleteBySsid ret k).2.lookup x = if ret = 0 ∧ x = k then none else s.lookup x := by
  by_cases hr : ret = 0
  · rw [hr, deleteBySsid_ok, lookup_erase]
    simp
  · rw [deleteBySsid_failed hr, if_neg fun h => hr h.1]

/-- Deleting changes no entry. -/
theorem lookup_of_deleteBySsid {ret : Int} {s : WifiCredentials} {k x : Bytes} {c : WifiCred}
    (h : (s.deleteBySsid ret k).2.lookup x = some c) : s.lookup x = some c := by
  rw [lookup_deleteBySsid] at h
  split at h
  · cases h
  · exact h

@[simp] theorem lookup_put (s : WifiCredentials) (k x : Bytes) (hk : k ≠ []) (c : WifiCred) :
    (s.put k hk c).lookup x = if x = k then some c else s.lookup x := by
  by_cases h : x = k
  · subst h
    rw [if_pos rfl]
    exact Finmap.lookup_insert s.entries
  · rw [if_neg h]
    exact Finmap.lookup_insert_of_ne s.entries h

theorem erase_eq_self (s : WifiCredentials) (k : Bytes) : s.erase k = s ↔ s.lookup k = none := by
  constructor
  · intro h
    rw [← h]
    simp
  · intro h
    apply ext_lookup
    intro x
    rw [lookup_erase]
    by_cases hx : x = k
    · rw [if_pos hx, hx, h]
    · rw [if_neg hx]

/-- A deletion that fails, or finds no entry. -/
theorem deleteBySsid_eq_self (ret : Int) (s : WifiCredentials) (k : Bytes) :
    (s.deleteBySsid ret k).2 = s ↔ ret ≠ 0 ∨ s.lookup k = none := by
  by_cases hr : ret = 0
  · rw [hr, deleteBySsid_ok, erase_eq_self]
    simp
  · rw [deleteBySsid_failed hr]
    exact iff_of_true rfl (.inl hr)

theorem put_eq_self (s : WifiCredentials) (k : Bytes) (hk : k ≠ []) (c : WifiCred) :
    s.put k hk c = s ↔ s.lookup k = some c := by
  constructor
  · intro h
    rw [← h, lookup_put, if_pos rfl]
  · intro h
    apply ext_lookup
    intro x
    rw [lookup_put]
    by_cases hx : x = k
    · rw [if_pos hx, hx, h]
    · rw [if_neg hx]

@[simp] theorem put_deleteBySsid (ret : Int) (s : WifiCredentials) (k : Bytes) (hk : k ≠ []) (c : WifiCred) :
    (s.deleteBySsid ret k).2.put k hk c = s.put k hk c := by
  apply ext_lookup
  intro x
  by_cases hx : x = k <;> simp [hx, lookup_deleteBySsid]

@[simp] theorem erase_put (s : WifiCredentials) (k : Bytes) (hk : k ≠ []) (c : WifiCred) :
    (s.put k hk c).erase k = s.erase k := by
  apply ext_lookup
  intro x
  by_cases hx : x = k <;> simp [hx]

theorem setPersonal_ok {ret : Int} {s : WifiCredentials} {k : Bytes} (hk : k ≠ []) (hr : ret = 0)
    (c : WifiCred) : s.setPersonal ret k c = (0, s.put k hk c) := by
  unfold setPersonal
  rw [dif_neg hk, if_neg (by omega)]

theorem setPersonal_refused {ret : Int} {s : WifiCredentials} {k : Bytes}
    (h : ¬ (k ≠ [] ∧ ret = 0)) (c : WifiCred) :
    (s.setPersonal ret k c).1 ≠ 0 ∧ (s.setPersonal ret k c).2 = s := by
  unfold setPersonal
  by_cases hk : k = []
  · rw [dif_pos hk]
    exact ⟨by simp [EINVAL], rfl⟩
  · have hr : ret ≠ 0 := fun hr => h ⟨hk, hr⟩
    rw [dif_neg hk, if_pos hr]
    exact ⟨hr, rfl⟩

theorem lookup_foldl_erase (l : List Bytes) (s : WifiCredentials) (x : Bytes) :
    (l.foldl erase s).lookup x = if x ∈ l then none else s.lookup x := by
  induction l generalizing s with
  | nil => simp
  | cons k l ih =>
    rw [List.foldl_cons, ih, lookup_erase]
    by_cases hx : x ∈ l
    · simp [hx]
    · by_cases hk : x = k <;> simp [hx, hk]

theorem lookup_deleteAll (ret : Int) (deleted : List Bytes) (s : WifiCredentials) (x : Bytes) :
    (deleteAll ret deleted s).2.lookup x = if ret ≠ 0 ∧ x ∉ deleted then s.lookup x else none := by
  unfold deleteAll
  by_cases hr : ret ≠ 0
  · rw [if_pos hr]
    dsimp only
    rw [lookup_foldl_erase]
    by_cases hx : x ∈ deleted <;> simp [hr, hx]
  · rw [if_neg hr, if_neg fun h => hr h.1]
    exact lookup_empty x

theorem lookup_of_deleteAll {ret : Int} {deleted : List Bytes} {s : WifiCredentials} {x : Bytes}
    {c : WifiCred} (h : (deleteAll ret deleted s).2.lookup x = some c) : s.lookup x = some c := by
  rw [lookup_deleteAll] at h
  split at h
  · exact h
  · cases h

end WifiCredentials

end NetworkProv
