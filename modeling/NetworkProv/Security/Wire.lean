import NetworkProv.Psa
import NetworkProv.Security.Session

/-!
# The handshake on the wire, and one set of keys

The parameters of the security 1 model, instantiated: the proto3 encoding of
the four handshake messages (`wirePb`), and a `Psa` that knows the X25519,
SHA-256 and AES-256-CTR values of one pair of keys, one IV and a few proofs of
possession (`vectors`). Concrete runs of the model use these.

* `wirePb_codec`: the encoding of each message decodes to that message, for
  all keys, random bytes and verify data.
-/
namespace NetworkProv.Security1
open Session

/-- What the handshake needs of nanopb: the four messages survive a round
trip, and the commands fit the client's 128-byte buffer. -/
structure Codec (pb : Nanopb) : Prop where
  cmd0 : ∀ pk : Buf 32, ∃ b, pb.encode (cmd0 pk.val) = some b ∧ b.length ≤ 128 ∧
    pb.decode b = some (cmd0 pk.val)
  resp0 : ∀ (pk : Buf 32) (rnd : Buf 16), ∃ b, pb.encode (resp0 pk.val rnd.val) = some b ∧
    pb.decode b = some (resp0 pk.val rnd.val)
  cmd1 : ∀ v : Buf 32, ∃ b, pb.encode (cmd1 v.val) = some b ∧ b.length ≤ 128 ∧
    pb.decode b = some (cmd1 v.val)
  resp1 : ∀ v : Buf 32, ∃ b, pb.encode (resp1 v.val) = some b ∧ pb.decode b = some (resp1 v.val)

/-! ## The encoding -/

/-- Everything before `client_pubkey`: `sec_ver`, the `sec1` and `sc0` tags
with their lengths, the field tag. proto3 omits `msg = 0`. -/
def cmd0Head : Bytes := [0x10, 1, 0x5a, 37, 0xa2, 1, 34, 0x0a, 32]

def resp0Head : Bytes := [0x10, 1, 0x5a, 57, 0x08, 1, 0xaa, 1, 52, 0x12, 32]

/-- Between `device_pubkey` and `device_random`. -/
def resp0Mid : Bytes := [0x1a, 16]

def cmd1Head : Bytes := [0x10, 1, 0x5a, 39, 0x08, 2, 0xb2, 1, 34, 0x12, 32]

def resp1Head : Bytes := [0x10, 1, 0x5a, 39, 0x08, 3, 0xba, 1, 34, 0x1a, 32]

def wireEncode (m : SessionData) : Option Bytes :=
  match m with
  | ⟨1, .sec1 ⟨0, .sc0 pk⟩⟩ => if pk.length = 32 then some (cmd0Head ++ pk) else none
  | ⟨1, .sec1 ⟨1, .sr0 0 pk rnd⟩⟩ =>
    if pk.length = 32 ∧ rnd.length = 16 then some (resp0Head ++ (pk ++ (resp0Mid ++ rnd))) else none
  | ⟨1, .sec1 ⟨2, .sc1 v⟩⟩ => if v.length = 32 then some (cmd1Head ++ v) else none
  | ⟨1, .sec1 ⟨3, .sr1 0 v⟩⟩ => if v.length = 32 then some (resp1Head ++ v) else none
  | _ => none

/-- What follows the head `pre` in `b`, if it has `n` bytes. -/
def field (pre b : Bytes) (n : Nat) : Option Bytes :=
  if b.take pre.length = pre ∧ (b.drop pre.length).length = n then some (b.drop pre.length) else none

def wireDecode (b : Bytes) : Option SessionData :=
  match field cmd0Head b 32, field resp0Head b 50, field cmd1Head b 32, field resp1Head b 32 with
  | some pk, _, _, _ => some (cmd0 pk)
  | _, some p, _, _ =>
    if (p.drop 32).take 2 = resp0Mid then some (resp0 (p.take 32) (p.drop 34)) else none
  | _, _, some v, _ => some (cmd1 v)
  | _, _, _, some v => some (resp1 v)
  | _, _, _, _ => none

def wirePb : Nanopb where
  decode := wireDecode
  encode := wireEncode
  punSc0 := fun _ => []
  punSc1 := fun _ => []
  punSr0 := fun _ => (0, [], [])
  punSr1 := fun _ => (0, [])
  punSec1 := fun _ => ⟨0, .unset⟩

theorem field_append (pre p : Bytes) : field pre (pre ++ p) p.length = some p := by
  simp [field]

theorem field_head_ne {pre pre' p : Bytes} {n : Nat} (hl : pre.length ≤ pre'.length)
    (hne : pre'.take pre.length ≠ pre) : field pre (pre' ++ p) n = none := by
  simp [field, List.take_append_of_le_length hl, hne]

theorem wirePb_cmd0 (pk : Buf 32) : wireDecode (cmd0Head ++ pk.val) = some (cmd0 pk.val) := by
  have h : field cmd0Head (cmd0Head ++ pk.val) 32 = some pk.val := by
    simpa using field_append cmd0Head pk.val
  simp [wireDecode, h]

theorem wirePb_resp0 (pk : Buf 32) (rnd : Buf 16) :
    wireDecode (resp0Head ++ (pk.val ++ (resp0Mid ++ rnd.val))) = some (resp0 pk.val rnd.val) := by
  have h0 : field cmd0Head (resp0Head ++ (pk.val ++ (resp0Mid ++ rnd.val))) 32 = none :=
    field_head_ne (by decide) (by decide)
  have h : field resp0Head (resp0Head ++ (pk.val ++ (resp0Mid ++ rnd.val))) 50
      = some (pk.val ++ (resp0Mid ++ rnd.val)) := by
    have := field_append resp0Head (pk.val ++ (resp0Mid ++ rnd.val))
    simpa [resp0Mid] using this
  have ht : (resp0Mid ++ rnd.val).take 2 = resp0Mid := List.take_left' rfl
  have hd : (pk.val ++ (resp0Mid ++ rnd.val)).drop 34 = rnd.val := by
    rw [← List.append_assoc, List.drop_left' (by simp [resp0Mid])]
  have htk : (pk.val ++ (resp0Mid ++ rnd.val)).take 32 = pk.val := List.take_left' (by simp)
  simp [wireDecode, h0, h, ht, hd, htk]

theorem wirePb_cmd1 (v : Buf 32) : wireDecode (cmd1Head ++ v.val) = some (cmd1 v.val) := by
  have h0 : field cmd0Head (cmd1Head ++ v.val) 32 = none := field_head_ne (by decide) (by decide)
  have h1 : field resp0Head (cmd1Head ++ v.val) 50 = none := field_head_ne (by decide) (by decide)
  have h : field cmd1Head (cmd1Head ++ v.val) 32 = some v.val := by
    simpa using field_append cmd1Head v.val
  simp [wireDecode, h0, h1, h]

theorem wirePb_resp1 (v : Buf 32) : wireDecode (resp1Head ++ v.val) = some (resp1 v.val) := by
  have h0 : field cmd0Head (resp1Head ++ v.val) 32 = none := field_head_ne (by decide) (by decide)
  have h1 : field resp0Head (resp1Head ++ v.val) 50 = none := field_head_ne (by decide) (by decide)
  have h2 : field cmd1Head (resp1Head ++ v.val) 32 = none := field_head_ne (by decide) (by decide)
  have h : field resp1Head (resp1Head ++ v.val) 32 = some v.val := by
    simpa using field_append resp1Head v.val
  simp [wireDecode, h0, h1, h2, h]

theorem wirePb_codec : Codec wirePb where
  cmd0 pk := ⟨cmd0Head ++ pk.val, by simp [wirePb, wireEncode, cmd0, secScheme1, sessionCommand0],
    by simp [cmd0Head], wirePb_cmd0 pk⟩
  resp0 pk rnd := ⟨resp0Head ++ (pk.val ++ (resp0Mid ++ rnd.val)),
    by simp [wirePb, wireEncode, resp0, secScheme1, sessionResponse0, statusSuccess],
    wirePb_resp0 pk rnd⟩
  cmd1 v := ⟨cmd1Head ++ v.val, by simp [wirePb, wireEncode, cmd1, secScheme1, sessionCommand1],
    by simp [cmd1Head], wirePb_cmd1 v⟩
  resp1 v := ⟨resp1Head ++ v.val,
    by simp [wirePb, wireEncode, resp1, secScheme1, sessionResponse1, statusSuccess],
    wirePb_resp1 v⟩

/-! ## Reference values -/

/-- The `n` bytes of a number, most significant first. -/
def bytesOf : Nat → Nat → Bytes
  | 0, _ => []
  | n + 1, v => UInt8.ofNat (v >>> (8 * n)) :: bytesOf n v

def devicePriv : Bytes := bytesOf 32 0x77076d0a7318a57d3c16c17251b26645df4c2f92ebc0992ac177fba51db92c2a
def devicePub : Bytes := bytesOf 32 0xf8a9535a2d2ff605e8e144d54f4ef5c62313a2055dbb21fddd3fd9c299eb015d
def clientPriv : Bytes := bytesOf 32 0x5dab087e624a8a4b79e17f8b83800ee66f3bb1292618b6fd1c2f8b27ff88e0eb
def clientPub : Bytes := bytesOf 32 0xde9edb7d7b7dc1b4d35b61c2ece435373f8343c85b78674dadfc7e146f882b4f
def sharedSecret : Bytes := bytesOf 32 0xec555394277877e3ef665c2af39d396d8572f112cc8ce2af0972cb6a3989406d

/-- The device's random bytes, the IV of the session. -/
def deviceRandom : Buf 16 := ⟨bytesOf 16 0xf0f1f2f3f4f5f6f7f8f9fafbfcfdfeff, by decide⟩

/-- `"abcd1234"` -/
def popText : Bytes := bytesOf 8 0x6162636431323334

/-- `"not-the-pop"` -/
def wrongPopText : Bytes := bytesOf 11 0x6e6f742d7468652d706f70

/-- `"abcd1234"` eight times: 64 characters, one more than `sec1_init` keeps. -/
def longPopText : Bytes := (List.replicate 8 popText).flatten

/-- SHA-256 of the proofs of possession above, and of the 63 characters that
`sec1_init` keeps of the long one. -/
def sha256Table : List (Bytes × Bytes) :=
  [(popText, bytesOf 32 0xe9cee71ab932fde863338d08be4de9dfe39ea049bdafb342ce659ec5450b69ae),
   (wrongPopText, bytesOf 32 0xd0e85d536e3b5123bfa9834a16c2763b44040f9fdec5fcd83571a9d169a92638),
   (longPopText, bytesOf 32 0xcbedc200d2abc788c89f814f62f75f113011828a624577b79827998cc39e7381),
   (longPopText.take 63,
    bytesOf 32 0x3a6175eb45d488584c04aa10879bb7f564c4ce03aee2159deb16480fe15fbee3)]

/-- The keystreams under `deviceRandom` of the four session keys these lead to. -/
def ctrTable : List (Bytes × Bytes) :=
  [(bytesOf 32 0x059bb48e9e4a8a0b8c55d1224dd0d0b266ec515b712351edc71755af7c8229c3, bytesOf 80
      0xa20eeb2aeec2b7e8c32c87f34c17dfeaa0fc121ade8c79f8f872f7b589fbb3f196a7e373ddff13c30c670ff8e05f257f7c3475ef38e35925c7181c34e981f1506d8c210ab910746527b1e8961ac01791),
   (bytesOf 32 0x3cbd0ec7494326c050cfdf60e55f4f56c176fe8d12491e773c0362bb50206655, bytesOf 64
      0x972c8a0149d5f2b4d462d6ac1b6127db96e977eec29590ad35bae5ebd67fb377bea694bbfe85db1ced1fceb4212dccbf2921daff10b6fc50becaf095b86cc392),
   (bytesOf 32 0x27b89194f5d3b06b27f9dd65916a667cb5637398aec99518915552e6fa1733ec, bytesOf 64
      0xe4a95f665b163a0ab246e17d0fee60dae415082dae2492f095a6cf8f2791af40f084ad4c9564631d546001f769220a35eec2aeedeec35d44541ccff59f2d9785),
   (bytesOf 32 0xd634267f62acffbba362f63a74068e98e1b63f11626ef732e2648365d8d6fe8e, bytesOf 64
      0xece7af17b0318aa50d7e3c265b4f05882bd90102febe7cbde2b6674936d5d13ae047c9d518bbc91ffda05f884f5bcd9e2a6b61f1dd9679d0eb79f40b5e7a680d)]

@[simp] theorem length_bytesOf : ∀ n v : Nat, (bytesOf n v).length = n
  | 0, _ => rfl
  | n + 1, v => by simp [bytesOf, length_bytesOf n v]

theorem sha256Table_length : ∀ h ∈ sha256Table, h.2.length = 32 := by
  intro h hm
  simp only [sha256Table, List.mem_cons, List.not_mem_nil, or_false] at hm
  rcases hm with rfl | rfl | rfl | rfl <;> exact length_bytesOf _ _

/-- The values above; elsewhere a constant. -/
def vectors : Psa where
  x25519Pub k := if k = devicePriv then devicePub else if k = clientPriv then clientPub else []
  x25519 k u :=
    if (k = devicePriv ∧ u = clientPub) ∨ (k = clientPriv ∧ u = devicePub) then some sharedSecret
    else none
  sha256 b := (sha256Table.lookup b).getD (List.replicate 32 0)
  sha256_length b := by
    cases h : sha256Table.lookup b with
    | none => simp
    | some d =>
      obtain ⟨l₁, l₂, hl, -⟩ := List.lookup_eq_some_iff.mp h
      exact sha256Table_length (b, d) (by rw [hl]; simp)
  ctr k iv n :=
    if iv = deviceRandom.val then ((ctrTable.lookup k).getD []).getD n 0 else 0

def pop : CStr := ⟨popText, by decide⟩

/-- The session key of the test device and a client with the same PoP. -/
def testKey : Bytes := List.zipWith (· ^^^ ·) sharedSecret (vectors.sha256 popText)

def testKs : Nat → UInt8 := vectors.ctr testKey deviceRandom.val

end NetworkProv.Security1
