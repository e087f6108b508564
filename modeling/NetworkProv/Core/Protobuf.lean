import Mathlib.Algebra.Group.Nat.Defs
import Mathlib.Data.List.Basic
import Mathlib.Tactic.Common

/-!
# The protobuf wire format

A message is a sequence of fields, each a number and a value of one of four wire
types. Numbers go as varints, seven bits a byte, the low ones first; at most ten
bytes, so that they fit 64 bits.

* `readVarint_writeVarint`: reading undoes writing, whatever follows.
* `parse_writeFields`: so does parsing a whole message.
-/
namespace NetworkProv.Core.Protobuf

/-! ## Varints -/

/-- `n` in at most `k + 1` bytes. -/
def varint : Nat → Nat → List UInt8
  | 0, n => [UInt8.ofNat n]
  | k + 1, n =>
    if n < 128 then [UInt8.ofNat n] else UInt8.ofNat (n % 128 + 128) :: varint k (n / 128)

def writeVarint (n : Nat) : List UInt8 := varint 9 n

/-- A varint of at most `k + 1` bytes; the last of these has one bit to give. -/
def unvarint : Nat → List UInt8 → Option (Nat × List UInt8)
  | _, [] => none
  | 0, b :: rest => if b.toNat < 2 then some (b.toNat, rest) else none
  | k + 1, b :: rest =>
    if b.toNat < 128 then some (b.toNat, rest)
    else (unvarint k rest).map fun r => (b.toNat - 128 + 128 * r.1, r.2)

def readVarint (bs : List UInt8) : Option (Nat × List UInt8) := unvarint 9 bs

theorem toNat_ofNat {n : Nat} (h : n < 256) : (UInt8.ofNat n).toNat = n := by
  rw [UInt8.toNat_ofNat']
  exact Nat.mod_eq_of_lt h

theorem unvarint_varint (k : Nat) : ∀ {n : Nat}, n < 2 ^ (7 * k + 1) → ∀ rest : List UInt8,
    unvarint k (varint k n ++ rest) = some (n, rest) := by
  induction k with
  | zero =>
    intro n h rest
    have hn : n < 2 := by simpa using h
    simp [varint, unvarint, toNat_ofNat (show n < 256 by omega), hn]
  | succ k ih =>
    intro n h rest
    unfold varint
    split
    · rename_i hs
      simp [unvarint, toNat_ofNat (show n < 256 by omega), hs]
    · rename_i hs
      have hp : 2 ^ (7 * (k + 1) + 1) = 128 * 2 ^ (7 * k + 1) := by
        rw [show 7 * (k + 1) + 1 = 7 + (7 * k + 1) by omega, Nat.pow_add]
      have hb := toNat_ofNat (show n % 128 + 128 < 256 by omega)
      have hr := ih (n := n / 128) (by omega) rest
      simp only [List.cons_append, unvarint, hb, hr]
      rw [if_neg (by omega)]
      simp only [Option.map_some, Option.some.injEq, Prod.mk.injEq, and_true]
      omega

theorem readVarint_writeVarint {n : Nat} (h : n < 2 ^ 64) (rest : List UInt8) :
    readVarint (writeVarint n ++ rest) = some (n, rest) := unvarint_varint 9 h rest

theorem varint_ne_nil (k n : Nat) : varint k n ≠ [] := by
  cases k with
  | zero => simp [varint]
  | succ k => unfold varint; split <;> simp

theorem writeVarint_pos (n : Nat) : 0 < (writeVarint n).length :=
  List.length_pos_iff.2 (varint_ne_nil 9 n)

theorem varint_length_le (k n : Nat) : (varint k n).length ≤ k + 1 := by
  induction k generalizing n with
  | zero => simp [varint]
  | succ k ih =>
    unfold varint
    split
    · simp
    · simpa using ih (n / 128)

theorem writeVarint_length_le (n : Nat) : (writeVarint n).length ≤ 10 := varint_length_le 9 n

/-- Larger numbers take no fewer bytes. -/
theorem varint_length_mono (k : Nat) {m n : Nat} (h : m ≤ n) :
    (varint k m).length ≤ (varint k n).length := by
  induction k generalizing m n with
  | zero => simp [varint]
  | succ k ih =>
    have hd := ih (Nat.div_le_div_right (c := 128) h)
    unfold varint
    split
    · exact List.length_pos_iff.2 (by split <;> simp)
    · rw [if_neg (by omega)]
      simpa using hd

theorem writeVarint_length_mono {m n : Nat} (h : m ≤ n) :
    (writeVarint m).length ≤ (writeVarint n).length := varint_length_mono 9 h

/-! ## Fields -/

/-- A value with its wire type. -/
inductive WireVal
  | varint (n : Nat)
  | fixed64 (b : List UInt8)
  | len (b : List UInt8)
  | fixed32 (b : List UInt8)
  deriving DecidableEq

structure Field where
  num : Nat
  val : WireVal
  deriving DecidableEq

def WireVal.type : WireVal → Nat
  | .varint _ => 0
  | .fixed64 _ => 1
  | .len _ => 2
  | .fixed32 _ => 5

def WireVal.write : WireVal → List UInt8
  | .varint n => writeVarint n
  | .fixed64 b => b
  | .len b => writeVarint b.length ++ b
  | .fixed32 b => b

def WireVal.Valid : WireVal → Prop
  | .varint n => n < 2 ^ 64
  | .fixed64 b => b.length = 8
  | .len b => b.length < 2 ^ 32
  | .fixed32 b => b.length = 4

/-- The tag, then the value. -/
def Field.write (f : Field) : List UInt8 := writeVarint (f.num * 8 + f.val.type) ++ f.val.write

def Field.Valid (f : Field) : Prop := 0 < f.num ∧ f.num < 2 ^ 29 ∧ f.val.Valid

def writeFields (fs : List Field) : List UInt8 := fs.flatMap Field.write

@[simp] theorem writeFields_nil : writeFields [] = [] := rfl

@[simp] theorem writeFields_cons (f : Field) (fs : List Field) :
    writeFields (f :: fs) = f.write ++ writeFields fs := rfl

@[simp] theorem writeFields_append (fs gs : List Field) :
    writeFields (fs ++ gs) = writeFields fs ++ writeFields gs := List.flatMap_append

/-- The first `n` bytes, and the rest. -/
def readBytes (n : Nat) (bs : List UInt8) : Option (List UInt8 × List UInt8) :=
  if n ≤ bs.length then some (bs.take n, bs.drop n) else none

def readVal (type : Nat) (bs : List UInt8) : Option (WireVal × List UInt8) :=
  match type with
  | 0 => (readVarint bs).map fun r => (.varint r.1, r.2)
  | 1 => (readBytes 8 bs).map fun r => (.fixed64 r.1, r.2)
  | 2 =>
    (readVarint bs).bind fun r =>
      if r.1 < 2 ^ 32 then (readBytes r.1 r.2).map fun r => (.len r.1, r.2) else none
  | 5 => (readBytes 4 bs).map fun r => (.fixed32 r.1, r.2)
  | _ => none

def readField (bs : List UInt8) : Option (Field × List UInt8) :=
  (readVarint bs).bind fun r =>
    if 8 ≤ r.1 ∧ r.1 < 2 ^ 32 then
      (readVal (r.1 % 8) r.2).map fun v => (⟨r.1 / 8, v.1⟩, v.2)
    else none

/-- Fields up to the end of the input, `k` of them at most. -/
def readFields : Nat → List UInt8 → Option (List Field)
  | _, [] => some []
  | 0, _ :: _ => none
  | k + 1, b :: bs =>
    (readField (b :: bs)).bind fun r => (readFields k r.2).map (r.1 :: ·)

/-- A field has at least one byte. -/
def parse (bs : List UInt8) : Option (List Field) := readFields bs.length bs

theorem readBytes_append {n : Nat} {b : List UInt8} (h : b.length = n) (rest : List UInt8) :
    readBytes n (b ++ rest) = some (b, rest) := by
  subst h
  simp [readBytes]

theorem readVal_write {v : WireVal} (h : v.Valid) (rest : List UInt8) :
    readVal v.type (v.write ++ rest) = some (v, rest) := by
  cases v with
  | varint n => simp [readVal, WireVal.type, WireVal.write, readVarint_writeVarint (show n < 2 ^ 64 from h)]
  | fixed64 b => simp [readVal, WireVal.type, WireVal.write, readBytes_append (show b.length = 8 from h)]
  | len b =>
    have hl : b.length < 2 ^ 32 := h
    have hr : readVal 2 (writeVarint b.length ++ (b ++ rest)) = some (.len b, rest) := by
      unfold readVal
      rw [readVarint_writeVarint (show b.length < 2 ^ 64 by omega), Option.bind_some, if_pos hl,
        readBytes_append rfl]
      rfl
    simpa [WireVal.type, WireVal.write] using hr
  | fixed32 b => simp [readVal, WireVal.type, WireVal.write, readBytes_append (show b.length = 4 from h)]

theorem WireVal.type_lt (v : WireVal) : v.type < 8 := by
  cases v <;> simp [WireVal.type]

theorem readField_write {f : Field} (h : f.Valid) (rest : List UInt8) :
    readField (f.write ++ rest) = some (f, rest) := by
  obtain ⟨hpos, hlt, hv⟩ := h
  have ht := f.val.type_lt
  have hmod : (f.num * 8 + f.val.type) % 8 = f.val.type := by omega
  have hdiv : (f.num * 8 + f.val.type) / 8 = f.num := by omega
  unfold readField Field.write
  rw [List.append_assoc, readVarint_writeVarint (by omega), Option.bind_some]
  dsimp only
  rw [if_pos (by omega), hmod, hdiv, readVal_write hv]
  rfl

theorem write_length_pos (f : Field) : 0 < f.write.length := by
  have := writeVarint_pos (f.num * 8 + f.val.type)
  simp only [Field.write, List.length_append]
  omega

theorem readFields_write {fs : List Field} (h : ∀ f ∈ fs, f.Valid) :
    ∀ k, (writeFields fs).length ≤ k → readFields k (writeFields fs) = some fs := by
  induction fs with
  | nil => intro k _; simp [readFields]
  | cons f fs ih =>
    intro k hk
    have hf := write_length_pos f
    rw [writeFields_cons] at hk ⊢
    simp only [List.length_append] at hk
    have hr := readField_write (h f (by simp)) (writeFields fs)
    cases hw : f.write ++ writeFields fs with
    | nil => simp [List.append_eq_nil_iff] at hw; simp [hw.1] at hf
    | cons b bs =>
      cases k with
      | zero => omega
      | succ k =>
        rw [hw] at hr
        simp only [readFields, hr, Option.bind_some]
        rw [ih (fun g hg => h g (by simp [hg])) k (by omega)]
        rfl

/-- Parsing undoes writing. -/
theorem parse_writeFields {fs : List Field} (h : ∀ f ∈ fs, f.Valid) :
    parse (writeFields fs) = some fs := readFields_write h _ (Nat.le_refl _)

end NetworkProv.Core.Protobuf
