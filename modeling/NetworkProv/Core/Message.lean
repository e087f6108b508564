import NetworkProv.Core.Protobuf
import Mathlib.Algebra.Group.Int.Defs
import Mathlib.Logic.Equiv.Defs
import Mathlib.Data.List.TakeWhile

/-!
# Message descriptions

What the fields of a message are, as the generator of a codec has it: numbers,
types, bounds. A description carries the laws that make its encoding and its
decoding fit together, so a message put together from described parts has them
too: `and` for one field after another, `oneOf` for a choice, `equiv` to
name the parts. Decoding takes fields in any order, lets later ones win, merges
repeated submessages, skips numbers it does not know, and refuses a known number
with another wire type or a value out of bounds.

* `decode_encode`: decoding undoes encoding.
* `decode_known`: fields unknown to the receiver, anywhere, change nothing.
* `encode_length`: no encoding is longer than the description's `size`.
-/
namespace NetworkProv.Core.Protobuf

/-- A fold seen through `f`. -/
theorem foldlM_through {α β γ : Type} (f : α → β) {g : α → γ → Option α} {g' : β → γ → Option β}
    {xs : List γ} (h : ∀ a, ∀ x ∈ xs, g' (f a) x = (g a x).map f) (a : α) :
    xs.foldlM g' (f a) = (xs.foldlM g a).map f := by
  induction xs generalizing a with
  | nil => rfl
  | cons x xs ih =>
    simp only [List.foldlM_cons, h a x (by simp)]
    cases hg : g a x with
    | none => rfl
    | some b => exact ih (fun c y hy => h c y (by simp [hy])) b

theorem takeWhile_ne_zero {b : List UInt8} (h : 0 ∉ b) : b.takeWhile (· ≠ 0) = b := by
  rw [List.takeWhile_eq_self_iff]
  intro c hc
  have hc0 : c ≠ 0 := by
    rintro rfl
    exact h hc
  simpa using hc0

/-! ## Scalars -/

/-- A scalar type; `size` bounds the value's bytes. -/
structure Scalar (α : Type) where
  zero : α
  wireType : Nat
  write : α → WireVal
  read : WireVal → Option α
  Fits : α → Prop
  decFits : DecidablePred Fits
  size : Nat
  type_write : ∀ a, (write a).type = wireType
  valid : ∀ a, Fits a → (write a).Valid
  size_le : ∀ a, Fits a → (write a).write.length ≤ size
  read_write : ∀ a, Fits a → read (write a) = some a

/-- An unsigned number below `bound`; enumerations are such. -/
def Scalar.uint (bound : Nat) (hpos : 0 < bound) (hb : bound ≤ 2 ^ 64) : Scalar Nat where
  zero := 0
  wireType := 0
  write := .varint
  read
    | .varint n => if n < bound then some n else none
    | _ => none
  Fits n := n < bound
  decFits _ := inferInstance
  size := (writeVarint (bound - 1)).length
  type_write _ := rfl
  valid n h := show n < 2 ^ 64 by omega
  size_le n h := writeVarint_length_mono (by omega)
  read_write n h := by simp [h]

/-- A flag: any number but 0 sets it. -/
def Scalar.bool : Scalar Bool where
  zero := false
  wireType := 0
  write b := .varint b.toNat
  read
    | .varint n => some (decide (n ≠ 0))
    | _ => none
  Fits _ := True
  decFits _ := inferInstance
  size := 1
  type_write _ := rfl
  valid b _ := by cases b <;> simp [WireVal.Valid]
  size_le b _ := by cases b <;> decide
  read_write b _ := by cases b <;> rfl

/-- Two's complement in 64 bits, of which reading takes the low 32. -/
def Scalar.int32 : Scalar Int where
  zero := 0
  wireType := 0
  write i := .varint (i % 2 ^ 64).toNat
  read
    | .varint n => some (Int.bmod n (2 ^ 32))
    | _ => none
  Fits i := -2 ^ 31 ≤ i ∧ i < 2 ^ 31
  decFits _ := inferInstance
  size := 10
  type_write _ := rfl
  valid i _ := show (i % 2 ^ 64).toNat < 2 ^ 64 by omega
  size_le i _ := writeVarint_length_le _
  read_write i h := by
    have h0 : ((i % 2 ^ 64).toNat : Int) = i % 2 ^ 64 := by omega
    simp only [h0, Option.some.injEq, Int.bmod_def]
    split <;> omega

/-- Bytes of a limited length, read back. -/
def readBounded (max : Nat) : WireVal → Option (List UInt8)
  | .len b => if b.length ≤ max then some b else none
  | _ => none

theorem len_size (max : Nat) (b : List UInt8) (h : b.length ≤ max) :
    (WireVal.len b).write.length ≤ (writeVarint max).length + max := by
  have := writeVarint_length_mono h
  simp only [WireVal.write, List.length_append]
  omega

/-- At most `max` bytes. -/
def Scalar.bytes (max : Nat) (hm : max < 2 ^ 32) : Scalar (List UInt8) where
  zero := []
  wireType := 2
  write := .len
  read := readBounded max
  Fits b := b.length ≤ max
  decFits _ := inferInstance
  size := (writeVarint max).length + max
  type_write _ := rfl
  valid _ h := Nat.lt_of_le_of_lt h hm
  size_le := len_size max
  read_write _ h := if_pos h

/-- Text of less than `max` characters, read up to its first NUL. -/
def readText (max : Nat) : WireVal → Option (List UInt8)
  | .len b => if b.length < max then some (b.takeWhile (· ≠ 0)) else none
  | _ => none

theorem readText_write (max : Nat) (b : List UInt8) (h : b.length < max ∧ 0 ∉ b) :
    readText max (.len b) = some b := by
  rw [readText, if_pos h.1, takeWhile_ne_zero h.2]

/-- Text of less than `max` characters, none of them NUL. -/
def Scalar.string (max : Nat) (hm : max < 2 ^ 32) : Scalar (List UInt8) where
  zero := []
  wireType := 2
  write := .len
  read := readText max
  Fits b := b.length < max ∧ 0 ∉ b
  decFits _ := inferInstance
  size := (writeVarint (max - 1)).length + (max - 1)
  type_write _ := rfl
  valid _ h := Nat.lt_trans h.1 hm
  size_le b h := len_size (max - 1) b (Nat.le_sub_one_of_lt h.1)
  read_write := readText_write max

/-! ## Messages -/

/-- A message, or some of the fields of one: the numbers it knows, what it writes,
what a field makes of it. -/
structure Message (α : Type) where
  nums : List Nat
  zero : α
  put : α → List Field
  get : α → Field → Option α
  Fits : α → Prop
  decFits : DecidablePred Fits
  size : Nat
  nums_put : ∀ a, ∀ f ∈ put a, f.num ∈ nums
  valid : ∀ a, Fits a → ∀ f ∈ put a, f.Valid
  size_le : ∀ a, Fits a → (writeFields (put a)).length ≤ size
  read : ∀ a, Fits a → (put a).foldlM get zero = some a

namespace Message

variable {α β : Type}

instance (M : Message α) : DecidablePred M.Fits := M.decFits

/-- One field of the input. -/
def step (M : Message α) (a : α) (f : Field) : Option α :=
  if f.num ∈ M.nums then M.get a f else some a

/-- The input, merged into `a`. -/
def decodeOver (M : Message α) (a : α) (bs : List UInt8) : Option α :=
  (parse bs).bind fun fs => fs.foldlM M.step a

def decode (M : Message α) (bs : List UInt8) : Option α := M.decodeOver M.zero bs

def encode (M : Message α) (a : α) : Option (List UInt8) :=
  if M.Fits a then some (writeFields (M.put a)) else none

theorem foldlM_step (M : Message α) {fs : List Field} (h : ∀ f ∈ fs, f.num ∈ M.nums) (a : α) :
    fs.foldlM M.step a = fs.foldlM M.get a := by
  have hid : fs.foldlM M.step (id a) = (fs.foldlM M.get a).map id :=
    foldlM_through id (fun b f hf => by simp [step, h f hf]) a
  simpa using hid

/-- Fields of other numbers change nothing. -/
theorem foldlM_filter (M : Message α) (fs : List Field) (a : α) :
    fs.foldlM M.step a = (fs.filter (·.num ∈ M.nums)).foldlM M.step a := by
  induction fs generalizing a with
  | nil => rfl
  | cons f fs ih =>
    by_cases hf : f.num ∈ M.nums
    · simp only [List.filter_cons, hf, decide_true, if_true, List.foldlM_cons]
      cases hs : M.step a f with
      | none => rfl
      | some b => exact ih b
    · have hs : M.step a f = some a := by simp [step, hf]
      simp only [List.filter_cons, hf, decide_false, List.foldlM_cons, hs]
      exact ih a

/-- **What is written decodes to what it was written for**, also with fields of
other numbers in between. -/
theorem decode_known (M : Message α) {a : α} (h : M.Fits a) {fs : List Field}
    (hv : ∀ f ∈ fs, f.Valid) (hk : fs.filter (·.num ∈ M.nums) = M.put a) :
    M.decode (writeFields fs) = some a := by
  unfold decode decodeOver
  rw [parse_writeFields hv, Option.bind_some, foldlM_filter, hk, foldlM_step M (M.nums_put a)]
  exact M.read a h

theorem decode_put (M : Message α) {a : α} (h : M.Fits a) :
    M.decode (writeFields (M.put a)) = some a := by
  refine M.decode_known h (M.valid a h) ?_
  rw [List.filter_eq_self]
  simpa using M.nums_put a

theorem decode_encode (M : Message α) {a : α} {bs : List UInt8} (h : M.encode a = some bs) :
    M.decode bs = some a := by
  unfold encode at h
  split at h
  · rename_i hf
    cases h
    exact M.decode_put hf
  · cases h

theorem encode_isSome (M : Message α) {a : α} (h : M.Fits a) : ∃ bs, M.encode a = some bs :=
  ⟨_, if_pos h⟩

theorem encode_length (M : Message α) {a : α} {bs : List UInt8} (h : M.encode a = some bs) :
    bs.length ≤ M.size := by
  unfold encode at h
  split at h
  · rename_i hf
    cases h
    exact M.size_le a hf
  · cases h

/-! ## Putting messages together -/

/-- No fields. -/
def empty : Message Unit where
  nums := []
  zero := ()
  put _ := []
  get a _ := some a
  Fits _ := True
  decFits _ := inferInstance
  size := 0
  nums_put _ _ h := by cases h
  valid _ _ _ h := by cases h
  size_le _ _ := Nat.le_refl _
  read _ _ := rfl

/-- What is written for a scalar field. -/
theorem mem_scalar [DecidableEq α] {n : Nat} {S : Scalar α} {a : α} {f : Field}
    (hf : f ∈ if a = S.zero then [] else [(⟨n, S.write a⟩ : Field)]) : f = ⟨n, S.write a⟩ := by
  split at hf
  · cases hf
  · exact List.mem_singleton.1 hf

theorem scalar_nums [DecidableEq α] (n : Nat) (S : Scalar α) (a : α) (f : Field)
    (hf : f ∈ if a = S.zero then [] else [(⟨n, S.write a⟩ : Field)]) : f.num ∈ [n] := by
  rw [mem_scalar hf]
  exact List.mem_singleton.2 rfl

theorem scalar_valid [DecidableEq α] (n : Nat) (S : Scalar α) (hn : 0 < n ∧ n < 2 ^ 29) (a : α) (h : S.Fits a)
    (f : Field) (hf : f ∈ if a = S.zero then [] else [(⟨n, S.write a⟩ : Field)]) : f.Valid := by
  rw [mem_scalar hf]
  exact ⟨hn.1, hn.2, S.valid a h⟩

theorem scalar_size [DecidableEq α] (n : Nat) (S : Scalar α) (a : α) (h : S.Fits a) :
    (writeFields (if a = S.zero then [] else [(⟨n, S.write a⟩ : Field)])).length ≤
      (writeVarint (n * 8 + S.wireType)).length + S.size := by
  have := S.size_le a h
  split
  · simp
  · simp only [writeFields_cons, writeFields_nil, List.append_nil, Field.write, S.type_write, List.length_append]
    omega

theorem scalar_read [DecidableEq α] (n : Nat) (S : Scalar α) (a : α) (h : S.Fits a) :
    (if a = S.zero then [] else [(⟨n, S.write a⟩ : Field)]).foldlM (fun _ f => S.read f.val) S.zero = some a := by
  split
  · rename_i h0
    rw [h0]
    rfl
  · simp [S.read_write a h]

/-- A scalar field; its zero is not written. -/
def scalar [DecidableEq α] (n : Nat) (S : Scalar α) (hn : 0 < n ∧ n < 2 ^ 29) : Message α where
  nums := [n]
  zero := S.zero
  put a := if a = S.zero then [] else [⟨n, S.write a⟩]
  get _ f := S.read f.val
  Fits := S.Fits
  decFits := S.decFits
  size := (writeVarint (n * 8 + S.wireType)).length + S.size
  nums_put := scalar_nums n S
  valid := scalar_valid n S hn
  size_le := scalar_size n S
  read := scalar_read n S

/-- A field of `A`, or of `B`. -/
def andGet (A : Message α) (B : Message β) (p : α × β) (f : Field) : Option (α × β) :=
  if f.num ∈ A.nums then (A.get p.1 f).map (·, p.2) else (B.get p.2 f).map (p.1, ·)

/-- The fields of `A`, then those of `B`. -/
def and (A : Message α) (B : Message β) (hd : ∀ n ∈ A.nums, n ∉ B.nums) : Message (α × β) where
  nums := A.nums ++ B.nums
  zero := (A.zero, B.zero)
  put p := A.put p.1 ++ B.put p.2
  get := A.andGet B
  Fits p := A.Fits p.1 ∧ B.Fits p.2
  decFits _ := inferInstance
  size := A.size + B.size
  nums_put p f hf := by
    rcases List.mem_append.1 hf with hf | hf
    · exact List.mem_append_left _ (A.nums_put p.1 f hf)
    · exact List.mem_append_right _ (B.nums_put p.2 f hf)
  valid p h f hf := by
    rcases List.mem_append.1 hf with hf | hf
    · exact A.valid p.1 h.1 f hf
    · exact B.valid p.2 h.2 f hf
  size_le p h := by
    have h1 := A.size_le p.1 h.1
    have h2 := B.size_le p.2 h.2
    simp only [writeFields_append, List.length_append]
    omega
  read p h := by
    have hA : (A.put p.1).foldlM (A.andGet B) (A.zero, B.zero) =
        ((A.put p.1).foldlM A.get A.zero).map (·, B.zero) :=
      foldlM_through (fun a => (a, B.zero)) (fun a f hf => by simp [andGet, A.nums_put p.1 f hf]) A.zero
    have hB : (B.put p.2).foldlM (A.andGet B) (p.1, B.zero) =
        ((B.put p.2).foldlM B.get B.zero).map (p.1, ·) :=
      foldlM_through (fun b => (p.1, b))
        (fun b f hf => if_neg fun hm => hd f.num hm (B.nums_put p.2 f hf)) B.zero
    rw [List.foldlM_append, hA, A.read p.1 h.1]
    exact hB.trans (by rw [B.read p.2 h.2]; rfl)

/-- The same fields under another type. -/
def equiv (M : Message α) (e : α ≃ β) : Message β where
  nums := M.nums
  zero := e M.zero
  put b := M.put (e.symm b)
  get b f := (M.get (e.symm b) f).map e
  Fits b := M.Fits (e.symm b)
  decFits _ := inferInstance
  size := M.size
  nums_put b := M.nums_put (e.symm b)
  valid b := M.valid (e.symm b)
  size_le b := M.size_le (e.symm b)
  read b h := by
    have he : (M.put (e.symm b)).foldlM (fun b f => (M.get (e.symm b) f).map e) (e M.zero) =
        ((M.put (e.symm b)).foldlM M.get M.zero).map e :=
      foldlM_through e (fun a f _ => by simp) M.zero
    rw [he, M.read _ h]
    simp

/-- A submessage as the value of a field. -/
def asLen (M : Message α) (a : α) : WireVal := .len (writeFields (M.put a))

/-- Reading it, merged into `a`. -/
def ofLen (M : Message α) (a : α) : WireVal → Option α
  | .len b => M.decodeOver a b
  | _ => none

theorem ofLen_asLen (M : Message α) {a : α} (h : M.Fits a) : M.ofLen M.zero (M.asLen a) = some a :=
  M.decode_put h

theorem asLen_valid (M : Message α) {a : α} (h : M.Fits a) (hs : M.size < 2 ^ 32) : (M.asLen a).Valid :=
  Nat.lt_of_le_of_lt (M.size_le a h) hs

/-- The bytes of a submessage field. -/
def fieldSize (M : Message α) (n : Nat) : Nat :=
  (writeVarint (n * 8 + 2)).length + ((writeVarint M.size).length + M.size)

theorem asLen_length (M : Message α) {a : α} (h : M.Fits a) (n : Nat) :
    (Field.write ⟨n, M.asLen a⟩).length ≤ M.fieldSize n := by
  have h1 := M.size_le a h
  have h2 := writeVarint_length_mono h1
  simp only [Field.write, asLen, WireVal.write, WireVal.type, fieldSize, List.length_append]
  omega

section repeated

variable (n max : Nat) (M : Message α)

theorem repeated_nums (as : List α) (f : Field) (hf : f ∈ as.map fun a => (⟨n, M.asLen a⟩ : Field)) : f.num ∈ [n] := by
  obtain ⟨a, -, rfl⟩ := List.mem_map.1 hf
  exact List.mem_singleton.2 rfl

theorem repeated_valid (hn : 0 < n ∧ n < 2 ^ 29) (hs : M.size < 2 ^ 32) (as : List α)
    (h : as.length ≤ max ∧ ∀ a ∈ as, M.Fits a) (f : Field) (hf : f ∈ as.map fun a => (⟨n, M.asLen a⟩ : Field)) :
    f.Valid := by
  obtain ⟨a, ha, rfl⟩ := List.mem_map.1 hf
  exact ⟨hn.1, hn.2, M.asLen_valid (h.2 a ha) hs⟩

theorem repeated_size (as : List α) (h : as.length ≤ max ∧ ∀ a ∈ as, M.Fits a) :
    (writeFields (as.map fun a => (⟨n, M.asLen a⟩ : Field))).length ≤ max * M.fieldSize n := by
  obtain ⟨hl, hf⟩ := h
  refine Nat.le_trans ?_ (Nat.mul_le_mul_right _ hl)
  clear hl
  induction as with
  | nil => simp
  | cons a as ih =>
    have h1 := M.asLen_length (hf a (by simp)) n
    have h2 := ih fun b hb => hf b (by simp [hb])
    simp only [List.map_cons, writeFields_cons, List.length_append, List.length_cons, Nat.succ_mul]
    omega

theorem repeated_read (as : List α) (h : as.length ≤ max ∧ ∀ a ∈ as, M.Fits a) :
    (as.map fun a => (⟨n, M.asLen a⟩ : Field)).foldlM
      (fun as f => if as.length < max then (M.ofLen M.zero f.val).map (as ++ [·]) else none) [] = some as := by
  obtain ⟨hl, hf⟩ := h
  suffices hgen : ∀ acc : List α, acc.length + as.length ≤ max →
      (as.map fun a => (⟨n, M.asLen a⟩ : Field)).foldlM
        (fun as f => if as.length < max then (M.ofLen M.zero f.val).map (as ++ [·]) else none) acc =
        some (acc ++ as) by
    simpa using hgen [] (by simpa using hl)
  clear hl
  induction as with
  | nil => intro acc _; simp
  | cons a as ih =>
    intro acc hacc
    rw [List.length_cons] at hacc
    rw [List.map_cons, List.foldlM_cons]
    simp only [M.ofLen_asLen (hf a (by simp)), if_pos (show acc.length < max by omega), Option.map_some]
    refine (ih (fun b hb => hf b (by simp [hb])) (acc ++ [a]) (by simp; omega)).trans ?_
    simp

/-- At most `max` submessages of one number, in order. -/
def repeated (hn : 0 < n ∧ n < 2 ^ 29) (hs : M.size < 2 ^ 32) : Message (List α) where
  nums := [n]
  zero := []
  put as := as.map fun a => ⟨n, M.asLen a⟩
  get as f := if as.length < max then (M.ofLen M.zero f.val).map (as ++ [·]) else none
  Fits as := as.length ≤ max ∧ ∀ a ∈ as, M.Fits a
  decFits _ := inferInstance
  size := max * M.fieldSize n
  nums_put := repeated_nums n M
  valid := repeated_valid n max M hn hs
  size_le := repeated_size n max M
  read := repeated_read n max M

end repeated

end Message

/-! ## Choices -/

/-- The members of a `oneof`. A member that is set is written, also when it is zero;
reading one that is set already goes on from it. -/
structure Members (α : Type) where
  nums : List Nat
  put : α → Field
  get : Option α → Field → Option α
  Fits : α → Prop
  decFits : DecidablePred Fits
  size : Nat
  nums_put : ∀ a, (put a).num ∈ nums
  valid : ∀ a, Fits a → (put a).Valid
  size_le : ∀ a, Fits a → (put a).write.length ≤ size
  read : ∀ a, Fits a → get none (put a) = some a

namespace Members

variable {α β : Type}

instance (A : Members α) : DecidablePred A.Fits := A.decFits

def message (n : Nat) (M : Message α) (hn : 0 < n ∧ n < 2 ^ 29) (hs : M.size < 2 ^ 32) : Members α where
  nums := [n]
  put a := ⟨n, M.asLen a⟩
  get c f := M.ofLen (c.getD M.zero) f.val
  Fits := M.Fits
  decFits := M.decFits
  size := M.fieldSize n
  nums_put _ := by simp
  valid _ h := ⟨hn.1, hn.2, M.asLen_valid h hs⟩
  size_le _ h := M.asLen_length h n
  read _ h := M.ofLen_asLen h

theorem scalar_nums (n : Nat) (S : Scalar α) (a : α) : (⟨n, S.write a⟩ : Field).num ∈ [n] :=
  List.mem_singleton.2 rfl

theorem scalar_size (n : Nat) (S : Scalar α) (a : α) (h : S.Fits a) : (⟨n, S.write a⟩ : Field).write.length ≤
    (writeVarint (n * 8 + S.wireType)).length + S.size := by
  have := S.size_le a h
  simp only [Field.write, S.type_write, List.length_append]
  omega

def scalar (n : Nat) (S : Scalar α) (hn : 0 < n ∧ n < 2 ^ 29) : Members α where
  nums := [n]
  put a := ⟨n, S.write a⟩
  get _ f := S.read f.val
  Fits := S.Fits
  decFits := S.decFits
  size := (writeVarint (n * 8 + S.wireType)).length + S.size
  nums_put := scalar_nums n S
  valid a h := ⟨hn.1, hn.2, S.valid a h⟩
  size_le := scalar_size n S
  read a h := S.read_write a h

/-- One of `A`, or one of `B`. -/
def or (A : Members α) (B : Members β) (hd : ∀ n ∈ A.nums, n ∉ B.nums) : Members (α ⊕ β) where
  nums := A.nums ++ B.nums
  put := Sum.elim A.put B.put
  get c f :=
    if f.num ∈ A.nums then (A.get (c.bind Sum.getLeft?) f).map .inl
    else (B.get (c.bind Sum.getRight?) f).map .inr
  Fits := Sum.elim A.Fits B.Fits
  decFits
    | .inl a => inferInstanceAs (Decidable (A.Fits a))
    | .inr b => inferInstanceAs (Decidable (B.Fits b))
  size := max A.size B.size
  nums_put
    | .inl a => List.mem_append_left _ (A.nums_put a)
    | .inr b => List.mem_append_right _ (B.nums_put b)
  valid
    | .inl a => A.valid a
    | .inr b => B.valid b
  size_le
    | .inl a => fun h => Nat.le_trans (A.size_le a h) (Nat.le_max_left _ _)
    | .inr b => fun h => Nat.le_trans (B.size_le b h) (Nat.le_max_right _ _)
  read
    | .inl a => fun h => by simp [A.nums_put a, A.read a h]
    | .inr b => fun h => by
      have hn : (B.put b).num ∉ A.nums := fun hm => hd _ hm (B.nums_put b)
      simp [hn, B.read b (show B.Fits b from h)]

end Members

/-- A `oneof`, set or not. -/
def Message.oneOf {α : Type} (A : Members α) : Message (Option α) where
  nums := A.nums
  zero := none
  put a := (a.map A.put).toList
  get c f := (A.get c f).map some
  Fits a := ∀ b, a = some b → A.Fits b
  decFits
    | none => .isTrue fun _ h => by cases h
    | some a => decidable_of_iff (A.Fits a) ⟨fun h b hb => by cases hb; exact h, fun h => h a rfl⟩
  size := A.size
  nums_put a f hf := by
    cases a with
    | none => cases hf
    | some a => rw [List.mem_singleton.1 hf]; exact A.nums_put a
  valid a h f hf := by
    cases a with
    | none => cases hf
    | some a => rw [List.mem_singleton.1 hf]; exact A.valid a (h a rfl)
  size_le a h := by
    cases a with
    | none => simp
    | some a => simpa using A.size_le a (h a rfl)
  read a h := by
    cases a with
    | none => rfl
    | some a => simp [A.read a (h a rfl)]

/-! ## What fits -/

section

variable {α β : Type}

@[simp] theorem fits_scalar [DecidableEq α] {n : Nat} {S : Scalar α} {hn} {a : α} :
    (Message.scalar n S hn).Fits a ↔ S.Fits a := Iff.rfl

@[simp] theorem fits_and {A : Message α} {B : Message β} {hd} {p : α × β} :
    (A.and B hd).Fits p ↔ A.Fits p.1 ∧ B.Fits p.2 := Iff.rfl

@[simp] theorem fits_equiv {M : Message α} {e : α ≃ β} {b : β} :
    (M.equiv e).Fits b ↔ M.Fits (e.symm b) := Iff.rfl

@[simp] theorem fits_empty {a : Unit} : Message.empty.Fits a := trivial

@[simp] theorem fits_repeated {n max : Nat} {M : Message α} {hn hs} {as : List α} :
    (Message.repeated n max M hn hs).Fits as ↔ as.length ≤ max ∧ ∀ a ∈ as, M.Fits a := Iff.rfl

@[simp] theorem fits_oneOf_none {A : Members α} : (Message.oneOf A).Fits none := by
  intro _ h
  cases h

@[simp] theorem fits_oneOf_some {A : Members α} {a : α} : (Message.oneOf A).Fits (some a) ↔ A.Fits a :=
  ⟨fun h => h a rfl, fun h b hb => by cases hb; exact h⟩

@[simp] theorem fits_message {n : Nat} {M : Message α} {hn hs} {a : α} :
    (Members.message n M hn hs).Fits a ↔ M.Fits a := Iff.rfl

@[simp] theorem fits_member_scalar {n : Nat} {S : Scalar α} {hn} {a : α} :
    (Members.scalar n S hn).Fits a ↔ S.Fits a := Iff.rfl

@[simp] theorem fits_or_inl {A : Members α} {B : Members β} {hd} {a : α} :
    (A.or B hd).Fits (.inl a) ↔ A.Fits a := Iff.rfl

@[simp] theorem fits_or_inr {A : Members α} {B : Members β} {hd} {b : β} :
    (A.or B hd).Fits (.inr b) ↔ B.Fits b := Iff.rfl

@[simp] theorem fits_uint {bound n : Nat} {h1 h2} : (Scalar.uint bound h1 h2).Fits n ↔ n < bound := Iff.rfl

@[simp] theorem fits_bool {b : Bool} : Scalar.bool.Fits b := trivial

@[simp] theorem fits_int32 {i : Int} : Scalar.int32.Fits i ↔ -2 ^ 31 ≤ i ∧ i < 2 ^ 31 := Iff.rfl

@[simp] theorem fits_bytes {max : Nat} {h} {b : List UInt8} : (Scalar.bytes max h).Fits b ↔ b.length ≤ max :=
  Iff.rfl

@[simp] theorem fits_string {max : Nat} {h} {b : List UInt8} :
    (Scalar.string max h).Fits b ↔ b.length < max ∧ 0 ∉ b := Iff.rfl

end

end NetworkProv.Core.Protobuf
