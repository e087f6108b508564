import Mathlib.Data.List.Basic

/-!
# C values: bytes, fixed buffers, C strings, error codes

A `const char *` argument is an `Option CStr` (`none` is `NULL`). Functions
that return an `int` return an `Int`, 0 or a negated error code.
-/
namespace NetworkProv

abbrev Bytes := List UInt8

/-- `uint8_t buf[n]`. -/
abbrev Buf (n : Nat) := { b : Bytes // b.length = n }

def Buf.zero (n : Nat) : Buf n := ⟨List.replicate n 0, List.length_replicate⟩

@[simp] theorem Buf.length_val {n : Nat} (b : Buf n) : b.val.length = n := b.property

/-- A NUL-terminated string: the characters before the NUL. -/
structure CStr where
  chars : Bytes
  noNul : (0 : UInt8) ∉ chars
  deriving DecidableEq

theorem CStr.ext {a b : CStr} (h : a.chars = b.chars) : a = b := by
  cases a; cases b; simpa using h

def CStr.empty : CStr := ⟨[], by simp⟩

/-- The characters of a possibly `NULL` string; `NULL` and `""` read alike. -/
def charsOf : Option CStr → Bytes
  | none => []
  | some s => s.chars

/-! ## `errno.h` -/

def EPERM : Int := 1
def ENOENT : Int := 2
def EIO : Int := 5
def ENOEXEC : Int := 8
def ENOMEM : Int := 12
def EACCES : Int := 13
def EBUSY : Int := 16
def ENODEV : Int := 19
def EINVAL : Int := 22
def ENOSPC : Int := 28
def EPROTO : Int := 71
def EILSEQ : Int := 84
def ENOSYS : Int := 88
def ENAMETOOLONG : Int := 91
def EALREADY : Int := 120
def ENOTSUP : Int := 134

/-! ## `src/pb_util.c` -/

/-- A response before encoding, with what encoding it returns.
mirrors src/pb_util.c:13-38, up to the bytes. -/
def pbEncodeMsg {α : Type} (encodeRet : Int) (msg : α) : Int × Option α :=
  if encodeRet ≠ 0 then (encodeRet, none) else (0, some msg)

theorem pbEncodeMsg_some {α : Type} {encodeRet n : Int} {msg msg' : α}
    (h : pbEncodeMsg encodeRet msg = (n, some msg')) : msg' = msg := by
  unfold pbEncodeMsg at h
  split at h
  · cases h
  · exact (Option.some.inj (Prod.mk.inj h).2).symm

end NetworkProv
