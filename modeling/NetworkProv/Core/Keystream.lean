import Mathlib.Data.List.Basic

/-!
# A byte stream cipher with a position

`xorFrom ks n d` XORs `d` with the keystream `ks` from position `n` on;
applying it twice gives `d` back. An `End` is one party's view of a stream:
the keystream and how far it has been consumed. Two equal ends stay equal
when one transforms a message and the other transforms the result, whoever
sends (`End.xform_xform`): one keystream can serve both directions as long as
every byte is consumed on both sides in the same order.
-/
namespace NetworkProv.Core

def xorFrom (ks : Nat → UInt8) : Nat → List UInt8 → List UInt8
  | _, [] => []
  | n, b :: bs => (b ^^^ ks n) :: xorFrom ks (n + 1) bs

@[simp] theorem xorFrom_nil (ks : Nat → UInt8) (n : Nat) : xorFrom ks n [] = [] := rfl

@[simp] theorem length_xorFrom (ks : Nat → UInt8) :
    ∀ (n : Nat) (d : List UInt8), (xorFrom ks n d).length = d.length
  | _, [] => rfl
  | n, _ :: bs => by simp [xorFrom, length_xorFrom ks (n + 1) bs]

@[simp] theorem xorFrom_xorFrom (ks : Nat → UInt8) :
    ∀ (n : Nat) (d : List UInt8), xorFrom ks n (xorFrom ks n d) = d
  | _, [] => rfl
  | n, b :: bs => by
    simp only [xorFrom, xorFrom_xorFrom ks (n + 1) bs, UInt8.xor_assoc, UInt8.xor_self, UInt8.xor_zero]

/-- Two streams transform `d` alike iff they agree on the bytes it uses. -/
theorem xorFrom_eq_iff (ks ks' : Nat → UInt8) :
    ∀ (n : Nat) (d : List UInt8), xorFrom ks n d = xorFrom ks' n d ↔
      (List.range' n d.length).map ks = (List.range' n d.length).map ks'
  | _, [] => by simp
  | n, b :: bs => by
    simp only [xorFrom, List.cons.injEq, List.length_cons, List.range'_succ, List.map_cons,
      xorFrom_eq_iff ks ks' (n + 1) bs]
    rw [UInt8.xor_right_inj]

/-- One party's end of a stream. -/
structure End where
  ks : Nat → UInt8
  pos : Nat

def End.xform (s : End) (d : List UInt8) : List UInt8 := xorFrom s.ks s.pos d

def End.advance (s : End) (n : Nat) : End := { s with pos := s.pos + n }

@[simp] theorem End.length_xform (s : End) (d : List UInt8) : (s.xform d).length = d.length :=
  length_xorFrom _ _ _

@[simp] theorem End.advance_zero (st : End) : st.advance 0 = st := by
  cases st; rfl

@[simp] theorem End.advance_advance (st : End) (m n : Nat) :
    (st.advance m).advance n = st.advance (m + n) := by
  simp [End.advance, Nat.add_assoc]

/-- The other end undoes the transformation. -/
@[simp] theorem End.xform_xform (s : End) (d : List UInt8) : s.xform (s.xform d) = d :=
  xorFrom_xorFrom _ _ _

theorem End.xform_inj (s : End) {d d' : List UInt8} (h : s.xform d = s.xform d') : d = d' := by
  rw [← s.xform_xform d, h, s.xform_xform]

/-- A message transformed at one end is restored at another end in the same
position iff the two streams agree on the bytes it uses. -/
theorem End.xform_xform_eq_iff (s s' : End) (hp : s'.pos = s.pos) (d : List UInt8) :
    s'.xform (s.xform d) = d ↔
      (List.range' s.pos d.length).map s.ks = (List.range' s.pos d.length).map s'.ks := by
  rw [← xorFrom_eq_iff]
  constructor
  · intro h
    apply s'.xform_inj
    rw [End.xform] at h ⊢
    simpa [End.xform, hp] using h
  · intro h
    have : s.xform d = s'.xform d := by simpa [End.xform, hp] using h
    rw [this, s'.xform_xform]

end NetworkProv.Core
