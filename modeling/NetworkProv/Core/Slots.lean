import Mathlib.Data.List.Nodup
import Mathlib.Logic.Function.Basic

/-!
# A table of slots

A fixed number of slots, taken one after the other from the first free one on
and never given back: such a table renders a `Registry`, the names in order of
arrival and a value for each.

* `findIdx?_render`: a search by name finds the position of the name.
* `render_add`, `render_set`: taking the first free slot adds a name, and
  writing to the slot of a name changes its value.
-/
namespace NetworkProv.Core

variable {κ β γ : Type*}

structure Registry (κ β : Type*) where
  names : List κ
  value : κ → β

namespace Registry

def empty (v : β) : Registry κ β := ⟨[], fun _ => v⟩

variable [DecidableEq κ]

def add (r : Registry κ β) (k : κ) (v : β) : Registry κ β := ⟨r.names ++ [k], Function.update r.value k v⟩

def set (r : Registry κ β) (k : κ) (v : β) : Registry κ β := ⟨r.names, Function.update r.value k v⟩

end Registry

/-- How a slot is written: taken for a name with a value, or free. -/
structure Slot (κ β γ : Type*) where
  used : κ → β → γ
  free : γ
  taken : γ → Bool
  holds : κ → γ → Bool
  taken_used : ∀ k v, taken (used k v) = true
  taken_free : taken free = false
  holds_used : ∀ k k' v, holds k (used k' v) = true ↔ k' = k
  holds_free : ∀ k, holds k free = false

/-- The table of `n` slots. -/
def Registry.render (S : Slot κ β γ) (n : Nat) (r : Registry κ β) : List γ :=
  r.names.map (fun k => S.used k (r.value k)) ++ List.replicate (n - r.names.length) S.free

variable {S : Slot κ β γ} {n : Nat} {r : Registry κ β}

theorem Registry.render_empty (v : β) :
    (Registry.empty v : Registry κ β).render S n = List.replicate n S.free := rfl

theorem Registry.getElem?_render {i : Nat} {k : κ} (h : r.names[i]? = some k) :
    (r.render S n)[i]? = some (S.used k (r.value k)) := by
  obtain ⟨hi, -⟩ := List.getElem?_eq_some_iff.mp h
  rw [render, List.getElem?_append_left (by simpa using hi), List.getElem?_map, h]
  rfl

theorem Registry.findIdx?_render [DecidableEq κ] (k : κ) :
    (r.render S n).findIdx? (S.holds k) = r.names.findIdx? (· = k) := by
  have hholds : (S.holds k ∘ fun k => S.used k (r.value k)) = fun k' => decide (k' = k) := by
    funext k'
    rw [Bool.eq_iff_iff, Function.comp_apply, S.holds_used, decide_eq_true_iff]
  rw [render, List.findIdx?_append, List.findIdx?_map, hholds, List.findIdx?_replicate, S.holds_free]
  simp

/-- The first free slot is the one after the names. -/
theorem Registry.findIdx?_free :
    (r.render S n).findIdx? (fun e => !S.taken e) = if r.names.length < n then some r.names.length else none := by
  have hused : (List.map (fun k => S.used k (r.value k)) r.names).findIdx? (fun e => !S.taken e) = none := by
    simp [List.findIdx?_eq_none_iff, S.taken_used]
  rw [render, List.findIdx?_append, hused, List.findIdx?_replicate, S.taken_free]
  by_cases hroom : r.names.length < n
  · rw [if_pos ⟨Nat.sub_pos_of_lt hroom, rfl⟩, if_pos hroom]
    simp
  · rw [if_neg fun h => hroom (Nat.lt_of_sub_pos h.1), if_neg hroom]
    rfl

theorem Registry.map_update [DecidableEq κ] {k : κ} {v : β} {l : List κ} (h : k ∉ l) :
    l.map (fun x => S.used x (Function.update r.value k v x)) = l.map fun x => S.used x (r.value x) := by
  refine List.map_congr_left fun x hx => ?_
  have hne : x ≠ k := fun he => h (he ▸ hx)
  rw [Function.update_of_ne hne]

theorem Registry.render_add [DecidableEq κ] {k : κ} {v : β} (hk : k ∉ r.names) (hn : r.names.length < n) :
    (r.render S n).set r.names.length (S.used k v) = (r.add k v).render S n := by
  obtain ⟨m, hm⟩ : ∃ m, n - r.names.length = m + 1 := ⟨n - r.names.length - 1, by omega⟩
  have hrest : n - (r.names ++ [k]).length = m := by
    rw [List.length_append, List.length_singleton]
    omega
  unfold render add
  dsimp only
  rw [hrest, hm, List.map_append, map_update hk, List.replicate_succ]
  simp

theorem modify_split (l₁ : List γ) (a : γ) (l₂ : List γ) (f : γ → γ) :
    (l₁ ++ a :: l₂).modify l₁.length f = l₁ ++ f a :: l₂ := by
  induction l₁ with
  | nil => rfl
  | cons b l₁ ih => simpa using ih

/-- Writing to the slot of a name changes the value of that name only. -/
theorem Registry.render_set [DecidableEq κ] {k : κ} {v : β} {i : Nat} (hnodup : r.names.Nodup)
    (hi : r.names.findIdx? (· = k) = some i) {f : γ → γ} (hf : f (S.used k (r.value k)) = S.used k v) :
    (r.render S n).modify i f = (r.set k v).render S n := by
  obtain ⟨hlt, hk, -⟩ := List.findIdx?_eq_some_iff_getElem.mp hi
  simp only [decide_eq_true_eq] at hk
  obtain ⟨l₁, l₂, hsplit, hlen⟩ : ∃ l₁ l₂, r.names = l₁ ++ k :: l₂ ∧ l₁.length = i := by
    refine ⟨r.names.take i, r.names.drop (i + 1), ?_, by simp; omega⟩
    rw [← hk, ← List.drop_eq_getElem_cons hlt, List.take_append_drop]
  rw [hsplit, List.nodup_append] at hnodup
  have h₁ : k ∉ l₁ := fun hm => hnodup.2.2 k hm k (by simp) rfl
  have h₂ : k ∉ l₂ := (List.nodup_cons.mp hnodup.2.1).1
  unfold render set
  dsimp only
  rw [hsplit, List.map_append, List.map_cons, List.map_append, List.map_cons, map_update h₁, map_update h₂,
    Function.update_self, List.append_assoc, List.append_assoc, ← hf]
  simpa [hlen] using modify_split (l₁.map fun x => S.used x (r.value x)) (S.used k (r.value k)) _ f

end NetworkProv.Core
