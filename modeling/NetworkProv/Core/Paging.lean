import Mathlib.Data.List.Basic

/-!
# Reading a list in pages

A server returns at most `cap` entries a request, from the index and of the
number asked for. A client asks for page after page, each from where the last
one ended, and stops at the first that is empty.

* `page_eq`: the loop that fills a page takes a slice.
* `fetch_flatten`: the pages of a client make up the list.
* `fetch_isSome`: a client that is answered often enough comes to the end.
-/
namespace NetworkProv.Core

variable {α S β : Type*}

/-- The loop that fills a page with what is left of the list, `n` entries being in it. -/
def pageLoop (cap want : Nat) : Nat → List α → List α
  | _, [] => []
  | n, x :: xs => if n < cap ∧ n < want then x :: pageLoop cap want (n + 1) xs else []

def page (cap : Nat) (l : List α) (start want : Nat) : List α := pageLoop cap want 0 (l.drop start)

theorem pageLoop_eq (cap want : Nat) :
    ∀ (n : Nat) (l : List α), pageLoop cap want n l = l.take (min cap want - n)
  | _, [] => by simp [pageLoop]
  | n, x :: xs => by
    by_cases h : n < cap ∧ n < want
    · rw [pageLoop, if_pos h, pageLoop_eq cap want (n + 1) xs,
        show min cap want - n = min cap want - (n + 1) + 1 by omega, List.take_succ_cons]
    · rw [pageLoop, if_neg h, show min cap want - n = 0 by omega, List.take_zero]

theorem page_eq (cap : Nat) (l : List α) (start want : Nat) :
    page cap l start want = (l.drop start).take (min cap want) := by
  rw [page, pageLoop_eq, Nat.sub_zero]

theorem length_page_le (cap : Nat) (l : List α) (start want : Nat) :
    (page cap l start want).length ≤ min want cap := by
  rw [page_eq, List.length_take, Nat.min_comm want cap]
  exact Nat.min_le_left _ _

theorem page_past_end {cap : Nat} {l : List α} {start want : Nat} (h : l.length ≤ start) :
    page cap l start want = [] := by
  rw [page_eq, List.drop_eq_nil_of_le h, List.take_nil]

/-- Only past the end is a page empty that was asked for. -/
theorem page_eq_nil {cap : Nat} {l : List α} {start want : Nat} (hc : 0 < cap) (hw : 0 < want)
    (h : page cap l start want = []) : l.length ≤ start := by
  rw [page_eq, List.take_eq_nil_iff] at h
  rcases h with h | h
  · omega
  · exact List.drop_eq_nil_iff.mp h

theorem page_append_drop (cap : Nat) (l : List α) (start want : Nat) :
    page cap l start want ++ l.drop (start + (page cap l start want).length) = l.drop start := by
  have hdrop : l.drop (start + (page cap l start want).length) =
      (l.drop start).drop (min cap want) := by
    rw [page_eq, ← List.drop_drop, List.length_take]
    rcases Nat.le_total (min cap want) (l.drop start).length with h | h
    · rw [Nat.min_eq_left h]
    · rw [Nat.min_eq_right h, List.drop_length, List.drop_eq_nil_of_le h]
  rw [hdrop, page_eq, List.take_append_drop]

/-! ## A client -/

/-- The pages a client gets, or `none` if its requests run out first; it asks again, for the
next number on its list, where there is no answer. -/
def fetch (ask : S → β → Nat → Nat → Option (List α) × S) :
    List (β × Nat) → Nat → S → Option (List (List α))
  | [], _, _ => none
  | (e, want) :: qs, start, s =>
    match ask s e start want with
    | (none, s) => fetch ask qs start s
    | (some [], _) => some []
    | (some (x :: xs), s) => (fetch ask qs (start + (x :: xs).length) s).map ((x :: xs) :: ·)

/-- The server answers from its list, and requests leave the list alone. -/
structure Serves (cap : Nat) (entries : S → List α)
    (ask : S → β → Nat → Nat → Option (List α) × S) : Prop where
  page : ∀ s e start want p, (ask s e start want).1 = some p → p = page cap (entries s) start want
  same : ∀ s e start want, entries (ask s e start want).2 = entries s

theorem serves_cases {cap : Nat} {entries : S → List α} {ask : S → β → Nat → Nat → Option (List α) × S}
    (h : Serves cap entries ask) (s : S) (e : β) (start want : Nat) :
    ∃ s', entries s' = entries s ∧ (ask s e start want = (none, s') ∨
      ask s e start want = (some (page cap (entries s) start want), s')) := by
  have hpage := h.page s e start want
  have hsame := h.same s e start want
  generalize ask s e start want = r at hpage hsame
  obtain ⟨_ | p, s'⟩ := r
  · exact ⟨s', hsame, .inl rfl⟩
  · exact ⟨s', hsame, .inr (by rw [hpage p rfl])⟩

section fetch

variable {ask : S → β → Nat → Nat → Option (List α) × S} {e : β} {start want : Nat} {s s' : S}
  {qs : List (β × Nat)}

theorem fetch_none (h : ask s e start want = (none, s')) :
    fetch ask ((e, want) :: qs) start s = fetch ask qs start s' := by
  rw [fetch, h]

theorem fetch_nil (h : ask s e start want = (some [], s')) :
    fetch ask ((e, want) :: qs) start s = some [] := by
  rw [fetch, h]

theorem fetch_cons {x : α} {xs : List α} (h : ask s e start want = (some (x :: xs), s')) :
    fetch ask ((e, want) :: qs) start s =
      (fetch ask qs (start + (x :: xs).length) s').map ((x :: xs) :: ·) := by
  rw [fetch, h]

end fetch

/-- What the pages from an index on make up. -/
theorem fetch_flatten {cap : Nat} {entries : S → List α}
    {ask : S → β → Nat → Nat → Option (List α) × S} (h : Serves cap entries ask) (hc : 0 < cap) :
    ∀ {qs : List (β × Nat)} {start : Nat} {s : S} {pages : List (List α)}, (∀ q ∈ qs, 0 < q.2) →
      fetch ask qs start s = some pages → pages.flatten = (entries s).drop start
  | [], start, s, pages, _, hf => by cases hf
  | (e, want) :: qs, start, s, pages, hq, hf => by
    have hqs : ∀ q ∈ qs, 0 < q.2 := fun q hm => hq q (List.mem_cons_of_mem _ hm)
    obtain ⟨s', hsame, hask | hask⟩ := serves_cases h s e start want
    · rw [fetch_none hask] at hf
      rw [fetch_flatten h hc hqs hf, hsame]
    have hrest := page_append_drop cap (entries s) start want
    cases hp : page cap (entries s) start want with
    | nil =>
      rw [hp] at hask
      rw [fetch_nil hask] at hf
      cases hf
      have hend := page_eq_nil hc (hq (e, want) (by simp)) hp
      rw [List.drop_eq_nil_of_le hend, List.flatten_nil]
    | cons x xs =>
      rw [hp] at hask hrest
      rw [fetch_cons hask] at hf
      obtain ⟨pages', hf', rfl⟩ := Option.map_eq_some_iff.mp hf
      rw [List.flatten_cons, fetch_flatten h hc hqs hf', hsame]
      exact hrest

/-- Each answered request brings a client nearer to the end. -/
theorem fetch_isSome {cap : Nat} {entries : S → List α}
    {ask : S → β → Nat → Nat → Option (List α) × S} (h : Serves cap entries ask) (hc : 0 < cap)
    (answered : β → Bool) (hans : ∀ s e start want, answered e = true → (ask s e start want).1 ≠ none) :
    ∀ {qs : List (β × Nat)} {start : Nat} {s : S}, (∀ q ∈ qs, 0 < q.2) →
      (entries s).length < start + qs.countP (fun q => answered q.1) → start ≤ (entries s).length →
      (fetch ask qs start s).isSome
  | [], start, s, _, hn, hle => by
    simp only [List.countP_nil] at hn
    omega
  | (e, want) :: qs, start, s, hq, hn, hle => by
    have hqs : ∀ q ∈ qs, 0 < q.2 := fun q hm => hq q (List.mem_cons_of_mem _ hm)
    obtain ⟨s', hsame, hask | hask⟩ := serves_cases h s e start want
    · have he : answered e = false := by
        cases ha : answered e with
        | false => rfl
        | true => exact absurd (congrArg Prod.fst hask) (hans s e start want ha)
      rw [List.countP_cons_of_neg (by simp [he])] at hn
      rw [fetch_none hask]
      exact fetch_isSome h hc answered hans hqs (by rw [hsame]; exact hn) (by rw [hsame]; exact hle)
    have hrest := congrArg List.length (page_append_drop cap (entries s) start want)
    cases hp : page cap (entries s) start want with
    | nil =>
      rw [hp] at hask
      rw [fetch_nil hask]
      rfl
    | cons x xs =>
      rw [hp] at hask hrest
      rw [fetch_cons hask, Option.isSome_map]
      simp only [List.length_append, List.length_drop, List.length_cons] at hrest
      have hcount : ((e, want) :: qs).countP (fun q => answered q.1) ≤
          qs.countP (fun q => answered q.1) + 1 := by
        rw [List.countP_cons]
        split <;> omega
      refine fetch_isSome h hc answered hans hqs ?_ ?_ <;>
      · rw [hsame]
        simp only [List.length_cons]
        omega

end NetworkProv.Core
