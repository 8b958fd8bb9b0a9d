import Mathlib.Data.List.Infix

/-!
# The first occurrence of a pattern

`find pat bs` is the first place of `bs` where `pat` occurs. What is found stays where it is when
more elements are appended, and what is only found then reaches into the appended part.
-/

namespace Window

variable {β : Type}

theorem prefix_of_append {pat bs r : List β} (h : pat <+: bs ++ r)
    (hlen : pat.length ≤ bs.length) : pat <+: bs :=
  List.prefix_of_prefix_length_le h (List.prefix_append _ _) hlen

/-- A prefix without an element ends in front of it. -/
theorem prefix_of_append_cons {pat bs r : List β} {c : β} (hc : c ∉ pat)
    (h : pat <+: bs ++ c :: r) : pat <+: bs := by
  have hc' : bs ++ [c] <+: bs ++ c :: r := ⟨r, by simp⟩
  rcases List.prefix_or_prefix_of_prefix h hc' with h | h
  · rcases List.prefix_concat_iff.1 h with rfl | h
    · exact absurd (List.mem_append_right _ List.mem_cons_self) hc
    · exact h
  · exact absurd (h.subset (List.mem_append_right _ List.mem_cons_self)) hc

/-- A pattern without an element stands on one side of it. -/
theorem infix_of_append_cons {pat bs r : List β} {c : β} (hpat : pat ≠ []) (hc : c ∉ pat)
    (h : pat <:+: bs ++ c :: r) : pat <:+: bs ∨ pat <:+: r := by
  induction bs with
  | nil =>
    rcases List.infix_cons_iff.1 h with h | h
    · exact absurd (List.prefix_nil.1 (prefix_of_append_cons hc h)) hpat
    · exact .inr h
  | cons b bs ih =>
    rw [List.cons_append, List.infix_cons_iff] at h
    rcases h with h | h
    · rw [← List.cons_append] at h
      exact .inl (prefix_of_append_cons hc h).isInfix
    · exact (ih h).imp_left fun h => List.infix_cons_iff.2 (.inr h)

variable [DecidableEq β]

/-- The first place where `pat` occurs. -/
def find (pat : List β) : List β → Option Nat
  | [] => if pat = [] then some 0 else none
  | b :: bs => if pat <+: b :: bs then some 0 else (find pat bs).map (· + 1)

variable {pat bs r : List β}

theorem find_of_prefix (h : pat <+: bs) : find pat bs = some 0 := by
  cases bs with
  | nil => exact if_pos (List.prefix_nil.1 h)
  | cons b bs => exact if_pos h

theorem find_cons_of_not_prefix {b : β} (h : ¬pat <+: b :: bs) :
    find pat (b :: bs) = (find pat bs).map (· + 1) :=
  if_neg h

theorem ne_nil_of_find (h : find pat bs = none) : pat ≠ [] := by
  rintro rfl
  rw [ find_of_prefix List.nil_prefix] at h
  cases h

theorem find_le_length (h : find pat bs = some k) : k ≤ bs.length := by
  induction bs generalizing k with
  | nil =>
    rw [find] at h
    split at h <;> cases h
    exact Nat.le_refl _
  | cons b bs ih =>
    rw [find] at h
    split at h
    case isTrue =>
      cases h
      exact Nat.zero_le _
    case isFalse =>
      obtain ⟨k', hk', rfl⟩ := Option.map_eq_some_iff.1 h
      exact Nat.succ_le_succ (ih hk')

/-- The pattern stands where it was found. -/
theorem prefix_drop_of_find (h : find pat bs = some k) : pat <+: bs.drop k := by
  induction bs generalizing k with
  | nil =>
    rw [find] at h
    split at h
    case isTrue hp => exact hp ▸ List.nil_prefix
    case isFalse => cases h
  | cons b bs ih =>
    rw [find] at h
    split at h
    case isTrue hp =>
      cases h
      exact hp
    case isFalse =>
      obtain ⟨k', hk', rfl⟩ := Option.map_eq_some_iff.1 h
      rw [List.drop_succ_cons]
      exact ih hk'

theorem find_add_length_le (h : find pat bs = some k) : k + pat.length ≤ bs.length := by
  have hk := find_le_length h
  have hp := (prefix_drop_of_find h).length_le
  rw [List.length_drop] at hp
  omega

/-- What was found is found again when more follows. -/
theorem find_append_of_eq_some (h : find pat bs = some k) (r : List β) :
    find pat (bs ++ r) = some k := by
  induction bs generalizing k with
  | nil =>
    rw [find] at h
    split at h
    case isTrue hp =>
      cases h
      exact find_of_prefix (hp ▸ List.nil_prefix)
    case isFalse => cases h
  | cons b bs ih =>
    have hlen := find_add_length_le h
    rw [find] at h
    split at h
    case isTrue hp =>
      cases h
      exact find_of_prefix (hp.trans (List.prefix_append _ _))
    case isFalse hp =>
      obtain ⟨k', hk', rfl⟩ := Option.map_eq_some_iff.1 h
      have hp' : ¬pat <+: b :: (bs ++ r) := fun h =>
        hp (prefix_of_append h (Nat.le_trans (Nat.le_add_left _ _) hlen))
      rw [List.cons_append, find_cons_of_not_prefix hp', ih hk']
      rfl

/-- The search passes over elements that the pattern does not begin with. -/
theorem find_append_of_not_mem {c : β} {pat : List β} (h : c ∉ bs) (r : List β) :
    find (c :: pat) (bs ++ r) = (find (c :: pat) r).map (bs.length + ·) := by
  induction bs with
  | nil => simp
  | cons b bs ih =>
    have hhead : ¬c :: pat <+: b :: (bs ++ r) :=
      fun hp => h ((List.cons_prefix_cons.1 hp).1 ▸ List.mem_cons_self)
    rw [List.cons_append, find_cons_of_not_prefix hhead, ih fun hm => h (List.mem_cons_of_mem _ hm),
      Option.map_map]
    congr 1
    funext k
    simp only [Function.comp_apply, List.length_cons]
    omega

/-- A pattern that does not occur stands nowhere. -/
theorem not_prefix_drop_of_find (h : find pat bs = none) (k : Nat) (hpat : pat ≠ []) :
    ¬pat <+: bs.drop k := by
  intro hp
  induction bs generalizing k with
  | nil =>
    rw [List.drop_nil] at hp
    exact hpat (List.prefix_nil.1 hp)
  | cons b bs ih =>
    rw [find] at h
    split at h
    case isTrue => cases h
    case isFalse hhead =>
      cases k with
      | zero => exact hhead hp
      | succ k => exact ih (Option.map_eq_none_iff.1 h) k hp

theorem find_of_not_mem {c : β} (hc : c ∈ pat) (h : c ∉ bs) : find pat bs = none := by
  cases hfind : find pat bs with
  | none => rfl
  | some k => exact absurd (List.mem_of_mem_drop ((prefix_drop_of_find hfind).subset hc)) h

/-- Nothing is found behind a place where the pattern stands. -/
theorem find_append_le (pat before after : List β) :
    ∃ k ≤ before.length, find pat (before ++ pat ++ after) = some k := by
  induction before with
  | nil =>
    exact ⟨0, Nat.le_refl _, find_of_prefix (List.prefix_append _ _)⟩
  | cons b before ih =>
    rw [List.cons_append, List.cons_append, find]
    split
    case isTrue => exact ⟨0, Nat.zero_le _, rfl⟩
    case isFalse =>
      obtain ⟨k, hk, hfind⟩ := ih
      exact ⟨k + 1, Nat.succ_le_succ hk, by rw [hfind]; rfl⟩

/-- A pattern that stands somewhere is found there or before. -/
theorem exists_find_of_prefix_drop (h : pat <+: bs.drop k) : ∃ k' ≤ k, find pat bs = some k' := by
  obtain ⟨after, hafter⟩ := h
  have hbs : bs.take k ++ pat ++ after = bs := by
    rw [List.append_assoc, hafter, List.take_append_drop]
  obtain ⟨k', hk', hfind⟩ := find_append_le pat (bs.take k) after
  rw [hbs] at hfind
  exact ⟨k', hk'.trans (List.length_take_le k bs), hfind⟩

theorem find_eq_none_iff : find pat bs = none ↔ ¬pat <:+: bs := by
  constructor
  · rintro h ⟨before, after, rfl⟩
    obtain ⟨_, _, hfind⟩ := find_append_le pat before after
    cases h.symm.trans hfind
  · intro h
    cases hfind : find pat bs with
    | none => rfl
    | some k =>
      exact absurd ((prefix_drop_of_find hfind).isInfix.trans (List.drop_suffix k bs).isInfix) h

/-- The pattern does not stand in front of where it was found. -/
theorem not_infix_take_of_find (hpat : pat ≠ []) (h : find pat bs = some k) :
    ¬pat <:+: bs.take k := by
  induction bs generalizing k with
  | nil =>
    rw [List.take_nil]
    exact fun hp => hpat (List.infix_nil.1 hp)
  | cons b bs ih =>
    rw [find] at h
    split at h
    case isTrue =>
      cases h
      exact fun hp => hpat (List.infix_nil.1 hp)
    case isFalse hhead =>
      obtain ⟨k', hk', rfl⟩ := Option.map_eq_some_iff.1 h
      rw [List.take_succ_cons, List.infix_cons_iff]
      rintro (hp | hp)
      · exact hhead (hp.trans (List.take_prefix (k' + 1) (b :: bs)))
      · exact ih hk' hp

/-- A pattern of two elements is found behind what does not hold it. -/
theorem find_pair {x y : β} (hxy : x ≠ y) (h : ¬[x, y] <:+: bs) (r : List β) :
    find [x, y] (bs ++ ([x, y] ++ r)) = some bs.length := by
  induction bs with
  | nil => exact find_of_prefix (List.prefix_append _ _)
  | cons b bs ih =>
    rw [List.infix_cons_iff, not_or] at h
    have hhead : ¬[x, y] <+: b :: (bs ++ ([x, y] ++ r)) := by
      cases bs with
      | nil =>
        intro hp
        have := (List.cons_prefix_cons.1 (List.cons_prefix_cons.1 hp).2).1
        exact hxy this.symm
      | cons c bs => exact fun hp => h.1 (prefix_of_append hp (by simp))
    rw [List.cons_append, find_cons_of_not_prefix hhead, ih h.2]
    rfl

/-- What is found only once more follows ends behind what was there before. -/
theorem lt_of_find_append (hpat : pat ≠ []) (h : find pat bs = none)
    (h' : find pat (bs ++ r) = some k) : bs.length < k + pat.length := by
  apply Nat.lt_of_not_le
  intro hle
  have hp := prefix_drop_of_find h'
  rw [List.drop_append_of_le_length (by omega)] at hp
  exact not_prefix_drop_of_find h k hpat
    (prefix_of_append hp (by rw [List.length_drop]; omega))

end Window
