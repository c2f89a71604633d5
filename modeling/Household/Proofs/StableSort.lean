import Mathlib.Data.List.Perm.Basic

/-!
# Stable Sorts

A list is sorted stably when its elements come in order and those that tie come as they did. There
is only one such list, and by a total and transitive order a merge sort finds it.

## Main results

* `isStableSort_mergeSort`: a merge sort is stable.
* `IsStableSort.unique`: a list has only one stable sort.
* `IsStableSort.exists_split`: the first element of a stable sort is the first of the list that
  nothing has to come before.
-/

namespace Household

variable {α : Type} {r : α → α → Prop} [DecidableRel r]

/-- `sorted` has the elements of `l` in the order `r`; those that tie come as they do in `l`. -/
structure IsStableSort (r : α → α → Prop) [DecidableRel r] (l sorted : List α) : Prop where
  perm : sorted.Perm l
  pairwise : sorted.Pairwise r
  ties : ∀ a, sorted.filter (fun b => r a b ∧ r b a) = l.filter fun b => r a b ∧ r b a

/-- **A merge sort is stable.** -/
theorem isStableSort_mergeSort (htrans : ∀ a b c, r a b → r b c → r a c)
    (htotal : ∀ a b, r a b ∨ r b a) (l : List α) :
    IsStableSort r l (l.mergeSort fun a b => r a b) := by
  have htrans' : ∀ a b c : α, decide (r a b) = true → decide (r b c) = true →
      decide (r a c) = true := by simpa using htrans
  have htotal' : ∀ a b : α, (decide (r a b) || decide (r b a)) = true := by simpa using htotal
  have hperm := List.mergeSort_perm l fun a b => decide (r a b)
  refine ⟨hperm, by simpa using List.pairwise_mergeSort htrans' htotal' l, fun a => ?_⟩
  -- What ties with `a` is in order, so that it is found again among the sorted elements.
  have hpairwise : (l.filter fun b => r a b ∧ r b a).Pairwise fun b c => decide (r b c) = true := by
    refine List.pairwise_of_forall_mem_list fun b hb c hc => ?_
    simp only [List.mem_filter, decide_eq_true_eq] at hb hc ⊢
    exact htrans b a c hb.2.2 hc.2.1
  have hsub := List.sublist_mergeSort htrans' htotal' hpairwise List.filter_sublist
  have hfilter := hsub.filter fun b => r a b ∧ r b a
  rw [List.filter_filter] at hfilter
  simp only [Bool.and_self] at hfilter
  exact (hfilter.eq_of_length ((hperm.filter _).length_eq).symm).symm

/-- Lists have the same elements when the same elements tie with any element. -/
theorem mem_iff_of_forall_filter_eq (hrefl : ∀ a, r a a) {s t : List α}
    (h : ∀ a, s.filter (fun b => r a b ∧ r b a) = t.filter fun b => r a b ∧ r b a) (a : α) :
    a ∈ s ↔ a ∈ t := by
  have hmem := congrArg (a ∈ ·) (h a)
  simpa [hrefl] using hmem

/-- Lists in order are equal when the same elements tie with any element, in the same order. -/
theorem eq_of_forall_filter_eq (hrefl : ∀ a, r a a) {s t : List α} (hs : s.Pairwise r)
    (ht : t.Pairwise r)
    (h : ∀ a, s.filter (fun b => r a b ∧ r b a) = t.filter fun b => r a b ∧ r b a) : s = t := by
  have hmem := mem_iff_of_forall_filter_eq hrefl h
  induction s generalizing t with
  | nil =>
    have hnil := List.eq_nil_iff_forall_not_mem.mpr fun a ha => by simpa using (hmem a).mpr ha
    exact hnil.symm
  | cons a s ih =>
    cases t with
    | nil => exact absurd ((hmem a).mp List.mem_cons_self) (by simp)
    | cons b t =>
      obtain ⟨has, hs'⟩ := List.pairwise_cons.mp hs
      obtain ⟨hbt, ht'⟩ := List.pairwise_cons.mp ht
      -- Each of the two heads is found in the other list, behind or at its head.
      have hba : r b a := by
        rcases List.mem_cons.mp ((hmem a).mp List.mem_cons_self) with rfl | ha
        · exact hrefl a
        · exact hbt a ha
      have hab : r a b := by
        rcases List.mem_cons.mp ((hmem b).mpr List.mem_cons_self) with rfl | hb
        · exact hrefl b
        · exact has b hb
      have hhead := h a
      rw [List.filter_cons_of_pos (by simp [hrefl]), List.filter_cons_of_pos (by simp [hab, hba])]
        at hhead
      obtain rfl := (List.cons.inj hhead).1
      have htail : ∀ c, s.filter (fun b => r c b ∧ r b c) = t.filter fun b => r c b ∧ r b c := by
        intro c
        have hc := h c
        by_cases htie : r c a ∧ r a c
        · rw [List.filter_cons_of_pos (by simp [htie]),
            List.filter_cons_of_pos (by simp [htie])] at hc
          exact (List.cons.inj hc).2
        · rwa [List.filter_cons_of_neg (by simpa using htie),
            List.filter_cons_of_neg (by simpa using htie)] at hc
      rw [ih hs' ht' htail (mem_iff_of_forall_filter_eq hrefl htail)]

namespace IsStableSort

variable {l s t : List α}

/-- **A list has only one stable sort.** -/
theorem unique (hrefl : ∀ a, r a a) (hs : IsStableSort r l s) (ht : IsStableSort r l t) : s = t :=
  eq_of_forall_filter_eq hrefl hs.pairwise ht.pairwise fun a => (hs.ties a).trans (ht.ties a).symm

/-- **The first element of a stable sort is the first of the list that nothing has to come
before.** -/
theorem exists_split (hrefl : ∀ a, r a a) {a : α} (h : IsStableSort r l (a :: s)) :
    ∃ before after, l = before ++ a :: after ∧ (∀ b ∈ before, r a b ∧ ¬ r b a) ∧
      ∀ b ∈ after, r a b := by
  have hfirst : ∀ b ∈ l, r a b := by
    intro b hb
    rcases List.mem_cons.mp (h.perm.mem_iff.mpr hb) with rfl | hb
    · exact hrefl b
    · exact (List.pairwise_cons.mp h.pairwise).1 b hb
  have hties := h.ties a
  rw [List.filter_cons_of_pos (by simp [hrefl])] at hties
  obtain ⟨before, after, rfl, hbefore, -, -⟩ := List.filter_eq_cons_iff.mp hties.symm
  refine ⟨before, after, rfl, fun b hb => ?_, fun b hb => hfirst b (by simp [hb])⟩
  have hab := hfirst b (by simp [hb])
  exact ⟨hab, fun hba => hbefore b hb (by simp [hab, hba])⟩

end IsStableSort

end Household
