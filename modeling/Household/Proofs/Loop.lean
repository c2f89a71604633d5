import Household.Proofs.Table

/-!
# Loops That Stop at the First Failure

A loop goes through a list and puts something out at every step, until a step fails; nothing comes
out from there on. So a step that fails silences all later ones, however they would have gone. When
the steps carry ascending keys, this is said in terms of keys.

## Main results

* `mem_outputs_append_iff`, `mem_outputs_iff`, `map_outputs_sublist`: what comes out.
* `filter_outputs_eq`: what comes out of one of the steps.
* `filter_outputs_iff`: when some of the steps leave what comes out of the others as it is.
* `filter_outputs_iff_of_pairwise`: the same for the steps with one key.
-/

namespace Household.Loop

variable {α β : Type} {out : α → Option (List β)}

/-- What comes out of the steps up to the first one that fails. -/
def outputs (out : α → Option (List β)) : List α → List β
  | [] => []
  | a :: as =>
    match out a with
    | none => []
    | some bs => bs ++ outputs out as

/-- Nothing comes out from a step on that fails. -/
theorem outputs_cons_of_none {a : α} (h : out a = none) (as : List α) :
    outputs out (a :: as) = [] := by
  rw [outputs, h]

/-- A step that does not fail is followed by the others. -/
theorem outputs_cons_of_some {a : α} {bs : List β} (h : out a = some bs) (as : List α) :
    outputs out (a :: as) = bs ++ outputs out as := by
  rw [outputs, h]

/-- What comes out of two lists of steps comes out of the first, or of the second if no step of the
first fails. -/
theorem mem_outputs_append_iff {as as' : List α} {b : β} :
    b ∈ outputs out (as ++ as') ↔
      b ∈ outputs out as ∨ (∀ a ∈ as, out a ≠ none) ∧ b ∈ outputs out as' := by
  induction as with
  | nil => simp [outputs]
  | cons a as ih =>
    rw [List.cons_append, List.forall_mem_cons]
    cases ha : out a with
    | none =>
      rw [outputs_cons_of_none ha, outputs_cons_of_none ha]
      simp
    | some bs =>
      rw [outputs_cons_of_some ha, outputs_cons_of_some ha, List.mem_append, List.mem_append, ih]
      simp [or_assoc]

/-- What comes out comes out of a step. -/
theorem exists_of_mem_outputs {as : List α} {b : β} (h : b ∈ outputs out as) :
    ∃ a ∈ as, ∃ bs, out a = some bs ∧ b ∈ bs := by
  induction as with
  | nil => exact absurd h List.not_mem_nil
  | cons a as ih =>
    cases ha : out a with
    | none =>
      rw [outputs_cons_of_none ha] at h
      exact absurd h List.not_mem_nil
    | some bs =>
      rw [outputs_cons_of_some ha, List.mem_append] at h
      rcases h with hb | hb
      · exact ⟨a, List.mem_cons_self, bs, ha, hb⟩
      · obtain ⟨x, hx, hout⟩ := ih hb
        exact ⟨x, List.mem_cons_of_mem a hx, hout⟩

/-- **With ascending keys, that comes out which comes out of a step such that no step up to its key
fails.** -/
theorem mem_outputs_iff {key : α → Int64} {as : List α} (has : (as.map key).Pairwise (· < ·))
    {b : β} :
    b ∈ outputs out as ↔
      ∃ a ∈ as, (∀ x ∈ as, key x ≤ key a → out x ≠ none) ∧ ∃ bs, out a = some bs ∧ b ∈ bs := by
  constructor
  · intro hb
    -- The step is the last one of the shortest list of first steps out of which `b` comes.
    induction as with
    | nil => exact absurd hb List.not_mem_nil
    | cons a as ih =>
      obtain ⟨hfirst, hrest⟩ := List.pairwise_cons.mp has
      cases ha : out a with
      | none =>
        rw [outputs_cons_of_none ha] at hb
        exact absurd hb List.not_mem_nil
      | some bs =>
        have hgoes : out a ≠ none := by
          rw [ha]
          exact Option.some_ne_none bs
        rw [outputs_cons_of_some ha, List.mem_append] at hb
        rcases hb with hb | hb
        · refine ⟨a, List.mem_cons_self, fun x hx hle => ?_, bs, ha, hb⟩
          rcases List.mem_cons.mp hx with rfl | hx
          · exact hgoes
          · exact absurd (hfirst _ (List.mem_map_of_mem hx)) (Int64.not_lt.mpr hle)
        · obtain ⟨x, hx, hall, hout⟩ := ih hrest hb
          have hall' := List.forall_mem_cons.mpr ⟨fun _ => hgoes, hall⟩
          exact ⟨x, List.mem_cons_of_mem a hx, hall', hout⟩
  · rintro ⟨a, ha, hall, bs, hbs, hb⟩
    obtain ⟨before, after, rfl⟩ := List.append_of_mem ha
    rw [List.map_append, List.map_cons, List.pairwise_append] at has
    refine mem_outputs_append_iff.mpr (.inr ⟨fun x hx => ?_, ?_⟩)
    · have hlt := has.2.2 _ (List.mem_map_of_mem hx) _ List.mem_cons_self
      exact hall x (List.mem_append_left _ hx) (Int64.le_of_lt hlt)
    · rw [outputs_cons_of_some hbs]
      exact List.mem_append_left _ hb

/-- **With ascending keys, all that comes out under the key of a step is what the step puts out**,
if no step before it fails. -/
theorem filter_outputs_eq {key : α → Int64} {key' : β → Int64}
    (hkey : ∀ a bs, out a = some bs → ∀ b ∈ bs, key' b = key a) {as : List α}
    (has : (as.map key).Pairwise (· < ·)) {a : α} (ha : a ∈ as)
    (hall : ∀ x ∈ as, key x < key a → out x ≠ none) {bs : List β} (hbs : out a = some bs) :
    (outputs out as).filter (key' · = key a) = bs := by
  induction as with
  | nil => exact absurd ha List.not_mem_nil
  | cons x as ih =>
    obtain ⟨hfirst, hrest⟩ := List.pairwise_cons.mp has
    rcases List.mem_cons.mp ha with rfl | ha
    · -- Nothing comes out under this key later, since all later keys are greater.
      have hkept : bs.filter (key' · = key a) = bs :=
        List.filter_eq_self.mpr fun b hb => decide_eq_true (hkey a bs hbs b hb)
      have hlater : (outputs out as).filter (key' · = key a) = [] := by
        refine List.filter_eq_nil_iff.mpr fun b hb => ?_
        obtain ⟨y, hy, bs', hbs', hb'⟩ := exists_of_mem_outputs hb
        have hlt := hfirst _ (List.mem_map_of_mem hy)
        simpa [hkey y bs' hbs' b hb'] using (Int64.ne_of_lt hlt).symm
      rw [outputs_cons_of_some hbs, List.filter_append, hkept, hlater, List.append_nil]
    · have hlt := hfirst _ (List.mem_map_of_mem ha)
      obtain ⟨bs', hbs'⟩ := Option.ne_none_iff_exists'.mp (hall x List.mem_cons_self hlt)
      have hearlier : bs'.filter (key' · = key a) = [] := by
        refine List.filter_eq_nil_iff.mpr fun b hb => ?_
        simpa [hkey x bs' hbs' b hb] using Int64.ne_of_lt hlt
      rw [outputs_cons_of_some hbs', List.filter_append, hearlier, List.nil_append]
      exact ih hrest ha fun y hy => hall y (List.mem_cons_of_mem x hy)

/-- When nothing but its key comes out of a step, what comes out are some of the keys in order. -/
theorem map_outputs_sublist {γ : Type} {key : α → γ} {key' : β → γ}
    (h : ∀ a bs, out a = some bs → (bs.map key').Sublist [key a]) (as : List α) :
    ((outputs out as).map key').Sublist (as.map key) := by
  induction as with
  | nil => exact List.Sublist.refl _
  | cons a as ih =>
    cases ha : out a with
    | none =>
      rw [outputs_cons_of_none ha]
      exact List.nil_sublist _
    | some bs =>
      rw [outputs_cons_of_some ha, List.map_append, List.map_cons]
      exact (h a bs ha).append ih

/-! ### Leaving steps out -/

/-- Steps out of which nothing comes can be left out. -/
theorem outputs_eq_outputs_filter {out' : α → Option (List β)} {p : α → Bool}
    (hkept : ∀ a, p a = true → out' a = out a) (hleft : ∀ a, p a = false → out' a = some [])
    (as : List α) : outputs out' as = outputs out (as.filter p) := by
  induction as with
  | nil => rfl
  | cons a as ih =>
    cases hp : p a with
    | false =>
      rw [outputs_cons_of_some (hleft a hp), List.nil_append, ih,
        List.filter_cons_of_neg (by simp [hp])]
    | true =>
      rw [List.filter_cons_of_pos hp, outputs, hkept a hp, outputs, ih]

/-- The first step is the first one to fail. -/
theorem forall_first_failure_cons_of_none {a : α} (ha : out a = none) (as : List α)
    {P : α → List α → Prop} :
    (∀ before x after, a :: as = before ++ x :: after → (∀ y ∈ before, out y ≠ none) →
      out x = none → P x after) ↔ P a as := by
  constructor
  · intro h
    exact h [] a as rfl (by simp) ha
  · rintro h (_ | ⟨y, before⟩) x after has hbefore -
    · obtain ⟨rfl, rfl⟩ := List.cons.inj has
      exact h
    · obtain ⟨rfl, -⟩ := List.cons.inj has
      exact absurd ha (hbefore a List.mem_cons_self)

/-- The first step to fail comes later. -/
theorem forall_first_failure_cons_of_some {a : α} {bs : List β} (ha : out a = some bs)
    (as : List α) {P : α → List α → Prop} :
    (∀ before x after, a :: as = before ++ x :: after → (∀ y ∈ before, out y ≠ none) →
      out x = none → P x after) ↔
    ∀ before x after, as = before ++ x :: after → (∀ y ∈ before, out y ≠ none) →
      out x = none → P x after := by
  have hgoes : out a ≠ none := by
    rw [ha]
    exact Option.some_ne_none bs
  constructor
  · rintro h before x after rfl hbefore
    exact h (a :: before) x after rfl (List.forall_mem_cons.mpr ⟨hgoes, hbefore⟩)
  · rintro h (_ | ⟨y, before⟩) x after has hbefore hx
    · obtain ⟨rfl, rfl⟩ := List.cons.inj has
      exact absurd hx hgoes
    · obtain ⟨rfl, rfl⟩ := List.cons.inj has
      exact h before x after rfl (List.forall_mem_cons.mp hbefore).2 hx

/-- **What comes out of the steps that are kept is the same without the others, unless one of the
others is the first to fail and something would have come out of the kept ones after it.** -/
theorem filter_outputs_iff {p : α → Bool} {q : β → Bool}
    (hq : ∀ a bs, out a = some bs → ∀ b ∈ bs, q b = p a) (as : List α) :
    (outputs out as).filter q = outputs out (as.filter p) ↔
      ∀ before a after, as = before ++ a :: after → (∀ x ∈ before, out x ≠ none) →
        out a = none → p a = false → outputs out (after.filter p) = [] := by
  induction as with
  | nil => simp [outputs]
  | cons a as ih =>
    cases ha : out a with
    | none =>
      rw [outputs_cons_of_none ha, List.filter_nil, forall_first_failure_cons_of_none ha]
      cases hp : p a with
      | false =>
        rw [List.filter_cons_of_neg (by simp [hp])]
        exact ⟨fun hnil _ => hnil.symm, fun h => (h rfl).symm⟩
      | true =>
        rw [List.filter_cons_of_pos hp, outputs_cons_of_none ha]
        exact iff_of_true rfl fun hno => absurd hno (by simp)
    | some bs =>
      rw [outputs_cons_of_some ha, List.filter_append, forall_first_failure_cons_of_some ha, ← ih]
      cases hp : p a with
      | false =>
        have hdropped : bs.filter q = [] := by
          rw [List.filter_eq_nil_iff]
          intro b hb
          simp [hq a bs ha b hb, hp]
        rw [hdropped, List.nil_append, List.filter_cons_of_neg (by simp [hp])]
      | true =>
        have hkept : bs.filter q = bs := by
          rw [List.filter_eq_self]
          intro b hb
          rw [hq a bs ha b hb, hp]
        rw [hkept, List.filter_cons_of_pos hp, outputs_cons_of_some ha, List.append_cancel_left_eq]

/-- **With ascending keys, what comes out of the other steps is the same without the step of a key,
unless that step fails and something would have come out of later ones.** -/
theorem filter_outputs_iff_of_pairwise {key : α → Int64} {key' : β → Int64}
    (hkey : ∀ a bs, out a = some bs → ∀ b ∈ bs, key' b = key a) {as : List α}
    (has : (as.map key).Pairwise (· < ·)) (r : Int64) :
    (outputs out as).filter (key' · ≠ r) = outputs out (as.filter (key · ≠ r)) ↔
      ∀ a ∈ as, key a = r → out a = none →
        ∀ b ∈ outputs out (as.filter (key · ≠ r)), key' b < r := by
  have hq : ∀ a bs, out a = some bs → ∀ b ∈ bs, decide (key' b ≠ r) = decide (key a ≠ r) := by
    intro a bs hbs b hb
    rw [hkey a bs hbs b hb]
  have hkey' : ∀ {l : List α} {b : β}, b ∈ outputs out (l.filter (key · ≠ r)) →
      ∃ x ∈ l, key' b = key x := by
    intro l b hb
    obtain ⟨x, hx, bs, hbs, hb⟩ := exists_of_mem_outputs hb
    exact ⟨x, List.mem_of_mem_filter hx, hkey x bs hbs b hb⟩
  rw [filter_outputs_iff hq]
  constructor
  · rintro h a ha rfl hnone b hb
    obtain ⟨before, after, rfl⟩ := List.append_of_mem ha
    rw [List.map_append, List.map_cons, List.pairwise_append] at has
    have hbefore : ∀ x ∈ before, key x < key a := fun x hx =>
      has.2.2 _ (List.mem_map_of_mem hx) _ List.mem_cons_self
    rw [List.filter_append, List.filter_cons_of_neg (by simp), mem_outputs_append_iff] at hb
    rcases hb with hb | ⟨hgo, hb⟩
    · obtain ⟨x, hx, hid⟩ := hkey' hb
      rw [hid]
      exact hbefore x hx
    · have hnil := h before a after rfl (fun x hx => hgo x (List.mem_filter.mpr ⟨hx, ?_⟩)) hnone
        (by simp)
      · rw [hnil] at hb
        exact absurd hb List.not_mem_nil
      · exact decide_eq_true (Int64.ne_of_lt (hbefore x hx))
  · rintro h before a after rfl hbefore hnone hr
    obtain rfl : key a = r := by simpa using hr
    rw [List.map_append, List.map_cons, List.pairwise_append, List.pairwise_cons] at has
    refine List.eq_nil_iff_forall_not_mem.mpr fun b hb => ?_
    have hlt : key' b < key a := by
      refine h a (by simp) rfl hnone b ?_
      rw [List.filter_append, List.filter_cons_of_neg (by simp), mem_outputs_append_iff]
      exact .inr ⟨fun x hx => hbefore x (List.mem_of_mem_filter hx), hb⟩
    obtain ⟨x, hx, hid⟩ := hkey' hb
    rw [hid] at hlt
    exact Int64.lt_asymm hlt (has.2.1.1 _ (List.mem_map_of_mem hx))

end Household.Loop
