import Household.Proofs.Instant.Reading
import Household.Proofs.Json.Fields
import Household.Proofs.Json.Reading
import Mathlib.Data.List.Forall2
import Mathlib.Data.List.Perm.Basic

/-!
# Spellings of a Record

A record can be spelled in many ways: as an object with its fields in any order and with members of
other names among them, whatever these hold and also if they are repeated, or as an array of its
fields in the order of their declaration. A reader finds the same fields in all of them.

## Main results

* `Spells.exists_record?_eq`: the fields that are found in a spelling.
* `instant?_instant`: an instant is read back from its value.
* `ReadsBack.of_isSpelled`: what is to be known of a type whose values are read back from every
  spelling.
-/

namespace Household.Json

/-! ### Spellings -/

/-- A field of a record: its name, and what it may hold. -/
structure Field where
  name : String
  IsValue : Json → Prop

/-- The value spells a record with these fields. -/
inductive Spells (fields : List Field) : Json → Prop
  /-- As an object that has each field once, among members of other names. -/
  | object {members own others : List (String × Json)} (hperm : members.Perm (own ++ others))
      (hown : List.Forall₂ (fun m f => m.1 = f.name ∧ f.IsValue m.2) own fields)
      (hothers : ∀ m ∈ others, ∀ f ∈ fields, m.1 ≠ f.name) : Spells fields (.object members)
  /-- As an array of the fields in their order. -/
  | array {items : List Json} (hitems : List.Forall₂ (fun v f => f.IsValue v) items fields) :
      Spells fields (.array items)

/-- An object that has each field once, in their order and nothing else, spells a record. -/
theorem Spells.of_forall₂ {fields : List Field} {own : List (String × Json)}
    (hown : List.Forall₂ (fun m f => m.1 = f.name ∧ f.IsValue m.2) own fields) :
    Spells fields (.object own) := by
  have hperm : own.Perm (own ++ []) := .of_eq (List.append_nil own).symm
  exact .object hperm hown fun _ hm => nomatch hm

/-- A member whose name no other member has is the field of this name. -/
theorem field?_eq_of_perm {members own others : List (String × Json)} {m : String × Json}
    (hperm : members.Perm (own ++ others)) (hnodup : (own.map Prod.fst).Nodup) (hm : m ∈ own)
    (hothers : ∀ n ∈ others, n.1 ≠ m.1) : field? members m.1 = some (some m.2) := by
  have hnone : others.filter (·.1 = m.1) = [] :=
    List.filter_eq_nil_iff.mpr fun n hn => by simpa using hothers n hn
  refine field?_eq_some_iff.mpr ⟨?_, fun v => ?_⟩
  · rw [(hperm.filter _).length_eq, List.filter_append, hnone, List.append_nil]
    exact length_filter_le_one hnodup m.1
  · rw [hperm.mem_iff, List.mem_append]
    constructor
    · intro hv
      obtain rfl := Option.some.inj hv
      exact .inl hm
    · rintro (hv | hv)
      · exact congrArg (fun n => some n.2) (List.inj_on_of_nodup_map hnodup hm hv rfl)
      · exact absurd rfl (hothers (m.1, v) hv)

/-- All keys have a value if each of them has. -/
theorem mapM_map_eq_some {α β γ : Type} {f : γ → Option β} {key : α → γ} {val : α → β}
    {l : List α} (h : ∀ a ∈ l, f (key a) = some (val a)) :
    (l.map key).mapM f = some (l.map val) := by
  induction l with
  | nil => rfl
  | cons a l ih =>
    obtain ⟨ha, hl⟩ := List.forall_mem_cons.mp h
    rw [List.map_cons, List.mapM_cons, ha, ih hl]
    rfl

/-- Members that are the fields of a record have their names and values. -/
theorem map_fst_of_forall₂ {own : List (String × Json)} {fields : List Field}
    (h : List.Forall₂ (fun m f => m.1 = f.name ∧ f.IsValue m.2) own fields) :
    own.map Prod.fst = fields.map (·.name) ∧
      List.Forall₂ (fun v f => f.IsValue v) (own.map Prod.snd) fields := by
  induction h with
  | nil => exact ⟨rfl, .nil⟩
  | cons hm _ ih => exact ⟨congrArg₂ _ hm.1 ih.1, .cons hm.2 ih.2⟩

/-- **A reader finds the fields of a record in every spelling.** -/
theorem Spells.exists_record?_eq {fields : List Field} {v : Json} (h : Spells fields v)
    (hnodup : (fields.map (·.name)).Nodup) :
    ∃ values, record? (fields.map (·.name)) v = some (values.map some) ∧
      List.Forall₂ (fun v f => f.IsValue v) values fields := by
  cases h with
  | @object members own others hperm hown hothers =>
    obtain ⟨hnames, hvalues⟩ := map_fst_of_forall₂ hown
    refine ⟨own.map Prod.snd, ?_, hvalues⟩
    rw [record?, ← hnames, List.map_map]
    refine mapM_map_eq_some fun m hm => field?_eq_of_perm hperm (hnames ▸ hnodup) hm fun n hn => ?_
    obtain ⟨f, hf, hname⟩ := List.mem_map.mp (hnames ▸ List.mem_map_of_mem hm)
    rw [← hname]
    exact hothers n hn f hf
  | @array items hitems =>
    refine ⟨items, record?_array _ _ ?_, hitems⟩
    rw [List.length_map, hitems.length_eq]

/-- An instant is read back from its value. -/
theorem instant?_instant (t : Instant) : instant? (instant t) = some t := by
  rw [instant, instant?, String.toList_ofList, Instant.read?_text]

/-- An instant is written in a text, without numerals. -/
@[simp] theorem isProper_instant (t : Instant) : (instant t).IsProper :=
  isProper_text _

/-! ### Texts -/

/-- Values of a type are read back from the texts of all their spellings. -/
structure ReadsBack {α : Type} (toJson : α → Json) (ofJson? : Json → Option α)
    (IsSpelled : α → Json → Prop) : Prop where
  /-- What is written is read back. -/
  written : ∀ a, (read? (toJson a).written).bind ofJson? = some a
  /-- So is every text of another spelling. -/
  spelled : ∀ a v, IsSpelled a v → ∀ cs, read? cs = some v → (read? cs).bind ofJson? = some a
  /-- There are such texts: a spelling is read as it is written, unless other members hold improper
  numerals. -/
  readable : ∀ a v, IsSpelled a v → v.IsProper → read? v.written = some v

/-- Values are read back if they are found in all spellings, of which what is written is one. -/
theorem ReadsBack.of_isSpelled {α : Type} {toJson : α → Json} {ofJson? : Json → Option α}
    {IsSpelled : α → Json → Prop} (hwritten : ∀ a, IsSpelled a (toJson a))
    (hproper : ∀ a, (toJson a).IsProper) (hread : ∀ a v, IsSpelled a v → ofJson? v = some a) :
    ReadsBack toJson ofJson? IsSpelled where
  written a := by rw [read?_written (hproper a), Option.bind_some, hread a _ (hwritten a)]
  spelled a v hv cs hcs := by rw [hcs, Option.bind_some, hread a v hv]
  readable _ _ _ hproper := read?_written hproper

end Household.Json
