import FSharpFlags.Attempt
import Mathlib.Data.List.Forall2

/-!
# Traversals

A list is gone through element by element, and the first element that fails ends the traversal.
When none of them does, the values come one for each element, in order, so what is known of a value
is known from the element that it was had from. A failure that no element has is none of the
traversal.
-/

namespace FSharpFlags

theorem bind_eq_error_iff {ε α β : Type} {x : Except ε α} {f : α → Except ε β} {e : ε} :
    x >>= f = .error e ↔ x = .error e ∨ ∃ a, x = .ok a ∧ f a = .error e := by
  cases x <;> simp [bind, Except.bind]

/-- A result can be had from what one sees of it. -/
theorem exists_ok_of_map_toOption {ε α β : Type} {x : Except ε α} {view : α → β} {b : β}
    (h : x.toOption.map view = some b) : ∃ a, x = .ok a ∧ view a = b := by
  cases x with
  | error failure => cases h
  | ok a => exact ⟨a, rfl, Option.some.inj h⟩

variable {α β : Type} {f : α → Except Failure β}

/-- A traversal that returns gives one value for each element, in order. -/
theorem mapM_eq_ok_iff {as : List α} {bs : List β} :
    as.mapM f = .ok bs ↔ List.Forall₂ (fun a b ↦ f a = .ok b) as bs := by
  induction as generalizing bs with
  | nil =>
    rw [List.mapM_nil, List.forall₂_nil_left_iff]
    exact ⟨fun h ↦ (Except.ok.inj h).symm, fun h ↦ h ▸ rfl⟩
  | cons a rest ih =>
    rw [List.mapM_cons, bind_eq_ok_iff, List.forall₂_cons_left_iff]
    constructor
    · rintro ⟨b, hb, h⟩
      obtain ⟨values, hvalues, h⟩ := bind_eq_ok_iff.mp h
      exact ⟨b, values, hb, ih.mp hvalues, (Except.ok.inj h).symm⟩
    · rintro ⟨b, values, hb, hvalues, rfl⟩
      exact ⟨b, hb, bind_eq_ok_iff.mpr ⟨values, ih.mpr hvalues, rfl⟩⟩

theorem exists_mem_of_forall₂ {R : α → β → Prop} {as : List α} {bs : List β}
    (h : List.Forall₂ R as bs) {a : α} (ha : a ∈ as) : ∃ b ∈ bs, R a b := by
  induction h with
  | nil => cases ha
  | cons hhead _ ih =>
    rcases List.mem_cons.mp ha with rfl | ha
    · exact ⟨_, List.mem_cons_self, hhead⟩
    · obtain ⟨b, hb, hab⟩ := ih ha
      exact ⟨b, List.mem_cons_of_mem _ hb, hab⟩

/-- Every value of a traversal comes from one of its elements. -/
theorem exists_of_mem_mapM {as : List α} {bs : List β} (h : as.mapM f = .ok bs) {b : β}
    (hb : b ∈ bs) : ∃ a ∈ as, f a = .ok b :=
  exists_mem_of_forall₂ (mapM_eq_ok_iff.mp h).flip hb

/-- A traversal returns if every element does, and only then. -/
theorem exists_mapM_eq_ok_iff {as : List α} :
    (∃ bs, as.mapM f = .ok bs) ↔ ∀ a ∈ as, ∃ b, f a = .ok b := by
  constructor
  · rintro ⟨bs, h⟩ a ha
    obtain ⟨b, -, hb⟩ := exists_mem_of_forall₂ (mapM_eq_ok_iff.mp h) ha
    exact ⟨b, hb⟩
  · intro h
    induction as with
    | nil => exact ⟨[], rfl⟩
    | cons a rest ih =>
      rw [List.forall_mem_cons] at h
      obtain ⟨⟨b, hb⟩, hrest⟩ := h
      obtain ⟨bs, hbs⟩ := ih hrest
      exact ⟨b :: bs, mapM_eq_ok_iff.mpr (.cons hb (mapM_eq_ok_iff.mp hbs))⟩

/-- What a traversal by lists gathers is what its elements give. -/
theorem mem_flatten_iff_of_mapM {g : α → Except Failure (List β)} {as : List α}
    {parts : List (List β)} (h : as.mapM g = .ok parts) {b : β} :
    b ∈ parts.flatten ↔ ∃ a ∈ as, ∃ part, g a = .ok part ∧ b ∈ part := by
  rw [List.mem_flatten]
  constructor
  · rintro ⟨part, hpart, hb⟩
    obtain ⟨a, ha, hgives⟩ := exists_of_mem_mapM h hpart
    exact ⟨a, ha, part, hgives, hb⟩
  · rintro ⟨a, ha, part, hgives, hb⟩
    obtain ⟨found, hfound, heq⟩ := exists_mem_of_forall₂ (mapM_eq_ok_iff.mp h) ha
    obtain rfl := Except.ok.inj (hgives.symm.trans heq)
    exact ⟨part, hfound, hb⟩

/-! ## Failures -/

section Failures

variable {ε : Type} {e : ε}

theorem mapM_ne_error {f : α → Except ε β} {as : List α} (h : ∀ a ∈ as, f a ≠ .error e) :
    as.mapM f ≠ .error e := by
  induction as with
  | nil =>
    rw [List.mapM_nil]
    rintro ⟨⟩
  | cons a rest ih =>
    rw [List.forall_mem_cons] at h
    rw [List.mapM_cons, Ne, bind_eq_error_iff]
    rintro (ha | ⟨b, -, hrest⟩)
    · exact h.1 ha
    · rcases bind_eq_error_iff.mp hrest with hrest | ⟨_, -, ⟨⟩⟩
      exact ih h.2 hrest

theorem foldlM_ne_error {f : β → α → Except ε β} {as : List α}
    (h : ∀ a ∈ as, ∀ b, f b a ≠ .error e) (b : β) : as.foldlM f b ≠ .error e := by
  induction as generalizing b with
  | nil =>
    rw [List.foldlM_nil]
    rintro ⟨⟩
  | cons a rest ih =>
    rw [List.forall_mem_cons] at h
    rw [List.foldlM_cons, Ne, bind_eq_error_iff]
    rintro (ha | ⟨next, -, hrest⟩)
    · exact h.1 b ha
    · exact ih h.2 next hrest

end Failures

end FSharpFlags
