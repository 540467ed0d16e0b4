import FSharpFlags.Framework.Version
import Mathlib.Data.List.Lex
import Mathlib.Order.Lattice

/-!
# The order of versions

Two versions are compared on their common beginning only, so what decides is the first place where
both have a number and the numbers differ. For versions of one length this is the lexicographic
order. In general it is still a strict order: the first difference between three versions lies where
all of them have a number, or the comparison would have ended before it.

Versions that cannot be told apart need not be equal. One of them is then the beginning of the other
one, and this is no equivalence: `4` begins `4.5` and `4.0`, of which neither begins the other.
-/

namespace FSharpFlags

namespace Version

section Order

variable {α : Type} [LinearOrder α] {a b : α} {as bs cs : List α}

theorem prefers_cons_cons_iff :
    prefers (a :: as) (b :: bs) = true ↔ b < a ∨ a = b ∧ prefers as bs = true := by
  rw [prefers_cons_cons]
  rcases lt_trichotomy a b with hlt | rfl | hgt
  · simp [hlt, hlt.not_gt, hlt.ne]
  · simp
  · simp [hgt]

theorem prefers_self (as : List α) : prefers as as = false := by
  induction as with
  | nil => rfl
  | cons a as ih =>
    rw [prefers_cons_cons, if_neg (lt_irrefl a), if_neg (lt_irrefl a)]
    exact ih

theorem prefers_trans (h : prefers as bs = true) (h' : prefers bs cs = true) :
    prefers as cs = true := by
  induction as generalizing bs cs with
  | nil => simp at h
  | cons a as ih =>
    match bs, cs, h, h' with
    | [], _, h, _ => simp at h
    | _ :: _, [], _, h' => simp at h'
    | b :: bs, c :: cs, h, h' =>
      rw [prefers_cons_cons_iff] at h h' ⊢
      -- Where both comparisons go on behind equal numbers, so does that of the outer two.
      rcases h with hab | ⟨rfl, h⟩
      · rcases h' with hbc | ⟨rfl, -⟩
        · exact .inl (hbc.trans hab)
        · exact .inl hab
      · rcases h' with hbc | ⟨rfl, h'⟩
        · exact .inl hbc
        · exact .inr ⟨rfl, ih h h'⟩

theorem prefers_asymm (h : prefers as bs = true) : prefers bs as = false := by
  rw [← Bool.not_eq_true]
  intro h'
  have hself := prefers_trans h h'
  rw [prefers_self] at hself
  cases hself

/-- Between versions of one length the comparison is the lexicographic one. -/
theorem prefers_iff_lt (h : as.length = bs.length) : prefers as bs = true ↔ bs < as := by
  induction as generalizing bs with
  | nil =>
    rw [List.length_nil, eq_comm, List.length_eq_zero_iff] at h
    subst h
    simp
  | cons a as ih =>
    match bs, h with
    | b :: bs, h =>
      rw [prefers_cons_cons_iff, List.cons_lt_cons_iff, ih (Nat.succ.inj h), eq_comm]

theorem le_of_prefers_eq_false (h : as.length = bs.length) (hno : prefers as bs = false) :
    as ≤ bs := by
  rw [← not_lt, ← prefers_iff_lt h, hno]
  exact Bool.false_ne_true

/-- What decides is the first place where the versions differ. -/
theorem prefers_iff_exists :
    prefers as bs = true ↔ ∃ common a as' b bs',
      as = common ++ a :: as' ∧ bs = common ++ b :: bs' ∧ b < a := by
  constructor
  · intro h
    induction as generalizing bs with
    | nil => simp at h
    | cons a as ih =>
      cases bs with
      | nil => simp at h
      | cons b bs =>
        rcases prefers_cons_cons_iff.mp h with hlt | ⟨rfl, hrest⟩
        · exact ⟨[], a, as, b, bs, rfl, rfl, hlt⟩
        · obtain ⟨common, c, as', d, bs', rfl, rfl, hlt⟩ := ih hrest
          exact ⟨a :: common, c, as', d, bs', rfl, rfl, hlt⟩
  · rintro ⟨common, a, as', b, bs', rfl, rfl, hlt⟩
    induction common with
    | nil => exact prefers_cons_cons_iff.mpr (.inl hlt)
    | cons c common ih => exact prefers_cons_cons_iff.mpr (.inr ⟨rfl, ih⟩)

/-- Two versions cannot be told apart if one is the beginning of the other one, and only then. -/
theorem prefers_eq_false_iff :
    prefers as bs = false ∧ prefers bs as = false ↔ as <+: bs ∨ bs <+: as := by
  induction as generalizing bs with
  | nil => simp
  | cons a as ih =>
    cases bs with
    | nil => simp
    | cons b bs =>
      rw [prefers_cons_cons, prefers_cons_cons, List.cons_prefix_cons, List.cons_prefix_cons]
      rcases lt_trichotomy a b with hlt | rfl | hgt
      · simp [hlt, hlt.ne, hlt.ne']
      · simp [ih]
      · simp [hgt, hgt.ne, hgt.ne']

/-- **The comparison of versions is a strict order**, whatever their lengths. No version beats
itself, two versions do not beat each other, and what beats a version beats all that this version
beats. One version beats another one just when its number is greater where they first differ, so
that neither beats the other one if one of them is the beginning of the other one, and only then. -/
theorem prefers_strictOrder (as bs cs : List α) :
    prefers as as = false
      ∧ (prefers as bs = true → prefers bs as = false)
      ∧ (prefers as bs = true → prefers bs cs = true → prefers as cs = true)
      ∧ (prefers as bs = true ↔ ∃ common a as' b bs',
        as = common ++ a :: as' ∧ bs = common ++ b :: bs' ∧ b < a)
      ∧ (prefers as bs = false ∧ prefers bs as = false ↔ as <+: bs ∨ bs <+: as) :=
  ⟨prefers_self as, prefers_asymm, prefers_trans, prefers_iff_exists, prefers_eq_false_iff⟩

/-- Three sequences of different lengths, with negative numbers. -/
theorem prefers_strictOrder_negative :
    prefers ([4, 5, -1] : List Int) [4, 5, -2, 7] = true
      ∧ prefers ([4, 5, -2, 7] : List Int) [4, -3] = true
      ∧ prefers ([4, 5, -1] : List Int) [4, -3] = true
      ∧ prefers ([4, 5, -2, 7] : List Int) [4, 5, -1] = false := by
  have hfirst : prefers ([4, 5, -1] : List Int) [4, 5, -2, 7] = true := by decide
  have hsecond : prefers ([4, 5, -2, 7] : List Int) [4, -3] = true := by decide
  obtain ⟨-, hasymm, htrans, -⟩ :=
    prefers_strictOrder ([4, 5, -1] : List Int) [4, 5, -2, 7] [4, -3]
  exact ⟨hfirst, hsecond, htrans hfirst hsecond, hasymm hfirst⟩

end Order

end Version

end FSharpFlags
