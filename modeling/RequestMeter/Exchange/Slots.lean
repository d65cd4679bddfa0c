/-
Things held under names, at most one under each.
-/

namespace RequestMeter

/-- Some things and their names. -/
structure Slots (α : Type) where
  entries : List (String × α)

namespace Slots

variable {α : Type}

/-- Nothing is held. -/
def empty : Slots α := ⟨[]⟩

/-- What is held under a name. -/
def get? (s : Slots α) (name : String) : Option α := s.entries.lookup name

/-- Holds nothing under a name any more. -/
def erase (s : Slots α) (name : String) : Slots α :=
  ⟨s.entries.filter fun entry => entry.1 != name⟩

/-- Holds something under a name, in place of what was there. -/
def put (s : Slots α) (name : String) (a : α) : Slots α :=
  ⟨(name, a) :: (s.erase name).entries⟩

/-- Holds something under a name, or nothing. -/
def update (s : Slots α) (name : String) : Option α → Slots α
  | some a => s.put name a
  | none => s.erase name

/-! ### What is held after each operation -/

@[simp] theorem get?_empty (name : String) : (empty : Slots α).get? name = none := rfl

theorem get?_erase (s : Slots α) (name other : String) :
    (s.erase name).get? other = if other = name then none else s.get? other := by
  unfold get? erase
  induction s.entries with
  | nil => simp
  | cons entry rest ih =>
    obtain ⟨key, a⟩ := entry
    by_cases hkey : key = name
    · subst hkey
      by_cases hother : other = key
      · simpa [hother] using ih
      · simpa [hother, List.lookup_cons, beq_eq_false_iff_ne.mpr hother] using ih
    · by_cases hother : other = key
      · subst hother
        simp [hkey]
      · simpa [hkey, List.lookup_cons, beq_eq_false_iff_ne.mpr hother] using ih

theorem get?_put (s : Slots α) (name other : String) (a : α) :
    (s.put name a).get? other = if other = name then some a else s.get? other := by
  by_cases h : other = name
  · subst h
    simp [put, get?]
  · have := get?_erase s name other
    simpa [put, get?, h, List.lookup_cons, beq_eq_false_iff_ne.mpr h] using this

theorem get?_update (s : Slots α) (name other : String) (a : Option α) :
    (s.update name a).get? other = if other = name then a else s.get? other := by
  cases a with
  | none => exact get?_erase s name other
  | some a => exact get?_put s name other a

end Slots

end RequestMeter
