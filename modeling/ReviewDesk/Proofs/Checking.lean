import Mathlib.Tactic.SplitIfs
import ReviewDesk.Validation.Field

/-!
# What a check has let through

A check that gives a value has found no problem in any of its parts. The equivalences below take a
good value apart along the way in which the check was put together.
-/
namespace ReviewDesk

namespace Checked

variable {α β : Type} {a : α} {b : β} {c : Checked α}

@[simp] theorem fail_eq_good (cause : Cause) : (fail cause = good a) ↔ False := by
  simp [fail]

@[simp] theorem map_eq_good (f : α → β) : f <$> c = good b ↔ ∃ a, c = good a ∧ f a = b := by
  cases c <;> simp [Functor.map, map]

@[simp] theorem seq_eq_good {f : Checked (α → β)} :
    f <*> c = good b ↔ ∃ g a, f = good g ∧ c = good a ∧ g a = b := by
  cases f <;> cases c <;> simp [Seq.seq, seq, map]

@[simp] theorem andThen_eq_good {f : α → Checked β} :
    c.andThen f = good b ↔ ∃ a, c = good a ∧ f a = good b := by
  cases c <;> simp [andThen]

@[simp] theorem under_eq_good (step : String) : c.under step = good a ↔ c = good a := by
  cases c <;> simp [under]

end Checked

namespace Field

theorem required_eq_good {α : Type} {fields : List (String × Json)} {key : Key} {read : Reader α}
    {a : α} : required fields key read = .good a ↔
      ∃ name v, key.find fields = some (name, v) ∧ read v = .good a := by
  unfold required
  cases hk : key.find fields with
  | none => simp
  | some found =>
    obtain ⟨name, v⟩ := found
    simp [and_assoc]

theorem checkLength_eq_good {least most : Nat} {s t : String} :
    checkLength (some least) (some most) s = .good t ↔
      (least ≤ s.length ∧ s.length ≤ most) ∧ s = t := by
  unfold checkLength
  by_cases hl : s.length < least
  · simp [hl, Nat.not_le.mpr hl]
  · by_cases hm : most < s.length
    · simp [hl, hm, Nat.not_le.mpr hm]
    · simp [hl, hm, Nat.not_lt.mp hl, Nat.not_lt.mp hm]

theorem le_of_integerFrom {least n : Int} {v : Json} (h : integerFrom least v = .good n) :
    least ≤ n := by
  obtain ⟨k, -, hk⟩ := Checked.andThen_eq_good.mp h
  unfold checkAtLeast at hk
  split_ifs at hk with hlt
  · cases hk
  · cases hk
    exact Int.not_lt.mp hlt

end Field

end ReviewDesk
