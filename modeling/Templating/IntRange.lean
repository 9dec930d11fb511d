/-!
# Ranges of integers

A range counts from a start in steps of one size, up or down, as long as the stop is not reached
(`IntRange.lt_length_iff`). Its numbers are found by their places, without a list of all of them.
Ranges are alike if they have the same numbers in the same order (`IntRange.isAlike_iff`).
-/

namespace Templating

/-- The integers from `start` on in steps of `step`, up to but not including `stop`. -/
structure IntRange where
  start : Int
  stop : Int
  step : Int := 1
  step_ne_zero : step ≠ 0 := by decide
deriving DecidableEq, Repr

namespace IntRange

/-- How many numbers there are: the steps from the start to the stop, where a part of a step counts
as a whole one. -/
def length (r : IntRange) : Nat :=
  if 0 < r.step then ((r.stop - r.start + (r.step - 1)) / r.step).toNat
  else ((r.start - r.stop + (-r.step - 1)) / -r.step).toNat

/-- The number at a place, if it is one of the range. -/
def number (r : IntRange) (i : Nat) : Int :=
  r.start + i * r.step

/-- All numbers in order. -/
def numbers (r : IntRange) : List Int :=
  (List.range r.length).map r.number

/-- Whether two ranges have the same numbers. -/
def isAlike (r s : IntRange) : Bool :=
  r.length == s.length &&
    (r.length == 0 || (r.start == s.start && (r.length == 1 || r.step == s.step)))

@[simp] theorem length_numbers (r : IntRange) : r.numbers.length = r.length := by
  simp [numbers]

theorem getElem?_numbers (r : IntRange) (i : Nat) :
    r.numbers[i]? = if i < r.length then some (r.number i) else none := by
  rw [numbers, List.getElem?_map]
  split
  · rw [List.getElem?_range (by assumption)]
    rfl
  · rw [List.getElem?_eq_none (by simpa using by omega)]
    rfl

/-- There is a step of the size `d` from `a` that ends before `b` just if it is one of those that
are counted. -/
theorem lt_toNat_ediv_iff {d : Int} (hd : 0 < d) (a b : Int) (i : Nat) :
    i < ((b - a + (d - 1)) / d).toNat ↔ a + i * d < b := by
  have hstep : ((i : Int) + 1 ≤ (b - a + (d - 1)) / d) ↔ ((i : Int) + 1) * d ≤ b - a + (d - 1) :=
    Int.le_ediv_iff_mul_le hd
  rw [Int.add_mul, Int.one_mul] at hstep
  omega

/-- **A number is one of the range just if it comes before the stop**, in the direction in which the
range counts. -/
theorem lt_length_iff (r : IntRange) (i : Nat) :
    i < r.length ↔ if 0 < r.step then r.number i < r.stop else r.stop < r.number i := by
  unfold length number
  split
  · exact lt_toNat_ediv_iff (by assumption) r.start r.stop i
  · -- Downwards the distances and the step change their signs.
    have hd : 0 < -r.step := by
      have := r.step_ne_zero
      omega
    have h := lt_toNat_ediv_iff hd r.stop r.start i
    rw [Int.mul_neg] at h
    rw [h]
    omega

theorem isAlike_iff {r s : IntRange} : r.isAlike s = true ↔ r.numbers = s.numbers := by
  simp only [isAlike, Bool.and_eq_true, Bool.or_eq_true, beq_iff_eq]
  constructor
  · rintro ⟨hlength, hsame⟩
    refine List.ext_getElem? fun i => ?_
    rw [getElem?_numbers, getElem?_numbers, ← hlength]
    split
    · rename_i hi
      rcases hsame with hzero | ⟨hstart, hone | hstep⟩
      · omega
      · obtain rfl : i = 0 := by omega
        simp [number, hstart]
      · rw [number, number, hstart, hstep]
    · rfl
  · intro h
    have hlength : r.length = s.length := by simpa using congrArg List.length h
    have hnumber (i : Nat) (hi : i < r.length) : r.number i = s.number i := by
      have hsame : r.numbers[i]? = s.numbers[i]? := by rw [h]
      rw [getElem?_numbers, getElem?_numbers, if_pos hi, if_pos (hlength ▸ hi)] at hsame
      exact Option.some.inj hsame
    refine ⟨hlength, Decidable.or_iff_not_imp_left.2 fun hsome => ⟨?_, ?_⟩⟩
    · simpa [number] using hnumber 0 (by omega)
    · refine Decidable.or_iff_not_imp_left.2 fun hmore => ?_
      have hfirst := hnumber 0 (by omega)
      have hsecond := hnumber 1 (by omega)
      simp only [number] at hfirst hsecond
      omega

example : (IntRange.mk 0 10 3 (by decide)).numbers = [0, 3, 6, 9] := by decide

example : (IntRange.mk 5 0 (-2) (by decide)).numbers = [5, 3, 1] := by decide

end IntRange

end Templating
