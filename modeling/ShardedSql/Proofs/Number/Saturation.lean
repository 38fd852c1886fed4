import ShardedSql.Number.Integer

/-!
# Arithmetic that stops at the ends of the range

The integer nearest to a number is the number itself between the ends of the range.
-/

namespace ShardedSql

namespace Integer

theorem toInt_saturate (number : Int) :
    (saturate number).toInt = max least (min greatest number) := by
  unfold saturate
  apply Int64.toInt_ofInt_of_le
  all_goals simp only [least, greatest]
  all_goals omega

theorem saturatingAdd_comm (first second : Int64) :
    saturatingAdd first second = saturatingAdd second first := by
  rw [saturatingAdd, saturatingAdd, Int.add_comm]

/-- A sum of two numbers that are not negative stops at the upper end. -/
theorem toInt_saturatingAdd
    {first second : Int64}
    (isFirst : 0 ≤ first)
    (isSecond : 0 ≤ second) :
    (saturatingAdd first second).toInt = min (first.toInt + second.toInt) greatest := by
  have firstNonneg : 0 ≤ first.toInt := Int64.le_iff_toInt_le.mp isFirst
  have secondNonneg : 0 ≤ second.toInt := Int64.le_iff_toInt_le.mp isSecond
  rw [saturatingAdd, toInt_saturate]
  simp only [least, greatest]
  omega

end Integer

end ShardedSql
