/-!
# Word sizes

Numbers of fixed width are naturals and integers here, together with the limits
that the width sets.
-/

namespace RobotConsole
namespace Numeric

abbrev wordSize (bits : Nat) : Nat :=
  1 <<< bits

/-- Whether an integer fits into 64 bits, one of them the sign. -/
def fitsInt64 (n : Int) : Bool :=
  -(wordSize 63 : Int) ≤ n && n < wordSize 63

theorem fitsInt64_iff {n : Int} :
    fitsInt64 n ↔ -9223372036854775808 ≤ n ∧ n < 9223372036854775808 := by
  have half : (wordSize 63 : Int) = 9223372036854775808 := by decide
  unfold fitsInt64
  rw [half, Bool.and_eq_true, decide_eq_true_eq, decide_eq_true_eq]

/-- What 64 bits, one of them the sign, keep of an integer. -/
def wrapInt64 (n : Int) : Int :=
  n.bmod (wordSize 64)

theorem wrapInt64_of_fits {n : Int} (fits : fitsInt64 n) : wrapInt64 n = n := by
  obtain ⟨low, high⟩ := fitsInt64_iff.1 fits
  have whole : wordSize 64 = 18446744073709551616 := by decide
  unfold wrapInt64
  rw [whole]
  exact Int.bmod_eq_of_le (by omega) (by omega)

end Numeric
end RobotConsole
