/-!
# Signed words

Some integers are kept in signed words of 64 bits.  A word holds the integers up to its limits;
of any other integer it keeps the remainder that lies between them.
-/

namespace LeaseQueue

/-- Whether a signed 64-bit word holds an integer. -/
def FitsWord (n : Int) : Prop := -9223372036854775808 ≤ n ∧ n ≤ 9223372036854775807

instance (n : Int) : Decidable (FitsWord n) := inferInstanceAs (Decidable (_ ∧ _))

/-- What a signed 64-bit word keeps of an integer. -/
def inWord (n : Int) : Int := (Int64.ofInt n).toInt

/-- An integer that a word holds is kept as it is. -/
theorem inWord_of_fits {n : Int} (h : FitsWord n) : inWord n = n :=
  Int64.toInt_ofInt_of_le h.1 (Int.lt_of_le_sub_one h.2)

/-- Adding word by word keeps the same as adding first. -/
theorem inWord_add (m n : Int) : inWord (inWord m + n) = inWord (m + n) := by
  unfold inWord
  rw [Int64.ofInt_add, Int64.ofInt_add, Int64.ofInt_toInt]

end LeaseQueue
