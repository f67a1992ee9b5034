import DocQuery.Engine.Arithmetic
import DocQuery.Proofs.Value.Integers

/-!
# Integers and their widths

An integer value is its integer and its width: 32 bits or 64.  Arithmetic gives a result in the wide
type or, where the operands are narrow, in the narrowest type that holds it.
-/

namespace DocQuery

variable {n x : Int}

/-- Whether an integer is in the range of 32 signed bits. -/
def IsInt32 (n : Int) : Prop := Int32.minValue.toInt ≤ n ∧ n ≤ Int32.maxValue.toInt

/-- Whether an integer is in the range of 64 signed bits. -/
def IsInt64 (n : Int) : Prop := Int64.minValue.toInt ≤ n ∧ n ≤ Int64.maxValue.toInt

instance : DecidablePred IsInt32 := fun n =>
  inferInstanceAs (Decidable (Int32.minValue.toInt ≤ n ∧ n ≤ Int32.maxValue.toInt))

instance : DecidablePred IsInt64 := fun n =>
  inferInstanceAs (Decidable (Int64.minValue.toInt ≤ n ∧ n ≤ Int64.maxValue.toInt))

theorem isInt32_iff : IsInt32 n ↔ -2147483648 ≤ n ∧ n ≤ 2147483647 := Iff.rfl

theorem isInt64_iff : IsInt64 n ↔ -9223372036854775808 ≤ n ∧ n ≤ 9223372036854775807 := Iff.rfl

theorem IsInt32.isInt64 (h : IsInt32 n) : IsInt64 n := by
  rw [isInt32_iff] at h
  rw [isInt64_iff]
  omega

theorem isInt64_saturate (n : Int) : IsInt64 (saturate n) := by
  have hbounds : Int64.minValue.toInt ≤ Int64.maxValue.toInt := by decide
  unfold saturate IsInt64
  omega

theorem saturate_of_isInt64 (h : IsInt64 n) : saturate n = n := by
  unfold IsInt64 at h
  unfold saturate
  omega

namespace Value

variable {value other : Value}

/-- Whether a value is an integer of 64 bits. -/
def isWide : Value → Bool
  | .int64 _ => true
  | _ => false

@[simp] theorem isWide_int32 (n : Int32) : (int32 n).isWide = false := rfl

@[simp] theorem isWide_int64 (n : Int64) : (int64 n).isWide = true := rfl

theorem isInt32_toInt (n : Int32) : IsInt32 n.toInt := ⟨n.le_toInt, Int.le_of_lt_add_one n.toInt_lt⟩

theorem isInt64_of_asInteger? (h : value.asInteger? = some x) : IsInt64 x := by
  rcases cases_of_asInteger? h with ⟨n, -, rfl⟩ | ⟨n, -, rfl⟩
  · exact (isInt32_toInt n).isInt64
  · exact ⟨n.le_toInt, Int.le_of_lt_add_one n.toInt_lt⟩

theorem isInt32_of_asInteger? (h : value.asInteger? = some x) (hnarrow : value.isWide = false) :
    IsInt32 x := by
  rcases cases_of_asInteger? h with ⟨n, -, rfl⟩ | ⟨n, rfl, -⟩
  · exact isInt32_toInt n
  · cases hnarrow

/-- An integer value is known by its integer and its width. -/
theorem eq_of_asInteger?_of_isWide (hvalue : value.asInteger? = some x)
    (hother : other.asInteger? = some x) (hwide : value.isWide = other.isWide) :
    value = other := by
  rcases cases_of_asInteger? hvalue with ⟨n, rfl, hn⟩ | ⟨n, rfl, hn⟩ <;>
    rcases cases_of_asInteger? hother with ⟨m, rfl, hm⟩ | ⟨m, rfl, hm⟩
  · rw [Int32.toInt_inj.mp (hn.trans hm.symm)]
  · cases hwide
  · cases hwide
  · rw [Int64.toInt_inj.mp (hn.trans hm.symm)]

/-! ## Results -/

theorem asInteger?_ofInt64 (h : IsInt64 n) : (ofInt64 n).asInteger? = some n :=
  congrArg some (Int64.toInt_ofInt_of_le h.1 (Int.lt_add_one_of_le h.2))

theorem asInteger?_ofIntNarrow (h : IsInt64 n) : (ofIntNarrow n).asInteger? = some n := by
  unfold ofIntNarrow
  split
  · rename_i hnarrow
    exact congrArg some (Int32.toInt_ofInt_of_le hnarrow.1 (Int.lt_add_one_of_le hnarrow.2))
  · exact asInteger?_ofInt64 h

@[simp] theorem isWide_ofInt64 (n : Int) : (ofInt64 n).isWide = true := rfl

@[simp] theorem isWide_ofIntNarrow (n : Int) : (ofIntNarrow n).isWide = true ↔ ¬IsInt32 n := by
  unfold ofIntNarrow
  split
  · rename_i hnarrow
    exact iff_of_false Bool.false_ne_true (not_not_intro hnarrow)
  · rename_i hwide
    exact iff_of_true rfl hwide

end Value

end DocQuery
