import DocQuery.Proofs.Binary64.Truncation
import DocQuery.Proofs.Engine.Arithmetic
import DocQuery.Proofs.Engine.Update

/-!
# Incremented integers

An increment whose sum is in the range of 64 bits leaves an integer at its path, of 64 bits if one of
the operands is or the sum needs them.  It is the sum of the operands as they are read back from
binary64 numbers: the exact sum if 53 significant bits are enough for both, and no further from it
than their `2 ^ 53`th parts together.
-/

namespace DocQuery

open Binary64 (ReadsBack)

variable {a b x : Int} {current amount : Value}

/-- The integer that an increment leaves of two integers. -/
def incrementedInt (a b : Int) : Int :=
  saturate ((Binary64.ofInt a).toInt64 + (Binary64.ofInt b).toInt64)

theorem readsBack_of_isInt32 (h : IsInt32 x) : ReadsBack x := by
  rw [isInt32_iff] at h
  refine .inl (Binary64.fits_of_lt ?_)
  rw [Binary64.two_pow_53]
  omega

theorem toInt64_ofInt_of_readsBack (hx : IsInt64 x) (h : ReadsBack x) :
    (Binary64.ofInt x).toInt64 = x :=
  (Binary64.toInt64_ofInt_eq_iff hx.1 hx.2).mpr h

theorem incrementedInt_of_readsBack (ha : IsInt64 a) (hb : IsInt64 b) (hsum : IsInt64 (a + b))
    (hareads : ReadsBack a) (hbreads : ReadsBack b) : incrementedInt a b = a + b := by
  rw [incrementedInt, toInt64_ofInt_of_readsBack ha hareads, toInt64_ofInt_of_readsBack hb hbreads]
  exact saturate_of_isInt64 hsum

/-- Between the bounds of 64 bits, an error in one operand alone is an error in the sum. -/
theorem readsBack_of_incrementedInt_eq (ha : IsInt64 a) (hb : IsInt64 b)
    (hlow : Int64.minValue.toInt < a + b) (hhigh : a + b < Int64.maxValue.toInt)
    (hone : ReadsBack a ∨ ReadsBack b) (h : incrementedInt a b = a + b) :
    ReadsBack a ∧ ReadsBack b := by
  have hexact : (Binary64.ofInt a).toInt64 + (Binary64.ofInt b).toInt64 = a + b := by
    unfold incrementedInt saturate at h
    omega
  rcases hone with hareads | hbreads
  · have haexact := toInt64_ofInt_of_readsBack ha hareads
    have hbexact : (Binary64.ofInt b).toInt64 = b := by omega
    exact ⟨hareads, (Binary64.toInt64_ofInt_eq_iff hb.1 hb.2).mp hbexact⟩
  · have hbexact := toInt64_ofInt_of_readsBack hb hbreads
    have haexact : (Binary64.ofInt a).toInt64 = a := by omega
    exact ⟨(Binary64.toInt64_ofInt_eq_iff ha.1 ha.2).mp haexact, hbreads⟩

theorem incrementedInt_near (ha : IsInt64 a) (hb : IsInt64 b) (hsum : IsInt64 (a + b)) :
    (incrementedInt a b - (a + b)).natAbs * Nat.pow 2 53 ≤ a.natAbs + b.natAbs := by
  have hanear := Binary64.toInt64_ofInt_near ha.1 ha.2
  have hbnear := Binary64.toInt64_ofInt_near hb.1 hb.2
  -- Stopping at a bound brings the result nearer to a sum that is within the bounds.
  have herror : (incrementedInt a b - (a + b)).natAbs ≤
      ((Binary64.ofInt a).toInt64 - a).natAbs + ((Binary64.ofInt b).toInt64 - b).natAbs := by
    unfold IsInt64 at hsum
    unfold incrementedInt saturate
    omega
  calc (incrementedInt a b - (a + b)).natAbs * Nat.pow 2 53
      ≤ (((Binary64.ofInt a).toInt64 - a).natAbs + ((Binary64.ofInt b).toInt64 - b).natAbs) *
          Nat.pow 2 53 := Nat.mul_le_mul_right _ herror
    _ = ((Binary64.ofInt a).toInt64 - a).natAbs * Nat.pow 2 53 +
          ((Binary64.ofInt b).toInt64 - b).natAbs * Nat.pow 2 53 := Nat.add_mul _ _ _
    _ ≤ a.natAbs + b.natAbs := Nat.add_le_add hanear hbnear

/-- Integers of any widths are incremented by way of binary64 numbers, except that two narrow ones,
    which binary64 numbers hold exactly, may leave a narrow result. -/
theorem incremented?_of_integers (ha : current.asInteger? = some a)
    (hb : amount.asInteger? = some b) (hsum : IsInt64 (a + b)) :
    ∃ next, incremented? current amount = some next ∧
      next.asInteger? = some (incrementedInt a b) ∧
      (next.isWide = true ↔
        current.isWide = true ∨ amount.isWide = true ∨ ¬IsInt32 (a + b)) := by
  have hwide : (Value.ofInt64 (incrementedInt a b)).asInteger? = some (incrementedInt a b) :=
    Value.asInteger?_ofInt64 (isInt64_saturate _)
  rcases Value.cases_of_asInteger? ha with ⟨m, rfl, rfl⟩ | ⟨m, rfl, rfl⟩
  · rcases Value.cases_of_asInteger? hb with ⟨n, rfl, rfl⟩ | ⟨n, rfl, rfl⟩
    · -- Two narrow integers are added as they are, which is what the detour would give, too.
      have hexact : incrementedInt m.toInt n.toInt = m.toInt + n.toInt :=
        incrementedInt_of_readsBack (Value.isInt64_of_asInteger? ha)
          (Value.isInt64_of_asInteger? hb) hsum (readsBack_of_isInt32 (Value.isInt32_toInt m))
          (readsBack_of_isInt32 (Value.isInt32_toInt n))
      refine ⟨Value.ofIntNarrow (m.toInt + n.toInt), rfl, ?_, ?_⟩
      · rw [hexact]
        exact Value.asInteger?_ofIntNarrow hsum
      · simp
    · exact ⟨_, rfl, hwide, by simp⟩
  · rcases Value.cases_of_asInteger? hb with ⟨n, rfl, rfl⟩ | ⟨n, rfl, rfl⟩
    · exact ⟨_, rfl, hwide, by simp⟩
    · exact ⟨_, rfl, hwide, by simp⟩

/-- An integer is incremented by another, their sum being in the range of 64 bits.  The integer left
    at the path is as wide as the operands and the sum need.  It is the sum if both operands are narrow,
    and whenever both are read back from binary64 numbers as they were; if one of them is and the sum is
    between the bounds, only then.  It is never further from the sum than the `2 ^ 53`th parts of the
    operands. -/
theorem Document.updated_increment (doc : Document) (path : String)
    (ha : ((doc.getPath? path).getD (.int32 0)).asInteger? = some a)
    (hb : amount.asInteger? = some b) (hsum : IsInt64 (a + b)) :
    ∃ next stored,
      doc.updated [("$inc", .document [(path, amount)])] = .ok (doc.setPath path next) ∧
      (doc.setPath path next).getPath? path = some next ∧
      next.asInteger? = some stored ∧
      (next.isWide = true ↔ ((doc.getPath? path).getD (.int32 0)).isWide = true ∨
        amount.isWide = true ∨ ¬IsInt32 (a + b)) ∧
      (((doc.getPath? path).getD (.int32 0)).isWide = false → amount.isWide = false →
        stored = a + b) ∧
      (ReadsBack a → ReadsBack b → stored = a + b) ∧
      (ReadsBack a ∨ ReadsBack b → Int64.minValue.toInt < a + b → a + b < Int64.maxValue.toInt →
        stored = a + b → ReadsBack a ∧ ReadsBack b) ∧
      (stored - (a + b)).natAbs * Nat.pow 2 53 ≤ a.natAbs + b.natAbs := by
  obtain ⟨next, hnext, hstored, hwide⟩ := incremented?_of_integers ha hb hsum
  have hupdated : doc.updated [("$inc", .document [(path, amount)])] =
      .ok (doc.setPath path next) := by
    rw [updated_single]
    show Update.increment doc path amount = _
    rw [Update.increment, hnext]
  have haRange := Value.isInt64_of_asInteger? ha
  have hbRange := Value.isInt64_of_asInteger? hb
  have hexact := incrementedInt_of_readsBack haRange hbRange hsum
  exact ⟨next, incrementedInt a b, hupdated, getPath?_setPath_self doc path next, hstored, hwide,
    fun hanarrow hbnarrow => hexact (readsBack_of_isInt32 (Value.isInt32_of_asInteger? ha hanarrow))
      (readsBack_of_isInt32 (Value.isInt32_of_asInteger? hb hbnarrow)),
    hexact,
    fun hone hlow hhigh => readsBack_of_incrementedInt_eq haRange hbRange hlow hhigh hone,
    incrementedInt_near haRange hbRange hsum⟩

/-- The first integer that is not read back as it was, which one more visit leaves short by one. -/
theorem Document.updated_increment_visits :
    ∃ next stored,
      Document.updated [("visits", .int64 9007199254740993)]
          [("$inc", .document [("visits", .int32 1)])] =
        .ok (setPath [("visits", .int64 9007199254740993)] "visits" next) ∧
      next.asInteger? = some stored ∧ next.isWide = true ∧
      stored ≠ 9007199254740994 ∧ (stored - 9007199254740994).natAbs ≤ 1 := by
  have hcurrent : ((getPath? [("visits", .int64 9007199254740993)] "visits").getD
      (.int32 0)).asInteger? = some 9007199254740993 := by decide
  have hamount : (Value.int32 1).asInteger? = some 1 := rfl
  obtain ⟨next, stored, hupdated, -, hstored, hwide, -, -, honly, hnear⟩ :=
    updated_increment [("visits", .int64 9007199254740993)] "visits" hcurrent hamount (by decide)
  have hreads : ReadsBack 1 := .inl (Binary64.fits_of_lt (by decide))
  have hlost : ¬ReadsBack 9007199254740993 :=
    mt (Binary64.toInt64_ofInt_eq_iff (by decide) (by decide)).mpr (by decide)
  refine ⟨next, stored, hupdated, hstored, hwide.mpr (.inl (by decide)), ?_, ?_⟩
  · intro hexact
    exact hlost (honly (.inr hreads) (by decide) (by decide) hexact).1
  · rw [Binary64.two_pow_53] at hnear
    omega

end DocQuery
