import Cadence.Proofs.Timestamp.Reading

namespace Cadence

/-!
# Time stamps are read back

What is written of an instant is a time stamp of the grammar.  Its numbers are padded
with zeros behind the sign, in which they are read with the value they were written
with; and it writes the civil time of the instant, which leads back to it.
-/

namespace Decimal

/-- Zeros in front of the digits of a number do not change it. -/
theorem writesNatural_zeroPadded (width number : Nat) :
    WritesNatural (zeroPadded width (Nat.toDigits 10 number)) number := by
  obtain ⟨given, digits, value⟩ := writesNatural_toDigits number
  refine ⟨by simp [zeroPadded, given], fun c member => ?_, ?_⟩
  · rcases List.mem_append.mp member with zero | digit
    · rw [List.eq_of_mem_replicate zero]
      decide
    · exact digits c digit
  · rw [zeroPadded, Nat.ofDigitChars_append, Nat.ofDigitChars_replicate_zero, Nat.mul_zero]
    exact value

end Decimal

namespace Timestamp

open Calendar

/-- A padded integer is a number of the grammar. -/
theorem writesNumber_writePadded
    (width : Nat)
    (value : Int) :
    WritesNumber (Decimal.writePadded width value) value := by
  refine @WritesNumber.intro [] (Decimal.writePadded width value) value (by simp) ?_
  unfold Decimal.writePadded
  split
  · next negative =>
      have writes := WritesSigned.minus (Decimal.writesNatural_zeroPadded (width - 1) value.natAbs)
      rwa [show -(value.natAbs : Int) = value by omega] at writes
  · next nonnegative =>
      have writes := WritesSigned.plain (Decimal.writesNatural_zeroPadded width value.natAbs)
      rwa [Int.natAbs_of_nonneg (Int.not_lt.mp nonnegative)] at writes

/-- What is written of an instant writes its civil time. -/
theorem writes_writeChars (instant : Int) :
    Writes (writeChars instant) (CivilTime.ofInstant instant) := by
  have writesDate : WritesTriple '-' _ _ _ _ :=
    .intro (writesNumber_writePadded 4 (CivilTime.ofInstant instant).date.year)
      (writesNumber_writePadded 2 (CivilTime.ofInstant instant).date.month)
      (writesNumber_writePadded 2 (CivilTime.ofInstant instant).date.day)
  have writesTime : WritesTriple ':' _ _ _ _ :=
    .intro (writesNumber_writePadded 2 (CivilTime.ofInstant instant).time.hour)
      (writesNumber_writePadded 2 (CivilTime.ofInstant instant).time.minute)
      (writesNumber_writePadded 2 (CivilTime.ofInstant instant).time.second)
  have writes := Writes.zoned (.dateAndTime writesDate writesTime) (.inl rfl)
  simpa [writeChars] using writes

/-- The numbers of a valid civil time have 32 bits. -/
theorem held_of_valid
    {civil : CivilTime}
    (valid : civil.Valid) :
    Held civil := by
  refine ⟨fun number member => ?_, valid.fits⟩
  obtain ⟨⟨january, december, first, last⟩, time⟩ := valid.existent
  have notLonger := daysInMonth_le civil.date.year civil.date.month
  have fits := valid.fits
  simp only [CivilTime.fields, List.mem_cons, List.not_mem_nil, or_false] at member
  unfold Fits at fits
  unfold TimeOfDay.Exists at time
  unfold Decimal.lowest Decimal.highest
  rcases member with rfl | rfl | rfl | rfl | rfl | rfl <;> omega

/-- What is written of an instant is read as that instant. -/
theorem readChars?_writeChars
    {instant : Int}
    (fits : Fits (yearOf instant)) :
    readChars? (writeChars instant) = some instant := by
  obtain ⟨year, existent, back⟩ := CivilTime.ofInstant_spec fits
  have valid : (CivilTime.ofInstant instant).Valid := ⟨existent, year ▸ fits⟩
  refine readChars?_eq_some_iff.mpr ⟨_, writes_writeChars instant, ?_⟩
  rw [(held_of_valid valid).narrowed_eq]
  exact ⟨existent, valid.counted_eq.trans back⟩

theorem read?_write
    {instant : Int}
    (fits : Fits (yearOf instant)) :
    read? (write instant) = some instant := by
  rw [read?, write, String.toList_ofList]
  exact readChars?_writeChars fits

/-- In the years that dates keep, what is written of an instant is read as that instant, so that
different instants are written differently. -/
theorem read_write_roundTrip :
    (∀ instant, Fits (yearOf instant) → read? (write instant) = some instant) ∧
      ∀ first second, Fits (yearOf first) → Fits (yearOf second) →
        write first = write second → first = second := by
  refine ⟨fun instant => read?_write, fun first second firstFits secondFits same => ?_⟩
  have read := read?_write firstFits
  rw [same, read?_write secondFits] at read
  exact (Option.some.inj read).symm

/-- The first second of the year -5, one in July of the year 987 and the last of the year 32767. -/
theorem read_write_roundTrip_farYears :
    read? (write (-62324985600)) = some (-62324985600) ∧
      read? (write (-31004542491)) = some (-31004542491) ∧
      read? (write CivilTime.latest.counted) = some CivilTime.latest.counted ∧
      write (-62324985600) ≠ write (-31004542491) := by
  obtain ⟨back, injective⟩ := read_write_roundTrip
  exact ⟨back _ (by decide), back _ (by decide), back _ (by decide),
    fun same => absurd (injective _ _ (by decide) (by decide) same) (by decide)⟩

end Timestamp

end Cadence
