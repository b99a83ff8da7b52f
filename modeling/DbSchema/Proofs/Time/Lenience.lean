import DbSchema.Time.Reading

/-!
# Written timestamps are read back

The lenient form of a timestamp takes in what is written for one: the text of a point of time in the
years `0` to `9999` is read as that point of time, to the nanosecond and with a leap second kept.
Every number of the text is followed by something else than a digit, which is why it does not matter
that the lenient form leaves the width of its numbers open.
-/

namespace DbSchema.Timestamp

open Text (isBlank shorterThan_eq_false trimStart)

/-- Whether digits spell a number. -/
structure Spells (digits : List Char) (number : Nat) : Prop where
  nonempty : digits ≠ []
  areDigits : ∀ digit ∈ digits, digit.isDigit = true
  value : Nat.ofDigitChars 10 digits 0 = number

/-- Whether a text does not go on with a digit. -/
def Stops (text : List Char) : Prop :=
  ∀ character, text.head? = some character → character.isDigit = false

theorem stops_cons {character : Char} (rest : List Char) (other : character.isDigit = false) :
    Stops (character :: rest) := by
  simpa [Stops] using other

section Digits

/-- Digits of a fixed width spell the number, if it fits. -/
theorem spells_fixedDigits {width number : Nat} (positive : 0 < width)
    (fits : number < Nat.pow 10 width) : Spells (fixedDigits width number) number := by
  refine ⟨List.ne_nil_of_length_pos (by rwa [length_fixedDigits]),
    fun _ => isDigit_of_mem_fixedDigits, ?_⟩
  clear positive
  induction width generalizing number with
  | zero =>
      obtain rfl : number = 0 := by simpa using fits
      rfl
  | succ width inductionHypothesis =>
      have bound : number < Nat.pow 10 width * 10 := fits
      rw [fixedDigits, Nat.ofDigitChars_append, inductionHypothesis (by omega),
        Nat.ofDigitChars_cons_digitChar_of_lt_ten (by omega), Nat.ofDigitChars_nil]
      omega

/-- A year of at most four digits is written as digits that spell it. -/
theorem spells_yearText {year : Int} (common : 0 ≤ year ∧ year ≤ 9999) :
    Spells (yearText year) year.natAbs ∧ (yearText year).length ≤ 4 := by
  have written : yearText year =
      List.replicate (4 - (naturalText year.natAbs).length) '0' ++ naturalText year.natAbs := by
    simp [yearText, common]
  have short : (naturalText year.natAbs).length ≤ 4 :=
    (Nat.length_toDigits_le_iff (by decide) (by decide)).2 (by omega)
  rw [written]
  refine ⟨⟨List.append_ne_nil_of_right_ne_nil _ Nat.toDigits_ne_nil, ?_, ?_⟩, ?_⟩
  · intro digit member
    rcases List.mem_append.1 member with member | member
    · rw [List.eq_of_mem_replicate member]
      decide
    · exact isDigit_of_mem_naturalText member
  · rw [Nat.ofDigitChars_append, Nat.ofDigitChars_replicate_zero, Nat.mul_zero]
    exact Nat.ofDigitChars_ten_toDigits
  · rw [List.length_append, List.length_replicate]
    omega

end Digits

section Reading

variable {digits rest : List Char} {number : Nat}

/-- Digits are read as far as they go. -/
theorem takeWhile_digits (spells : Spells digits number) (stops : Stops rest) :
    (digits ++ rest).takeWhile Char.isDigit = digits
      ∧ (digits ++ rest).dropWhile Char.isDigit = rest := by
  rw [List.takeWhile_append_of_pos spells.areDigits, List.dropWhile_append_of_pos spells.areDigits]
  cases rest with
  | nil => simp
  | cons character rest => simp [stops character rfl]

/-- A spelled number is read, if its digits are as many as may be read. -/
theorem readNumber_spelled {most : Nat} (spells : Spells digits number)
    (width : digits.length ≤ most) (small : number < 0x8000000000000000) (stops : Stops rest) :
    readNumber 1 (some most) (digits ++ rest) = .ok (number, rest) := by
  have positive := List.length_pos_iff.2 spells.nonempty
  have long : 1 ≤ (digits ++ rest).length := by
    rw [List.length_append]
    omega
  have stopsToo : Stops (rest.take (most - digits.length)) := by
    intro character first
    refine stops character ?_
    rw [List.head?_take] at first
    split at first
    · simp at first
    · exact first
  have taken : ((digits ++ rest).take most).takeWhile Char.isDigit = digits := by
    rw [List.take_append, List.take_of_length_le width]
    exact (takeWhile_digits spells stopsToo).1
  have enough : ¬digits.length < 1 := by omega
  have bounded : ¬0x8000000000000000 ≤ number := by omega
  rw [readNumber, shorterThan_eq_false long]
  simp only [Bool.false_eq_true, ↓reduceIte, Option.getD_some, taken, enough, spells.value, bounded,
    List.drop_left]

/-- A number is read where it is spelled. -/
theorem readOneOf_spelled {most first count : Nat} {index : Fin count}
    (spells : Spells digits (index.val + first)) (width : digits.length ≤ most)
    (small : index.val + first < 0x8000000000000000) (stops : Stops rest) :
    readOneOf 1 most first count (digits ++ rest) = .ok (index, rest) := by
  rw [readOneOf, readNumber_spelled spells width small stops]
  simp [bind, Except.bind]

/-- A number of at most two digits is read from two digits. -/
theorem readOneOf_fixedDigits {first count : Nat} (index : Fin count)
    (bound : first + count ≤ 100) (stops : Stops rest) :
    readOneOf 1 2 first count (fixedDigits 2 (index.val + first) ++ rest) = .ok (index, rest) :=
  readOneOf_spelled (spells_fixedDigits (by decide) (show index.val + first < 100 by omega))
    (Nat.le_of_eq (length_fixedDigits 2 _)) (by omega) stops

/-- There are no blanks at the start of digits. -/
theorem trimStart_digits (nonempty : digits ≠ [])
    (areDigits : ∀ digit ∈ digits, digit.isDigit = true) (rest : List Char) :
    trimStart (digits ++ rest) = digits ++ rest := by
  obtain ⟨digit, others, rfl⟩ := List.exists_cons_of_ne_nil nonempty
  have isDigit := areDigits digit List.mem_cons_self
  have noBlank : isBlank digit = false := by
    rw [Char.isDigit, Bool.and_eq_true, decide_eq_true_eq, decide_eq_true_eq] at isDigit
    have least : 48 ≤ digit.toNat := isDigit.1
    have greatest : digit.toNat ≤ 57 := isDigit.2
    simp only [isBlank, Bool.or_eq_false_iff, Bool.and_eq_false_iff, decide_eq_false_iff_not,
      beq_eq_false_iff_ne]
    omega
  simp [trimStart, noBlank]

/-- There are no blanks at the start of a number of fixed width. -/
theorem trimStart_fixedDigits {width : Nat} (positive : 0 < width) (number : Nat)
    (rest : List Char) :
    trimStart (fixedDigits width number ++ rest) = fixedDigits width number ++ rest :=
  trimStart_digits (List.ne_nil_of_length_pos (by rwa [length_fixedDigits]))
    (fun _ => isDigit_of_mem_fixedDigits) rest

/-- The seconds end where the fraction starts, or where there is none. -/
theorem stops_fractionText (nanosecond : Nat) : Stops (fractionText nanosecond ++ ['Z']) := by
  unfold fractionText
  repeat' split
  all_goals exact stops_cons _ (by decide)

/-- The fraction of a second is read back. -/
theorem readFraction_fractionText (nanosecond : Fin 1000000000) :
    readFraction (fractionText nanosecond ++ ['Z']) = .ok (nanosecond, ['Z']) := by
  have bound := nanosecond.isLt
  have read {width places : Nat} (some : 0 < width) (most : width ≤ 9)
      (fits : places < Nat.pow 10 width) (small : places < 0x8000000000000000)
      (same : places * Nat.pow 10 (9 - width) = nanosecond.val) :
      readFraction ('.' :: fixedDigits width places ++ ['Z']) = .ok (nanosecond, ['Z']) := by
    have spells := spells_fixedDigits some fits
    have stops : Stops ['Z'] := stops_cons [] (by decide)
    have number := readNumber_spelled spells
      (Nat.le_trans (Nat.le_of_eq (length_fixedDigits width places)) most) small stops
    have wide : (fixedDigits width places ++ ['Z']).length - ['Z'].length = width := by
      rw [List.length_append, Nat.add_sub_cancel, length_fixedDigits]
    have value : nanosecondOf (places * Nat.pow 10 (9 - width)) = nanosecond := by
      rw [same]
      exact Fin.ofNat_val_eq_self nanosecond
    rw [List.cons_append, readFraction, number]
    simp only [bind, Except.bind, wide, value]
    rfl
  unfold fractionText
  split
  case isTrue zero =>
    obtain rfl : nanosecond = 0 := Fin.ext (beq_iff_eq.1 zero)
    rfl
  split
  case isTrue milli =>
    have whole := Nat.dvd_of_mod_eq_zero (beq_iff_eq.1 milli)
    have fits : nanosecond.val / 1000000 < 1000 := by omega
    exact read (by decide) (by decide) fits (by omega) (Nat.div_mul_cancel whole)
  split
  case isTrue micro =>
    have whole := Nat.dvd_of_mod_eq_zero (beq_iff_eq.1 micro)
    have fits : nanosecond.val / 1000 < 1000000 := by omega
    exact read (by decide) (by decide) fits (by omega) (Nat.div_mul_cancel whole)
  case isFalse => exact read (by decide) (by decide) bound (by omega) (Nat.mul_one _)

/-- A year of at most four digits is read without a sign. -/
theorem readSignedYear_yearText {year : Int} (common : 0 ≤ year ∧ year ≤ 9999)
    (stops : Stops rest) : readSignedYear (yearText year ++ rest) = .ok (year, rest) := by
  obtain ⟨spells, width⟩ := spells_yearText common
  have number := readNumber_spelled spells width (by omega) stops
  have same : (year.natAbs : Int) = year := Int.natAbs_of_nonneg common.1
  have bounded : -2147483648 ≤ year ∧ year ≤ 2147483647 := by omega
  obtain ⟨digit, others, written⟩ := List.exists_cons_of_ne_nil spells.nonempty
  have isDigit := spells.areDigits digit (by simp [written])
  unfold readSignedYear
  split
  case h_1 minus =>
    rw [written, List.cons_append] at minus
    exact absurd ((List.cons.inj minus).1 ▸ isDigit) (by decide)
  case h_2 plus =>
    rw [written, List.cons_append] at plus
    exact absurd ((List.cons.inj plus).1 ▸ isDigit) (by decide)
  case h_3 =>
    rw [number]
    simp [bind, Except.bind, same, bounded.1, bounded.2]

/-- The years of at most four digits are reached. -/
theorem isReached_of_common {year : Int} (common : 0 ≤ year ∧ year ≤ 9999) :
    isReached year = true := by
  have least : leastYear ≤ year := Int.le_trans (by decide) common.1
  have greatest : year ≤ greatestYear := Int.le_trans common.2 (by decide)
  simp [isReached, least, greatest]

/-- A day of the calendar is read as itself. -/
theorem dayOf_castLE {year : Int} {month : Fin 12} (day : Fin (lastDay year month + 1))
    (reached : isReached year = true) :
    dayOf year month (day.castLE (Nat.succ_le_succ (lastDay_le year month))) = .ok day := by
  rw [dayOf, dif_pos ⟨Nat.le_of_lt_succ day.isLt, reached⟩]
  rfl

theorem minuteOfDay_lt (time : Timestamp) : time.minuteOfDay < 1440 := by
  have hours := time.hour.isLt
  have minutes := time.minute.isLt
  rw [minuteOfDay]
  omega

theorem atMinuteOfDay_minuteOfDay (time : Timestamp) :
    time.atMinuteOfDay time.minuteOfDay = time := by
  have hours := time.hour.isLt
  have minutes := time.minute.isLt
  have hour : Fin.ofNat 24 (time.minuteOfDay / 60) = time.hour := by
    refine Fin.ext ?_
    rw [Fin.val_ofNat, minuteOfDay]
    omega
  have minute : Fin.ofNat 60 time.minuteOfDay = time.minute := by
    refine Fin.ext ?_
    rw [Fin.val_ofNat, minuteOfDay]
    omega
  rw [atMinuteOfDay, hour, minute]

/-- A clock that shows UTC shows the point of time itself. -/
theorem ofLocal_zero {time : Timestamp} (reached : isReached time.year = true) :
    ofLocal 0 time = .ok time := by
  have bound := minuteOfDay_lt time
  have least : ¬(time.minuteOfDay : Int) < 0 := by omega
  have greatest : ¬(1440 : Int) ≤ time.minuteOfDay := by omega
  have rest : ((time.minuteOfDay : Int) % 1440).toNat = time.minuteOfDay := by omega
  have stays : shiftMinutes? (-0) time = some time := by
    simp only [shiftMinutes?, Int.neg_zero, Int.add_zero, Int.ofNat_eq_natCast, least, greatest,
      ↓reduceIte, reached, rest, atMinuteOfDay_minuteOfDay]
  rw [ofLocal, stays]
  rfl

end Reading

/-- A timestamp in a year of at most four digits is read back from its text. -/
theorem ofLenientText?_text {time : Timestamp} (common : 0 ≤ time.year ∧ time.year ≤ 9999) :
    ofLenientText? time.text = .ok time := by
  have reached := isReached_of_common common
  have spells := (spells_yearText common).1
  have dash (rest : List Char) : Stops ('-' :: rest) := stops_cons rest (by decide)
  have colon (rest : List Char) : Stops (':' :: rest) := stops_cons rest (by decide)
  have divider (rest : List Char) : Stops ('T' :: rest) := stops_cons rest (by decide)
  have month (rest : List Char) :
      readOneOf 1 2 1 12 (fixedDigits 2 (time.month.val + 1) ++ '-' :: rest) =
        .ok (time.month, '-' :: rest) :=
    readOneOf_fixedDigits time.month (by decide) (dash rest)
  have day (rest : List Char) :
      readOneOf 1 2 1 31 (fixedDigits 2 (time.day.val + 1) ++ 'T' :: rest) =
        .ok (time.day.castLE (Nat.succ_le_succ (lastDay_le _ _)), 'T' :: rest) :=
    readOneOf_fixedDigits (time.day.castLE _) (by decide) (divider rest)
  have hour (rest : List Char) :
      readOneOf 1 2 0 24 (fixedDigits 2 time.hour ++ ':' :: rest) = .ok (time.hour, ':' :: rest) :=
    readOneOf_fixedDigits time.hour (by decide) (colon rest)
  have minute (rest : List Char) :
      readOneOf 1 2 0 60 (fixedDigits 2 time.minute ++ ':' :: rest) =
        .ok (time.minute, ':' :: rest) :=
    readOneOf_fixedDigits time.minute (by decide) (colon rest)
  have second : readOneOf 1 2 0 61 (fixedDigits 2 time.second ++
      (fractionText time.nanosecond ++ ['Z'])) =
        .ok (time.second, fractionText time.nanosecond ++ ['Z']) :=
    readOneOf_fixedDigits time.second (by decide) (stops_fractionText _)
  have marked (mark : Char) (visible : isBlank mark = false) (rest : List Char) :
      readMark mark (trimStart (mark :: rest)) = .ok ((), rest) := by
    simp [trimStart, visible, readMark]
  have divided (rest : List Char) : readDivider ('T' :: rest) = .ok ((), rest) := rfl
  have offset : readLenientOffset (trimStart ['Z']) = .ok (0, []) := rfl
  rw [ofLenientText?, text, String.toList_ofList, secondText]
  simp only [List.append_assoc, List.cons_append, List.nil_append, bind, Except.bind,
    trimStart_digits spells.nonempty spells.areDigits, readSignedYear_yearText common (dash _),
    divided, marked '-' (by decide), marked ':' (by decide), trimStart_fixedDigits Nat.two_pos,
    month, day, hour, minute, second, readFraction_fractionText, offset, dayOf_castLE _ reached]
  exact ofLocal_zero reached

end DbSchema.Timestamp
