import Flowline.Proofs.Calendar
set_option autoImplicit false

/-!
# Instants written and read back

`Timestamp.rfc3339` writes an instant as its date, its time of day to the
second, the fraction of the second when it is not zero, and `Z`:
`2024-05-01T12:00:00.5Z`. `Timestamp.parse` reads such a text field by field.

Each field reader is complete in the prefix form: given the characters
written for a field followed by any rest that does not start with a digit,
it gives the field's value and that rest (`Timestamp.number_digits`,
`Timestamp.field_pad`, `Timestamp.year_yearText`, `Timestamp.fractionOf_digits`).
Chained along the text, they read every instant back as itself, provided its
day lies in the years the reader accepts and its leap flag marks a second
ending in `:59`, the only second a leap second follows
(`Timestamp.parse_rfc3339`).
-/

namespace Flowline

namespace Timestamp

/-! ## Digits -/

/-- The digits of a number written with at least `width` digits: zeros in
front of the number's own digits. -/
theorem toList_pad (width n : Nat) :
    (pad width n).toList =
      List.replicate (width - (Nat.toDigits 10 n).length) '0' ++ Nat.toDigits 10 n := by
  simp [pad, Nat.repr_eq_ofList_toDigits]

theorem isDigit_of_mem_pad {width n : Nat} {c : Char} (h : c ∈ (pad width n).toList) :
    c.isDigit = true := by
  rw [toList_pad, List.mem_append, List.mem_replicate] at h
  rcases h with ⟨-, rfl⟩ | h
  · rfl
  · exact Nat.isDigit_of_mem_toDigits (by decide) (by decide) h

/-- The value of the digits written for a number is the number. -/
theorem ofDigitChars_pad (width n : Nat) : Nat.ofDigitChars 10 (pad width n).toList 0 = n := by
  rw [toList_pad, Nat.ofDigitChars_append, Nat.ofDigitChars_replicate_zero, Nat.mul_zero,
    Nat.ofDigitChars_ten_toDigits]

/-- A number below `10 ^ width` is written with exactly `width` digits. -/
theorem length_pad {width n : Nat} (hw : 0 < width) (hn : n < Nat.pow 10 width) :
    (pad width n).toList.length = width := by
  have := (Nat.length_toDigits_le_iff (by decide) hw).2 hn
  rw [toList_pad, List.length_append, List.length_replicate]
  omega

theorem pad_ne_nil (width n : Nat) : (pad width n).toList ≠ [] := by
  rw [toList_pad]
  simp

/-- A digit is no blank. -/
theorem isSpace_of_isDigit {c : Char} (h : c.isDigit = true) : Text.isSpace c = false := by
  have := Char.isDigit_iff_toNat.1 h
  simp only [Char.reduceToNat] at this
  simp only [Text.isSpace, Bool.or_eq_false_iff, Bool.and_eq_false_iff, decide_eq_false_iff_not,
    beq_eq_false_iff_ne, ne_eq]
  omega

/-- Whether a text does not start with a digit, so that a number written
before it ends where it starts. -/
def EndsNumber (rest : List Char) : Prop := ∀ c ∈ rest.head?, c.isDigit = false

theorem endsNumber_cons {c : Char} {rest : List Char} (h : c.isDigit = false) :
    EndsNumber (c :: rest) := by
  intro d hd
  cases hd
  exact h

theorem endsNumber_nil : EndsNumber [] := by
  intro d hd
  cases hd

/-! ## Field readers -/

variable {rest : List Char}

/-- Reading digits followed by a rest that does not start with one gives their
value and the rest. -/
theorem number_digits {least most : Nat} {ds : List Char} (hds : ∀ c ∈ ds, c.isDigit = true)
    (hne : ds ≠ []) (hleast : least ≤ ds.length) (hmost : ds.length ≤ most) (hrest : EndsNumber rest)
    (hval : Nat.ofDigitChars 10 ds 0 < Nat.pow 2 63) :
    number least most (ds ++ rest) = .ok (Nat.ofDigitChars 10 ds 0, rest) := by
  have htake : (ds ++ rest).takeWhile Char.isDigit = ds := by
    rw [List.takeWhile_append_of_pos hds]
    cases rest with
    | nil => simp
    | cons c r => simp [hrest c rfl]
  have hempty : (ds ++ rest).isEmpty = false := by
    cases ds with
    | nil => exact absurd rfl hne
    | cons c r => rfl
  have hfold : ds.foldl (fun acc c => 10 * acc + (c.toNat - 48)) 0 = Nat.ofDigitChars 10 ds 0 := rfl
  simp only [number, hempty, htake, List.take_of_length_le hmost, hfold, Bool.false_eq_true,
    if_false, if_neg (Nat.not_lt.2 hleast), if_neg (Nat.not_le.2 hval), List.drop_left]

/-- Reading the digits written for a number gives the number. -/
theorem number_pad {least most width n : Nat} (hleast : least ≤ (pad width n).toList.length)
    (hmost : (pad width n).toList.length ≤ most) (hrest : EndsNumber rest) (hn : n < Nat.pow 2 63) :
    number least most ((pad width n).toList ++ rest) = .ok (n, rest) := by
  have h := number_digits (fun c hc => isDigit_of_mem_pad hc) (pad_ne_nil width n) hleast hmost hrest
    (by rw [ofDigitChars_pad]; exact hn)
  rwa [ofDigitChars_pad] at h

/-- Blanks are skipped only where there are some. -/
theorem skipSpace_pad (width n : Nat) (rest : List Char) :
    skipSpace ((pad width n).toList ++ rest) = (pad width n).toList ++ rest := by
  obtain ⟨c, cs, hc⟩ := List.exists_cons_of_ne_nil (pad_ne_nil width n)
  have hdigit : c.isDigit = true := isDigit_of_mem_pad (by rw [hc]; exact List.mem_cons_self)
  rw [hc, List.cons_append, skipSpace, List.dropWhile_cons_of_neg (by simp [isSpace_of_isDigit hdigit])]

theorem skipSpace_cons {c : Char} (h : Text.isSpace c = false) (cs : List Char) :
    skipSpace (c :: cs) = c :: cs := by
  rw [skipSpace, List.dropWhile_cons_of_neg (by simp [h])]

/-- A field written with `width` digits is read back when its value lies in
the field's range. -/
theorem field_pad {most width n : Nat} {lo hi : Int} (hw : 0 < width) (hn : n < Nat.pow 10 width)
    (hmost : width ≤ most) (hlo : lo ≤ n) (hhi : n ≤ hi) (hrest : EndsNumber rest)
    (hfit : n < Nat.pow 2 63) :
    field most lo hi ((pad width n).toList ++ rest) = .ok (n, rest) := by
  have hlen := length_pad hw hn
  have hnum : number 1 most ((pad width n).toList ++ rest) = .ok (n, rest) :=
    number_pad (by omega) (by omega) hrest hfit
  have hrange : (decide ((n : Int) < lo) || decide ((n : Int) > hi)) = false := by
    simp only [Bool.or_eq_false_iff, decide_eq_false_iff_not]
    omega
  simp only [field, skipSpace_pad, hnum, bind, Except.bind, hrange]
  rfl

/-- A year written with a sign or with four digits is read back, when it
lies in the years the reader accepts. -/
theorem year_yearText {y : Int} (hlo : -262144 ≤ y) (hhi : y ≤ 262143) (hrest : EndsNumber rest) :
    year ((yearText y).toList ++ rest) = .ok (y, rest) := by
  have hbound : Nat.pow 2 31 = 2147483648 := rfl
  have hbound' : Nat.pow 2 63 = 9223372036854775808 := rfl
  have hcheck : (decide (y < -(Nat.pow 2 31 : Int)) || decide (y ≥ (Nat.pow 2 31 : Int))) = false := by
    simp only [Bool.or_eq_false_iff, decide_eq_false_iff_not, hbound]
    omega
  unfold yearText
  split
  · -- Four digits, read as such: the first is no sign.
    rename_i hfour
    have hlen : (pad 4 y.toNat).toList.length = 4 :=
      length_pad (by decide) (by rw [show Nat.pow 10 4 = 10000 from rfl]; omega)
    have hnum : number 1 4 ((pad 4 y.toNat).toList ++ rest) = .ok (y.toNat, rest) :=
      number_pad (by omega) (by omega) hrest (by omega)
    obtain ⟨c, cs, hc⟩ := List.exists_cons_of_ne_nil (pad_ne_nil 4 y.toNat)
    have hdigit : c.isDigit = true := isDigit_of_mem_pad (by rw [hc]; exact List.mem_cons_self)
    unfold year
    rw [skipSpace_pad]
    split
    · rename_i more heq
      rw [hc, List.cons_append, List.cons.injEq] at heq
      rw [heq.1] at hdigit
      exact absurd hdigit (by decide)
    · rename_i more heq
      rw [hc, List.cons_append, List.cons.injEq] at heq
      rw [heq.1] at hdigit
      exact absurd hdigit (by decide)
    · simp only [hnum, bind, Except.bind]
      rw [show ((y.toNat : Nat) : Int) = y by omega, hcheck]
      rfl
  · split
    · -- A negative year follows a minus sign.
      rename_i _ hneg
      have hnum : number 1 (('-' :: ((pad 4 y.natAbs).toList ++ rest)).length + 1)
          ((pad 4 y.natAbs).toList ++ rest) = .ok (y.natAbs, rest) :=
        number_pad (List.length_pos_iff.2 (pad_ne_nil 4 y.natAbs))
          (by simp only [List.length_cons, List.length_append]; omega) hrest (by omega)
      have hcs : ("-" ++ pad 4 y.natAbs).toList ++ rest = '-' :: ((pad 4 y.natAbs).toList ++ rest) := by
        simp
      unfold year
      rw [hcs, skipSpace_cons (by decide)]
      simp only [hnum, bind, Except.bind, pure, Except.pure]
      rw [show -((y.natAbs : Nat) : Int) = y by omega, hcheck]
      rfl
    · -- A year past 9999 follows a plus sign.
      rename_i _ hneg
      have hnum : number 1 (('+' :: ((pad 4 y.toNat).toList ++ rest)).length + 1)
          ((pad 4 y.toNat).toList ++ rest) = .ok (y.toNat, rest) :=
        number_pad (List.length_pos_iff.2 (pad_ne_nil 4 y.toNat))
          (by simp only [List.length_cons, List.length_append]; omega) hrest (by omega)
      have hcs : ("+" ++ pad 4 y.toNat).toList ++ rest = '+' :: ((pad 4 y.toNat).toList ++ rest) := by
        simp
      unfold year
      rw [hcs, skipSpace_cons (by decide)]
      simp only [hnum, bind, Except.bind]
      rw [show ((y.toNat : Nat) : Int) = y by omega, hcheck]
      rfl

/-- A fraction written with `width` digits, read as nanoseconds: the digits
stand for their value times ten to the power of the digits left out. -/
theorem fractionOf_pad {width n : Nat} (hw : 0 < width) (h9 : width ≤ 9) (hn : n < Nat.pow 10 width)
    (hrest : EndsNumber rest) :
    fractionOf ((pad width n).toList ++ rest) = .ok (n * Nat.pow 10 (9 - width), rest) := by
  have hlen := length_pad hw hn
  have hpow : Nat.pow 10 width ≤ 1000000000 := Nat.pow_le_pow_right (n := 10) (by decide) h9
  have hnum : number 1 9 ((pad width n).toList ++ rest) = .ok (n, rest) :=
    number_pad (by omega) (by omega) hrest (by rw [show Nat.pow 2 63 = 9223372036854775808 from rfl]; omega)
  have hdrop : rest.dropWhile Char.isDigit = rest := by
    cases rest with
    | nil => rfl
    | cons c r => rw [List.dropWhile_cons_of_neg (by simp [hrest c rfl])]
  simp only [fractionOf, hnum, bind, Except.bind, pure, Except.pure, hdrop, List.length_append, hlen,
    Nat.add_sub_cancel, Int.toNat_natCast, Nat.pow_eq]

/-! ## The written form -/

/-- The day an instant falls in, counted from 1970-01-01. -/
def day (t : Timestamp) : Int := Int.ediv t.split.1 secondsPerDay

/-- The whole seconds of its day before an instant. -/
def secondOfDay (t : Timestamp) : Nat := (Int.emod t.split.1 secondsPerDay).toNat

/-- An instant the reader gives back: its day lies in the years -262144 to
262143, and a leap second only follows a second ending in `:59`. -/
structure Readable (t : Timestamp) : Prop where
  after_first : dayBounds.1 ≤ t.day
  before_last : t.day ≤ dayBounds.2
  leap_second : t.leap = true → t.secondOfDay % 60 = 59

/-- The written form, field by field. -/
theorem toList_rfc3339 {t : Timestamp} {y : Int} {m d : Nat} (hc : civil t.day = (y, m, d)) :
    t.rfc3339.toList = (yearText y).toList ++ '-' :: ((pad 2 m).toList ++ '-' :: ((pad 2 d).toList ++
      'T' :: ((pad 2 (t.secondOfDay / 3600)).toList ++ ':' :: ((pad 2 (t.secondOfDay / 60 % 60)).toList ++
      ':' :: ((pad 2 (t.secondOfDay % 60 + if t.leap then 1 else 0)).toList ++
      ((fraction t).toList ++ ['Z'])))))) := by
  unfold day at hc
  unfold rfc3339 dateTime secondOfDay
  rw [show t.split = (t.split.1, t.split.2) from rfl]
  dsimp only
  rw [hc]
  simp [toString]

theorem nanos_lt (t : Timestamp) : t.split.2 < 1000000000 := by
  show (t.nanos % ((perSecond : Nat) : Int)).toNat < 1000000000
  unfold perSecond
  omega

theorem secondOfDay_lt (t : Timestamp) : t.secondOfDay < 86400 := by
  show (t.split.1 % ((secondsPerDay : Nat) : Int)).toNat < 86400
  unfold secondsPerDay
  omega

/-- The fraction is written in groups of three digits, as few as its value
needs, and not at all when it is zero. -/
theorem fraction_written (t : Timestamp) :
    (t.fraction.toList = [] ∧ t.split.2 = 0) ∨
      ∃ width q, 0 < width ∧ width ≤ 9 ∧ q < Nat.pow 10 width ∧ q * Nat.pow 10 (9 - width) = t.split.2 ∧
        t.fraction.toList = '.' :: (pad width q).toList := by
  have hlt := t.nanos_lt
  unfold fraction
  dsimp only
  split
  · rename_i h
    exact .inl ⟨rfl, by simpa using h⟩
  · split
    · rename_i _ h
      have h' : t.split.2 % 1000000 = 0 := by simpa using h
      exact .inr ⟨3, t.split.2 / 1000000, by decide, by decide,
        show _ < 1000 by omega, show _ * 1000000 = _ by omega, by simp⟩
    · split
      · rename_i _ _ h
        have h' : t.split.2 % 1000 = 0 := by simpa using h
        exact .inr ⟨6, t.split.2 / 1000, by decide, by decide,
        show _ < 1000000 by omega, show _ * 1000 = _ by omega, by simp⟩
      · exact .inr ⟨9, t.split.2, by decide, by decide, hlt, by simp, by simp⟩

/-- The seconds are followed by the fraction's point or by `Z`. -/
theorem endsNumber_fraction (t : Timestamp) : EndsNumber ((fraction t).toList ++ ['Z']) := by
  rcases t.fraction_written with ⟨hf, -⟩ | ⟨w, q, -, -, -, -, hf⟩
  · rw [hf]
    exact endsNumber_cons (by decide)
  · rw [hf]
    exact endsNumber_cons (by decide)

/-- Whole seconds and nanoseconds past them make up the instant. -/
theorem nanos_rebuilt (t : Timestamp) : t.split.1 * perSecond + t.split.2 = t.nanos := by
  show t.nanos / ((perSecond : Nat) : Int) * ((perSecond : Nat) : Int) +
    ((t.nanos % ((perSecond : Nat) : Int)).toNat : Int) = t.nanos
  unfold perSecond
  omega

/-- The day and the hours, minutes and seconds of the day make up the whole
seconds. -/
theorem seconds_rebuilt (t : Timestamp) :
    t.day * secondsPerDay + ((t.secondOfDay / 3600 : Nat) : Int) * 3600 +
      ((t.secondOfDay / 60 % 60 : Nat) : Int) * 60 + ((t.secondOfDay % 60 : Nat) : Int) = t.split.1 := by
  unfold day secondOfDay
  show t.split.1 / ((secondsPerDay : Nat) : Int) * ((secondsPerDay : Nat) : Int) +
    (((t.split.1 % ((secondsPerDay : Nat) : Int)).toNat / 3600 : Nat) : Int) * 3600 +
    (((t.split.1 % ((secondsPerDay : Nat) : Int)).toNat / 60 % 60 : Nat) : Int) * 60 +
    (((t.split.1 % ((secondsPerDay : Nat) : Int)).toNat % 60 : Nat) : Int) = t.split.1
  unfold secondsPerDay
  omega

/-- The written second is 60 exactly in a leap second. -/
theorem Readable.leap_written {t : Timestamp} (h : t.Readable) :
    ((((t.secondOfDay % 60 + if t.leap then 1 else 0) : Nat) : Int) == 60) = t.leap := by
  cases hl : t.leap
  · simp only [Bool.false_eq_true, if_false, Nat.add_zero, beq_eq_false_iff_ne, ne_eq]
    omega
  · simp only [if_true, beq_iff_eq]
    have := h.leap_second hl
    omega

/-- A leap second is read as the second ending in `:59` it follows. -/
theorem Readable.second_written {t : Timestamp} (h : t.Readable) :
    (if t.leap = true then 59 else (((t.secondOfDay % 60 + if t.leap then 1 else 0) : Nat) : Int)) =
      ((t.secondOfDay % 60 : Nat) : Int) := by
  cases hl : t.leap
  · simp
  · simp only [if_true]
    have := h.leap_second hl
    omega

/-! ## Reading back -/

/-- The text written for an instant the reader gives back is read as that
instant. -/
theorem parse_rfc3339 {t : Timestamp} (h : t.Readable) : parse t.rfc3339 = .ok t := by
  obtain ⟨y, m, d, hc⟩ : ∃ y m d, civil t.day = (y, m, d) := ⟨_, _, _, rfl⟩
  obtain ⟨hm1, hm12, hd1, hdm⟩ := civil_valid hc
  have hyear := (mem_dayBounds_iff hc).1 ⟨h.after_first, h.before_last⟩
  have hlen : monthLength y m ≤ 31 := by
    unfold monthLength
    split <;> (try split) <;> omega
  have hS := t.secondOfDay_lt
  have h60 : (t.secondOfDay % 60 + if t.leap then 1 else 0) ≤ 60 := by
    split <;> omega
  have hlt : Nat.pow 10 2 = 100 := rfl
  have hbig : Nat.pow 2 63 = 9223372036854775808 := rfl
  -- Each field reader takes its digits and hands on the rest.
  rw [parse, toList_rfc3339 hc, year_yearText hyear.1 hyear.2 (endsNumber_cons (c := '-') (by decide))]
  simp only [bind, Except.bind, skipSpace_cons (c := '-') (by decide), literal, if_true]
  rw [field_pad ?_ ?_ (Nat.le_refl 2) ?_ ?_ ?_ ?_]
  simp only [skipSpace_cons (c := '-') (by decide), if_true]
  rw [field_pad ?_ ?_ (Nat.le_refl 2) ?_ ?_ ?_ ?_]
  simp only [decide_true, Bool.true_or, if_true, pure, Except.pure]
  rw [field_pad ?_ ?_ (Nat.le_refl 2) ?_ ?_ ?_ ?_]
  simp only [skipSpace_cons (c := ':') (by decide), if_true]
  rw [field_pad ?_ ?_ (Nat.le_refl 2) ?_ ?_ ?_ ?_]
  simp only [skipSpace_cons (c := ':') (by decide), if_true]
  rw [field_pad ?_ ?_ (Nat.le_refl 2) ?_ ?_ ?_ ?_]
  · have hdays := daysFrom_civil hc
    have hsec := h.leap_written
    have hsecond := h.second_written
    have hwhole := t.seconds_rebuilt
    have hnanos := t.nanos_rebuilt
    have hoff : offset ['Z'] = .ok (0, []) := rfl
    have hblank : skipSpace [] = [] := rfl
    have hzero : ¬ (Int.natAbs 0 ≥ secondsPerDay) := by decide
    have hday : Int.ediv t.split.1 secondsPerDay = t.day := rfl
    have hchecks : (decide (d > monthLength y m) || decide (y < -262144) || decide (y > 262143)) = false := by
      simp only [Bool.or_eq_false_iff, decide_eq_false_iff_not]
      omega
    have hbounds : (decide (t.day < dayBounds.1) || decide (t.day > dayBounds.2)) = false := by
      simp only [Bool.or_eq_false_iff, decide_eq_false_iff_not]
      exact ⟨Int.not_lt.2 h.after_first, Int.not_lt.2 h.before_last⟩
    rcases t.fraction_written with ⟨hf, hz⟩ | ⟨w, q, hw, hw9, hq, hqn, hf⟩
    · rw [hf]
      simp only [List.nil_append]
      split
      · rename_i heq
        cases heq
      · rw [hz] at hnanos
        simp only [skipSpace_cons (c := 'Z') (by decide), hoff, Int.toNat_natCast, hdays, hsecond,
          hwhole, Int.sub_zero, hchecks, hblank, List.isEmpty_nil, Bool.not_true,
          Bool.false_eq_true, if_false, hzero, hday, hbounds, hsec, hnanos]
    · rw [← hqn] at hnanos
      simp only [hf, List.cons_append,
        fractionOf_pad hw hw9 hq (endsNumber_cons (c := 'Z') (by decide)),
        skipSpace_cons (c := 'Z') (by decide), hoff, Int.toNat_natCast, hdays, hsecond,
        hwhole, Int.sub_zero, hchecks, hblank, List.isEmpty_nil, Bool.not_true,
        Bool.false_eq_true, if_false, hzero, hday, hbounds, hsec, hnanos]
  -- What is left are the fields' ranges and the characters that end them.
  all_goals first
    | exact endsNumber_cons (by decide)
    | exact endsNumber_fraction t
    | omega

/-- A stored instant the reader gives back is decoded as itself. -/
theorem decode_rfc3339 {t : Timestamp} (h : t.Readable) (src : Source) :
    decode src (.str t.rfc3339) = .ok t := by
  simp only [decode, parse_rfc3339 h]
  rfl

end Timestamp

end Flowline
