import EntityStore.Proofs.Text.Numbers
import EntityStore.Time.Format
import EntityStore.Time.Read
import EntityStore.Value.Decode

/-!
# Dates and times are read back from their text

A reader takes what was printed off the front of a text and leaves the rest.  How far it reads depends on the rest:
a year after a sign takes every digit, a fraction every digit up to the ninth, and a second looks for a point
(`Reader.Ends`).  The parts of a printed date or time are always followed by what ends them, so that the reader of
the whole is composed of the readers of its parts (`DateTime.read?_toText`).

A local time with its offset is tried as an internet timestamp first.  Such a timestamp has no sign before its year,
so that it takes the years of four digits and fails on all others (`timestamp_toText_eq_none`); these are left to the
lenient notation (`OffsetDateTime.read?_toText`).
-/

namespace EntityStore

namespace Reader

/-- What may stand behind the last part of a time: the digits and the fraction of a second end there. -/
def Ends (rest : Text) : Prop :=
  ∀ c ∈ rest.head?, c.isDigit = false ∧ c ≠ '.'

variable {α β : Type}

private theorem bind_of_eq {r : Reader α} {a : α} {t rest : Text} (h : r t = some (a, rest)) (f : α → Reader β) :
    (r >>= f) t = f a rest := by
  simp only [bind, StateT.bind, h, Option.bind_some]

private theorem bind_of_eq_none {r : Reader α} {t : Text} (h : r t = none) (f : α → Reader β) : (r >>= f) t = none := by
  simp only [bind, StateT.bind, h, Option.bind_none]

private theorem lift_of_eq {x : Option α} {a : α} (h : x = some a) (t : Text) :
    (liftM x : Reader α) t = some (a, t) := by
  rw [h]
  rfl

private theorem char_cons (c : Char) (rest : Text) : char c (c :: rest) = some ((), rest) := by
  simp [char]

private theorem get_bind (f : Text → Reader α) (t : Text) : ((get : Reader Text) >>= f) t = f t t := rfl

private theorem set_bind (u : Text) (f : PUnit → Reader α) (t : Text) :
    ((set u : Reader PUnit) >>= f) t = f ⟨⟩ u := rfl

/-! ### Numbers -/

private theorem digits_append {limit : Nat} {ds rest : Text} (hne : ds ≠ []) (hds : ∀ c ∈ ds, c.isDigit = true)
    (hlength : ds.length ≤ limit) (hrest : ds.length = limit ∨ ∀ c ∈ rest.head?, c.isDigit = false) :
    digits limit (ds ++ rest) = some (ds, rest) := by
  have hnone : (rest.take (limit - ds.length)).takeWhile Char.isDigit = [] := by
    rcases hrest with hfull | hhead
    · rw [hfull, Nat.sub_self, List.take_zero, List.takeWhile_nil]
    · cases rest with
      | nil => rw [List.take_nil, List.takeWhile_nil]
      | cons c rest =>
        have hc := hhead c rfl
        cases limit - ds.length with
        | zero => rfl
        | succ n => rw [List.take_succ_cons, List.takeWhile_cons_of_neg (by simp [hc])]
  have htaken : ((ds ++ rest).take limit).takeWhile Char.isDigit = ds := by
    rw [List.take_append, List.take_of_length_le hlength, List.takeWhile_append_of_pos hds, hnone, List.append_nil]
  simp only [digits, htaken, if_neg hne, List.drop_left]

variable {n : Nat}

/-- A padded number that fills its width is taken as its digits. -/
private theorem digits_ofNatPadded {width : Nat} (hwidth : 0 < width) (h : n < 10 ^ width) (rest : Text) :
    digits width (Text.ofNatPadded width n ++ rest) = some (Text.ofNatPadded width n, rest) := by
  have hlength := Text.length_ofNatPadded hwidth h
  exact digits_append (Text.ofNatPadded_ne_nil hwidth n) (fun _ => Text.isDigit_of_mem_ofNatPadded)
    (Nat.le_of_eq hlength) (.inl hlength)

private theorem exactly_ofNatPadded {count : Nat} (hcount : 0 < count) (h : n < 10 ^ count) (rest : Text) :
    exactly count (Text.ofNatPadded count n ++ rest) = some (n, rest) := by
  rw [exactly, bind_of_eq (digits_ofNatPadded hcount h rest), if_pos (Text.length_ofNatPadded hcount h),
    Text.ofDigitChars_ofNatPadded]
  rfl

private theorem blanks_cons {c : Char} (hc : Text.isBlank c = false) (t : Text) :
    blanks (c :: t) = some ((), c :: t) := by
  rw [blanks, Text.trimStart, List.dropWhile_cons_of_neg (by simp [hc])]

/-- Nothing is skipped before a digit. -/
private theorem blanks_ofNatPadded {width : Nat} (hwidth : 0 < width) (rest : Text) :
    blanks (Text.ofNatPadded width n ++ rest) = some ((), Text.ofNatPadded width n ++ rest) := by
  obtain ⟨c, ds, hcons, hdigit⟩ := Text.exists_ofNatPadded_eq_cons hwidth n
  rw [hcons]
  exact blanks_cons (Text.isBlank_of_isDigit hdigit) _

private theorem number_ofNatPadded (h : n < 100) (rest : Text) :
    number (Text.ofNatPadded 2 n ++ rest) = some (n, rest) := by
  rw [number, bind_of_eq (blanks_ofNatPadded (by decide) rest), bind_of_eq (digits_ofNatPadded (by decide) h rest),
    Text.ofDigitChars_ofNatPadded]
  rfl

/-! ### Years and fractions -/

/-- After a sign the number has all the digits that follow. -/
private theorem digits_signed {rest : Text} (hrest : ∀ c ∈ rest.head?, c.isDigit = false) {width : Nat}
    (hwidth : 0 < width) (n : Nat) :
    digits (Text.ofNatPadded width n ++ rest).length (Text.ofNatPadded width n ++ rest) =
      some (Text.ofNatPadded width n, rest) :=
  digits_append (Text.ofNatPadded_ne_nil hwidth n) (fun _ => Text.isDigit_of_mem_ofNatPadded)
    (by rw [List.length_append]; omega) (.inr hrest)

private theorem year_minus {t ds rest : Text} (h : digits t.length t = some (ds, rest)) :
    year ('-' :: t) = some (-(Nat.ofDigitChars 10 ds 0 : Int), rest) := by
  rw [year, bind_of_eq (blanks_cons (by decide) t), get_bind]
  exact (set_bind t _ _).trans (bind_of_eq h _)

private theorem year_plus {t ds rest : Text} (h : digits t.length t = some (ds, rest)) :
    year ('+' :: t) = some ((Nat.ofDigitChars 10 ds 0 : Int), rest) := by
  rw [year, bind_of_eq (blanks_cons (by decide) t), get_bind]
  exact (set_bind t _ _).trans (bind_of_eq h _)

private theorem year_unsigned {c : Char} (hc : c.isDigit = true) {t ds rest : Text}
    (h : digits 4 (c :: t) = some (ds, rest)) : year (c :: t) = some ((Nat.ofDigitChars 10 ds 0 : Int), rest) := by
  have hminus : c ≠ '-' := by rintro rfl; exact absurd hc (by decide)
  have hplus : c ≠ '+' := by rintro rfl; exact absurd hc (by decide)
  rw [year, bind_of_eq (blanks_cons (Text.isBlank_of_isDigit hc) t), get_bind]
  simp only [List.cons.injEq, hminus, hplus, false_and, imp_self, implies_true]
  exact bind_of_eq h _

private theorem year_yearText (y : Int) {rest : Text} (hrest : ∀ c ∈ rest.head?, c.isDigit = false) :
    year (yearText y ++ rest) = some (y, rest) := by
  unfold yearText
  split
  · next hrange =>
    -- four digits, of which the first shows that there is no sign
    obtain ⟨c, ds, hcons, hc⟩ := Text.exists_ofNatPadded_eq_cons (show 0 < 4 by decide) y.toNat
    have hdigits := digits_ofNatPadded (show 0 < 4 by decide) (show y.toNat < 10 ^ 4 by omega) rest
    have hvalue := Text.ofDigitChars_ofNatPadded 4 y.toNat
    rw [hcons, List.cons_append] at hdigits
    rw [hcons] at hvalue
    rw [hcons, List.cons_append, year_unsigned hc hdigits, hvalue, Int.toNat_of_nonneg hrange.1]
  · next hrange =>
    -- behind a sign there may be more than four digits; the hyphen ends them
    have hdigits := digits_signed hrest (show 0 < 4 by decide) y.natAbs
    have hvalue := Text.ofDigitChars_ofNatPadded 4 y.natAbs
    rw [List.cons_append]
    by_cases hnegative : y < 0
    · rw [if_pos hnegative, year_minus hdigits, hvalue]
      congr 2
      omega
    · rw [if_neg hnegative, year_plus hdigits, hvalue]
      congr 2
      omega

private theorem nanos_ofNatPadded {places : Nat} (hplaces : 0 < places) (hle : places ≤ 9) (h : n < 10 ^ places)
    {rest : Text} (hrest : ∀ c ∈ rest.head?, c.isDigit = false) :
    nanos (Text.ofNatPadded places n ++ rest) = some (n * Nat.pow 10 (9 - places), rest) := by
  have hlength := Text.length_ofNatPadded hplaces h
  have hdigits : digits 9 (Text.ofNatPadded places n ++ rest) = some (Text.ofNatPadded places n, rest) :=
    digits_append (Text.ofNatPadded_ne_nil hplaces n) (fun _ => Text.isDigit_of_mem_ofNatPadded) (by omega)
      (.inr hrest)
  have hskip : (modify fun t : Text => t.dropWhile Char.isDigit : Reader PUnit) rest = some (⟨⟩, rest) := by
    cases rest with
    | nil => rfl
    | cons c rest =>
      have hc : c.isDigit = false := hrest c rfl
      exact congrArg (fun t => some (PUnit.unit, t)) (List.dropWhile_cons_of_neg (by simp [hc]))
  rw [nanos, bind_of_eq hdigits, bind_of_eq hskip, Text.ofDigitChars_ofNatPadded, hlength]
  rfl

private theorem fraction_point (t : Text) : fraction ('.' :: t) = nanos t := by
  rw [fraction, get_bind]
  exact set_bind t _ _

private theorem fraction_of_ends {rest : Text} (h : Ends rest) : fraction rest = some (0, rest) := by
  rw [fraction, get_bind]
  cases rest with
  | nil => rfl
  | cons c rest =>
    have hpoint : c ≠ '.' := (h c rfl).2
    simp only [List.cons.injEq, hpoint, false_and, imp_self, implies_true]
    rfl

private theorem fraction_fractionText (h : n < nanosPerSecond) {rest : Text} (hrest : Ends rest) :
    fraction (fractionText n ++ rest) = some (n, rest) := by
  have hdigit : ∀ c ∈ rest.head?, c.isDigit = false := fun c hc => (hrest c hc).1
  rw [nanosPerSecond] at h
  unfold fractionText
  split
  · next hzero =>
    rw [List.nil_append, fraction_of_ends hrest, hzero]
  · split
    · rw [List.cons_append, fraction_point, nanos_ofNatPadded (by decide) (by decide) (by omega) hdigit]
      have hvalue : n / 1000000 * Nat.pow 10 (9 - 3) = n := by rw [show Nat.pow 10 (9 - 3) = 1000000 from rfl]; omega
      rw [hvalue]
    · split
      · rw [List.cons_append, fraction_point, nanos_ofNatPadded (by decide) (by decide) (by omega) hdigit]
        have hvalue : n / 1000 * Nat.pow 10 (9 - 6) = n := by rw [show Nat.pow 10 (9 - 6) = 1000 from rfl]; omega
        rw [hvalue]
      · rw [List.cons_append, fraction_point, nanos_ofNatPadded (by decide) (by decide) (by omega) hdigit]
        exact congrArg (fun m => some (m, rest)) (Nat.mul_one n)

/-! ### Dates and times -/

private theorem daysInMonth_le (y : Int) (m : Nat) : daysInMonth y m ≤ 31 := by
  unfold daysInMonth
  split <;> first | decide | (split <;> decide)

private theorem month_lt (d : Date) : d.month < 100 := by
  have hdays := Nat.le_trans d.day_pos d.day_le
  by_contra hmonth
  have hnone : daysInMonth d.year d.month = 0 := by
    unfold daysInMonth
    split <;> omega
  omega

private theorem ofParts?_date (d : Date) : Date.ofParts? d.year d.month d.day = some d := by
  rw [Date.ofParts?, dif_pos ⟨d.year_ge, d.year_le, d.day_pos, d.day_le⟩]

private theorem day_lt (d : Date) : d.day < 100 := by
  have hle := d.day_le
  have hdays := daysInMonth_le d.year d.month
  omega

private theorem date_toText (d : Date) (rest : Text) : date (d.toText ++ rest) = some (d, rest) := by
  have hhyphen (t : Text) : ∀ c ∈ ('-' :: t).head?, c.isDigit = false := by
    intro c hc
    obtain rfl : '-' = c := by simpa using hc
    decide
  simp only [Date.toText, List.append_assoc, List.cons_append]
  rw [date, bind_of_eq (year_yearText d.year (hhyphen _)), bind_of_eq (char_cons _ _),
    bind_of_eq (number_ofNatPadded (month_lt d) _), bind_of_eq (char_cons _ _),
    bind_of_eq (number_ofNatPadded (day_lt d) rest)]
  exact lift_of_eq (ofParts?_date d) rest

/-- The second of a time as it is written, and the nanoseconds that its fraction says, determine it. -/
private theorem timeOf_parts (t : TimeOfDay) :
    timeOf t.hour t.minute (t.second + t.nanos / nanosPerSecond) (t.nanos % nanosPerSecond) = some t := by
  have hsecond := t.second_lt
  have hnanos := t.nanos_lt
  have hleap := t.leap_second
  have hwhole : TimeOfDay.ofParts? t.hour t.minute t.second t.nanos = some t := by
    rw [TimeOfDay.ofParts?, dif_pos ⟨t.hour_lt, t.minute_lt, t.second_lt, t.nanos_lt, t.leap_second⟩]
  rw [nanosPerSecond] at hnanos hleap
  unfold timeOf
  rw [nanosPerSecond]
  by_cases h : 1000000000 ≤ t.nanos
  · -- a leap second is written as the second 60, from which its nanoseconds are told
    have hlast := hleap h
    rw [if_pos (by omega), ← hlast, show 1000000000 + t.nanos % 1000000000 = t.nanos by omega, hwhole]
  · rw [if_neg (by omega), show t.second + t.nanos / 1000000000 = t.second by omega,
      show t.nanos % 1000000000 = t.nanos by omega, hwhole]

private theorem second_lt (t : TimeOfDay) : t.second + t.nanos / nanosPerSecond < 100 := by
  have hsecond := t.second_lt
  have hnanos := t.nanos_lt
  rw [nanosPerSecond] at hnanos ⊢
  omega

private theorem time_toText (t : TimeOfDay) {rest : Text} (hrest : Ends rest) :
    time (t.toText ++ rest) = some (t, rest) := by
  have hfraction : t.nanos % nanosPerSecond < nanosPerSecond := Nat.mod_lt _ (by decide)
  simp only [TimeOfDay.toText, List.append_assoc, List.cons_append]
  rw [time, bind_of_eq (number_ofNatPadded (Nat.lt_trans t.hour_lt (by decide)) _), bind_of_eq (char_cons _ _),
    bind_of_eq (number_ofNatPadded (Nat.lt_trans t.minute_lt (by decide)) _), bind_of_eq (char_cons _ _),
    bind_of_eq (number_ofNatPadded (second_lt t) _), bind_of_eq (fraction_fractionText hfraction hrest)]
  exact lift_of_eq (timeOf_parts t) rest

private theorem dateTime_toText (t : DateTime) {rest : Text} (hrest : Ends rest) :
    dateTime (char 'T') (t.toText ++ rest) = some (t, rest) := by
  simp only [DateTime.toText, List.append_assoc, List.cons_append]
  rw [dateTime, bind_of_eq (date_toText t.date _), bind_of_eq (char_cons _ _), bind_of_eq (time_toText t.time hrest)]
  rfl

/-! ### Offsets -/

/-- An offset of whole minutes is read back, whatever skips the colon between its hours and its minutes. -/
private theorem offset_offsetText {o : Int} (hminutes : 60 ∣ o) (hday : o.natAbs < 86400) {between : Reader Unit}
    (hbetween : ∀ n, between (':' :: Text.ofNatPadded 2 n) = some ((), Text.ofNatPadded 2 n)) :
    offset between (offsetText o) = some (o, []) := by
  obtain ⟨minutes, hvalue⟩ : ∃ minutes, minutes = (o.natAbs + 30) / 60 := ⟨_, rfl⟩
  have hsign (u : Text) :
      sign ((if o < 0 then '-' else '+') :: u) = some (if o < 0 then -1 else 1, u) := by
    split <;> rfl
  have hlast : exactly 2 (Text.ofNatPadded 2 (minutes % 60)) = some (minutes % 60, []) := by
    have hread := exactly_ofNatPadded (show 0 < 2 by decide) (show minutes % 60 < 10 ^ 2 by omega) []
    rwa [List.append_nil] at hread
  have hoffset : (if o < 0 then -1 else 1) * ((minutes / 60 * 3600 + minutes % 60 * 60 : Nat) : Int) = o := by
    split <;> omega
  simp only [offsetText, ← hvalue, List.cons_append]
  rw [offset, bind_of_eq (hsign _), bind_of_eq (exactly_ofNatPadded (by decide) (by omega) _),
    bind_of_eq (hbetween _), bind_of_eq hlast, if_pos (Nat.mod_lt _ (by decide)), hoffset]
  rfl

private theorem colonsAndBlanks_colon (n : Nat) :
    colonsAndBlanks (':' :: Text.ofNatPadded 2 n) = some ((), Text.ofNatPadded 2 n) := by
  obtain ⟨c, ds, hcons, hdigit⟩ := Text.exists_ofNatPadded_eq_cons (show 0 < 2 by decide) n
  have hstop : ¬(c == ':' || Text.isBlank c) = true := by
    have hcolon : c ≠ ':' := by rintro rfl; exact absurd hdigit (by decide)
    simp [hcolon, Text.isBlank_of_isDigit hdigit]
  rw [colonsAndBlanks, List.dropWhile_cons_of_pos (by decide), hcons]
  exact congrArg (fun u => some ((), u)) (List.dropWhile_cons_of_neg (p := fun c => c == ':' || Text.isBlank c) hstop)

private theorem ends_offsetText (o : Int) : Ends (offsetText o) := by
  intro c hc
  obtain rfl : (if o < 0 then '-' else '+') = c := Option.some.inj hc
  split <;> decide

private theorem ofParts?_offsetDateTime (t : OffsetDateTime) :
    OffsetDateTime.ofParts? t.localTime t.offset = some t := by
  rw [OffsetDateTime.ofParts?, dif_pos ⟨t.offset_lt, t.within⟩]

variable {t : OffsetDateTime}

private theorem offsetDateTime_toText (hminutes : 60 ∣ t.offset) :
    offsetDateTime (char 'T') (pure ()) t.toText = some (t, []) := by
  have hpure (u : Text) : (pure () : Reader Unit) u = some ((), u) := rfl
  have hblanks : blanks (offsetText t.offset) = some ((), offsetText t.offset) :=
    blanks_cons (by split <;> decide) _
  rw [offsetDateTime, OffsetDateTime.toText, bind_of_eq (dateTime_toText t.localTime (ends_offsetText t.offset)),
    bind_of_eq (hpure _), bind_of_eq hblanks,
    bind_of_eq (offset_offsetText hminutes t.offset_lt colonsAndBlanks_colon)]
  exact lift_of_eq (ofParts?_offsetDateTime t) []

/-! ### Internet timestamps -/

private theorem strictOffset_offsetText {o : Int} (hminutes : 60 ∣ o) (hday : o.natAbs < 86400) :
    strictOffset (offsetText o) = some (o, []) := by
  have hoffset : offset (char ':') (offsetText o) = some (o, []) :=
    offset_offsetText hminutes hday fun _ => char_cons _ _
  rw [strictOffset, get_bind, ← hoffset, offsetText, List.cons_append]
  split <;> rfl

/-- A local time with its offset is an internet timestamp if its year needs no sign. -/
private theorem timestamp_toText (hminutes : 60 ∣ t.offset)
    (hyear : 0 ≤ t.localTime.date.year ∧ t.localTime.date.year ≤ 9999) : timestamp t.toText = some (t, []) := by
  have hfraction : t.localTime.time.nanos % nanosPerSecond < nanosPerSecond := Nat.mod_lt _ (by decide)
  have hletter (u : Text) : (char 'T' <|> char 't' <|> char ' ') ('T' :: u) = some ((), u) := rfl
  have hnatural : (t.localTime.date.year.toNat : Int) = t.localTime.date.year := Int.toNat_of_nonneg hyear.1
  simp only [OffsetDateTime.toText, DateTime.toText, Date.toText, TimeOfDay.toText, yearText, if_pos hyear,
    List.append_assoc, List.cons_append]
  rw [timestamp, bind_of_eq (exactly_ofNatPadded (by decide) (by omega) _), bind_of_eq (char_cons _ _),
    bind_of_eq (exactly_ofNatPadded (by decide) (month_lt _) _), bind_of_eq (char_cons _ _),
    bind_of_eq (exactly_ofNatPadded (by decide) (day_lt _) _), bind_of_eq (hletter _),
    bind_of_eq (exactly_ofNatPadded (by decide) (Nat.lt_trans t.localTime.time.hour_lt (by decide)) _),
    bind_of_eq (char_cons _ _),
    bind_of_eq (exactly_ofNatPadded (by decide) (Nat.lt_trans t.localTime.time.minute_lt (by decide)) _),
    bind_of_eq (char_cons _ _), bind_of_eq (exactly_ofNatPadded (by decide) (second_lt _) _),
    bind_of_eq (fraction_fractionText hfraction (ends_offsetText _)),
    bind_of_eq (strictOffset_offsetText hminutes t.offset_lt), hnatural,
    bind_of_eq (lift_of_eq (ofParts?_date _) _), bind_of_eq (lift_of_eq (timeOf_parts _) _)]
  exact lift_of_eq (ofParts?_offsetDateTime t) []

/-- A year with a sign is no internet timestamp. -/
private theorem timestamp_toText_eq_none
    (hyear : ¬(0 ≤ t.localTime.date.year ∧ t.localTime.date.year ≤ 9999)) : timestamp t.toText = none := by
  have hsign (c : Char) (hc : c.isDigit = false) (u : Text) : exactly 4 (c :: u) = none := by
    have hdigits : digits 4 (c :: u) = none := by
      rw [digits, List.take_succ_cons, List.takeWhile_cons_of_neg (by simp [hc])]
      rfl
    exact bind_of_eq_none hdigits _
  have hnone : exactly 4 t.toText = none := by
    simp only [OffsetDateTime.toText, DateTime.toText, Date.toText, yearText, if_neg hyear, List.append_assoc,
      List.cons_append]
    exact hsign _ (by split <;> decide) _
  exact bind_of_eq_none hnone _

end Reader

/-! ### Printed texts have no white space -/

private theorem not_isBlank_ofNatPadded (width n : Nat) : ∀ c ∈ Text.ofNatPadded width n, Text.isBlank c = false :=
  fun _ hc => Text.isBlank_of_isDigit (Text.isDigit_of_mem_ofNatPadded hc)

private theorem not_isBlank_yearText (y : Int) : ∀ c ∈ yearText y, Text.isBlank c = false := by
  unfold yearText
  split
  · exact not_isBlank_ofNatPadded _ _
  · exact List.forall_mem_cons.mpr ⟨by split <;> decide, not_isBlank_ofNatPadded _ _⟩

private theorem not_isBlank_fractionText (n : Nat) : ∀ c ∈ fractionText n, Text.isBlank c = false := by
  have hpoint (width n : Nat) : ∀ c ∈ '.' :: Text.ofNatPadded width n, Text.isBlank c = false :=
    List.forall_mem_cons.mpr ⟨by decide, not_isBlank_ofNatPadded _ _⟩
  unfold fractionText
  split
  · exact List.forall_mem_nil _
  · split
    · exact hpoint _ _
    · split <;> exact hpoint _ _

private theorem not_isBlank_dateTime (t : DateTime) : ∀ c ∈ t.toText, Text.isBlank c = false := by
  simp only [DateTime.toText, Date.toText, TimeOfDay.toText, List.forall_mem_append, List.forall_mem_cons]
  exact ⟨⟨⟨not_isBlank_yearText _, by decide, not_isBlank_ofNatPadded _ _⟩, by decide, not_isBlank_ofNatPadded _ _⟩,
    by decide, ⟨⟨not_isBlank_ofNatPadded _ _, by decide, not_isBlank_ofNatPadded _ _⟩, by decide,
      not_isBlank_ofNatPadded _ _⟩, not_isBlank_fractionText _⟩

private theorem not_isBlank_offsetText (o : Int) : ∀ c ∈ offsetText o, Text.isBlank c = false := by
  simp only [offsetText, List.cons_append, List.forall_mem_append, List.forall_mem_cons]
  exact ⟨by split <;> decide, not_isBlank_ofNatPadded _ _, by decide, not_isBlank_ofNatPadded _ _⟩

/-! ### Reading back -/

theorem DateTime.read?_toText (t : DateTime) : DateTime.read? t.toText = some t := by
  have hread : Reader.readAll? (Reader.dateTime (Reader.char 'T')) t.toText = some t := by
    have hread : Reader.dateTime (Reader.char 'T') (t.toText ++ []) = some (t, []) :=
      Reader.dateTime_toText t fun c hc => nomatch hc
    rw [List.append_nil] at hread
    rw [Reader.readAll?, hread]
  simp only [DateTime.read?, Text.trim_of_not_isBlank (not_isBlank_dateTime t), hread]
  rfl

/-- An offset of whole minutes is read back from its text; seconds of an offset are not written. -/
theorem OffsetDateTime.read?_toText {t : OffsetDateTime} (hminutes : 60 ∣ t.offset) :
    OffsetDateTime.read? t.toText = some t := by
  have htrim : t.toText.trim = t.toText :=
    Text.trim_of_not_isBlank (List.forall_mem_append.mpr ⟨not_isBlank_dateTime _, not_isBlank_offsetText _⟩)
  -- the first format takes years of four digits and fails on all others, so that it misreads none
  by_cases hyear : 0 ≤ t.localTime.date.year ∧ t.localTime.date.year ≤ 9999
  · simp only [OffsetDateTime.read?, htrim, Reader.readAll?, Reader.timestamp_toText hminutes hyear]
    rfl
  · simp only [OffsetDateTime.read?, htrim, Reader.readAll?, Reader.timestamp_toText_eq_none hyear,
      Reader.offsetDateTime_toText hminutes]
    rfl

/-- A date and time, and a local time whose offset is in whole minutes, decode to themselves from their own text. -/
theorem ScalarType.decode_toText :
    (∀ t : DateTime, ∃ text, (Value.dateTime t).toText? = some text ∧
      dateTime.decode (.string text) = .ok (.dateTime t)) ∧
    ∀ t : OffsetDateTime, 60 ∣ t.offset → ∃ text, (Value.offsetDateTime t).toText? = some text ∧
      offsetDateTime.decode (.string text) = .ok (.offsetDateTime t) := by
  constructor
  · intro t
    refine ⟨t.toText, rfl, ?_⟩
    show orFault _ ((DateTime.read? t.toText).map .dateTime) = _
    rw [t.read?_toText]
    rfl
  · intro t hminutes
    refine ⟨t.toText, rfl, ?_⟩
    show orFault _ ((OffsetDateTime.read? t.toText).map .offsetDateTime) = _
    rw [OffsetDateTime.read?_toText hminutes]
    rfl

/-- A leap second in a year of five digits before the common era, to the west of universal time. -/
theorem ScalarType.decode_toText_leapSecond :
    let t : OffsetDateTime :=
      ⟨⟨⟨-12345, 2, 28, by decide, by decide, by decide, by decide⟩,
        ⟨23, 59, 59, 1500000000, by decide, by decide, by decide, by decide, by decide⟩⟩, -19800, by decide, by decide⟩
    (Value.offsetDateTime t).toText? = some "-12345-02-28T23:59:60.500-05:30".toList ∧
      offsetDateTime.decode (.string "-12345-02-28T23:59:60.500-05:30".toList) = .ok (.offsetDateTime t) := by
  intro t
  obtain ⟨text, htext, hdecode⟩ := decode_toText.2 t (by decide)
  have hprinted : (Value.offsetDateTime t).toText? = some "-12345-02-28T23:59:60.500-05:30".toList := by decide
  obtain rfl : "-12345-02-28T23:59:60.500-05:30".toList = text := Option.some.inj (hprinted.symm.trans htext)
  exact ⟨hprinted, hdecode⟩

end EntityStore
