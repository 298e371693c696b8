import Mathlib.Data.List.Induction
import Mathlib.Data.List.TakeWhile
import Mathlib.Data.Option.Basic
import TokenLedger.Proofs.Json.Printing
import TokenLedger.Proofs.Time.Calendar
import TokenLedger.Time.Timestamp
/-!
Timestamps are read back.

Each part of a timestamp is read back from what it is written as, whatever may follow it there:

* `number?_padded` and `longNumber?_padded`: a number with zeros in front, up to its width or to
  where the digits end;
* `year?_yearText`: a year with or without a sign; `date?_written`: a date of the calendar;
* `fraction?_fractionText`: a fraction in three, six or nine digits, or none;
* `timeOfDay?_written`: the time of day, also in a leap second, if it is at the end of a minute.

An instant in any other leap second is written as one in the next second, and is not read back,
because what is read has its leap seconds at the end of a minute (`leapAtMinuteEnd_of_parse`). So
these are the instants that are read back from their timestamps, to the nanosecond
(`parse_render_iff`).
-/

namespace TokenLedger.Timestamp

open Json (Stops digitsValue_toDigits isDigit_of_mem_toDigits takeWhile_of_stops)

/-! ### Padded numbers -/

theorem toList_pushn (text : String) (char : Char) (count : Nat) :
    (text.pushn char count).toList = text.toList ++ List.replicate count char := by
  rw [String.pushn_eq_repeat_push]
  induction count with
  | zero => exact (List.append_nil _).symm
  | succ count ih =>
    rw [Nat.repeat, String.toList_push, ih, List.append_assoc, ← List.replicate_succ']

theorem toList_padded (width number : Nat) :
    (padded width number).toList =
      List.replicate (width - (Nat.toDigits 10 number).length) '0' ++ Nat.toDigits 10 number := by
  have digits_eq : (toString number).toList = Nat.toDigits 10 number := Nat.toList_repr
  rw [padded, String.toList_append, toList_pushn, ← String.length_toList, digits_eq]
  rfl

theorem isDigit_of_mem_padded {width number : Nat} {digit : Char}
    (found : digit ∈ (padded width number).toList) : digit.isDigit = true := by
  rw [toList_padded, List.mem_append] at found
  rcases found with zero | found
  · rw [List.eq_of_mem_replicate zero]
    decide
  · exact isDigit_of_mem_toDigits found

theorem padded_ne_nil (width number : Nat) : (padded width number).toList ≠ [] := by
  rw [toList_padded]
  exact List.append_ne_nil_of_right_ne_nil _ Nat.toDigits_ne_nil

theorem length_padded {width number : Nat} (positive : 0 < width)
    (fits : number < Nat.pow 10 width) : (padded width number).toList.length = width := by
  have short : (Nat.toDigits 10 number).length ≤ width :=
    (Nat.length_toDigits_le_iff (by decide) positive).mpr fits
  rw [toList_padded, List.length_append, List.length_replicate]
  omega

/-- Zeros in front do not count. -/
theorem numberOf_padded (width number : Nat) : numberOf (padded width number).toList = number := by
  have zeros : ∀ count : Nat, numberOf (List.replicate count '0') = 0 := by
    intro count
    induction count with
    | zero => rfl
    | succ count ih => exact ih
  rw [toList_padded, numberOf, List.foldl_append]
  refine (congrArg (fun start => List.foldl _ start _) (zeros _)).trans ?_
  exact digitsValue_toDigits number

/-! ### Numbers -/

theorem stops_take {rest : List Char} (stops : Stops rest) (count : Nat) :
    Stops (rest.take count) := by
  intro next found
  rw [List.head?_take] at found
  split at found
  · contradiction
  · exact stops next found

/-- Digits are read as a whole if there are as many as wanted or none follows. -/
theorem number?_append {most : Nat} {digits rest : List Char} (nonempty : digits ≠ [])
    (all_digits : ∀ digit ∈ digits, digit.isDigit = true) (short : digits.length ≤ most)
    (ends : digits.length = most ∨ Stops rest) :
    number? most (digits ++ rest) = some (numberOf digits, rest) := by
  have after : (rest.take (most - digits.length)).takeWhile Char.isDigit = [] := by
    rcases ends with rfl | stops
    · rw [Nat.sub_self]
      rfl
    · exact takeWhile_of_stops (stops_take stops _)
  have run : ((digits ++ rest).take most).takeWhile Char.isDigit = digits := by
    rw [List.take_append, List.take_of_length_le short, List.takeWhile_append_of_pos all_digits,
      after, List.append_nil]
  rw [number?, run, List.drop_left]
  exact if_neg (by simpa using nonempty)

/-- A number that fills its width is read whatever follows. -/
theorem number?_padded {width number : Nat} (positive : 0 < width)
    (fits : number < Nat.pow 10 width) (rest : List Char) :
    number? width ((padded width number).toList ++ rest) = some (number, rest) := by
  have length := length_padded positive fits
  rw [number?_append (padded_ne_nil width number) (fun _ => isDigit_of_mem_padded)
    (Nat.le_of_eq length) (.inl length), numberOf_padded]

/-- A number of any width is read up to where the digits end. -/
theorem longNumber?_padded (width number : Nat) {rest : List Char} (stops : Stops rest) :
    longNumber? ((padded width number).toList ++ rest) = some (number, rest) := by
  have short : (padded width number).toList.length ≤
      ((padded width number).toList ++ rest).length := by
    rw [List.length_append]
    exact Nat.le_add_right _ _
  rw [longNumber?, number?_append (padded_ne_nil width number) (fun _ => isDigit_of_mem_padded)
    short (.inr stops), numberOf_padded]

/-! ### Blanks -/

theorem skipBlanks_cons {first : Char} (visible : Text.isBlank first = false) (rest : List Char) :
    Text.skipBlanks (first :: rest) = first :: rest := by
  rw [Text.skipBlanks, List.dropWhile_cons, visible, if_neg Bool.false_ne_true]

theorem isBlank_of_isDigit {digit : Char} (isDigit : digit.isDigit = true) :
    Text.isBlank digit = false := by
  have none_blank : ∀ code < 58, 48 ≤ code → Text.blanks.contains code = false := by decide
  obtain ⟨least, most⟩ := Bool.and_eq_true_iff.mp isDigit
  have least : 48 ≤ digit.toNat := of_decide_eq_true least
  have most : digit.toNat ≤ 57 := of_decide_eq_true most
  exact none_blank digit.toNat (Nat.lt_succ_of_le most) least

/-- A padded number begins with a digit. -/
theorem exists_cons_padded (width number : Nat) :
    ∃ first others, (padded width number).toList = first :: others ∧ first.isDigit = true := by
  obtain ⟨first, others, digits_eq⟩ := List.exists_cons_of_ne_nil (padded_ne_nil width number)
  have listed : first ∈ (padded width number).toList := digits_eq ▸ List.mem_cons_self
  exact ⟨first, others, digits_eq, isDigit_of_mem_padded listed⟩

theorem skipBlanks_padded (width number : Nat) (rest : List Char) :
    Text.skipBlanks ((padded width number).toList ++ rest) =
      (padded width number).toList ++ rest := by
  obtain ⟨first, others, digits_eq, isDigit⟩ := exists_cons_padded width number
  rw [digits_eq]
  exact skipBlanks_cons (isBlank_of_isDigit isDigit) _

/-! ### Parts of a timestamp -/

theorem two?_padded {number : Nat} (fits : number < 100) (rest : List Char) :
    two? ((padded 2 number).toList ++ rest) = some (number, rest) := by
  rw [two?, skipBlanks_padded]
  exact number?_padded (by decide) fits rest

theorem separator?_cons {separator : Char} (visible : Text.isBlank separator = false)
    (rest : List Char) : separator? separator (separator :: rest) = some rest := by
  rw [separator?, skipBlanks_cons visible]
  exact if_pos rfl

/-- Without a sign a year has four digits. -/
theorem year?_of_isDigit {first : Char} (isDigit : first.isDigit = true) (rest : List Char) :
    year? (first :: rest) = (number? 4 (first :: rest)).map fun (year, left) => (year, left) := by
  rw [year?, skipBlanks_cons (isBlank_of_isDigit isDigit)]
  split
  · rename_i same
    cases same
    contradiction
  · rename_i same
    cases same
    contradiction
  · rfl

theorem year?_minus (rest : List Char) :
    year? ('-' :: rest) = (longNumber? rest).map fun (year, left) => (-(year : Int), left) := by
  rw [year?, skipBlanks_cons (by decide)]
  rfl

theorem year?_plus (rest : List Char) :
    year? ('+' :: rest) = (longNumber? rest).map fun (year, left) => (year, left) := by
  rw [year?, skipBlanks_cons (by decide)]
  rfl

/-- The year ends before the hyphen. -/
theorem year?_yearText (year : Int) (rest : List Char) :
    year? ((yearText year).toList ++ '-' :: rest) = some (year, '-' :: rest) := by
  have stops : Stops ('-' :: rest) := fun next found => by
    cases found
    rfl
  rw [yearText]
  split
  · rename_i four
    obtain ⟨first, others, digits_eq, isDigit⟩ := exists_cons_padded 4 year.toNat
    have fits : year.toNat < Nat.pow 10 4 := show _ < 10000 by omega
    have read := number?_padded (by decide) fits ('-' :: rest)
    rw [digits_eq] at read ⊢
    rw [List.cons_append] at read ⊢
    rw [year?_of_isDigit isDigit, read]
    exact congrArg (fun value => some (value, '-' :: rest)) (Int.toNat_of_nonneg four.1)
  · rename_i more
    have read := longNumber?_padded 4 year.natAbs stops
    have minus : "-".toList = ['-'] := rfl
    have plus : "+".toList = ['+'] := rfl
    rw [String.toList_append, List.append_assoc]
    split
    · rename_i negative
      have same : -(year.natAbs : Int) = year := by omega
      rw [minus, List.singleton_append, year?_minus, read]
      exact congrArg (fun value => some (value, '-' :: rest)) same
    · rename_i positive
      have same : (year.natAbs : Int) = year := by omega
      rw [plus, List.singleton_append, year?_plus, read]
      exact congrArg (fun value => some (value, '-' :: rest)) same

/-- A date of the calendar is read back. -/
theorem date?_written {date : Date}
    (found : Date.ofParts? date.year date.month date.day = some date) (months : date.month < 100)
    (days : date.day < 100) (rest : List Char) :
    date? ((yearText date.year).toList ++ '-' :: ((padded 2 date.month).toList ++
      '-' :: ((padded 2 date.day).toList ++ rest))) = some (date, rest) := by
  simp only [date?, year?_yearText, @separator?_cons '-' (by decide),
    two?_padded months, two?_padded days, found, Option.bind_eq_bind, Option.bind_some,
    Option.pure_def]

/-- A fraction of at most nine digits counts in full. -/
theorem fraction?_padded {width number : Nat} (positive : 0 < width) (short : width ≤ 9)
    (fits : number < Nat.pow 10 width) {rest : List Char} (stops : Stops rest) :
    fraction? ('.' :: ((padded width number).toList ++ rest)) =
      some (number * Nat.pow 10 (9 - width), rest) := by
  have length := length_padded positive fits
  have run : ((padded width number).toList ++ rest).takeWhile Char.isDigit =
      (padded width number).toList := by
    rw [List.takeWhile_append_of_pos fun _ => isDigit_of_mem_padded, takeWhile_of_stops stops,
      List.append_nil]
  have nonempty : ¬ (padded width number).toList.isEmpty = true := by
    simpa using padded_ne_nil width number
  have counted : (padded width number).toList.take 9 = (padded width number).toList :=
    List.take_of_length_le (by omega)
  rw [fraction?]
  simp only [run, counted, length, numberOf_padded]
  rw [if_neg nonempty, List.drop_left' length]

theorem fraction?_fractionText {nanos : Nat} (small : nanos < nanosPerSecond) :
    fraction? ((fractionText nanos).toList ++ ['Z']) = some (nanos, ['Z']) := by
  have digits : ∀ {width number : Nat}, 0 < width → width ≤ 9 → number < Nat.pow 10 width →
      number * Nat.pow 10 (9 - width) = nanos →
      fraction? (("." ++ padded width number).toList ++ ['Z']) = some (nanos, ['Z']) := by
    intro width number positive short fits same
    have stops : Stops ['Z'] := fun next found => by
      cases found
      rfl
    have point : ".".toList = ['.'] := rfl
    rw [String.toList_append, point, List.append_assoc, List.singleton_append,
      fraction?_padded positive short fits stops, same]
  rw [nanosPerSecond] at small
  unfold fractionText
  split
  · rename_i nothing
    rw [nothing]
    rfl
  split
  · have millis : nanos / 1000000 < 1000 ∧ nanos / 1000000 * 1000000 = nanos := by omega
    exact digits (by decide) (by decide) millis.1 millis.2
  split
  · have micros : nanos / 1000 < 1000000 ∧ nanos / 1000 * 1000 = nanos := by omega
    exact digits (by decide) (by decide) micros.1 micros.2
  · exact digits (by decide) (by decide) small (Nat.mul_one nanos)

/-- A time of day is read back, and as a leap second if it has a second 60. -/
theorem timeOfDay?_padded {hour minute second nanos : Nat}
    (inside : hour < 24 ∧ minute < 60 ∧ second ≤ 60) (small : nanos < nanosPerSecond) :
    timeOfDay? ((padded 2 hour).toList ++ ':' :: ((padded 2 minute).toList ++
      ':' :: ((padded 2 second).toList ++ ((fractionText nanos).toList ++ ['Z'])))) =
        if second = 60 then some (hour * 3600 + minute * 60 + 59, nanos + nanosPerSecond, ['Z'])
        else some (hour * 3600 + minute * 60 + second, nanos, ['Z']) := by
  have hours : hour < 100 := Nat.lt_trans inside.1 (by decide)
  have minutes : minute < 100 := Nat.lt_trans inside.2.1 (by decide)
  have seconds : second < 100 := Nat.lt_of_le_of_lt inside.2.2 (by decide)
  have passes := (Option.guard_eq_some' ()).mpr inside
  simp only [timeOfDay?, two?_padded hours, two?_padded minutes, two?_padded seconds,
    @separator?_cons ':' (by decide), fraction?_fractionText small, Option.bind_eq_bind,
    Option.bind_some, Option.pure_def, passes]

/-- The second of the day and the nanoseconds are read back, inside a leap second and outside. -/
theorem timeOfDay?_written {instant : Instant} (leap_at_end : instant.LeapAtMinuteEnd) :
    let secondOfDay := (instant.second % 86400).toNat
    let leap := if instant.nano < nanosPerSecond then 0 else 1
    timeOfDay? ((padded 2 (secondOfDay / 3600)).toList ++
      ':' :: ((padded 2 (secondOfDay / 60 % 60)).toList ++
      ':' :: ((padded 2 (secondOfDay % 60 + leap)).toList ++
        ((fractionText (instant.nano - leap * nanosPerSecond)).toList ++ ['Z'])))) =
          some (secondOfDay, instant.nano, ['Z']) := by
  intro secondOfDay leap
  have hours : secondOfDay / 3600 < 24 := by omega
  have minutes : secondOfDay / 60 % 60 < 60 := Nat.mod_lt _ (by decide)
  -- a leap second is written as second 60 and counts its nanoseconds from zero
  rcases Nat.lt_or_ge instant.nano nanosPerSecond with outside | inside
  · have leap_eq : leap = 0 := if_pos outside
    have seconds : secondOfDay % 60 < 60 := Nat.mod_lt _ (by decide)
    have counted : secondOfDay / 3600 * 3600 + secondOfDay / 60 % 60 * 60 + secondOfDay % 60 =
        secondOfDay := by omega
    rw [leap_eq, Nat.zero_mul, Nat.sub_zero, Nat.add_zero,
      timeOfDay?_padded ⟨hours, minutes, Nat.le_of_lt seconds⟩ outside,
      if_neg (Nat.ne_of_lt seconds), counted]
  · have leap_eq : leap = 1 := if_neg (Nat.not_lt.mpr inside)
    have last : secondOfDay % 60 = 59 := by
      have minute_end := leap_at_end inside
      omega
    have small : instant.nano - nanosPerSecond < nanosPerSecond := by
      have bound := instant.nano_lt
      omega
    have counted : secondOfDay / 3600 * 3600 + secondOfDay / 60 % 60 * 60 + 59 = secondOfDay := by
      omega
    rw [leap_eq, Nat.one_mul, last, timeOfDay?_padded ⟨hours, minutes, Nat.le_refl 60⟩ small,
      if_pos rfl, counted, Nat.sub_add_cancel inside]

/-! ### Timestamps -/

theorem toList_render {instant : Instant} {date : Date}
    (date_eq : Date.ofDayNumber (instant.second / 86400) = date) :
    let secondOfDay := (instant.second % 86400).toNat
    let leap := if instant.nano < nanosPerSecond then 0 else 1
    (render "Z" instant).toList =
      (yearText date.year).toList ++ '-' :: ((padded 2 date.month).toList ++
        '-' :: ((padded 2 date.day).toList ++
        'T' :: ((padded 2 (secondOfDay / 3600)).toList ++
        ':' :: ((padded 2 (secondOfDay / 60 % 60)).toList ++
        ':' :: ((padded 2 (secondOfDay % 60 + leap)).toList ++
          ((fractionText (instant.nano - leap * nanosPerSecond)).toList ++ ['Z'])))))) := by
  simp [render, date_eq, List.append_assoc]

/-- The year of an instant is one that a timestamp can have. -/
theorem year_bounds (instant : Instant) :
    firstYear ≤ (Date.ofDayNumber (instant.second / 86400)).year ∧
      (Date.ofDayNumber (instant.second / 86400)).year ≤ lastYear := by
  have first := instant.firstSecond_le
  have last := instant.le_lastSecond
  rw [firstSecond] at first
  rw [lastSecond] at last
  exact Date.year_bounds (by omega) (by omega)

/-- A text is parsed from its date, its time of day and its zone. -/
theorem parse_of_parts {text : String} {date : Date} {rest zone : List Char}
    {secondOfDay nanos : Nat} {ahead : Int}
    (date_read : date? text.toList = some (date, 'T' :: rest))
    (time_read : timeOfDay? rest = some (secondOfDay, nanos, zone))
    (zone_read : zone? (Text.skipBlanks zone) = some (ahead, []))
    (years : firstYear ≤ date.year ∧ date.year ≤ lastYear)
    (offset : -86400 < ahead ∧ ahead < 86400) :
    parse text = Instant.within? (date.dayNumber * 86400 + secondOfDay - ahead) nanos := by
  have marked : timeMark? ('T' :: rest) = some rest := rfl
  have at_end : Text.skipBlanks [] = [] := rfl
  have ends := (Option.guard_eq_some' ()).mpr at_end
  have years_pass := (Option.guard_eq_some' ()).mpr years
  have offset_passes := (Option.guard_eq_some' ()).mpr offset
  simp only [parse, date_read, marked, time_read, zone_read, Option.bind_eq_bind, Option.bind_some,
    ends, years_pass, offset_passes]

/-- **An instant is read back from its timestamp**, unless it is inside a leap second elsewhere than
at the end of a minute. -/
theorem parse_render {instant : Instant} (leap_at_end : instant.LeapAtMinuteEnd) :
    parse (render "Z" instant) = some instant := by
  have years := year_bounds instant
  have days := Date.dayNumber_ofDayNumber (instant.second / 86400)
  have found := Date.ofParts?_ofDayNumber (instant.second / 86400)
  obtain ⟨-, month_le, -, day_le⟩ := Date.valid_ofDayNumber (instant.second / 86400)
  -- the date is held as a variable, since nothing below depends on how it is found
  generalize date_eq : Date.ofDayNumber (instant.second / 86400) = date at *
  have months : date.month < 100 := Nat.lt_of_le_of_lt month_le (by decide)
  have days_fit : date.day < 100 :=
    Nat.lt_of_le_of_lt (Nat.le_trans day_le (Date.daysInMonth_le _ _)) (by decide)
  have date_read := (congrArg date? (toList_render date_eq)).trans
    (date?_written found months days_fit _)
  have seconds : instant.second / 86400 * 86400 + ((instant.second % 86400).toNat : Int) - 0 =
      instant.second := by omega
  rw [parse_of_parts date_read (timeOfDay?_written leap_at_end) rfl years (by decide), days,
    seconds]
  exact Instant.within?_eq_some_iff.mpr ⟨rfl, rfl⟩

/-! ### Leap seconds that are read -/

theorem numberOf_concat (earlier : List Char) (last : Char) :
    numberOf (earlier ++ [last]) = numberOf earlier * 10 + (last.toNat - '0'.toNat) := by
  rw [numberOf, List.foldl_append]
  rfl

/-- Some digits have a number that is less than the power of ten with as many zeros. -/
theorem numberOf_lt {digits : List Char} (all_digits : ∀ digit ∈ digits, digit.isDigit = true) :
    numberOf digits < Nat.pow 10 digits.length := by
  induction digits using List.reverseRecOn with
  | nil => decide
  | append_singleton earlier last ih =>
    have smaller := ih fun digit listed => all_digits digit (List.mem_append_left _ listed)
    have isDigit := all_digits last (List.mem_append_right _ List.mem_cons_self)
    have most : last.toNat ≤ 57 := of_decide_eq_true (Bool.and_eq_true_iff.mp isDigit).2
    have zero : '0'.toNat = 48 := rfl
    have one_more : Nat.pow 10 (earlier ++ [last]).length = Nat.pow 10 earlier.length * 10 := by
      rw [List.length_append]
      rfl
    rw [numberOf_concat, one_more, zero]
    omega

/-- A fraction is less than a second. -/
theorem fraction?_lt {chars rest : List Char} {nanos : Nat}
    (read : fraction? chars = some (nanos, rest)) : nanos < nanosPerSecond := by
  unfold fraction? at read
  split at read
  · rename_i after
    dsimp only at read
    split at read
    · cases read
    · cases read
      generalize counted_eq : (after.takeWhile Char.isDigit).take 9 = counted
      have short : counted.length ≤ 9 := counted_eq ▸ List.length_take_le 9 _
      have all_digits : ∀ digit ∈ counted, digit.isDigit = true := by
        intro digit listed
        rw [← counted_eq] at listed
        exact List.mem_takeWhile_imp (List.mem_of_mem_take listed)
      calc numberOf counted * Nat.pow 10 (9 - counted.length)
        _ < Nat.pow 10 counted.length * Nat.pow 10 (9 - counted.length) :=
          Nat.mul_lt_mul_of_pos_right (numberOf_lt all_digits) (Nat.pow_pos (by decide))
        _ = Nat.pow 10 (counted.length + (9 - counted.length)) := (Nat.pow_add 10 _ _).symm
        _ = nanosPerSecond := by
          rw [Nat.add_sub_cancel' short]
          rfl
  · cases read
    decide

/-- Only the last second of a minute has a leap second after it. -/
theorem timeOfDay?_leap {chars rest : List Char} {secondOfDay nanos : Nat}
    (read : timeOfDay? chars = some (secondOfDay, nanos, rest)) (inside : nanosPerSecond ≤ nanos) :
    secondOfDay % 60 = 59 := by
  simp only [timeOfDay?, Option.bind_eq_bind, Option.bind_eq_some_iff, Option.pure_def] at read
  obtain ⟨hour, -, _, -, minute, -, _, -, second, -, fraction, fraction_read, -, -, read⟩ := read
  have small : fraction.1 < nanosPerSecond := fraction?_lt fraction_read
  split at read
  · cases read
    omega
  · cases read
    omega

/-- A zone is some minutes ahead of UTC, or behind. -/
theorem zone?_minutes {chars rest : List Char} {ahead : Int}
    (read : zone? chars = some (ahead, rest)) : ahead % 60 = 0 := by
  unfold zone? at read
  split at read
  · cases read
    rfl
  · cases read
    rfl
  · dsimp only at read
    split at read
    · cases read
      rfl
    split at read
    · split at read
      · split at read
        · split at read
          · cases read
            split
            · omega
            · omega
          · cases read
        · cases read
      · cases read
    · cases read
  · cases read

/-- **What is read has its leap seconds at the end of a minute.** -/
theorem leapAtMinuteEnd_of_parse {text : String} {instant : Instant}
    (parsed : parse text = some instant) : instant.LeapAtMinuteEnd := by
  simp only [parse, Option.bind_eq_bind, Option.bind_eq_some_iff] at parsed
  obtain ⟨date, -, _, -, ⟨secondOfDay, nanos, _⟩, time_read, ⟨ahead, _⟩, zone_read, _, -, _, -,
    _, -, found⟩ := parsed
  have time_leap := timeOfDay?_leap time_read
  have minutes := zone?_minutes zone_read
  obtain ⟨second_eq, nano_eq⟩ := Instant.within?_eq_some_iff.mp found
  intro inside
  rw [nano_eq] at inside
  have last := time_leap inside
  dsimp only at second_eq
  omega

/-- **These instants are read back from their timestamps**: those outside of leap seconds, and those
inside a leap second at the end of a minute. -/
theorem parse_render_iff {instant : Instant} :
    parse (render "Z" instant) = some instant ↔ instant.LeapAtMinuteEnd :=
  ⟨leapAtMinuteEnd_of_parse, parse_render⟩

/-- The last instant of all lies in a leap second, in a year of six digits. -/
example : render "Z" ⟨lastSecond, 1999999999, by decide, by decide, by decide⟩ =
    "+262142-12-31T23:59:60.999999999Z" := by decide

end TokenLedger.Timestamp
