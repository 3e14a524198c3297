import BroadcastGraphics.Proofs.NumberText
import BroadcastGraphics.Store.Database
import Mathlib.Data.String.Basic

/-!
# Moments in the order of their texts

A database keeps moments as texts and lists its rows by these.  Up to the end of the year 9999 the
texts of moments come in the order of the moments, so that rows can be compared by number.
-/

namespace BroadcastGraphics

/-! ## Texts of one length -/

/-- The first text comes before the second one, which is as long. -/
structure Precedes (first second : List Char) : Prop where
  length_eq : first.length = second.length
  before : first < second

section Precedes

variable {first second : List Char}

theorem Precedes.cons
    (precedes : Precedes first second)
    (mark : Char) : Precedes (mark :: first) (mark :: second) :=
  ⟨congrArg (· + 1) precedes.length_eq, List.cons_lt_cons_iff.2 (Or.inr ⟨rfl, precedes.before⟩)⟩

theorem append_lt_append
    (shared : List Char)
    (before : first < second) : shared ++ first < shared ++ second := by
  induction shared with
  | nil => exact before
  | cons mark rest ih => exact List.cons_lt_cons_iff.2 (Or.inr ⟨rfl, ih⟩)

/-- What follows does not matter. -/
theorem Precedes.append_lt
    (precedes : Precedes first second)
    (rest others : List Char) : first ++ rest < second ++ others := by
  obtain ⟨length_eq, before⟩ := precedes
  induction first generalizing second with
  | nil =>
    rw [List.length_eq_zero_iff.1 length_eq.symm] at before
    exact absurd before (List.lt_irrefl [])
  | cons mark first ih =>
    cases second with
    | nil => cases length_eq
    | cons other second =>
      rcases List.cons_lt_cons_iff.1 before with here | ⟨rfl, later⟩
      · exact List.cons_lt_cons_iff.2 (Or.inl here)
      · exact List.cons_lt_cons_iff.2 (Or.inr ⟨rfl, ih (Nat.succ.inj length_eq) later⟩)

theorem Precedes.append
    (precedes : Precedes first second)
    {rest others : List Char}
    (sameLength : rest.length = others.length) : Precedes (first ++ rest) (second ++ others) := by
  refine ⟨?_, precedes.append_lt rest others⟩
  rw [List.length_append, List.length_append, precedes.length_eq, sameLength]

theorem Precedes.prepend
    (precedes : Precedes first second)
    (shared : List Char) : Precedes (shared ++ first) (shared ++ second) := by
  refine ⟨?_, append_lt_append shared precedes.before⟩
  rw [List.length_append, List.length_append, precedes.length_eq]

end Precedes

/-! ## Numbers of one width -/

section Padded

open Json.Reader (AreDigits areDigits_decimalDigits areDigits_zeros)

/-- Of two runs of digits of one length the one of the smaller number comes first. -/
theorem lt_of_digitsValue_lt
    {first second : List Char}
    (firstDigits : AreDigits first)
    (secondDigits : AreDigits second)
    (sameLength : first.length = second.length)
    (smaller : digitsValue first < digitsValue second) : first < second := by
  induction first generalizing second with
  | nil =>
    rw [List.length_eq_zero_iff.1 sameLength.symm] at smaller
    exact absurd smaller (Nat.lt_irrefl _)
  | cons digit first ih =>
    cases second with
    | nil => cases sameLength
    | cons other second =>
      obtain ⟨digitIs, firstAre⟩ := List.forall_mem_cons.1 firstDigits
      obtain ⟨otherIs, secondAre⟩ := List.forall_mem_cons.1 secondDigits
      have sameRest : first.length = second.length := Nat.succ.inj sameLength
      rw [show digit :: first = [digit] ++ first from rfl, digitsValue_append,
        show other :: second = [other] ++ second from rfl, digitsValue_append, sameRest] at smaller
      rcases Nat.lt_trichotomy digit.toNat other.toNat with less | same | more
      · exact List.cons_lt_cons_iff.2 (Or.inl less)
      · obtain rfl : digit = other := Char.toNat_inj.1 same
        refine List.cons_lt_cons_iff.2 (Or.inr ⟨rfl, ih firstAre secondAre sameRest ?_⟩)
        omega
      · -- a larger digit in front makes the larger number
        exfalso
        have bound := digitsValue_lt secondAre
        have low : '0'.toNat ≤ other.toNat := otherIs.1
        have leading : digitsValue [other] + 1 ≤ digitsValue [digit] := by
          change 10 * 0 + (other.toNat - '0'.toNat) + 1 ≤ 10 * 0 + (digit.toNat - '0'.toNat)
          omega
        have scaled := Nat.mul_le_mul_right (10 ^ second.length) leading
        rw [Nat.add_mul, Nat.one_mul] at scaled
        omega

variable {width value : Nat}

theorem length_padded
    (fits : value < 10 ^ width)
    (some : 0 < width) : (Moment.padded width value).length = width := by
  have short : (decimalDigits value).length ≤ width :=
    (Nat.length_toDigits_le_iff (by decide) some).2 fits
  change (List.replicate (width - (decimalDigits value).length) '0' ++ decimalDigits value).length = _
  rw [List.length_append, List.length_replicate]
  omega

theorem digitsValue_padded (width value : Nat) : digitsValue (Moment.padded width value) = value := by
  change digitsValue (List.replicate _ '0' ++ decimalDigits value) = value
  rw [digitsValue_append, digitsValue_zeros, Nat.zero_mul, Nat.zero_add, digitsValue_decimalDigits]

/-- The smaller one of two numbers of a width comes first. -/
theorem precedes_padded
    {smaller : Nat}
    (less : smaller < value)
    (fits : value < 10 ^ width)
    (some : 0 < width) : Precedes (Moment.padded width smaller) (Moment.padded width value) := by
  have sameLength : (Moment.padded width smaller).length = (Moment.padded width value).length := by
    rw [length_padded (Nat.lt_trans less fits) some, length_padded fits some]
  have areDigits (number : Nat) : AreDigits (Moment.padded width number) :=
    (areDigits_zeros _).append (areDigits_decimalDigits number)
  refine ⟨sameLength, lt_of_digitsValue_lt (areDigits _) (areDigits _) sameLength ?_⟩
  rw [digitsValue_padded, digitsValue_padded]
  exact less

end Padded

namespace Moment

/-! ## The calendar -/

/-- The years from the first of March on that have passed on a day of an era. -/
def yearOfEra (day : Nat) : Nat :=
  (day - day / 1460 + day / 36524 - day / 146096) / 365

/-- The day of an era on which a year begins. -/
def yearStart (year : Nat) : Nat :=
  365 * year + year / 4 - year / 100 + year / 400

/-- A year begins no earlier than the ones before. -/
theorem yearStart_mono
    {first second : Nat}
    (le : first ≤ second) : yearStart first ≤ yearStart second := by
  have quarters : first / 4 ≤ second / 4 := Nat.div_le_div_right le
  have eras : first / 400 ≤ second / 400 := Nat.div_le_div_right le
  have centuries : second / 100 + first ≤ first / 100 + second := by omega
  unfold yearStart
  omega

/-- A day lies in its year: not before the year begins, and before the next one does. -/
theorem yearStart_yearOfEra
    {day : Nat}
    (inside : day < 146097) :
    yearStart (yearOfEra day) ≤ day ∧ day < yearStart (yearOfEra day + 1) := by
  rcases Nat.lt_or_ge day 146096 with early | last
  · unfold yearStart yearOfEra
    rw [Nat.div_eq_of_lt early, Nat.sub_zero]
    generalize same : (day - day / 1460 + day / 36524) / 365 = year
    generalize leaps : day / 1460 = leap at same
    generalize centuries : day / 36524 = century at same
    have counted : 365 * year ≤ day - leap + century ∧ day - leap + century < 365 * year + 365 := by
      omega
    have leapDays : 1460 * leap ≤ day ∧ day < 1460 * leap + 1460 := by omega
    have centuryDays : 36524 * century ≤ day ∧ day < 36524 * century + 36524 := by omega
    clear same leaps centuries
    have few : century ≤ 3 := by omega
    have many : 25 * century ≤ leap := by omega
    have above : 4 * leap ≤ year + 1 := by omega
    have notBefore : 100 * century ≤ year := by omega
    have notAfter : year < 100 * century + 100 := by omega
    have below : year / 4 ≤ leap := by omega
    have noEra : year / 400 = 0 := by omega
    have inCentury : year / 100 = century := by omega
    refine ⟨by omega, ?_⟩
    rcases Nat.lt_or_ge (year + 1) (100 * century + 100) with inside | turns
    · have sameCentury : (year + 1) / 100 = century := by omega
      have quarters : leap ≤ (year + 1) / 4 := by omega
      omega
    · have turn : year + 1 = 100 * (century + 1) := by omega
      omega
  · obtain rfl : day = 146096 := by omega
    decide

theorem yearOfEra_lt
    {day : Nat}
    (inside : day < 146097) : yearOfEra day < 400 := by
  by_contra beyond
  have begins : yearStart 400 ≤ yearStart (yearOfEra day) := yearStart_mono (Nat.not_lt.1 beyond)
  have reached := (yearStart_yearOfEra inside).1
  have whole : yearStart 400 = 146097 := rfl
  omega

/-- The date that lies a number of days after the first of March of a year. -/
def dateFromMarch (year days : Nat) : Date :=
  let part := (5 * days + 2) / 153
  let month := if part < 10 then part + 3 else part - 9
  ⟨year + (if month ≤ 2 then 1 else 0), month, days - (153 * part + 2) / 5 + 1⟩

theorem dateOf_eq (days : Nat) :
    let day := days + dayOffset
    dateOf days = dateFromMarch (yearOfEra (day % 146097) + day / 146097 * 400)
      (day % 146097 - yearStart (yearOfEra (day % 146097))) := by
  intro day
  have inside : day % 146097 < 146097 := Nat.mod_lt _ (by decide)
  have noEra : yearOfEra (day % 146097) / 400 = 0 := Nat.div_eq_of_lt (yearOfEra_lt inside)
  unfold yearStart
  rw [noEra]
  rfl

/-- One date comes before another one. -/
def Date.Before (first second : Date) : Prop :=
  first.year < second.year ∨ first.year = second.year ∧
    (first.month < second.month ∨ first.month = second.month ∧ first.day < second.day)

theorem dateFromMarch_before
    {firstYear secondYear first second : Nat}
    (inYear : first ≤ 365)
    (alsoInYear : second ≤ 365)
    (before : firstYear < secondYear ∨ firstYear = secondYear ∧ first < second) :
    (dateFromMarch firstYear first).Before (dateFromMarch secondYear second) := by
  unfold Date.Before dateFromMarch
  dsimp only
  rcases before with earlier | ⟨rfl, earlier⟩
  · split <;> split <;> split <;> split <;> omega
  · split <;> split <;> split <;> split <;> omega

/-- A year has no more than 366 days. -/
theorem dayOfYear_le
    {day : Nat}
    (inside : day < 146097) : day - yearStart (yearOfEra day) ≤ 365 := by
  have ended := (yearStart_yearOfEra inside).2
  have length : yearStart (yearOfEra day + 1) ≤ yearStart (yearOfEra day) + 366 := by
    unfold yearStart
    omega
  omega

/-- Later days have later dates. -/
theorem dateOf_before
    {first second : Nat}
    (earlier : first < second) : (dateOf first).Before (dateOf second) := by
  rw [dateOf_eq, dateOf_eq]
  generalize firstDay : first + dayOffset = day
  generalize secondDay : second + dayOffset = other
  have less : day < other := by omega
  have inside : day % 146097 < 146097 := Nat.mod_lt _ (by decide)
  have otherInside : other % 146097 < 146097 := Nat.mod_lt _ (by decide)
  have begun := (yearStart_yearOfEra inside).1
  have otherEnded := (yearStart_yearOfEra otherInside).2
  have inEra := yearOfEra_lt inside
  refine dateFromMarch_before (dayOfYear_le inside) (dayOfYear_le otherInside) ?_
  rcases Nat.lt_or_ge (day / 146097) (other / 146097) with era | era
  · omega
  · have sameEra : day / 146097 = other / 146097 :=
      Nat.le_antisymm (Nat.div_le_div_right (Nat.le_of_lt less)) era
    have within : day % 146097 < other % 146097 := by omega
    rcases Nat.lt_trichotomy (yearOfEra (day % 146097)) (yearOfEra (other % 146097)) with
      year | year | year
    · omega
    · rw [year] at begun
      rw [sameEra, year]
      exact Or.inr ⟨rfl, by omega⟩
    · have turned := yearStart_mono (show yearOfEra (other % 146097) + 1 ≤ _ from year)
      omega

/-! ## Texts -/

/-- The date is one that a calendar with years of four digits can have. -/
structure Date.Fits (date : Date) : Prop where
  year : date.year < 10000
  month : date.month < 100
  day : date.day < 100

/-- The number of days up to the end of the year 9999. -/
def calendarDays : Nat := 3652059

/-- The first moment after the year 9999. -/
def calendarEnd : Moment := calendarDays * daySeconds * second

theorem dateOf_fits
    {days : Nat}
    (within : days < calendarDays) : (dateOf days).Fits := by
  have before : (dateOf days).Before ⟨10000, 1, 1⟩ := dateOf_before within
  have inside : (days + dayOffset) % 146097 < 146097 := Nat.mod_lt _ (by decide)
  have inYear := dayOfYear_le inside
  have shape : 0 < (dateOf days).month ∧ (dateOf days).month < 100 ∧
      0 < (dateOf days).day ∧ (dateOf days).day < 100 := by
    rw [dateOf_eq]
    unfold dateFromMarch
    dsimp only
    split <;> omega
  refine ⟨?_, shape.2.1, shape.2.2.2⟩
  rcases before with earlier | ⟨_, month | ⟨_, day⟩⟩
  · exact earlier
  · exact absurd shape.1 (Nat.not_lt.2 (Nat.lt_succ_iff.1 month))
  · exact absurd shape.2.2.1 (Nat.not_lt.2 (Nat.lt_succ_iff.1 day))

/-- The earlier date has the earlier text. -/
theorem precedes_dateText
    {first second : Date}
    (before : first.Before second)
    (firstFits : first.Fits)
    (secondFits : second.Fits) : Precedes (dateText first) (dateText second) := by
  have twoDigits : ∀ value : Nat, value < 100 -> (padded 2 value).length = 2 :=
    fun value small => length_padded small (by decide)
  have sameMonthLength : ('-' :: padded 2 first.month).length = ('-' :: padded 2 second.month).length :=
    congrArg (· + 1) ((twoDigits _ firstFits.month).trans (twoDigits _ secondFits.month).symm)
  have sameDayLength : ('-' :: padded 2 first.day).length = ('-' :: padded 2 second.day).length :=
    congrArg (· + 1) ((twoDigits _ firstFits.day).trans (twoDigits _ secondFits.day).symm)
  unfold dateText
  rcases before with year | ⟨sameYear, month | ⟨sameMonth, day⟩⟩
  · exact ((precedes_padded year secondFits.year (by decide)).append sameMonthLength).append
      sameDayLength
  · rw [sameYear]
    exact (((precedes_padded month secondFits.month (by decide)).cons '-').prepend _).append
      sameDayLength
  · rw [sameYear, sameMonth]
    exact ((precedes_padded day secondFits.day (by decide)).cons '-').prepend _

/-- The earlier time of a day has the earlier text. -/
theorem precedes_timeText
    {first second : Nat}
    (earlier : first < second)
    (within : second < daySeconds) : Precedes (timeText first) (timeText second) := by
  have inDay : second < 86400 := within
  have twoDigits : ∀ value other : Nat, value < 60 -> other < 60 ->
      (':' :: padded 2 value).length = (':' :: padded 2 other).length := fun value other small also =>
    congrArg (· + 1) ((length_padded (show value < 10 ^ 2 by omega) (by decide)).trans
      (length_padded (show other < 10 ^ 2 by omega) (by decide)).symm)
  have sameMinuteLength := twoDigits (first / 60 % 60) (second / 60 % 60)
    (Nat.mod_lt _ (by decide)) (Nat.mod_lt _ (by decide))
  have sameSecondLength := twoDigits (first % 60) (second % 60)
    (Nat.mod_lt _ (by decide)) (Nat.mod_lt _ (by decide))
  unfold timeText
  rcases Nat.lt_trichotomy (first / 3600) (second / 3600) with hour | sameHour | hour
  · exact ((precedes_padded hour (by omega) (by decide)).append sameMinuteLength).append
      sameSecondLength
  · rw [sameHour]
    rcases Nat.lt_trichotomy (first / 60 % 60) (second / 60 % 60) with minute | sameMinute | minute
    · exact (((precedes_padded minute (by omega) (by decide)).cons ':').prepend _).append
        sameSecondLength
    · rw [sameMinute]
      exact ((precedes_padded (show first % 60 < second % 60 by omega) (by omega)
        (by decide)).cons ':').prepend _
    · omega
  · omega

/-- The smaller fraction of a second has the earlier text before the offset: a whole second is written
without a point, and the sign of the offset comes before the point. -/
theorem fractionText_lt
    {first second : Nat}
    (less : first < second)
    (within : second < Moment.second)
    (offset : List Char) :
    fractionText first ++ '+' :: offset < fractionText second ++ '+' :: offset := by
  unfold fractionText
  rw [if_neg (show second ≠ 0 by omega)]
  split
  · exact List.cons_lt_cons_iff.2 (Or.inl (by decide))
  · exact ((precedes_padded less within (by decide)).cons '.').append_lt _ _

theorem length_timeText
    {time : Nat}
    (within : time < daySeconds) : (timeText time).length = 8 := by
  have inDay : time < 86400 := within
  have hour : time / 3600 < 10 ^ 2 := by omega
  have minute : time / 60 % 60 < 10 ^ 2 := by omega
  have last : time % 60 < 10 ^ 2 := by omega
  unfold timeText
  rw [List.length_append, List.length_append, List.length_cons, List.length_cons,
    length_padded hour (by decide), length_padded minute (by decide), length_padded last (by decide)]

/-- Within one unit the later number has more left over. -/
theorem mod_lt_mod_of_div_eq
    {smaller larger unit : Nat}
    (less : smaller < larger)
    (same : smaller / unit = larger / unit) : smaller % unit < larger % unit := by
  have total : unit * (larger / unit) + smaller % unit < unit * (larger / unit) + larger % unit := by
    rw [Nat.div_add_mod, ← same, Nat.div_add_mod]
    exact less
  exact Nat.lt_of_add_lt_add_left total

/-- The text of a second, without a fraction and an offset. -/
def secondText (seconds : Nat) : List Char :=
  dateText (dateOf (seconds / daySeconds)) ++ 'T' :: timeText (seconds % daySeconds)

/-- The earlier second has the earlier text. -/
theorem precedes_secondText
    {first second : Nat}
    (earlier : first < second)
    (within : second < calendarDays * daySeconds) :
    Precedes (secondText first) (secondText second) := by
  have inDay (seconds : Nat) : seconds % daySeconds < daySeconds := Nat.mod_lt _ (by decide)
  have inCalendar : second / daySeconds < calendarDays := Nat.div_lt_of_lt_mul (Nat.mul_comm _ _ ▸ within)
  have notLater : first / daySeconds ≤ second / daySeconds :=
    Nat.div_le_div_right (Nat.le_of_lt earlier)
  unfold secondText
  rcases Nat.lt_or_eq_of_le notLater with day | sameDay
  · have sameLength : ('T' :: timeText (first % daySeconds)).length =
        ('T' :: timeText (second % daySeconds)).length :=
      congrArg (· + 1) ((length_timeText (inDay first)).trans (length_timeText (inDay second)).symm)
    exact (precedes_dateText (dateOf_before day) (dateOf_fits (Nat.lt_trans day inCalendar))
      (dateOf_fits inCalendar)).append sameLength
  · rw [sameDay]
    have time := mod_lt_mod_of_div_eq earlier sameDay
    exact ((precedes_timeText time (inDay second)).cons 'T').prepend _

theorem toList_text (moment : Moment) :
    moment.text.toList = secondText (moment / second) ++
      (fractionText (moment % second) ++ '+' :: "00:00".toList) := by
  change (String.ofList _ ++ "+00:00").toList = _
  rw [String.toList_append, String.toList_ofList, List.append_assoc]
  rfl

/-- Up to the end of the calendar, the text of a moment comes before those of later moments. -/
theorem text_lt_of_lt
    {earlier later : Moment}
    (less : earlier < later)
    (within : later < calendarEnd) : earlier.text < later.text := by
  have notLater : earlier / second ≤ later / second := Nat.div_le_div_right (Nat.le_of_lt less)
  rw [String.lt_iff_toList_lt, toList_text, toList_text]
  rcases Nat.lt_or_eq_of_le notLater with seconds | sameSecond
  · have inCalendar : later / second < calendarDays * daySeconds :=
      Nat.div_lt_of_lt_mul (Nat.mul_comm _ _ ▸ within)
    exact (precedes_secondText seconds inCalendar).append_lt _ _
  · rw [sameSecond]
    have fraction := mod_lt_mod_of_div_eq less sameSecond
    exact append_lt_append _ (fractionText_lt fraction (Nat.mod_lt _ (by decide)) _)

theorem text_lt_iff
    {left right : Moment}
    (leftWithin : left < calendarEnd)
    (rightWithin : right < calendarEnd) : left.text < right.text ↔ left < right := by
  refine ⟨fun before => ?_, fun less => text_lt_of_lt less rightWithin⟩
  rcases Nat.lt_trichotomy left right with less | rfl | more
  · exact less
  · exact absurd before (lt_irrefl _)
  · exact absurd before (lt_asymm (text_lt_of_lt more leftWithin))

theorem text_eq_iff
    {left right : Moment}
    (leftWithin : left < calendarEnd)
    (rightWithin : right < calendarEnd) : left.text = right.text ↔ left = right := by
  refine ⟨fun same => ?_, congrArg text⟩
  rcases Nat.lt_trichotomy left right with less | same' | more
  · exact absurd same (ne_of_lt (text_lt_of_lt less rightWithin))
  · exact same'
  · exact absurd same.symm (ne_of_lt (text_lt_of_lt more leftWithin))

end Moment

/-- Rows that were made up to the end of the calendar are listed by the texts of the moments at which
they were made, and then by id. -/
theorem Store.Row.before_eq_texts
    {left right : Row}
    (leftWithin : left.made < Moment.calendarEnd)
    (rightWithin : right.made < Moment.calendarEnd) :
    left.before right = (decide (left.made.text < right.made.text) ||
      (left.made.text == right.made.text && decide (left.id ≤ right.id))) := by
  have same : (left.made.text == right.made.text) = (left.made == right.made) := by
    rw [Bool.eq_iff_iff, beq_iff_eq, beq_iff_eq]
    exact Moment.text_eq_iff leftWithin rightWithin
  have earlier : decide (left.made.text < right.made.text) = decide (left.made < right.made) :=
    decide_eq_decide.2 (Moment.text_lt_iff leftWithin rightWithin)
  rw [same, earlier]
  rfl

end BroadcastGraphics
