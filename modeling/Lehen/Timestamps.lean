import Lehen.Calendar

/-!
Instants as they are stored, in the text that `datetime.isoformat` writes. Read
back, a text names its instant; and texts are in the order of the instants.
-/

namespace Lehen.Timestamps

open Storage Columns Calendar

/-! `datetime.fromisoformat`, of texts `isoformat` writes of an instant in UTC. -/

def readDigits (text : List Char) : Option Nat :=
  if text.all Char.isDigit then
    some (text.foldl (fun value c => 10 * value + (c.toNat - 48)) 0)
  else none

def readFraction : List Char → Option Nat
  | ['+', '0', '0', ':', '0', '0'] => some 0
  | ['.', a, b, c, d, e, f, '+', '0', '0', ':', '0', '0'] => readDigits [a, b, c, d, e, f]
  | _ => none

/-- The checks `datetime` makes of its fields. -/
def inRange (year month day hour minute second : Nat) : Bool :=
  1 ≤ year && 1 ≤ month && month ≤ 12 && 1 ≤ day && day ≤ daysInMonth year month && hour < 24 &&
    minute < 60 && second < 60

def fromisoformat (text : String) : Option Time :=
  match text.toList with
  | y1 :: y2 :: y3 :: y4 :: '-' :: o1 :: o2 :: '-' :: d1 :: d2 :: 'T' :: h1 :: h2 :: ':' :: m1 :: m2 ::
      ':' :: s1 :: s2 :: rest => do
      let year ← readDigits [y1, y2, y3, y4]
      let month ← readDigits [o1, o2]
      let day ← readDigits [d1, d2]
      let hour ← readDigits [h1, h2]
      let minute ← readDigits [m1, m2]
      let second ← readDigits [s1, s2]
      let micros ← readFraction rest
      if inRange year month day hour minute second ∧ epochOrdinal ≤ toordinal year month day then
        let days := toordinal year month day - epochOrdinal
        some (((days * 24 + hour) * 60 + minute) * 60 * 1000000 + second * 1000000 + micros)
      else none
  | _ => none

example : fromisoformat "2024-02-29T12:34:56.000007+00:00" = some 1709210096000007 := by decide +kernel

/-! The columns of a text. -/

def twoText (value : Nat) : List Char := (twoDigits value).toList

theorem column_two : Column {value | value < 100} twoText := by
  have digits : twoText = fun value =>
      [Json.hexDigit (value / 10 % 10)] ++ [Json.hexDigit (value % 10)] := by
    funext value
    simp [twoText, twoDigits]
  have digit : Column {value : Nat | value < 10} fun value => [Json.hexDigit value] := by
    refine ⟨fun _ _ _ _ => rfl, fun left known right other => ?_⟩
    have small : ∀ left < 10, ∀ right < 10, [Json.hexDigit left] < [Json.hexDigit right] ↔ left < right := by
      decide
    exact small left known right other
  have graded : Graded {value | value < 100} (fun value => value / 10 % 10) fun value => value % 10 := by
    intro left known right other
    rw [graded_radix Set.univ (by decide : 0 < 10) left trivial right trivial]
    have first : left / 10 % 10 = left / 10 := Nat.mod_eq_of_lt (Nat.div_lt_of_lt_mul known)
    have second : right / 10 % 10 = right / 10 := Nat.mod_eq_of_lt (Nat.div_lt_of_lt_mul other)
    simp only [first, second]
  rw [digits]
  exact column_pair graded (fun value _ => Nat.mod_lt _ (by decide)) (fun value _ => Nat.mod_lt _ (by decide))
    digit digit

theorem two_text_mod (value : Nat) : twoText (value % 100) = twoText value := by
  have tens : value % 100 / 10 % 10 = value / 10 % 10 := by omega
  have units : value % 100 % 10 = value % 10 := by omega
  simp only [twoText, twoDigits, tens, units]

/-- Two columns, quotient and remainder. -/
theorem column_radix {domain highs lows : Set Nat} {writeHigh writeLow : Nat → List Char} {base : Nat}
    (positive : 0 < base) (high : Column highs writeHigh) (low : Column lows writeLow)
    (inHighs : ∀ value ∈ domain, value / base ∈ highs) (fits : ∀ rest < base, rest ∈ lows) :
    Column domain fun value => writeHigh (value / base) ++ writeLow (value % base) :=
  column_pair (graded_radix domain positive) inHighs
    (fun value _ => fits _ (Nat.mod_lt value positive)) high low

def yearText (year : Nat) : List Char := twoText (year / 100) ++ twoText year

theorem column_year : Column {year | year < 10000} yearText := by
  have same : yearText = fun year => twoText (year / 100) ++ twoText (year % 100) := by
    funext year
    rw [two_text_mod, yearText]
  rw [same]
  apply column_radix (by decide) column_two column_two
  · exact fun year known => Nat.div_lt_of_lt_mul known
  · exact fun rest small => small

def monthText (index : Nat) : List Char := yearText (index / 12) ++ ['-'] ++ twoText (index % 12 + 1)

theorem column_month : Column {index | index / 12 < 10000} monthText := by
  have named : Column {month | month < 12} fun month => twoText (month + 1) := by
    have inside (month : Nat) (known : month < 12) : month + 1 < 100 := by omega
    constructor
    · exact fun left known right other => column_two.aligned _ (inside left known) _ (inside right other)
    · intro left known right other
      rw [column_two.ordered _ (inside left known) _ (inside right other), Nat.succ_lt_succ_iff]
  apply column_radix (by decide) (column_ends column_year ['-']) named
  · exact fun index known => known
  · exact fun rest small => small

/-- The days of years of four digits. -/
def Dateable : Set Nat := {days | (civilDate days).1 < 10000}

def dateText (days : Nat) : List Char :=
  monthText (monthIndex days) ++ ['-'] ++ twoText (civilDate days).2.2

theorem month_index_parts (days : Nat) : monthIndex days / 12 = (civilDate days).1 ∧
    monthIndex days % 12 + 1 = (civilDate days).2.1 := by
  have named := (dated_civil days).month
  unfold monthIndex
  omega

theorem mem_dateable (days : Nat) : days ∈ Dateable ↔ (civilDate days).1 < 10000 := Iff.rfl

theorem dateable_month {days : Nat} (known : days ∈ Dateable) : monthIndex days / 12 < 10000 := by
  rw [(month_index_parts days).1]
  exact (mem_dateable days).mp known

theorem day_small (days : Nat) : (civilDate days).2.2 < 100 := by
  have within := in_month days
  have bounds := days_in_month_bounds (civilDate days).1 (dated_civil days).month
  omega

theorem column_date : Column Dateable dateText := by
  have columns := column_pair (graded_days Dateable) (fun _ known => dateable_month known)
    (fun days _ => day_small days) (column_ends column_month ['-']) column_two
  exact columns

/-- A unit of the clock behind the larger ones. -/
def unitText (write : Nat → List Char) (separator : Char) (base value : Nat) : List Char :=
  write (value / base) ++ [separator] ++ twoText (value % base)

def Units (domain : Set Nat) (base : Nat) : Set Nat := {value | value / base ∈ domain}

theorem mem_units (domain : Set Nat) (base value : Nat) :
    value ∈ Units domain base ↔ value / base ∈ domain := Iff.rfl

theorem column_unit {domain : Set Nat} {write : Nat → List Char} (column : Column domain write)
    (separator : Char) {base : Nat} (positive : 0 < base) (fits : base ≤ 100) :
    Column (Units domain base) (unitText write separator base) := by
  apply column_radix positive (column_ends column [separator]) column_two
  · exact fun value known => known
  · exact fun rest small => small.trans_le fits

def hourText : Nat → List Char := unitText dateText 'T' 24
def minuteText : Nat → List Char := unitText hourText ':' 60
def secondText : Nat → List Char := unitText minuteText ':' 60

theorem column_second : Column (Units (Units (Units Dateable 24) 60) 60) secondText := by
  have hours : Column _ hourText := column_unit column_date 'T' (by decide) (by decide)
  have minutes : Column _ minuteText := column_unit hours ':' (by decide) (by decide)
  exact column_unit minutes ':' (by decide) (by decide)

def offsetText : List Char := ['+', '0', '0', ':', '0', '0']

def microsText (micros : Nat) : List Char := twoText (micros / 10000) ++ yearText (micros % 10000)

def fractionText (micros : Nat) : List Char :=
  if micros = 0 then offsetText else '.' :: (microsText micros ++ offsetText)

theorem ordered_fraction : Ordered {micros | micros < 1000000} fractionText := by
  have digits : Column {micros | micros < 1000000} microsText := by
    apply column_radix (by decide) column_two column_year
    · exact fun micros known => Nat.div_lt_of_lt_mul known
    · exact fun rest small => small
  have compared := (column_ends digits offsetText).ordered
  have plus : '+' < '.' := by decide
  intro left known right other
  by_cases first : left = 0 <;> by_cases second : right = 0
  · simp [fractionText, first, second]
  · have behind : offsetText < '.' :: (microsText right ++ offsetText) := List.Lex.rel plus
    simp [fractionText, first, second, behind, Nat.pos_of_ne_zero second]
  · have behind : offsetText < '.' :: (microsText left ++ offsetText) := List.Lex.rel plus
    simp [fractionText, first, second, behind.le]
  · simp only [fractionText, first, second, if_false, List.cons_lt_cons_iff, lt_irrefl, true_and,
      false_or, compared left known right other]

theorem micros_text (micros : Nat) :
    microsText micros = twoText (micros / 10000) ++ twoText (micros / 100) ++ twoText micros := by
  have high : micros % 10000 / 100 = micros / 100 % 100 := by omega
  have low : micros % 10000 % 100 = micros % 100 := by omega
  rw [microsText, yearText, high, two_text_mod, ← two_text_mod (micros % 10000), low, two_text_mod,
    List.append_assoc]

theorem date_text (days : Nat) :
    dateText days = twoText ((civilDate days).1 / 100) ++ twoText (civilDate days).1 ++ ['-'] ++
      twoText (civilDate days).2.1 ++ ['-'] ++ twoText (civilDate days).2.2 := by
  rw [dateText, monthText, (month_index_parts days).1, (month_index_parts days).2, yearText]

theorem isoformat_text (instant : Time) :
    (isoformat instant).toList = secondText (instant / 1000000) ++ fractionText (instant % 1000000) := by
  have hours : instant / 1000000 / 60 / 60 = instant / 1000000 / 3600 := Nat.div_div_eq_div_mul ..
  have days : instant / 1000000 / 3600 / 24 = instant / 1000000 / 86400 := Nat.div_div_eq_div_mul ..
  rw [secondText, unitText, minuteText, unitText, hourText, unitText, hours, days, date_text, fractionText,
    micros_text]
  unfold isoformat
  dsimp only
  generalize civilDate (instant / 1000000 / 86400) = date
  obtain ⟨year, month, day⟩ := date
  by_cases whole : instant % 1000000 = 0
  · simp [twoText, offsetText, whole]
  · simp [twoText, offsetText, whole]

/-- What `datetime` can hold ends before the year 10000. -/
def maxInstant : Time := 2932897 * 86400000000

theorem dateable_days {days : Nat} (known : days < 2932897) : days ∈ Dateable := by
  rw [mem_dateable]
  by_contra late
  obtain ⟨starts, _, day, named, _⟩ := dated_civil days
  have first : monthStart 119998 = 3652365 := by decide
  have within : 119998 ≤ monthsOf (civilDate days) := by
    unfold monthsOf
    omega
  have begins := month_start_mono within
  rw [first] at begins
  omega

theorem dateable_seconds {instant : Time} (known : instant < maxInstant) :
    instant / 1000000 ∈ Units (Units (Units Dateable 24) 60) 60 := by
  simp only [mem_units, Nat.div_div_eq_div_mul]
  exact dateable_days (Nat.div_lt_of_lt_mul (by rwa [Nat.mul_comm]))

/-- Texts compare as the instants do. -/
theorem isoformat_order {left right : Time} (known : left < maxInstant) (other : right < maxInstant) :
    isoformat left < isoformat right ↔ left < right := by
  have texts : Ordered {instant | instant < maxInstant} fun instant =>
      secondText (instant / 1000000) ++ fractionText (instant % 1000000) := by
    have ordered := ordered_pair (graded_radix {instant | instant < maxInstant} (by decide : 0 < 1000000))
      (fun _ known => dateable_seconds known) (fun instant _ => Nat.mod_lt instant (by decide))
      column_second ordered_fraction
    exact ordered
  rw [String.lt_iff, isoformat_text, isoformat_text]
  exact texts left known right other

/-! Reading a text back. -/

theorem digit_read {value : Nat} (small : value < 10) :
    (Json.hexDigit value).isDigit = true ∧ (Json.hexDigit value).toNat - 48 = value := by
  have all : ∀ value < 10, (Json.hexDigit value).isDigit = true ∧ (Json.hexDigit value).toNat - 48 = value := by
    decide
  exact all value small

theorem read_digits (values : List Nat) (small : ∀ value ∈ values, value < 10) :
    readDigits (values.map Json.hexDigit) = some (values.foldl (fun whole value => 10 * whole + value) 0) := by
  have digits : (values.map Json.hexDigit).all Char.isDigit = true := by
    rw [List.all_eq_true]
    intro c member
    obtain ⟨value, known, rfl⟩ := List.mem_map.mp member
    exact (digit_read (small value known)).1
  rw [readDigits, if_pos digits, List.foldl_map]
  congr 1
  apply List.foldl_ext
  intro whole value known
  rw [(digit_read (small value known)).2]

theorem two_text (value : Nat) : twoText value = [value / 10 % 10, value % 10].map Json.hexDigit := by
  simp [twoText, twoDigits]

theorem read_two {value : Nat} (small : value < 100) : readDigits (twoText value) = some value := by
  have digits : ∀ digit ∈ [value / 10 % 10, value % 10], digit < 10 := by
    simp
    omega
  rw [two_text, read_digits _ digits]
  simp
  omega

theorem read_year {year : Nat} (small : year < 10000) : readDigits (yearText year) = some year := by
  have digits : ∀ digit ∈ [year / 100 / 10 % 10, year / 100 % 10, year / 10 % 10, year % 10], digit < 10 := by
    simp
    omega
  have text : yearText year =
      [year / 100 / 10 % 10, year / 100 % 10, year / 10 % 10, year % 10].map Json.hexDigit := by
    simp [yearText, two_text]
  rw [text, read_digits _ digits]
  simp
  omega

theorem read_micros {micros : Nat} (small : micros < 1000000) : readDigits (microsText micros) = some micros := by
  have digits : ∀ digit ∈ [micros / 10000 / 10 % 10, micros / 10000 % 10, micros / 100 / 10 % 10,
      micros / 100 % 10, micros / 10 % 10, micros % 10], digit < 10 := by
    simp
    omega
  have text : microsText micros = [micros / 10000 / 10 % 10, micros / 10000 % 10, micros / 100 / 10 % 10,
      micros / 100 % 10, micros / 10 % 10, micros % 10].map Json.hexDigit := by
    simp [micros_text, two_text]
  rw [text, read_digits _ digits]
  simp
  omega

theorem read_fraction {micros : Nat} (small : micros < 1000000) : readFraction (fractionText micros) = some micros := by
  unfold fractionText
  split
  · next zero =>
      rw [zero]
      rfl
  · have read := read_micros small
    rw [micros_text] at read ⊢
    simp only [two_text, List.map_cons, List.map_nil, List.cons_append, List.nil_append] at read ⊢
    exact read

/-- Texts of the columns that `datetime` checks. -/
theorem fromisoformat_columns {year month day hour minute second micros : Nat} (years : year < 10000)
    (months : month < 100) (days : day < 100) (hours : hour < 100) (minutes : minute < 100)
    (seconds : second < 100) (fraction : micros < 1000000) :
    fromisoformat (String.ofList (yearText year ++ ['-'] ++ twoText month ++ ['-'] ++ twoText day ++ ['T'] ++
        twoText hour ++ [':'] ++ twoText minute ++ [':'] ++ twoText second ++ fractionText micros)) =
      if inRange year month day hour minute second ∧ epochOrdinal ≤ toordinal year month day then
        some ((((toordinal year month day - epochOrdinal) * 24 + hour) * 60 + minute) * 60 * 1000000 +
          second * 1000000 + micros)
      else none := by
  have readYear := read_year years
  have readMonth := read_two months
  have readDay := read_two days
  have readHour := read_two hours
  have readMinute := read_two minutes
  have readSecond := read_two seconds
  rw [fromisoformat, String.toList_ofList]
  simp only [yearText, two_text, List.map_cons, List.map_nil, List.cons_append, List.nil_append] at *
  simp only [readYear, readMonth, readDay, readHour, readMinute, readSecond, read_fraction fraction,
    Option.bind_eq_bind, Option.bind_some]

/-- The date and the time of day of an instant are in range. -/
theorem civil_in_range (days : Nat) {hour minute second : Nat} (hours : hour < 24) (minutes : minute < 60)
    (seconds : second < 60) :
    inRange (civilDate days).1 (civilDate days).2.1 (civilDate days).2.2 hour minute second = true := by
  obtain ⟨_, _, day, named, positive⟩ := dated_civil days
  simp [inRange, in_month days, day, named.1, named.2, positive, hours, minutes, seconds]

theorem fromisoformat_isoformat {instant : Time} (known : instant < maxInstant) :
    fromisoformat (isoformat instant) = some instant := by
  have dateable := dateable_seconds known
  simp only [mem_units] at dateable
  have parts : isoformat instant = String.ofList
      (secondText (instant / 1000000) ++ fractionText (instant % 1000000)) := by
    rw [← isoformat_text, String.ofList_toList]
  rw [parts, secondText, unitText, minuteText, unitText, hourText, unitText, dateText, monthText,
    (month_index_parts _).1, (month_index_parts _).2]
  have named := (dated_civil (instant / 1000000 / 60 / 60 / 24)).month
  rw [fromisoformat_columns ((mem_dateable _).mp dateable) (by omega) (day_small _)
    ((Nat.mod_lt _ (by decide)).trans (by decide : 24 < 100))
    ((Nat.mod_lt _ (by decide)).trans (by decide : 60 < 100))
    ((Nat.mod_lt _ (by decide)).trans (by decide : 60 < 100)) (Nat.mod_lt _ (by decide)),
    toordinal_civil, if_pos ⟨civil_in_range _ (Nat.mod_lt _ (by decide)) (Nat.mod_lt _ (by decide))
      (Nat.mod_lt _ (by decide)), Nat.le_add_left ..⟩, Nat.add_sub_cancel]
  rw [Nat.div_add_mod', Nat.div_add_mod', ← Nat.add_mul, Nat.div_add_mod', Nat.div_add_mod']

/-- An instant that is stored is read back as it was, and stored texts are in the
order of the instants. -/
theorem stored_instants {instant other : Time} (known : instant < maxInstant) (alike : other < maxInstant) :
    fromisoformat (isoformat instant) = some instant ∧
      (isoformat instant < isoformat other ↔ instant < other) :=
  ⟨fromisoformat_isoformat known, isoformat_order known alike⟩

/-- The text of a whole second has no fraction, and is in front of those that have one. -/
theorem whole_second_stored : fromisoformat (isoformat 1709210096000000) = some 1709210096000000 ∧
    (isoformat 1709210096000000 < isoformat 1709210096000001 ↔ 1709210096000000 < 1709210096000001) :=
  stored_instants (by decide) (by decide)

end Lehen.Timestamps
