import BroadcastGraphics.Json.Printer
import BroadcastGraphics.Json.Reader
import BroadcastGraphics.Proofs.DecimalNumber

/-!
# Written scalars are read back

The reader of JSON text takes as much for a number as it can.  Behind a written value there is
nothing that could belong to a number, so it takes exactly the written digits, and from these it
makes the number that was written.
-/

namespace BroadcastGraphics
namespace Json
namespace Reader

/-- What comes next does not go on with a number. -/
structure EndsNumber (rest : List Char) : Prop where
  noDigit : ∀ next ∈ rest.head?, isDigit next = false
  noPoint : ∀ next ∈ rest.head?, next ≠ '.'
  noExponent : ∀ next ∈ rest.head?, next ≠ 'e' ∧ next ≠ 'E'

theorem endsNumber_nil : EndsNumber [] where
  noDigit _ member := nomatch member
  noPoint _ member := nomatch member
  noExponent _ member := nomatch member

theorem endsNumber_cons
    {mark : Char}
    (noPart : isDigit mark = false ∧ mark ≠ '.' ∧ mark ≠ 'e' ∧ mark ≠ 'E')
    (rest : List Char) :
    EndsNumber (mark :: rest) := by
  obtain ⟨noDigit, noPoint, noExponent⟩ := noPart
  refine ⟨fun next member => ?_, fun next member => ?_, fun next member => ?_⟩
  · cases member
    exact noDigit
  · cases member
    exact noPoint
  · cases member
    exact noExponent

/-! ## Runs of digits -/

/-- A run of digits. -/
def AreDigits (digits : List Char) : Prop :=
  ∀ digit ∈ digits, '0' ≤ digit ∧ digit ≤ '9'

theorem isDigit_of_between
    {digit : Char}
    (between : '0' ≤ digit ∧ digit ≤ '9') :
    isDigit digit = true := by
  unfold isDigit
  rw [decide_eq_true between.1, decide_eq_true between.2]
  rfl

theorem areDigits_decimalDigits
    (value : Nat) :
    AreDigits (decimalDigits value) :=
  fun _ member => digit_of_mem_decimalDigits member

theorem areDigits_zeros
    (count : Nat) :
    AreDigits (List.replicate count '0') := by
  intro digit member
  rw [List.eq_of_mem_replicate member]
  decide

theorem AreDigits.append
    {first second : List Char}
    (firstDigits : AreDigits first)
    (secondDigits : AreDigits second) :
    AreDigits (first ++ second) := by
  intro digit member
  exact (List.mem_append.mp member).elim (firstDigits digit) (secondDigits digit)

/-- The reader takes a whole run of digits and no more. -/
theorem AreDigits.takeWhile
    {digits rest : List Char}
    (areDigits : AreDigits digits)
    (ends : ∀ next ∈ rest.head?, isDigit next = false) :
    (digits ++ rest).takeWhile isDigit = digits := by
  rw [List.takeWhile_append_of_pos fun digit member => isDigit_of_between (areDigits digit member)]
  cases rest with
  | nil => exact List.append_nil _
  | cons next more =>
    rw [List.takeWhile_cons_of_neg (by rw [ends next rfl]; exact Bool.false_ne_true),
      List.append_nil]

theorem AreDigits.dropWhile
    {digits rest : List Char}
    (areDigits : AreDigits digits)
    (ends : ∀ next ∈ rest.head?, isDigit next = false) :
    (digits ++ rest).dropWhile isDigit = rest := by
  rw [List.dropWhile_append_of_pos fun digit member => isDigit_of_between (areDigits digit member)]
  cases rest with
  | nil => rfl
  | cons next more =>
    rw [List.dropWhile_cons_of_neg (by rw [ends next rfl]; exact Bool.false_ne_true)]

/-- A whole part: digits, with a zero in front only if it stands alone. -/
structure IsWhole (digits : List Char) : Prop where
  areDigits : AreDigits digits
  nonempty : digits ≠ []
  zeroAlone : digits.head? = some '0' -> digits = ['0']

theorem isWhole_decimalDigits
    (value : Nat) :
    IsWhole (decimalDigits value) := by
  refine ⟨areDigits_decimalDigits value, decimalDigits_ne_nil value, fun startsWithZero => ?_⟩
  by_cases zero : value = 0
  · subst zero
    decide
  · exact absurd startsWithZero (head?_decimalDigits_ne_zero (Nat.pos_of_ne_zero zero))

theorem wholeDigits?_append
    {digits rest : List Char}
    (whole : IsWhole digits)
    (ends : ∀ next ∈ rest.head?, isDigit next = false) :
    wholeDigits? (digits ++ rest) = some (digits, rest) := by
  obtain ⟨first, more, rfl⟩ := List.exists_cons_of_ne_nil whole.nonempty
  by_cases zero : first = '0'
  · subst zero
    rw [whole.zeroAlone rfl]
    rfl
  · have isDigit := isDigit_of_between (whole.areDigits first List.mem_cons_self)
    have taken := whole.areDigits.takeWhile ends
    have dropped := whole.areDigits.dropWhile ends
    rw [List.cons_append] at taken dropped ⊢
    unfold wholeDigits?
    split
    · rename_i same
      exact absurd (List.cons.inj same).1 zero
    · rename_i same
      obtain ⟨rfl, rfl⟩ := List.cons.inj same
      rw [if_pos isDigit, taken, dropped]
    · rename_i same
      cases same

theorem fractionDigits_of_ends
    {rest : List Char}
    (ends : ∀ next ∈ rest.head?, next ≠ '.') :
    fractionDigits rest = ([], rest) := by
  unfold fractionDigits
  split
  · exact absurd rfl (ends '.' rfl)
  · rfl

theorem fractionDigits_append
    {digits rest : List Char}
    (areDigits : AreDigits digits)
    (nonempty : digits ≠ [])
    (ends : ∀ next ∈ rest.head?, isDigit next = false) :
    fractionDigits ('.' :: (digits ++ rest)) = (digits, rest) := by
  simp only [fractionDigits, areDigits.takeWhile ends, areDigits.dropWhile ends]
  rw [if_neg]
  rwa [List.isEmpty_iff]

theorem exponent?_of_ends
    {rest : List Char}
    (ends : ∀ next ∈ rest.head?, next ≠ 'e' ∧ next ≠ 'E') :
    exponent? rest = none := by
  cases rest with
  | nil => rfl
  | cons next more =>
    obtain ⟨notSmall, notCapital⟩ := ends next rfl
    unfold exponent?
    simp [notSmall, notCapital]

/-- An exponent with its sign. -/
theorem exponent?_append
    {digits rest : List Char}
    (areDigits : AreDigits digits)
    (nonempty : digits ≠ [])
    (ends : ∀ next ∈ rest.head?, isDigit next = false)
    (negative : Bool) :
    exponent? ('e' :: (if negative then '-' else '+') :: (digits ++ rest)) =
      some (if negative then -(digitsValue digits : Int) else digitsValue digits, rest) := by
  unfold exponent?
  cases negative with
  | false =>
    simp only [areDigits.takeWhile ends, areDigits.dropWhile ends, Bool.false_eq_true, if_false]
    rw [if_pos (by decide), if_neg (by rwa [List.isEmpty_iff])]
  | true =>
    simp only [areDigits.takeWhile ends, areDigits.dropWhile ends, if_true]
    rw [if_pos (by decide), if_neg (by rwa [List.isEmpty_iff])]

/-! ## Numbers -/

/-- The sign of a number, as it is written in front of it. -/
def signText (negative : Bool) : List Char :=
  if negative then ['-'] else []

theorem splitSign_append
    (negative : Bool)
    {whole : List Char}
    (isWhole : IsWhole whole)
    (rest : List Char) :
    splitSign (signText negative ++ (whole ++ rest)) = (negative, whole ++ rest) := by
  cases negative with
  | true => rfl
  | false =>
    obtain ⟨first, more, rfl⟩ := List.exists_cons_of_ne_nil isWhole.nonempty
    have between := isWhole.areDigits first List.mem_cons_self
    change splitSign (first :: (more ++ rest)) = _
    unfold splitSign
    split
    · rename_i same
      obtain ⟨rfl, _⟩ := List.cons.inj same
      exact absurd between.1 (by decide)
    · rfl

/-- A number is read from its sign, its whole part and what follows. -/
theorem number?_append
    (negative : Bool)
    {whole afterWhole : List Char}
    (isWhole : IsWhole whole)
    (ends : ∀ next ∈ afterWhole.head?, isDigit next = false) :
    number? (signText negative ++ (whole ++ afterWhole)) =
      some (numberFrom negative whole afterWhole) := by
  unfold number?
  rw [splitSign_append negative isWhole]
  simp only [wholeDigits?_append isWhole ends, Option.map_some]

theorem numberFrom_whole
    (negative : Bool)
    (whole : List Char)
    {rest : List Char}
    (ends : EndsNumber rest) :
    numberFrom negative whole rest =
      (.int (if negative then -(digitsValue whole : Int) else digitsValue whole), rest) := by
  unfold numberFrom
  rw [fractionDigits_of_ends ends.noPoint]
  simp only [exponent?_of_ends ends.noExponent]
  rfl

theorem numberFrom_fraction
    (negative : Bool)
    (whole : List Char)
    {fraction rest : List Char}
    (areDigits : AreDigits fraction)
    (nonempty : fraction ≠ [])
    (ends : EndsNumber rest) :
    numberFrom negative whole ('.' :: (fraction ++ rest)) =
      (.float (Binary64.ofDecimal negative (digitsValue (whole ++ fraction)) (0 - fraction.length)),
        rest) := by
  unfold numberFrom
  rw [fractionDigits_append areDigits nonempty ends.noDigit]
  simp only [exponent?_of_ends ends.noExponent]
  rw [if_neg]
  rwa [List.isEmpty_iff]

/-- What stands between a whole part and an exponent: nothing, or a point and digits. -/
def pointText (fraction : List Char) : List Char :=
  if fraction.isEmpty then [] else '.' :: fraction

theorem fractionDigits_pointText
    {fraction rest : List Char}
    (areDigits : AreDigits fraction)
    (noDigit : ∀ next ∈ rest.head?, isDigit next = false)
    (noPoint : ∀ next ∈ rest.head?, next ≠ '.') :
    fractionDigits (pointText fraction ++ rest) = (fraction, rest) := by
  cases fraction with
  | nil => exact fractionDigits_of_ends noPoint
  | cons digit more => exact fractionDigits_append areDigits (List.cons_ne_nil _ _) noDigit

theorem numberFrom_exponent
    (negative negativeExponent : Bool)
    (whole : List Char)
    {fraction exponent rest : List Char}
    (fractionDigits : AreDigits fraction)
    (exponentDigits : AreDigits exponent)
    (nonempty : exponent ≠ [])
    (ends : EndsNumber rest) :
    numberFrom negative whole (pointText fraction ++
        'e' :: (if negativeExponent then '-' else '+') :: (exponent ++ rest)) =
      (.float (Binary64.ofDecimal negative (digitsValue (whole ++ fraction))
        ((if negativeExponent then -(digitsValue exponent : Int) else digitsValue exponent) -
          fraction.length)), rest) := by
  have found := exponent?_append exponentDigits nonempty ends.noDigit negativeExponent
  unfold numberFrom
  rw [fractionDigits_pointText fractionDigits]
  · simp only [found]
  · intro next member
    cases member
    decide
  · intro next member
    cases member
    decide

/-! ## The notation of numbers -/

open Binary64

theorem digitsValue_zeros_append
    (count : Nat)
    (digits : List Char) :
    digitsValue (List.replicate count '0' ++ digits) = digitsValue digits := by
  rw [digitsValue_append, digitsValue_zeros, Nat.zero_mul, Nat.zero_add]

section DecimalText

variable {rank : Fin finiteMagnitudes} {decimal : Decimal} {rest : List Char}

/-- A magnitude below one in positional notation. -/
theorem number?_below_one
    (readsBack : ReadsBack rank decimal)
    (below : decimal.point ≤ 0)
    (negative : Bool)
    (ends : EndsNumber rest) :
    number? (signText negative ++ ('0' :: '.' ::
        (List.replicate decimal.point.natAbs '0' ++ decimal.digits) ++ rest)) =
      some (.float (finite negative rank), rest) := by
  have zeroWhole : IsWhole ['0'] := ⟨by unfold AreDigits; decide, List.cons_ne_nil _ _, fun _ => rfl⟩
  have areDigits : AreDigits (List.replicate decimal.point.natAbs '0' ++ decimal.digits) :=
    (areDigits_zeros _).append readsBack.areDigits
  have read := number?_append negative zeroWhole
    (show ∀ next ∈ ('.' :: (List.replicate decimal.point.natAbs '0' ++ decimal.digits ++ rest)).head?,
      isDigit next = false by intro next member; cases member; decide)
  refine read.trans (congrArg some ?_)
  rw [numberFrom_fraction negative ['0'] areDigits
    (List.append_ne_nil_of_right_ne_nil _ readsBack.nonempty) ends]
  have value : digitsValue (['0'] ++ (List.replicate decimal.point.natAbs '0' ++ decimal.digits)) =
      digitsValue decimal.digits * 10 ^ 0 := by
    rw [show ['0'] = List.replicate 1 '0' from rfl, digitsValue_zeros_append,
      digitsValue_zeros_append, Nat.pow_zero, Nat.mul_one]
  obtain ⟨places, shifted, _⟩ := readsBack.reads
  rw [value, readsBack.ofDecimal_eq negative]
  · rw [List.length_append, List.length_replicate]
    omega
  · rw [List.length_append, List.length_replicate]
    omega

/-- The digits before the point, filled up with zeros where there are too few. -/
theorem isWhole_beforePoint
    (readsBack : ReadsBack rank decimal)
    {places : Nat}
    (point : decimal.point = places + 1) :
    IsWhole (decimal.digits.take (places + 1) ++
      List.replicate (places + 1 - (decimal.digits.take (places + 1)).length) '0') := by
  obtain ⟨first, more, digits⟩ := List.exists_cons_of_ne_nil readsBack.nonempty
  have wholeDigits : AreDigits (decimal.digits.take (places + 1)) :=
    fun digit member => readsBack.areDigits digit (List.mem_of_mem_take member)
  refine ⟨wholeDigits.append (areDigits_zeros _), ?_, fun startsWithZero => ?_⟩
  · rw [digits]
    exact List.cons_ne_nil _ _
  · have zero : decimal.digits.head? = some '0' := by
      rw [digits] at startsWithZero ⊢
      exact startsWithZero
    obtain ⟨single, atOne⟩ := readsBack.noZeroInFront zero
    have none : places = 0 := by omega
    rw [single, none]
    rfl

/-- A magnitude from one on in positional notation. -/
theorem number?_from_one
    (readsBack : ReadsBack rank decimal)
    {places : Nat}
    (point : decimal.point = places + 1)
    (negative : Bool)
    (ends : EndsNumber rest) :
    number? (signText negative ++ (decimal.digits.take (places + 1) ++
        List.replicate (places + 1 - (decimal.digits.take (places + 1)).length) '0' ++ '.' ::
        (if (decimal.digits.drop (places + 1)).isEmpty then ['0']
          else decimal.digits.drop (places + 1)) ++ rest)) =
      some (.float (finite negative rank), rest) := by
  have areDigits := readsBack.areDigits
  obtain ⟨_, shifted, _⟩ := readsBack.reads
  have isWhole := isWhole_beforePoint readsBack point
  by_cases none : decimal.digits.drop (places + 1) = []
  · have short : decimal.digits.length ≤ places + 1 := List.drop_eq_nil_iff.mp none
    have read := number?_append negative isWhole
      (show ∀ next ∈ ('.' :: (['0'] ++ rest)).head?, isDigit next = false by
        intro next member; cases member; decide)
    rw [if_pos (List.isEmpty_iff.mpr none), List.append_assoc _ ('.' :: ['0'])]
    refine read.trans (congrArg some ?_)
    have zeroDigits : AreDigits ['0'] := areDigits_zeros 1
    rw [numberFrom_fraction negative _ zeroDigits (List.cons_ne_nil _ _) ends,
      List.take_of_length_le short]
    have value : digitsValue (decimal.digits ++
        List.replicate (places + 1 - decimal.digits.length) '0' ++ ['0']) =
        digitsValue decimal.digits * 10 ^ (places + 1 - decimal.digits.length + 1) := by
      rw [show ['0'] = List.replicate 1 '0' from rfl, List.append_assoc,
        List.replicate_append_replicate, digitsValue_append, digitsValue_zeros,
        List.length_replicate, Nat.add_zero]
    rw [value, readsBack.ofDecimal_eq negative]
    · rw [List.length_singleton]
      omega
    · rw [List.length_singleton]
      decide
  · have long : places + 1 < decimal.digits.length :=
      Nat.lt_of_not_le fun short => none (List.drop_eq_nil_iff.mpr short)
    have fractionDigits : AreDigits (decimal.digits.drop (places + 1)) :=
      fun digit member => areDigits digit (List.mem_of_mem_drop member)
    have read := number?_append negative isWhole
      (show ∀ next ∈ ('.' :: (decimal.digits.drop (places + 1) ++ rest)).head?,
        isDigit next = false by intro next member; cases member; decide)
    rw [if_neg (by rwa [List.isEmpty_iff]), List.append_assoc _ ('.' :: _)]
    refine read.trans (congrArg some ?_)
    rw [numberFrom_fraction negative _ fractionDigits none ends]
    have value : digitsValue (decimal.digits.take (places + 1) ++
        List.replicate (places + 1 - (decimal.digits.take (places + 1)).length) '0' ++
          decimal.digits.drop (places + 1)) = digitsValue decimal.digits * 10 ^ 0 := by
      rw [List.length_take, Nat.min_eq_left (Nat.le_of_lt long), Nat.sub_self, List.replicate_zero,
        List.append_nil, List.take_append_drop, Nat.pow_zero, Nat.mul_one]
    rw [value, readsBack.ofDecimal_eq negative]
    · rw [List.length_drop]
      omega
    · rw [List.length_drop]
      omega

/-- A magnitude with an exponent. -/
theorem number?_scientific
    (readsBack : ReadsBack rank decimal)
    {first : Char}
    {more : List Char}
    (digits : decimal.digits = first :: more)
    {exponent : List Char}
    (exponentDigits : AreDigits exponent)
    (nonempty : exponent ≠ [])
    (exponentValue : digitsValue exponent = (decimal.point - 1).natAbs)
    (negative : Bool)
    (ends : EndsNumber rest) :
    number? (signText negative ++ ([first] ++ (pointText more ++
        'e' :: (if decide (decimal.point - 1 < 0) then '-' else '+') :: (exponent ++ rest)))) =
      some (.float (finite negative rank), rest) := by
  have areDigits := readsBack.areDigits
  rw [digits] at areDigits
  obtain ⟨places, shifted, _⟩ := readsBack.reads
  have isWhole : IsWhole [first] := by
    refine ⟨fun digit member => ?_, List.cons_ne_nil _ _, fun zero => ?_⟩
    · rw [List.mem_singleton.mp member]
      exact areDigits first List.mem_cons_self
    · exact congrArg (fun digit => [digit]) (Option.some.inj zero)
  have moreDigits : AreDigits more :=
    fun digit member => areDigits digit (List.mem_cons_of_mem _ member)
  have noDigit : ∀ tail : List Char, ∀ next ∈ (pointText more ++ 'e' :: tail).head?,
      isDigit next = false := by
    intro tail next member
    cases more with
    | nil => cases member; decide
    | cons _ _ => cases member; decide
  refine (number?_append negative isWhole (noDigit _)).trans (congrArg some ?_)
  rw [numberFrom_exponent negative _ [first] moreDigits exponentDigits nonempty ends]
  have value : digitsValue ([first] ++ more) = digitsValue decimal.digits * 10 ^ 0 := by
    rw [digits, Nat.pow_zero, Nat.mul_one]
    rfl
  have length : decimal.digits.length = more.length + 1 := congrArg List.length digits
  have size : (if decide (decimal.point - 1 < 0) then -(digitsValue exponent : Int)
      else digitsValue exponent) = decimal.point - 1 := by
    rw [exponentValue]
    by_cases below : decimal.point - 1 < 0
    · rw [if_pos (decide_eq_true below)]
      omega
    · rw [if_neg (by rwa [decide_eq_true_eq])]
      omega
  rw [size, value, readsBack.ofDecimal_eq negative]
  · omega
  · omega

/-- The written digits of a magnitude are read as it. -/
theorem number?_decimalText
    (readsBack : ReadsBack rank decimal)
    (negative : Bool)
    (ends : EndsNumber rest) :
    number? (signText negative ++ (decimal.text .plain ++ rest)) =
      some (.float (finite negative rank), rest) := by
  unfold Decimal.text DigitForm.plain
  simp only
  split
  · split
    · rename_i below
      exact number?_below_one readsBack below negative ends
    · rename_i above
      obtain ⟨places, point⟩ := Int.eq_ofNat_of_zero_le (show 0 ≤ decimal.point - 1 by omega)
      have toNat : decimal.point.toNat = places + 1 := by omega
      rw [toNat]
      exact number?_from_one readsBack (by omega) negative ends
  · obtain ⟨first, more, digits⟩ := List.exists_cons_of_ne_nil readsBack.nonempty
    have exponentDigits : AreDigits
        (List.replicate (2 - (decimalDigits (decimal.point - 1).natAbs).length) '0' ++
          decimalDigits (decimal.point - 1).natAbs) :=
      (areDigits_zeros _).append (areDigits_decimalDigits _)
    have scientific := number?_scientific readsBack digits exponentDigits
      (List.append_ne_nil_of_right_ne_nil _ (decimalDigits_ne_nil _))
      ((digitsValue_zeros_append _ _).trans (digitsValue_decimalDigits _)) negative ends
    refine Eq.trans (congrArg number? ?_) scientific
    rw [digits]
    cases more with
    | nil => simp [pointText]
    | cons second more => simp [pointText]

/-- The written form of a magnitude starts with a digit. -/
theorem exists_text_start
    (readsBack : ReadsBack rank decimal) :
    ∃ first more, ('0' ≤ first ∧ first ≤ '9') ∧ decimal.text .plain = first :: more := by
  obtain ⟨first, more, digits⟩ := List.exists_cons_of_ne_nil readsBack.nonempty
  have between := readsBack.areDigits first (digits ▸ List.mem_cons_self)
  unfold Decimal.text
  simp only
  split
  · split
    · exact ⟨'0', _, by decide, rfl⟩
    · obtain ⟨places, point⟩ := Int.eq_ofNat_of_zero_le (show 0 ≤ decimal.point - 1 by omega)
      rw [show decimal.point.toNat = places + 1 by omega, digits]
      exact ⟨first, _, between, rfl⟩
  · rw [digits]
    cases more with
    | nil => exact ⟨first, _, between, rfl⟩
    | cons second more => exact ⟨first, _, between, rfl⟩

end DecimalText

/-- An integer is written as its sign and its digits. -/
theorem toList_integerText
    (value : Int) :
    (integerText value).toList =
      signText (decide (value < 0)) ++ decimalDigits value.natAbs := by
  unfold integerText
  by_cases below : value < 0
  · rw [if_pos below, decide_eq_true below, String.toList_ofList]
    rfl
  · rw [if_neg below, decide_eq_false below, String.toList_ofList]
    rfl

/-- The written digits of an integer are read as it. -/
theorem number?_integerText
    (value : Int)
    {rest : List Char}
    (ends : EndsNumber rest) :
    number? ((integerText value).toList ++ rest) = some (.int value, rest) := by
  rw [toList_integerText, List.append_assoc,
    number?_append _ (isWhole_decimalDigits value.natAbs) ends.noDigit,
    numberFrom_whole _ _ ends, digitsValue_decimalDigits]
  by_cases below : value < 0
  · rw [decide_eq_true below, if_pos rfl, ← Int.eq_neg_natAbs_of_nonpos below.le]
  · rw [decide_eq_false below, if_neg Bool.false_ne_true,
      Int.natAbs_of_nonneg (Int.not_lt.mp below)]

/-- The digits of a written integer are counted without its sign. -/
theorem integerDigits_integerText
    (value : Int)
    {rest : List Char}
    (ends : EndsNumber rest) :
    integerDigits ((integerText value).toList ++ rest) = (decimalDigits value.natAbs).length := by
  have isWhole := isWhole_decimalDigits value.natAbs
  have split : ∀ input : List Char,
      integerDigits input = ((splitSign input).2.takeWhile isDigit).length := by
    intro input
    unfold integerDigits splitSign
    split <;> rfl
  rw [toList_integerText, List.append_assoc, split, splitSign_append _ isWhole,
    isWhole.areDigits.takeWhile ends.noDigit]

/-- A word whose letters do not all come next is not found. -/
theorem afterWord?_of_ne
    {letter next : Char}
    (differ : letter ≠ next)
    (word rest : List Char) :
    afterWord? (letter :: word) (next :: rest) = none := by
  refine if_neg ?_
  rw [List.isPrefixOf, beq_false_of_ne differ, Bool.false_and]
  exact Bool.false_ne_true

/-- No word starts like a number. -/
theorem word?_of_digit
    (negative : Bool)
    {first : Char}
    (between : '0' ≤ first ∧ first ≤ '9')
    (rest : List Char) :
    word? (signText negative ++ first :: rest) = none := by
  have other : ∀ letter : Char, ¬ ('0' ≤ letter ∧ letter ≤ '9') -> letter ≠ first := by
    rintro letter outside rfl
    exact outside between
  unfold word?
  simp only [List.findSome?_eq_none_iff, Option.map_eq_none_iff]
  intro entry member
  simp only [List.mem_cons, List.not_mem_nil, or_false] at member
  cases negative with
  | false =>
    rcases member with rfl | rfl | rfl | rfl | rfl | rfl <;> simp only [String.reduceToList] <;>
      exact afterWord?_of_ne (other _ (by decide)) _ _
  | true =>
    rcases member with rfl | rfl | rfl | rfl | rfl | rfl <;> simp only [String.reduceToList]
    iterate 5 exact afterWord?_of_ne (by decide) _ _
    refine if_neg ?_
    rw [signText, if_pos rfl, List.singleton_append, List.isPrefixOf, List.isPrefixOf,
      beq_false_of_ne (other 'I' (by decide)), Bool.false_and, Bool.and_false]
    exact Bool.false_ne_true

/-! ## Scalars -/

section Scalars

variable {limits : Limits} {rest : List Char}

theorem exists_number_start
    (value : Int) :
    ∃ first more, ('0' ≤ first ∧ first ≤ '9') ∧
      (integerText value).toList = signText (decide (value < 0)) ++ first :: more := by
  obtain ⟨first, more, digits⟩ := List.exists_cons_of_ne_nil (decimalDigits_ne_nil value.natAbs)
  refine ⟨first, more, ?_, by rw [toList_integerText, digits]⟩
  exact areDigits_decimalDigits value.natAbs first (digits ▸ List.mem_cons_self)

/-- A written integer is read back if it has no more digits than are read. -/
theorem readScalar_int
    {value : Int}
    (short : (decimalDigits value.natAbs).length ≤ limits.digits)
    (ends : EndsNumber rest) :
    readScalar limits ((integerText value).toList ++ rest) = .ok (.int value, rest) := by
  obtain ⟨first, more, between, start⟩ := exists_number_start value
  have noWord : word? ((integerText value).toList ++ rest) = none := by
    rw [start, List.append_assoc]
    exact word?_of_digit _ between _
  unfold readScalar scalar?
  rw [noWord, number?_integerText value ends]
  dsimp only
  rw [integerDigits_integerText value ends, if_neg (Nat.not_lt.mpr short)]

/-- A finite number is written as its sign and its digits. -/
theorem toList_text_finite
    (names : SpecialNames)
    (negative : Bool)
    (rank : Fin finiteMagnitudes) :
    ((finite negative rank).text names).toList =
      signText negative ++ (shortest rank).text .plain := by
  unfold Binary64.text
  rw [String.toList_ofList]
  cases negative <;> rfl

/-- A written number is read back, with the words for the values without digits. -/
theorem readScalar_float
    (value : Binary64)
    (ends : EndsNumber rest) :
    readScalar limits ((value.text jsonNames).toList ++ rest) = .ok (.float value, rest) := by
  cases value with
  | finite negative rank =>
    have readsBack := readsBack_shortest rank
    obtain ⟨first, more, between, start⟩ := exists_text_start readsBack
    have noWord : word? (signText negative ++ ((shortest rank).text .plain ++ rest)) = none := by
      rw [start, List.cons_append]
      exact word?_of_digit _ between _
    unfold readScalar scalar?
    rw [toList_text_finite, List.append_assoc, noWord,
      number?_decimalText readsBack negative ends]
  | infinite negative => cases negative <;> rfl
  | nan => rfl

end Scalars

end Reader
end Json
end BroadcastGraphics
