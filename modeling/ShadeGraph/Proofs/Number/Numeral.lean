import ShadeGraph.Number.Numeral
import ShadeGraph.Proofs.Number.Shortest

/-!
# Numerals read back

Whichever way a decimal is laid out, its text reads back as its value. With the
shortest decimal that is a number that rounds to the double, so the text tells the
double, the sign of a zero apart.
-/

namespace ShadeGraph

def Digits (text : List Char) : Prop := ∀ c ∈ text, c.isDigit

namespace Digits

variable {text : List Char}

theorem ne (h : Digits text) {c d : Char} (mem : c ∈ text) (other : d.isDigit = false) :
    c ≠ d := by
  rintro rfl
  rw [h c mem] at other
  cases other

theorem append {more : List Char} (h : Digits text) (h' : Digits more) : Digits (text ++ more) :=
  fun c mem => (List.mem_append.1 mem).elim (h c) (h' c)

theorem take (h : Digits text) (n : Nat) : Digits (text.take n) :=
  fun c mem => h c (List.mem_of_mem_take mem)

theorem drop (h : Digits text) (n : Nat) : Digits (text.drop n) :=
  fun c mem => h c (List.mem_of_mem_drop mem)

theorem zeros (n : Nat) : Digits (List.replicate n '0') := by
  intro c mem
  rw [List.eq_of_mem_replicate mem]
  rfl

end Digits

/-- What the text of a finite number is made of. -/
structure Numeral where
  whole : List Char
  fraction : List Char
  power? : Option Int

namespace Numeral

def mantissa (n : Numeral) : List Char :=
  n.whole ++ if n.fraction.isEmpty then [] else '.' :: n.fraction

def tail (n : Numeral) : List Char :=
  n.power?.elim [] fun e => 'e' :: (if 0 ≤ e then '+' else '-') :: Nat.toDigits 10 e.natAbs

def text (n : Numeral) : List Char := n.mantissa ++ n.tail

def value (n : Numeral) : ℚ :=
  Nat.ofDigitChars 10 (n.whole ++ n.fraction) 0 *
    10 ^ (n.power?.getD 0 - n.fraction.length : Int)

structure Proper (n : Numeral) : Prop where
  nonempty : n.whole ≠ []
  whole : Digits n.whole
  fraction : Digits n.fraction

/-! ### Reading -/

def readPower : List Char → Int
  | _ :: '-' :: digits => -Nat.ofDigitChars 10 digits 0
  | _ :: _ :: digits => Nat.ofDigitChars 10 digits 0
  | _ => 0

/-- The number that a text writes in positional or in exponent form. -/
def read (text : List Char) : ℚ :=
  let mantissa := text.takeWhile (· ≠ 'e')
  let places := (mantissa.dropWhile (· ≠ '.')).length - 1
  Nat.ofDigitChars 10 (mantissa.filter (· ≠ '.')) 0 *
    10 ^ (readPower (text.dropWhile (· ≠ 'e')) - places : Int)

variable {n : Numeral}

theorem Proper.mem_mantissa (proper : n.Proper) {c : Char} (mem : c ∈ n.mantissa) :
    c.isDigit ∨ c = '.' := by
  rw [mantissa, List.mem_append] at mem
  rcases mem with left | right
  · exact .inl (proper.whole c left)
  · split at right
    · cases right
    · exact (List.mem_cons.1 right).symm.imp_left (proper.fraction c)

theorem mem_tail {c : Char} (mem : c ∈ n.tail) : c.isDigit ∨ c = 'e' ∨ c = '+' ∨ c = '-' := by
  unfold tail at mem
  cases power : n.power? with
  | none =>
    rw [power] at mem
    cases mem
  | some e =>
    rw [power] at mem
    simp only [Option.elim_some, List.mem_cons] at mem
    rcases mem with mark | sign | digit
    · exact .inr (.inl mark)
    · split at sign
      · exact .inr (.inr (.inl sign))
      · exact .inr (.inr (.inr sign))
    · exact .inl (Nat.isDigit_of_mem_toDigits (by decide) (by decide) digit)

theorem Proper.mantissa_parts (proper : n.Proper) :
    n.mantissa.filter (· ≠ '.') = n.whole ++ n.fraction ∧
      (n.mantissa.dropWhile (· ≠ '.')).length - 1 = n.fraction.length := by
  have kept {text : List Char} (digits : Digits text) : text.filter (· ≠ '.') = text :=
    List.filter_eq_self.2 fun c mem => by simpa using digits.ne mem rfl
  have passed : ∀ c ∈ n.whole, decide (c ≠ '.') = true :=
    fun c mem => by simpa using proper.whole.ne mem rfl
  rw [mantissa, List.filter_append, List.dropWhile_append_of_pos passed, kept proper.whole]
  split
  next none =>
    rw [List.isEmpty_iff.1 none]
    exact ⟨rfl, rfl⟩
  next => exact ⟨congrArg _ (kept proper.fraction), rfl⟩

theorem readPower_tail (n : Numeral) : readPower n.tail = n.power?.getD 0 := by
  cases power : n.power? with
  | none => simp [tail, power, readPower]
  | some e =>
    have digits : Nat.ofDigitChars 10 (Nat.toDigits 10 e.natAbs) 0 = e.natAbs :=
      Nat.ofDigitChars_ten_toDigits
    rw [tail, power, Option.elim_some, Option.getD_some]
    split
    · change ((Nat.ofDigitChars 10 (Nat.toDigits 10 e.natAbs) 0 : Nat) : Int) = e
      rw [digits]
      omega
    · change -((Nat.ofDigitChars 10 (Nat.toDigits 10 e.natAbs) 0 : Nat) : Int) = e
      rw [digits]
      omega

/-- A numeral reads back as the number that it stands for. -/
theorem Proper.read_text (proper : n.Proper) : read n.text = n.value := by
  have passed : ∀ c ∈ n.mantissa, decide (c ≠ 'e') = true := by
    intro c mem
    rw [decide_eq_true_iff]
    rintro rfl
    rcases proper.mem_mantissa mem with digit | point
    · cases digit
    · cases point
  have stops : n.tail.takeWhile (· ≠ 'e') = [] ∧ n.tail.dropWhile (· ≠ 'e') = n.tail := by
    unfold tail
    cases n.power? <;> exact ⟨rfl, rfl⟩
  rw [read, text, List.takeWhile_append_of_pos passed, List.dropWhile_append_of_pos passed,
    stops.1, stops.2, List.append_nil, readPower_tail, value]
  obtain ⟨digits, places⟩ := proper.mantissa_parts
  simp only [digits, places]

theorem Proper.text_eq_cons (proper : n.Proper) :
    ∃ first rest, n.text = first :: rest ∧ first.isDigit := by
  obtain ⟨first, rest, split⟩ := List.exists_cons_of_ne_nil proper.nonempty
  have digit : first.isDigit := proper.whole first (split ▸ List.mem_cons_self)
  rw [text, mantissa, split]
  exact ⟨first, _, rfl, digit⟩

theorem Proper.commaless (proper : n.Proper) : ',' ∉ n.text := by
  intro mem
  rcases List.mem_append.1 mem with left | right
  · rcases proper.mem_mantissa left with digit | point
    · cases digit
    · cases point
  · rcases mem_tail right with digit | mark | plus | minus
    · cases digit
    · cases mark
    · cases plus
    · cases minus

end Numeral

/-! ### Laying out a decimal -/

namespace Decimal

variable {d : Decimal}

def fixed (d : Decimal) : Numeral :=
  if d.point ≤ 0 then ⟨['0'], List.replicate (-d.point).toNat '0' ++ d.digits, none⟩
  else ⟨d.digits.take d.point.toNat ++ List.replicate (d.point.toNat - d.digits.length) '0',
    d.digits.drop d.point.toNat, none⟩

def scientific (d : Decimal) : Numeral :=
  ⟨d.digits.take 1, d.digits.drop 1, some (d.point - 1)⟩

def numeral (d : Decimal) : Numeral :=
  if -5 ≤ d.point ∧ d.point ≤ 21 then d.fixed else d.scientific

def laidOut (d : Decimal) : String :=
  if -5 ≤ d.point ∧ d.point ≤ 21 then d.positional else d.exponential .plain

theorem positional_eq (nonempty : d.digits ≠ []) : d.positional.toList = d.fixed.text := by
  unfold positional fixed
  split
  · simp [Numeral.text, Numeral.mantissa, Numeral.tail, nonempty]
  · by_cases rest : d.digits.length ≤ d.point.toNat <;>
      simp [Numeral.text, Numeral.mantissa, Numeral.tail, rest]

theorem exponential_eq (d : Decimal) : (d.exponential .plain).toList = d.scientific.text := by
  unfold exponential scientific
  by_cases short : d.digits.length ≤ 1 <;> by_cases up : 1 ≤ d.point <;>
    simp [Numeral.text, Numeral.mantissa, Numeral.tail, short, up, NumeralStyle.plain,
      Nat.repr_eq_ofList_toDigits, -List.drop_one]

theorem laidOut_eq (nonempty : d.digits ≠ []) : d.laidOut.toList = d.numeral.text := by
  unfold laidOut numeral
  split
  · exact positional_eq nonempty
  · exact exponential_eq d

theorem proper_numeral (digits : Digits d.digits) (nonempty : d.digits ≠ []) :
    d.numeral.Proper := by
  unfold numeral fixed scientific
  split
  · split
    · exact ⟨by simp, .zeros 1, (Digits.zeros _).append digits⟩
    · refine ⟨?_, (digits.take _).append (.zeros _), digits.drop _⟩
      simp [nonempty]
      omega
  · exact ⟨by simp [nonempty], digits.take 1, digits.drop 1⟩

theorem value_fixed (d : Decimal) : d.fixed.value = d.value := by
  unfold fixed
  split
  · have number : Nat.ofDigitChars 10
        ('0' :: (List.replicate (-d.point).toNat '0' ++ d.digits)) 0 =
        Nat.ofDigitChars 10 d.digits 0 := by
      rw [Nat.ofDigitChars_cons, Nat.ofDigitChars_append, Nat.ofDigitChars_replicate_zero]
      rfl
    simp only [Numeral.value, value, List.cons_append, List.nil_append, number,
      List.length_append, List.length_replicate, Option.getD_none]
    congr 2
    omega
  · have number : Nat.ofDigitChars 10 (d.digits.take d.point.toNat ++
        List.replicate (d.point.toNat - d.digits.length) '0' ++ d.digits.drop d.point.toNat) 0 =
        10 ^ (d.point.toNat - d.digits.length) * Nat.ofDigitChars 10 d.digits 0 := by
      by_cases short : d.digits.length ≤ d.point.toNat
      · rw [List.take_of_length_le short, List.drop_of_length_le short, List.append_nil,
          Nat.ofDigitChars_append, Nat.ofDigitChars_replicate_zero]
      · rw [Nat.sub_eq_zero_of_le (not_le.1 short).le, List.replicate_zero, List.append_nil,
          List.take_append_drop, pow_zero, one_mul]
    simp only [Numeral.value, value, number, List.length_drop, Option.getD_none]
    push_cast
    rw [mul_right_comm, mul_comm, ← zpow_natCast, ← zpow_add₀ (by norm_num)]
    congr 2
    omega

theorem value_scientific (nonempty : d.digits ≠ []) : d.scientific.value = d.value := by
  have count : 0 < d.digits.length := List.length_pos_iff.2 nonempty
  simp only [scientific, Numeral.value, value, List.take_append_drop, List.length_drop,
    Option.getD_some]
  congr 2
  omega

theorem value_numeral (nonempty : d.digits ≠ []) : d.numeral.value = d.value := by
  unfold numeral
  split
  · exact value_fixed d
  · exact value_scientific nonempty

end Decimal

/-! ### The text of a double -/

namespace Numeral

/-- What a text without a sign in front means: a number, or else the word that it is. -/
def unsigned (text : List Char) : ℚ ⊕ List Char :=
  if text.head?.any Char.isDigit then .inl (read text) else .inr text

def meaning : List Char → Bool × (ℚ ⊕ List Char)
  | '-' :: text => (true, unsigned text)
  | text => (false, unsigned text)

variable {n : Numeral}

theorem Proper.unsigned_text (proper : n.Proper) : unsigned n.text = .inl n.value := by
  obtain ⟨first, rest, split, digit⟩ := proper.text_eq_cons
  have starts : n.text.head?.any Char.isDigit = true := by
    rw [split]
    exact digit
  rw [unsigned, if_pos starts, proper.read_text]

theorem Proper.meaning_text (proper : n.Proper) : meaning n.text = (false, .inl n.value) := by
  rw [← proper.unsigned_text]
  obtain ⟨first, rest, split, digit⟩ := proper.text_eq_cons
  rw [split]
  unfold meaning
  split
  next same =>
    injection same with sign
    rw [sign] at digit
    cases digit
  next => rfl

end Numeral

namespace Decimal

variable {m : Nat} {q : Int} (normal : Binary.Normal m q)

include normal

theorem shortest_pos : 0 < (shortest m q).value := by
  obtain ⟨c, e, short, pos, -⟩ := shortest_holds normal
  rw [short, value_ofScaled]
  positivity

theorem shortest_ne_nil : (shortest m q).digits ≠ [] := by
  intro none
  have pos := shortest_pos normal
  rw [value, none] at pos
  simp at pos

theorem digits_shortest : Digits (shortest m q).digits := by
  obtain ⟨c, e, short, -, -⟩ := shortest_holds normal
  intro digit mem
  rw [short] at mem
  have kept := (List.dropWhile_sublist _).mem (List.mem_reverse.1 mem)
  exact Nat.isDigit_of_mem_toDigits (by decide) (by decide) (List.mem_reverse.1 kept)

theorem proper_shortest : (shortest m q).numeral.Proper :=
  proper_numeral (digits_shortest normal) (shortest_ne_nil normal)

theorem laidOut_shortest : (shortest m q).laidOut.toList = (shortest m q).numeral.text :=
  laidOut_eq (shortest_ne_nil normal)

end Decimal

namespace Double

open Binary

/-- What the text of a double means, by the value of the double. -/
def meaning : Binary → Bool × (ℚ ⊕ List Char)
  | notANumber => (false, .inr "NaN".toList)
  | infinite negative => (negative, .inr "Infinity".toList)
  | finite negative m q =>
    if m = 0 then (false, .inl 0) else (negative, .inl (Decimal.shortest m q).value)

theorem write_finite {m : Nat} (pos : 0 < m) (negative : Bool) (q : Int) :
    (NumeralStyle.plain.write (finite negative m q)).toList =
      (if negative then ['-'] else []) ++ (Decimal.shortest m q).laidOut.toList := by
  have spelled : NumeralStyle.plain.write (finite negative m q) =
      (if negative then "-" else "") ++ (Decimal.shortest m q).laidOut := by
    rw [NumeralStyle.write, if_neg pos.ne']
    rfl
  rw [spelled, String.toList_append]
  cases negative <;> rfl

theorem meaning_zero : Numeral.meaning "0".toList = (false, .inl 0) := by
  have zero : (⟨['0'], [], none⟩ : Numeral).Proper :=
    ⟨List.cons_ne_nil _ _, .zeros 1, .zeros 0⟩
  have spelled : "0".toList = (⟨['0'], [], none⟩ : Numeral).text := by decide
  rw [spelled, zero.meaning_text, Numeral.value]
  simp [Nat.ofDigitChars]

theorem meaning_text (x : Float) : Numeral.meaning (text x).toList = meaning (ofFloat x) := by
  unfold text
  cases form : ofFloat x with
  | notANumber => rfl
  | infinite negative => cases negative <;> rfl
  | finite negative m q =>
    rcases Nat.eq_zero_or_pos m with rfl | pos
    · cases negative <;> exact meaning_zero
    · have normal := normal_ofFloat form pos
      have proper := Decimal.proper_shortest normal
      rw [meaning, if_neg pos.ne', write_finite pos, Decimal.laidOut_shortest normal,
        ← Decimal.value_numeral (Decimal.shortest_ne_nil normal)]
      cases negative
      · exact proper.meaning_text
      · exact congrArg _ proper.unsigned_text

/-- The text of a double reads back as a number that rounds to it. -/
theorem text_rounds {x : Float} {negative : Bool} {m : Nat} {q : Int}
    (form : ofFloat x = finite negative m q) (pos : 0 < m) :
    ∃ y, (Decimal.Interval.of m q).Holds y ∧
      Numeral.meaning (text x).toList = (negative, .inl y) := by
  obtain ⟨c, e, short, -, holds⟩ := Decimal.shortest_holds (normal_ofFloat form pos)
  refine ⟨c * 10 ^ e, holds, ?_⟩
  rw [meaning_text, form, meaning, if_neg pos.ne', short, Decimal.value_ofScaled]

/-- Doubles are written apart, but for the sign of a zero. -/
theorem text_inj {x y : Float} (same : text x = text y) : x = y ∨ (x == 0 ∧ y == 0) := by
  have means : meaning (ofFloat x) = meaning (ofFloat y) := by
    rw [← meaning_text, ← meaning_text, same]
  have settled (h : ofFloat x = ofFloat y) : x = y ∨ (x == 0 ∧ y == 0) := .inl (ofFloat_inj h)
  have words : "NaN".toList ≠ "Infinity".toList := by decide
  cases first : ofFloat x <;> cases second : ofFloat y
  case finite.finite negative m q negative' m' q' =>
    rw [first, second] at means
    rcases Nat.eq_zero_or_pos m with rfl | pos <;> rcases Nat.eq_zero_or_pos m' with rfl | pos'
    · exact .inr ⟨eq_zero_of_ofFloat first, eq_zero_of_ofFloat second⟩
    · have nonzero := (Decimal.shortest_pos (normal_ofFloat second pos')).ne
      simp [meaning, pos'.ne', nonzero] at means
    · have nonzero := (Decimal.shortest_pos (normal_ofFloat first pos)).ne'
      simp [meaning, pos.ne', nonzero] at means
    · simp only [meaning, pos.ne', pos'.ne', if_false, Prod.mk.injEq, Sum.inl.injEq] at means
      obtain ⟨rfl, value⟩ := means
      obtain ⟨rfl, rfl⟩ := Decimal.shortest_inj (normal_ofFloat first pos)
        (normal_ofFloat second pos') value
      exact settled (first.trans second.symm)
  -- A word is no number, and there are two of them.
  all_goals grind [meaning]

theorem comma_notMem_text (x : Float) : ',' ∉ (text x).toList := by
  unfold text
  cases form : ofFloat x with
  | notANumber => decide
  | infinite negative => cases negative <;> decide
  | finite negative m q =>
    rcases Nat.eq_zero_or_pos m with rfl | pos
    · cases negative <;> exact (by decide : ',' ∉ "0".toList)
    · have normal := normal_ofFloat form pos
      rw [write_finite pos, Decimal.laidOut_shortest normal, List.mem_append, not_or]
      refine ⟨?_, (Decimal.proper_shortest normal).commaless⟩
      cases negative <;> decide

end Double
end ShadeGraph
