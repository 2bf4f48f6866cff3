import NewGrf.Proofs.Build
import NewGrf.Proofs.Meaning

namespace NewGrf

namespace Word

theorem toInt_ofInt_of_word {n : Int} (low : -2147483648 ≤ n) (high : n < 2147483648) :
    (ofInt n).toInt = n :=
  BitVec.toInt_ofInt_eq_self (by decide) low high

/-- Quotients of numbers that are not negative are those of integers. -/
theorem quotient_ofInt {a b : Int} (low : 0 ≤ a) (high : a < 2147483648) (pos : 0 < b)
    (small : b < 2147483648) : quotient (ofInt a) (ofInt b) = ofInt (a / b) := by
  have divisor : (ofInt b).toInt = b := toInt_ofInt_of_word (by omega) small
  have nonzero : ofInt b ≠ 0 := by
    intro zero
    rw [zero] at divisor
    exact absurd divisor (Int.ne_of_lt pos)
  have bound : a / b ≤ a := Int.ediv_le_self b low
  have floor : 0 ≤ a / b := Int.ediv_nonneg low (Int.le_of_lt pos)
  rw [quotient, if_neg nonzero]
  apply BitVec.eq_of_toInt_eq
  rw [BitVec.toInt_sdiv, divisor, toInt_ofInt_of_word (by omega) high,
    toInt_ofInt_of_word (by omega) (by omega), Int.tdiv_eq_ediv_of_nonneg low]
  exact Number.signed32_eq_self (by omega) (by omega)

end Word

namespace Expr

theorem value_atLeastAt (w : World) (e : Expr) (p : Option Position) :
    (e.atLeastAt p).value w = e.value w := by
  unfold atLeastAt
  split
  · cases e <;> rfl
  · rfl

theorem value_op (w : World) (o : Operator) (a b : Expr) (p : Option Position) :
    (op o a b p).value w = o.run (a.value w) (b.value w) := by
  simp only [op, value, value_atLeastAt]

theorem value_opInt (w : World) (o : Operator) (a : Expr) (n : Int) (p : Option Position) :
    (opInt o a n p).value w = o.run (a.value w) (Word.ofInt n) := by
  simp only [opInt, value_op, int, value, Word.ofInt_signed32]

end Expr

namespace Builtin

variable {y : Int}

/-- The leap years before a year, and those from 1 up to it. -/
theorem leapYearsBefore_eq (y : Int) :
    leapYearsBefore y = y / 4 - y / 100 + y / 400 + if isLeapYear y then 0 else 1 := by
  have fdiv (a b : Int) (pos : 0 ≤ b) : a.fdiv b = a / b := Int.fdiv_eq_ediv_of_nonneg a pos
  simp only [leapYearsBefore, fdiv _ _ (by decide : (0 : Int) ≤ 4),
    fdiv _ _ (by decide : (0 : Int) ≤ 100), fdiv _ _ (by decide : (0 : Int) ≤ 400)]
  by_cases leap : isLeapYear y = true
  · have parts : y % 4 = 0 ∧ (y % 100 ≠ 0 ∨ y % 400 = 0) := by simpa [isLeapYear] using leap
    rw [if_pos leap]
    omega
  · have parts : ¬(y % 4 = 0 ∧ (y % 100 ≠ 0 ∨ y % 400 = 0)) := by simpa [isLeapYear] using leap
    rw [if_neg leap]
    omega

theorem dayNumber_first (y : Int) :
    dayNumber y 1 1 = y * 365 + (y / 4 - y / 100 + y / 400) + if isLeapYear y then 0 else 1 := by
  have before : daysBefore 1 = 0 := by decide
  simp only [dayNumber, leapYearsBefore_eq, before, show ¬(3 : Int) ≤ 1 by decide, decide_false,
    Bool.false_and, Bool.false_eq_true, if_false]
  omega

/-- What the game computes for the first day of a year. -/
theorem toInt_value_yearStart {w : World} {e : Expr} (value : e.value w = Word.ofInt y)
    (low : 0 ≤ y) (high : y ≤ 5000000) :
    ((yearStart e).value w).toInt = y * 365 + (y / 4 - y / 100 + y / 400) := by
  have quotient (n : Int) (pos : 0 < n) (small : n < 2147483648) :=
    Word.quotient_ofInt low (by omega : y < 2147483648) pos small
  have whole : (yearStart e).value w = Word.ofInt (y * 365 + y / 4 - y / 100 + y / 400) := by
    simp only [yearStart, Expr.value_op, Expr.value_opInt, value, Operator.run,
      quotient 4 (by decide) (by decide), quotient 100 (by decide) (by decide),
      quotient 400 (by decide) (by decide), Word.ofInt, BitVec.ofInt_add, Word.ofInt_sub,
      BitVec.ofInt_mul]
  rw [whole, Word.toInt_ofInt_of_word (by omega) (by omega)]
  omega

variable {fuel : Nat} {s t : Session}

/-- A year that is known gives a day. -/
theorem date_known (name : String) (pos p q r : Option Position) (low : 0 ≤ y)
    (high : y ≤ 5000000) :
    date (Expr.reduceWith (fuel + 1) true) name [.num y p, .num 1 q, .num 1 r] pos s =
      .ok (.num (dayNumber y 1 1) pos) { s with lenient := false } := by
  have size := dayNumber_first y
  have fits : Number.signed32 (dayNumber y 1 1) = dayNumber y 1 1 := by
    apply Number.signed32_eq_self <;> split at size <;> omega
  have range : Build.checkRange y 0 5000000 "year" p = pure () := if_pos ⟨low, high⟩
  change (do Build.checkRange y 0 5000000 "year" p; pure (Expr.int (dayNumber y 1 1) pos))
    { s with lenient := false } = _
  rw [range, pure_bind, Expr.int, fits]
  rfl

/-- A year that is not known gives what the game has to compute. -/
theorem date_unknown {year e : Expr} (name : String) (pos q r : Option Position)
    (runs : leniently (Expr.reduceWith (fuel + 1) true Scope.general year) s = .ok e t)
    (unknown : e.constant? = none) :
    date (Expr.reduceWith (fuel + 1) true) name [year, .num 1 q, .num 1 r] pos s =
      .ok (yearStart e) t := by
  refine Build.bind_eq_ok.2 ⟨e, t, runs, ?_⟩
  cases e with
  | num v p => cases unknown
  | _ => rfl

/-- In a year that both can tell, the day that is known and the day that the game computes are the
same exactly if the year is a leap year; else the game is one day behind. -/
theorem known_date_agrees_iff {w : World} {year e : Expr} (name : String)
    (pos p q r : Option Position) (low : 0 ≤ y) (high : y ≤ 5000000)
    (runs : leniently (Expr.reduceWith (fuel + 1) true Scope.general year) s = .ok e t)
    (unknown : e.constant? = none) (value : e.value w = Word.ofInt y) :
    ∃ day known start computed,
      date (Expr.reduceWith (fuel + 1) true) name [.num y p, .num 1 q, .num 1 r] pos s =
        .ok (.num day pos) known ∧
      date (Expr.reduceWith (fuel + 1) true) name [year, .num 1 q, .num 1 r] pos s =
        .ok start computed ∧
      ((start.value w).toInt = day ↔ isLeapYear y = true) ∧
      (isLeapYear y = false → (start.value w).toInt = day - 1) := by
  have computes := toInt_value_yearStart value low high
  refine ⟨_, _, _, _, date_known name pos p q r low high,
    date_unknown name pos q r runs unknown, ?_⟩
  rw [computes, dayNumber_first]
  cases isLeapYear y
  · simp only [Bool.false_eq_true, if_false, iff_false, forall_const]
    omega
  · simp

/-- The year 1 begins on day 366 if it is known, and on day 365 if it is the value of a
parameter. -/
theorem first_year_one_day_behind :
    let w : World := { (default : World) with param := fun _ => 1 }
    let year := Expr.param (.num 1 none) none
    ∃ known start computed,
      date (Expr.reduceWith 2 true) "date" [.num 1 none, .num 1 none, .num 1 none] none {} =
        .ok (.num 366 none) known ∧
      date (Expr.reduceWith 2 true) "date" [year, .num 1 none, .num 1 none] none {} =
        .ok start computed ∧
      (start.value w).toInt = 365 := by
  intro w year
  obtain ⟨day, known, start, computed, left, right, -, behind⟩ :=
    @known_date_agrees_iff 1 1 {} _ w year _ "date" none none none none (by decide) (by decide)
      rfl rfl rfl
  obtain rfl : 366 = day := by
    rw [date_known (y := 1) "date" none none none none (by decide) (by decide)] at left
    injection left with number
    injection number
  exact ⟨known, start, computed, left, right, behind rfl⟩

end Builtin

end NewGrf
