namespace NewGrf.Number

def twoPow (n : Nat) : Nat := 1 <<< n

theorem twoPow_succ (n : Nat) : twoPow (n + 1) = 2 * twoPow n := by
  simp only [twoPow, Nat.shiftLeft_succ]

theorem twoPow_pos (n : Nat) : 0 < twoPow n := by
  induction n with
  | zero => decide
  | succ n ih => rw [twoPow_succ]; omega

theorem lt_twoPow (n : Nat) : n < twoPow n := by
  induction n with
  | zero => decide
  | succ n ih => rw [twoPow_succ]; omega

def tenPow : Nat → Nat := Nat.pow 10

def total : List Nat → Nat
  | [] => 0
  | n :: ns => n + total ns

@[simp] theorem total_nil : total [] = 0 := rfl

@[simp] theorem total_cons (n : Nat) (ns : List Nat) : total (n :: ns) = n + total ns := rfl

theorem total_append (ms ns : List Nat) : total (ms ++ ns) = total ms + total ns := by
  induction ms with
  | nil => simp
  | cons m ms ih => simp only [List.cons_append, total_cons, ih]; omega

def intTotal : List Int → Int
  | [] => 0
  | n :: ns => n + intTotal ns

end NewGrf.Number
