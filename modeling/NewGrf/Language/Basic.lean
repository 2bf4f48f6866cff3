import NewGrf.Language.Code
import NewGrf.Language.Plural

namespace NewGrf

/-- A language. The master language has the texts to use where others have none; it knows neither
plurals nor genders nor cases. -/
structure Language where
  master : Bool := false
  id : Option Nat := none
  plural : Option Nat := none
  genders : Option (Dict Nat) := none
  genderAliases : Dict (List String) := []
  cases : Option (Dict Nat) := none
  caseAliases : Dict (List String) := []
  entries : Dict Language.Entry := []
  deriving Inhabited

namespace Language

def masterId : Nat := 0x7F

def pluralForms : Nat → Nat
  | 1 => 1
  | 3 | 5 | 6 | 7 | 10 | 14 => 3
  | 4 => 5
  | 8 | 12 | 13 => 4
  | _ => 2

def lastPluralRule : Nat := 14

def pluralForm (rule : Nat) (n : Int) : Nat :=
  let last := n.emod 10
  let lastTwo := n.emod 100
  let one := last == 1 && lastTwo != 11
  let between (low x high : Int) : Bool := low ≤ x && x ≤ high
  match rule with
  | 1 => 1
  | 2 => if n == 0 || n == 1 then 1 else 2
  | 3 => if one then 1 else if n == 0 then 2 else 3
  | 4 => if n == 1 then 1 else if n == 2 then 2 else if between 3 n 6 then 3
    else if between 7 n 10 then 4 else 5
  | 5 => if one then 1 else if between 2 last 9 && !between 12 lastTwo 19 then 2 else 3
  | 6 => if one then 1 else if between 2 last 4 && !between 12 lastTwo 14 then 2 else 3
  | 7 => if n == 0 then 1 else if between 2 last 4 && !between 12 lastTwo 14 then 2 else 3
  | 8 => if lastTwo == 1 then 1 else if lastTwo == 2 then 2
    else if lastTwo == 3 || lastTwo == 4 then 3 else 4
  | 9 => if one then 1 else 2
  | 10 => if n == 1 then 1 else if between 2 n 4 then 2 else 3
  | 11 => if last == 0 || last == 1 || last == 3 || last == 6 || last == 7 || last == 8 then 1
    else 2
  | 12 => if n == 1 then 1 else if n == 0 || between 2 lastTwo 10 then 2
    else if between 11 lastTwo 19 then 3 else 4
  | 13 => if n == 1 || n == 11 then 1 else if n == 2 || n == 12 then 2
    else if between 3 n 10 || between 13 n 19 then 3 else 4
  | 14 => if n == 1 then 1 else if n == 0 || between 1 lastTwo 19 then 2 else 3
  | _ => if n == 1 then 1 else 2

structure Library where
  codes : Dict Code := Code.table
  master : Language := { master := true, id := some masterId }
  languages : List (Nat × Language) := []
  masterName : String := "english.lng"
  used : List String := []
  deriving Inhabited

end Language

end NewGrf
