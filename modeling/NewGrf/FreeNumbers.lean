import NewGrf.Fault
import NewGrf.Position

namespace NewGrf

structure FreeNumbers where
  /-- The free numbers, the next one to give out first. -/
  free : List Int
  /-- The numbers given out since each `save`, the innermost `save` and the last number first. -/
  given : List (List Int) := []
  /-- All numbers that were ever given out to be taken back, and those given out as unused. -/
  used : List Int := []
  total : Nat
  peak : Nat × Option Position := (0, none)
  exhausted : String
  exhaustedUnused : String
  deriving Repr, Inhabited

namespace FreeNumbers

def ofList (numbers : List Int) (exhausted exhaustedUnused : String) : FreeNumbers :=
  { free := numbers.reverse, total := numbers.length, exhausted, exhaustedUnused }

def markUsed (f : FreeNumbers) (n : Int) (pos : Option Position) : FreeNumbers :=
  let used := if f.used.contains n then f.used else n :: f.used
  { f with used, peak := if f.peak.1 < used.length then (used.length, pos) else f.peak }

/-- A number that the next `restore` takes back. -/
def pop (f : FreeNumbers) (pos : Option Position) : Except Fault (Int × FreeNumbers) :=
  match f.free with
  | [] => .error { cause := .script f.exhausted, pos }
  | n :: rest =>
    let given := match f.given with
      | [] => [[n]]
      | g :: gs => (n :: g) :: gs
    .ok (n, ({ f with free := rest, given }).markUsed n pos)

/-- A number that is never taken back. -/
def popGlobal (f : FreeNumbers) (pos : Option Position) : Except Fault (Int × FreeNumbers) :=
  match f.free with
  | [] => .error { cause := .script f.exhausted, pos }
  | n :: rest => .ok (n, { f with free := rest })

/-- A number that was not in use before and is never taken back. -/
def popUnused (f : FreeNumbers) (pos : Option Position) : Except Fault (Int × FreeNumbers) :=
  match f.free.find? fun n => !f.used.contains n with
  | none => .error { cause := .script f.exhaustedUnused, pos }
  | some n =>
    .ok (n, ({ f with free := (f.free.reverse.erase n).reverse }).markUsed n pos)

def save (f : FreeNumbers) : FreeNumbers := { f with given := [] :: f.given }

def restore (f : FreeNumbers) : FreeNumbers :=
  match f.given with
  | [] => f
  | g :: gs => { f with free := g.reverse ++ f.free, given := gs }

end FreeNumbers

end NewGrf
