import NewGrf.Proofs.Build
import NewGrf.Proofs.Meaning

namespace NewGrf

open Build Access

/-- Whether an access whose variable is shifted by `shift` can do an operation itself. -/
def Access.takes (a : Access Expr) (shift : Int) (op : Operator) (right : Expr) : Bool :=
  let within (count : Int) : Bool := 0 ≤ count && 0 ≤ shift && shift + count < 32
  match op with
  | .and => a.add.isNone
  | .add | .sub | .div | .mod => a.div.isNone && a.mod.isNone
  | .shiftLeft => a.add.isNone && right.constant?.any (· < shift)
  | .shiftRight => a.mask.constant?.any (0 ≤ ·) && right.constant?.any within
  | .shiftRightU => right.constant?.any within
  | _ => false

theorem Access.takes_bare (shiftAt : Option Position → Option Int) (a : Access Expr) (shift : Int)
    (op : Operator) (right : Expr) :
    (a.bare shiftAt).takes shift op (right.bare shiftAt) = a.takes shift op right := by
  simp only [takes, bare, Option.isNone_map, Expr.constant?_bare]

theorem Access.bare_shift (shiftAt : Option Position → Option Int) (a : Access Expr) :
    (a.bare shiftAt).shift = a.shift.bareShift shiftAt := rfl

/-- Two sessions that differ at most in how many values have been told apart. -/
def Session.Close (s t : Session) : Prop := t = { s with made := t.made }

namespace Session.Close

variable {s t u : Session}

theorem refl (s : Session) : s.Close s := rfl

theorem trans (first : s.Close t) (second : t.Close u) : s.Close u := by
  unfold Close at *
  rw [second, first]

theorem shiftAt (h : s.Close t) : t.shiftAt = s.shiftAt := by
  funext p
  rw [h]
  rfl

end Session.Close

/-- A session in which a variable is shifted. -/
def Session.shifted (s : Session) (p : Position) (shift : Int) : Session :=
  { s with shifts := (p, shift) :: s.shifts }

namespace Expr

variable {s t : Session} {e a b : Expr} {n : Int} {x : Access Expr} {p : Position} {op : Operator}
  {pos : Option Position} {shiftAt : Option Position → Option Int} {u : Unit}

theorem currentShift_eq_ok :
    e.currentShift s = .ok n t ↔ (e.bareShift s.shiftAt).constant?.getD 0 = n ∧ s = t := by
  cases e with
  | num v p =>
    simp only [currentShift, bareShift, constant?, bind_eq_ok, get_eq_ok,
      pure_eq_ok, Option.getD_some]
    constructor
    · rintro ⟨_, _, ⟨rfl, rfl⟩, h⟩
      exact h
    · exact fun h => ⟨s, s, ⟨rfl, rfl⟩, h⟩
  | _ => simp [currentShift, bareShift, constant?]

/-- What becomes of an access when an operation is attached to it, if it can be. -/
inductive Attached (again : Scope → Expr → Build Expr) (scope : Scope) (pos : Option Position)
    (s : Session) (x : Access Expr) (p : Position) (k : Int) (right : Expr) :
    Operator → Option (Access Expr) → Session → Prop where
  | refused {op : Operator} (takes : x.takes k op right = false) :
    Attached again scope pos s x p k right op none s
  | mask {m : Expr} {t : Session} (plain : x.add = none)
    (reduced : again scope (.op .and x.mask right pos) s = .ok m t) :
    Attached again scope pos s x p k right .and (some { x with mask := m }) t
  | add (divisor : x.div = none) (rest : x.mod = none) (plain : x.add = none) :
    Attached again scope pos s x p k right .add (some { x with add := some right }) s
  | more {plus sum : Expr} {t : Session} (divisor : x.div = none) (rest : x.mod = none)
    (adds : x.add = some plus)
    (reduced : again scope (.op .add plus right pos) s = .ok sum t) :
    Attached again scope pos s x p k right .add (some { x with add := some sum }) t
  | sub {sum : Expr} {t : Session} (divisor : x.div = none) (rest : x.mod = none)
    (reduced : again scope (.op .sub (x.add.getD (.int 0)) right pos) s = .ok sum t) :
    Attached again scope pos s x p k right .sub (some { x with add := some sum }) t
  | div (divisor : x.div = none) (rest : x.mod = none) :
    Attached again scope pos s x p k right .div
      (some { x with add := some (x.add.getD (.int 0)), div := some right }) s
  | mod (divisor : x.div = none) (rest : x.mod = none) :
    Attached again scope pos s x p k right .mod
      (some { x with add := some (x.add.getD (.int 0)), mod := some right }) s
  | shiftLeft {m : Expr} {t : Session} {count : Int} (plain : x.add = none)
    (constant : right.constant? = some count) (less : count < k)
    (reduced : again [] (.op .shiftLeft x.mask right) s = .ok m t) :
    Attached again scope pos s x p k right .shiftLeft
      (some { x with shift := .num (k - count) (some p), mask := m }) (t.shifted p (k - count))
  | shiftRight {op : Operator} {m : Expr} {t : Session} {count : Int}
    (kind : op = .shiftRightU ∨ op = .shiftRight ∧ x.mask.constant?.any (0 ≤ ·) = true)
    (constant : right.constant? = some count) (low : 0 ≤ count) (start : 0 ≤ k)
    (high : k + count < 32) (reduced : again [] (.op .shiftRightU x.mask right) s = .ok m t) :
    Attached again scope pos s x p k right op
      (some { x with shift := .num (k + count) (some p), mask := m }) (t.shifted p (k + count))

theorem moved_eq_ok (place : x.shift.pos = some p) :
    attach?.moved x n s = .ok e t ↔ num n (some p) = e ∧ s.shifted p n = t := by
  simp only [attach?.moved, place, setShift, bind_eq_ok, modify_eq_ok,
    pure_eq_ok]
  constructor
  · rintro ⟨_, _, h, e, h'⟩
    exact ⟨e, h.trans h'⟩
  · rintro ⟨h, h'⟩
    exact ⟨(), _, h', h, rfl⟩

theorem attach?_eq_ok {again scope right y v k} (shift : x.shift = num v (some p))
    (current : (s.shiftAt (some p)).getD v = k)
    (h : attach? again scope op x right pos s = .ok y t) :
    Attached again scope pos s x p k right op y t := by
  have place : x.shift.pos = some p := by rw [shift]; rfl
  have shiftNow : (x.shift.bareShift s.shiftAt).constant?.getD 0 = k := by
    simp only [shift, bareShift, constant?, current, Option.getD_some]
  unfold attach? at h
  simp only [bind_eq_ok, currentShift_eq_ok, shiftNow] at h
  obtain ⟨_, _, ⟨rfl, rfl⟩, h⟩ := h
  cases op with
  | and =>
    simp only at h
    split at h
    case isTrue plain =>
      simp only [bind_eq_ok, pure_eq_ok] at h
      obtain ⟨m, u, reduced, rfl, rfl⟩ := h
      exact .mask (Option.isNone_iff_eq_none.1 plain) reduced
    case isFalse plain =>
      simp only [pure_eq_ok] at h
      obtain ⟨rfl, rfl⟩ := h
      exact .refused (by simpa only [takes, Bool.not_eq_true] using plain)
  | add =>
    simp only at h
    split at h
    case isTrue unscaled =>
      simp only [Bool.and_eq_true, Option.isNone_iff_eq_none] at unscaled
      cases adds : x.add with
      | none =>
        simp only [adds, pure_eq_ok] at h
        obtain ⟨rfl, rfl⟩ := h
        exact .add unscaled.1 unscaled.2 adds
      | some plus =>
        simp only [adds, bind_eq_ok, pure_eq_ok] at h
        obtain ⟨sum, u, reduced, rfl, rfl⟩ := h
        exact .more unscaled.1 unscaled.2 adds reduced
    case isFalse scaled =>
      simp only [pure_eq_ok] at h
      obtain ⟨rfl, rfl⟩ := h
      exact .refused (by simpa only [takes, Bool.not_eq_true] using scaled)
  | sub =>
    simp only at h
    split at h
    case isTrue unscaled =>
      simp only [Bool.and_eq_true, Option.isNone_iff_eq_none] at unscaled
      simp only [bind_eq_ok, pure_eq_ok] at h
      obtain ⟨sum, u, reduced, rfl, rfl⟩ := h
      exact .sub unscaled.1 unscaled.2 reduced
    case isFalse scaled =>
      simp only [pure_eq_ok] at h
      obtain ⟨rfl, rfl⟩ := h
      exact .refused (by simpa only [takes, Bool.not_eq_true] using scaled)
  | div =>
    simp only [pure_eq_ok] at h
    obtain ⟨rfl, rfl⟩ := h
    split
    case isTrue unscaled =>
      simp only [Bool.and_eq_true, Option.isNone_iff_eq_none] at unscaled
      exact .div unscaled.1 unscaled.2
    case isFalse scaled => exact .refused (by simpa only [takes, Bool.not_eq_true] using scaled)
  | mod =>
    simp only [pure_eq_ok] at h
    obtain ⟨rfl, rfl⟩ := h
    split
    case isTrue unscaled =>
      simp only [Bool.and_eq_true, Option.isNone_iff_eq_none] at unscaled
      exact .mod unscaled.1 unscaled.2
    case isFalse scaled => exact .refused (by simpa only [takes, Bool.not_eq_true] using scaled)
  | shiftLeft =>
    cases right with
    | num count q =>
      simp only at h
      split at h
      case isTrue fits =>
        simp only [bind_eq_ok, pure_eq_ok, moved_eq_ok place] at h
        obtain ⟨m, u, reduced, _, _, ⟨rfl, rfl⟩, rfl, rfl⟩ := h
        exact .shiftLeft (Option.isNone_iff_eq_none.1 fits.1) rfl fits.2 reduced
      case isFalse fits =>
        simp only [pure_eq_ok] at h
        obtain ⟨rfl, rfl⟩ := h
        refine .refused ?_
        simp only [takes, constant?_num]
        simpa using fits
    | _ =>
      simp only [pure_eq_ok] at h
      obtain ⟨rfl, rfl⟩ := h
      refine .refused ?_
      simp [takes, constant?]
  | shiftRight | shiftRightU =>
    cases right with
    | num count q =>
      simp only at h
      split at h
      case isTrue fits =>
        simp only [bind_eq_ok, pure_eq_ok, moved_eq_ok place] at h
        obtain ⟨m, u, reduced, _, _, ⟨rfl, rfl⟩, rfl, rfl⟩ := h
        refine .shiftRight ?_ rfl fits.2.1 fits.2.2.1 fits.2.2.2 reduced
        simp_all
      case isFalse fits =>
        simp only [pure_eq_ok] at h
        obtain ⟨rfl, rfl⟩ := h
        refine .refused ?_
        simp only [takes, constant?_num]
        simpa [and_assoc] using fits
    | _ =>
      simp only [pure_eq_ok] at h
      obtain ⟨rfl, rfl⟩ := h
      refine .refused ?_
      simp [takes, constant?]
  | _ =>
    simp only [pure_eq_ok] at h
    obtain ⟨rfl, rfl⟩ := h
    exact .refused rfl

/-- Whether an operation is attached to its left operand. -/
def attaches (op : Operator) (a b : Expr) : Bool :=
  match a.access? with
  | some x => b.inAssignment && x.takes (x.shift.constant?.getD 0) op b
  | none => false

/-- Whether an expression is turned into a truth value. -/
def isTruth : Expr → Bool
  | boolean .. => true
  | _ => false

/-- The parts of a sum or a difference with a constant on the right. -/
def sum? : Expr → Option (Operator × Expr × Int)
  | binary .add x (num c _) _ => some (.add, x, c)
  | binary .sub x (num c _) _ => some (.sub, x, c)
  | _ => none

theorem sum?_binary (op : Operator) (a b : Expr) (p : Option Position) : (binary op a b p).sum? =
      if op = .add ∨ op = .sub then b.constant?.map fun c => (op, a, c) else none := by
  cases op <;> cases b <;> rfl

theorem sum?_bare (e : Expr) :
    (e.bare shiftAt).sum? = e.sum?.map fun (op, x, c) => (op, x.bare shiftAt, c) := by
  cases e with
  | binary op a b p =>
    by_cases sums : op = .add ∨ op = .sub
    · obtain rfl | rfl := sums <;>
        simp [bare, bareBinary, sum?_binary, constant?_bare, Function.comp_def]
    · rw [sum?_binary, if_neg sums]
      simp only [bare, bareBinary]
      split
      · rfl
      · rw [sum?_binary, if_neg sums]
        rfl
  | access a p => rw [bare_access]; rfl
  | _ => rfl

theorem sum?_eq_some {x c} (h : e.sum? = some (op, x, c)) :
    (op = .add ∨ op = .sub) ∧ ∃ q p, e = binary op x (num c q) p := by
  cases e with
  | binary inner a b p =>
    rw [sum?_binary] at h
    split at h
    · next sums =>
      obtain ⟨c, constant, same⟩ := Option.map_eq_some_iff.1 h
      obtain ⟨q, rfl⟩ := constant?_eq_some.1 constant
      cases same
      exact ⟨sums, q, p, rfl⟩
    · cases h
  | _ => cases h

/-- Whether the constants of two additions or subtractions are joined. -/
def merges (op : Operator) (a b : Expr) : Bool :=
  (op == .add || op == .sub) && a.sum?.isSome && b.constant?.isSome

theorem mergeSum?_eq_none {p} (h : mergeSum? op a b p = none) : merges op a b = false := by
  rw [Bool.eq_false_iff]
  intro merge
  simp only [merges, Bool.and_eq_true, Bool.or_eq_true, beq_iff_eq, Option.isSome_iff_exists]
    at merge
  obtain ⟨⟨sums, ⟨inner, x, c⟩, parts⟩, d, constant⟩ := merge
  obtain ⟨inner, q, r, rfl⟩ := sum?_eq_some parts
  obtain ⟨q, rfl⟩ := constant?_eq_some.1 constant
  obtain rfl | rfl := sums <;> obtain rfl | rfl := inner <;> cases h

theorem mergeSum?_eq_some {p} (h : mergeSum? op a b p = some e) : merges op a b = true ∧
    ∃ inner x c d, a.sum? = some (inner, x, c) ∧ b.constant? = some d ∧
      e = .opInt inner x (if op = inner then c + d else c - d) p := by
  unfold mergeSum? at h
  split at h
  · next inner x c q r d _ =>
    simp only at h
    split at h <;> cases h
    · exact ⟨rfl, _, _, _, _, rfl, rfl, rfl⟩
    · exact ⟨rfl, _, _, _, _, rfl, rfl, rfl⟩
    · exact ⟨rfl, _, _, _, _, rfl, rfl, rfl⟩
    · refine ⟨rfl, _, _, _, _, rfl, rfl, ?_⟩
      change Expr.opInt .sub x (c - -d) p = Expr.opInt .sub x (c + d) p
      rw [Int.sub_neg]
  · cases h

/-- Whether an operation on constants is computed. -/
def folds (op : Operator) (a b : Expr) : Bool :=
  match a.constant?, b.constant? with
  | some x, some y => (foldWords? op x y).isSome
  | _, _ => false

/-- Whether an operation on reduced operands stays as it is. Comparisons may stand either way
round. -/
def stays (op : Operator) (a b : Expr) : Bool :=
  !folds op a b && (!op.commutative || decide (a.priority ≤ b.priority))
  && !b.constant?.any (isNeutral op) && !attaches op a b && !merges op a b
  && !(op == .or && a.isTruth && b.isTruth)

theorem stays_iff : stays op a b = true ↔
    folds op a b = false ∧ (op.commutative = true → a.priority ≤ b.priority) ∧
      b.constant?.any (isNeutral op) = false ∧ attaches op a b = false ∧ merges op a b = false ∧
      ¬(op = .or ∧ a.isTruth = true ∧ b.isTruth = true) := by
  simp only [stays, Bool.and_eq_true, Bool.or_eq_true, Bool.not_eq_true', decide_eq_true_eq,
    beq_iff_eq, Bool.eq_false_iff, ne_eq, and_assoc, Decidable.imp_iff_not_or]

theorem demandIntegers_eq_ok (h : demandIntegers a b pos s = .ok u t) : t = s := by
  unfold demandIntegers at h
  split at h
  · exact (pure_eq_ok.1 h).2.symm
  · split at h
    · simp at h
    · split at h <;> simp at h

theorem demandNumbers_eq_ok (h : demandNumbers a b pos s = .ok u t) : t = s := by
  unfold demandNumbers at h
  split at h
  · split at h
    · simp at h
    · split at h <;> simp at h
  · split at h
    · simp at h
    · exact (pure_eq_ok.1 h).2.symm

/-- Checking operands changes nothing. A count is not negative, and a word is rotated by no more
places than it has. -/
theorem checkOperands_eq_ok (h : checkOperands op a b pos s = .ok u t) :
    t = s ∧ (op.demand = .nonNegativeRight → ∀ v, b.constant? = some v → 0 ≤ v) ∧
      (op.demand = .rotatable → ∀ v n, a.constant? = some v → b.constant? = some n →
        0 ≤ n ∧ n ≤ 32) := by
  unfold checkOperands at h
  cases demand : op.demand <;> simp only [demand] at h
  case anything => exact ⟨(pure_eq_ok.1 h).2.symm, by simp, by simp⟩
  case integers => exact ⟨demandIntegers_eq_ok h, by simp, by simp⟩
  case numbers => exact ⟨demandNumbers_eq_ok h, by simp, by simp⟩
  case rotatable =>
    rw [bind_eq_ok] at h
    obtain ⟨_, r, checked, h⟩ := h
    obtain rfl := demandIntegers_eq_ok checked
    by_cases constants : (∃ v, a.constant? = some v) ∧ ∃ n, b.constant? = some n
    · obtain ⟨⟨v, left⟩, n, right⟩ := constants
      obtain ⟨p, rfl⟩ := constant?_eq_some.1 left
      obtain ⟨q, rfl⟩ := constant?_eq_some.1 right
      dsimp only at h
      by_cases bad : (decide (n < 0) || decide (n > 32)) = true
      · rw [if_pos bad] at h
        cases h
      · rw [if_neg bad] at h
        simp only [Bool.or_eq_true, decide_eq_true_eq, not_or] at bad
        refine ⟨(pure_eq_ok.1 h).2.symm, by simp, fun _ w m _ same => ?_⟩
        cases right.symm.trans same
        omega
    · refine ⟨?_, by simp, fun _ v n left right => absurd ⟨⟨v, left⟩, n, right⟩ constants⟩
      split at h
      · exact absurd ⟨⟨_, rfl⟩, _, rfl⟩ constants
      · exact (pure_eq_ok.1 h).2.symm
  case addable =>
    refine ⟨?_, by simp, by simp⟩
    by_cases mixed : ((a.type == .literal) != (b.type == .literal)) = true
    · rw [if_pos mixed] at h
      simp at h
    · rw [if_neg mixed] at h
      by_cases text : (a.type != .literal) = true
      · rw [if_pos text] at h
        exact demandNumbers_eq_ok h
      · rw [if_neg text] at h
        exact (pure_eq_ok.1 h).2.symm
  case divisible =>
    refine ⟨?_, by simp, by simp⟩
    simp only [bind_eq_ok] at h
    obtain ⟨_, r, checked, h⟩ := h
    obtain rfl := demandNumbers_eq_ok checked
    by_cases zero : b.isZero = true
    · rw [if_pos zero] at h
      simp at h
    · rw [if_neg zero] at h
      exact (pure_eq_ok.1 h).2.symm
  case nonNegativeRight =>
    simp only [bind_eq_ok] at h
    obtain ⟨_, r, checked, h⟩ := h
    obtain rfl := demandIntegers_eq_ok checked
    cases b with
    | num v p =>
      simp only [bind_eq_ok, isTurned, get_eq_ok, pure_eq_ok] at h
      obtain ⟨b, _, ⟨_, _, ⟨rfl, rfl⟩, rfl, rfl⟩, h⟩ := h
      by_cases bad : (decide (v < 0) || r.hasTurned p) = true
      · rw [if_pos bad] at h
        simp at h
      · rw [if_neg bad] at h
        simp only [Bool.or_eq_true, decide_eq_true_eq, not_or, Int.not_lt] at bad
        refine ⟨(pure_eq_ok.1 h).2.symm, ?_, by simp⟩
        intro _ n same
        cases same
        exact bad.1
    | _ =>
      exact ⟨(pure_eq_ok.1 h).2.symm, by simp [constant?], by simp⟩

theorem ownAt_close {q} (h : ownAt p s = .ok q t) : s.Close t := by
  unfold ownAt at h
  by_cases own : p.isOwn = true
  · rw [if_pos own] at h
    obtain ⟨-, rfl⟩ := pure_eq_ok.1 h
    exact .refl s
  · rw [if_neg own] at h
    simp only [bind_eq_ok, get_eq_ok, modify_eq_ok, pure_eq_ok] at h
    obtain ⟨_, _, ⟨rfl, rfl⟩, _, _, rfl, rfl, rfl⟩ := h
    rfl

theorem ownCount_eq_ok {e' : Expr} (h : ownCount e s = .ok e' t)
    (shiftAt : Option Position → Option Int) :
    e'.bare shiftAt = e.bare shiftAt ∧ s.Close t := by
  unfold ownCount at h
  split at h
  · split at h
    · simp only [bind_eq_ok, pure_eq_ok] at h
      obtain ⟨q, u, own, rfl, rfl⟩ := h
      exact ⟨rfl, ownAt_close own⟩
    · obtain ⟨rfl, rfl⟩ := pure_eq_ok.1 h
      exact ⟨rfl, .refl _⟩
  · obtain ⟨rfl, rfl⟩ := pure_eq_ok.1 h
    exact ⟨rfl, .refl _⟩

theorem isTruth_bare (e : Expr) : (e.bare shiftAt).isTruth = e.isTruth := by
  cases e with
  | binary op a b p =>
    simp only [bare, bareBinary]
    split <;> rfl
  | access a p => rw [bare_access]; rfl
  | _ => rfl

theorem folds_bare : folds op (a.bare shiftAt) (b.bare shiftAt) = folds op a b := by
  simp only [folds, constant?_bare]

theorem merges_bare : merges op (a.bare shiftAt) (b.bare shiftAt) = merges op a b := by
  simp only [merges, sum?_bare, constant?_bare, Option.isSome_map]

theorem attaches_bare : attaches op (a.bare shiftAt) (b.bare shiftAt) =
      a.access?.any fun x => b.inAssignment &&
        x.takes ((x.shift.bareShift shiftAt).constant?.getD 0) op b := by
  unfold attaches
  rw [access?_bare]
  cases a.access? with
  | none => rfl
  | some x =>
    simp only [Option.map_some, Option.any_some, inAssignment_bare, bare_shift,
      takes_bare]

/-- What an operation on operands in their order can become. -/
inductive Operation (again : Scope → Expr → Build Expr) (scope : Scope) (pos : Option Position)
    (s : Session) (op : Operator) (a b : Expr) : Expr → Session → Prop where
  | neutral {v : Int} (constant : b.constant? = some v) (neutral : isNeutral op v = true) :
    Operation again scope pos s op a b a s
  | attached {x y : Access Expr} {p : Option Position} {t : Session} (isAccess : a = access x p)
    (fixed : b.inAssignment = true) (attached : attach? again scope op x b pos s = .ok (some y) t)
    (active : b.constant?.any (isNeutral op) = false) :
    Operation again scope pos s op a b (access y p) t
  | merged {sum e : Expr} {t : Session} (merged : mergeSum? op a b pos = some sum)
    (reduced : again [] sum s = .ok e t) : Operation again scope pos s op a b e t
  | joined {x y e : Expr} {p q : Option Position} {t : Session} (either : op = .or)
    (left : a = boolean x p) (right : b = boolean y q)
    (reduced : again scope (.boolean (.op .or x y pos) none) s = .ok e t) :
    Operation again scope pos s op a b e t
  | kept {e : Expr} {t : Session} (stays : stays op (a.bare s.shiftAt) (b.bare s.shiftAt) = true)
    (same : e.bare s.shiftAt = bareBinary op (a.bare s.shiftAt) (b.bare s.shiftAt))
    (close : s.Close t) (own : ownCount (.op op a b pos) s = .ok e t) :
    Operation again scope pos s op a b e t

section Inversion

variable {again : Scope → Expr → Build Expr} {scope : Scope} {pos : Option Position}
    {op : Operator} {a b e : Expr} {s t : Session}

theorem joined_eq_ok (unfolded : folds op a b = false)
    (ordered : op.commutative = true → a.priority ≤ b.priority)
    (active : b.constant?.any (isNeutral op) = false)
    (free : attaches op (a.bare s.shiftAt) (b.bare s.shiftAt) = false)
    (h : reduceBinary.joined again scope pos op a b s = .ok e t) :
    Operation again scope pos s op a b e t := by
  unfold reduceBinary.joined at h
  cases merge : mergeSum? op a b pos with
  | some sum =>
    rw [merge] at h
    exact .merged merge h
  | none =>
    rw [merge] at h
    by_cases truths : op = .or ∧ a.isTruth = true ∧ b.isTruth = true
    · obtain ⟨rfl, left, right⟩ := truths
      cases a <;> cases left
      cases b <;> cases right
      exact .joined rfl rfl rfl h
    · have own : ownCount (.op op a b pos) s = .ok e t := by
        by_cases either : op = .or
        · subst either
          cases a with
          | boolean x p =>
            cases b with
            | boolean y q => exact absurd ⟨rfl, rfl, rfl⟩ truths
            | _ => exact h
          | _ => exact h
        · cases op with
          | or => exact absurd rfl either
          | _ => exact h
      obtain ⟨same, close⟩ := ownCount_eq_ok own s.shiftAt
      refine .kept ?_ (same.trans (bare_op ..)) close own
      rw [stays_iff, folds_bare, priority_bare, priority_bare, constant?_bare, merges_bare,
        isTruth_bare, isTruth_bare]
      exact ⟨unfolded, ordered, active, free, mergeSum?_eq_none merge, truths⟩

theorem rest_eq_ok (shifts : ∀ x p, a = access x p → ∃ v q, x.shift = num v (some q))
    (unfolded : folds op a b = false)
    (ordered : op.commutative = true → a.priority ≤ b.priority)
    (active : b.constant?.any (isNeutral op) = false)
    (h : reduceBinary.rest again scope pos op a b s = .ok e t) :
    Operation again scope pos s op a b e t := by
  cases isAccess : a with
  | access x p =>
    obtain ⟨v, q, shift⟩ := shifts x p isAccess
    subst isAccess
    unfold reduceBinary.rest at h
    by_cases fixed : b.inAssignment = true
    · simp only [fixed, if_true, bind_eq_ok] at h
      obtain ⟨y, u, attaching, h⟩ := h
      cases y with
      | some y =>
        obtain ⟨rfl, rfl⟩ := pure_eq_ok.1 h
        exact .attached rfl fixed attaching active
      | none =>
        cases attach?_eq_ok shift rfl attaching with
        | refused takes =>
          refine joined_eq_ok unfolded ordered active ?_ h
          rw [attaches_bare]
          simp [access?, shift, bareShift, takes]
    · simp only [fixed] at h
      refine joined_eq_ok unfolded ordered active ?_ h
      rw [attaches_bare]
      simp [access?, fixed]
  | _ =>
    subst isAccess
    refine joined_eq_ok unfolded ordered active ?_ h
    rw [attaches_bare]
    rfl

theorem ordered_eq_ok (shifts : ∀ x p, a = access x p → ∃ v q, x.shift = num v (some q))
    (unfolded : folds op a b = false) (ordered : op.commutative = true → a.priority ≤ b.priority)
    (h : (match b with
      | num v _ => if isNeutral op v then pure a else reduceBinary.rest again scope pos op a b
      | _ => reduceBinary.rest again scope pos op a b) s = .ok e t) :
    Operation again scope pos s op a b e t := by
  cases b with
  | num v p =>
    by_cases neutral : isNeutral op v = true
    · simp only [neutral, if_true] at h
      obtain ⟨rfl, rfl⟩ := pure_eq_ok.1 h
      exact .neutral rfl neutral
    · simp only [neutral] at h
      exact rest_eq_ok shifts unfolded ordered (Bool.eq_false_iff.2 neutral) h
  | _ => exact rest_eq_ok shifts unfolded ordered rfl h

/-- An operand that a reduced expression can have. -/
def isOperand : Expr → Bool
  | float .. | literal .. => false
  | access x _ => x.shift.isConstant && x.shift.pos.isSome
  | _ => true

theorem shift_of_isOperand (operand : a.isOperand = true)
    (isAccess : a = access x pos) : ∃ v q, x.shift = num v (some q) := by
  subst isAccess
  simp only [isOperand, Bool.and_eq_true, Option.isSome_iff_exists] at operand
  obtain ⟨constant, q, place⟩ := operand
  cases shift : x.shift with
  | num v p =>
    rw [shift] at place
    exact ⟨v, q, congrArg (num v) place⟩
  | _ => simp [shift, isConstant] at constant

theorem foldConstants?_eq (left : a.isOperand = true) (right : b.isOperand = true) :
    foldConstants? op a b pos =
      match a.constant?, b.constant? with
      | some x, some y => (foldWords? op x y).map fun v => .int v (pos.map Position.loose)
      | _, _ => none := by
  cases a with
  | num x p =>
    cases b with
    | float => cases right
    | _ => rfl
  | float | literal => cases left
  | _ => rfl

theorem folds_eq_true (h : folds op a b = true) :
    ∃ x y v, a.constant? = some x ∧ b.constant? = some y ∧ foldWords? op x y = some v := by
  unfold folds at h
  split at h
  · next x y left right =>
    obtain ⟨v, value⟩ := Option.isSome_iff_exists.1 h
    exact ⟨x, y, v, left, right, value⟩
  · cases h

/-- The ways in which operands can be put in order. -/
theorem orderOperands_cases (op : Operator) (a b : Expr) :
    (orderOperands op a b = (op, a, b) ∧ (op.commutative = true → a.priority ≤ b.priority)) ∨
    (b.priority < a.priority ∧
      (orderOperands op a b = (op, b, a) ∧ op.commutative = true ∨
        op = .lt ∧ orderOperands op a b = (.gt, b, a) ∨
        op = .gt ∧ orderOperands op a b = (.lt, b, a))) := by
  unfold orderOperands
  by_cases less : b.priority < a.priority
  · by_cases lt : op = .lt
    · subst lt
      exact .inr ⟨less, .inr (.inl ⟨rfl, by simp [less]⟩)⟩
    · by_cases gt : op = .gt
      · subst gt
        exact .inr ⟨less, .inr (.inr ⟨rfl, by simp [less]⟩)⟩
      · cases swaps : op.commutative with
        | true =>
          refine .inr ⟨less, .inl ⟨?_, rfl⟩⟩
          rw [if_pos (by simp [less])]
          cases op with
          | lt => exact absurd rfl lt
          | gt => exact absurd rfl gt
          | _ => rfl
        | false => exact .inl ⟨by simp [less, lt, gt], nofun⟩
  · exact .inl ⟨by simp [less], fun _ => Int.not_lt.1 less⟩

theorem folds_swap (less : b.priority < a.priority) : folds op b a = false := by
  unfold folds
  split
  · next right left =>
    obtain ⟨p, rfl⟩ := constant?_eq_some.1 left
    obtain ⟨q, rfl⟩ := constant?_eq_some.1 right
    exact absurd less (Int.lt_irrefl 2)
  · rfl

/-- An operation on reduced operands is computed, or becomes what the operands in their order
allow. -/
theorem reduceBinary_eq_ok (left : a.isOperand = true) (right : b.isOperand = true)
    (h : reduceBinary again scope op a b pos s = .ok e t) :
    (∃ x y v, a.constant? = some x ∧ b.constant? = some y ∧ foldWords? op x y = some v ∧
      Expr.int v (pos.map Position.loose) = e ∧ s = t) ∨
    folds op a b = false ∧ Operation again scope pos s (orderOperands op a b).1
      (orderOperands op a b).2.1 (orderOperands op a b).2.2 e t := by
  simp only [reduceBinary, bind_eq_ok] at h
  obtain ⟨_, u, checked, h⟩ := h
  obtain ⟨rfl, -⟩ := checkOperands_eq_ok checked
  cases unfolded : folds op a b with
  | true =>
    obtain ⟨x, y, v, left', right', value⟩ := folds_eq_true unfolded
    have folded : foldConstants? op a b pos = some (.int v (pos.map Position.loose)) := by
      rw [foldConstants?_eq left right, left', right']
      simp only [value, Option.map_some]
    rw [folded] at h
    obtain ⟨rfl, rfl⟩ := pure_eq_ok.1 h
    exact .inl ⟨x, y, v, left', right', value, rfl, rfl⟩
  | false =>
    have unfolded' : foldConstants? op a b pos = none := by
      rw [foldConstants?_eq left right]
      unfold folds at unfolded
      cases x : a.constant? <;> cases y : b.constant? <;> simp_all
    rw [unfolded'] at h
    refine .inr ⟨rfl, ?_⟩
    obtain ⟨order, ordered⟩ | ⟨less, ⟨order, swaps⟩ | ⟨rfl, order⟩ | ⟨rfl, order⟩⟩ :=
      orderOperands_cases op a b <;> simp only [order] at h ⊢
    · exact ordered_eq_ok (fun _ _ => shift_of_isOperand left) unfolded ordered h
    · exact ordered_eq_ok (fun _ _ => shift_of_isOperand right) (folds_swap less)
        (fun _ => Int.le_of_lt less) h
    · exact ordered_eq_ok (fun _ _ => shift_of_isOperand right) (folds_swap less)
        (fun swaps => by cases swaps) h
    · exact ordered_eq_ok (fun _ _ => shift_of_isOperand right) (folds_swap less)
        (fun swaps => by cases swaps) h

end Inversion

end Expr

end NewGrf
