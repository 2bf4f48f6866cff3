import NewGrf.Proofs.Operations

namespace NewGrf

open Build

namespace Expr

/-- Whether a constant is a signed word. -/
def isWord (v : Int) : Bool := -2147483648 ≤ v && v < 2147483648

theorem isWord_iff {v} : isWord v = true ↔ -2147483648 ≤ v ∧ v < 2147483648 := by
  simp [isWord]

/-- Whether an expression names a file by its label. -/
def isLiteral : Expr → Bool
  | literal .. => true
  | _ => false

/-- Whether a shift has a position of its own. -/
def isOwnShift : Expr → Bool
  | num _ (some p) => p.isOwn
  | _ => false

/-- Whether an operation on a value stays as it is. -/
def negationStays : Expr → Bool
  | num .. | not .. => false
  | binary op _ _ _ => (opposite? op).isNone
  | _ => true

def complementStays : Expr → Bool
  | num .. | bitNot .. => false
  | _ => true

mutual

/-- Whether no rule of reduction applies to an expression in its bare form. The parts of an access
are known when the file is loaded; it only divides where it also adds. -/
def settled : Expr → Bool
  | num v _ => isWord v
  | param n _ => n.inAssignment && n.settled
  | otherParam owner n _ => owner.isLiteral && n.inAssignment && n.settled
  | patchVar .. | special .. | check .. | reserve .. | loadTemp .. => true
  | access ⟨n, shift, mask, argument, plus, divisor, rest, extra⟩ _ =>
    n.inAssignment && n.settled && shift.isOwnShift && mask.inAssignment && mask.settled
    && settledOption argument && settledOption plus && settledOption divisor && settledOption rest
    && settledAll extra && (divisor.isNone && rest.isNone || plus.isSome)
    && (divisor.isNone || rest.isNone)
  | binary op a b _ => a.settled && b.settled && stays op a b
  | ternary guard yes no _ =>
    guard.settled && yes.settled && no.settled && !guard.isConstant
  | bitNot e _ => e.settled && e.complementStays
  | not e _ => e.settled && e.negationStays
  | boolean e _ => e.settled && !e.isBoolean
  | abs e _ => e.settled && !e.isConstant
  | _ => false

def settledOption : Option Expr → Bool
  | none => true
  | some e => e.inAssignment && e.settled

def settledAll : List (Int × Expr) → Bool
  | [] => true
  | (_, e) :: es => e.settled && settledAll es

end

theorem settledOption_iff {e} :
    settledOption e = true ↔ ∀ x ∈ e, x.inAssignment = true ∧ x.settled = true := by
  cases e <;> simp [settledOption]

theorem settledAll_iff {es} : settledAll es = true ↔ ∀ x ∈ es, x.2.settled = true := by
  induction es with
  | nil => simp [settledAll]
  | cons e es ih => simp [settledAll, ih]

end Expr

/-- The parts of an access to which no rule of reduction applies. -/
structure Access.Settled (a : Access Expr) : Prop where
  num : a.num.inAssignment = true ∧ a.num.settled = true
  shift : a.shift.isOwnShift = true
  mask : a.mask.inAssignment = true ∧ a.mask.settled = true
  param : ∀ e ∈ a.param, e.inAssignment = true ∧ e.settled = true
  add : ∀ e ∈ a.add, e.inAssignment = true ∧ e.settled = true
  div : ∀ e ∈ a.div, e.inAssignment = true ∧ e.settled = true
  mod : ∀ e ∈ a.mod, e.inAssignment = true ∧ e.settled = true
  extra : ∀ x ∈ a.extra, x.2.settled = true
  sum : a.div = none ∧ a.mod = none ∨ a.add.isSome = true
  scale : a.div = none ∨ a.mod = none

namespace Expr

theorem settled_access {a : Access Expr} {p} : (access a p).settled = true ↔ a.Settled := by
  cases a
  simp only [settled, Bool.and_eq_true, Bool.or_eq_true, settledOption_iff, settledAll_iff,
    Option.isNone_iff_eq_none, and_assoc]
  constructor
  · intro ⟨n, n', shift, mask, mask', argument, plus, divisor, rest, extra, sum, scale⟩
    exact ⟨⟨n, n'⟩, shift, ⟨mask, mask'⟩, argument, plus, divisor, rest, extra, sum, scale⟩
  · intro ⟨⟨n, n'⟩, shift, ⟨mask, mask'⟩, argument, plus, divisor, rest, extra, sum, scale⟩
    exact ⟨n, n', shift, mask, mask', argument, plus, divisor, rest, extra, sum, scale⟩

section Again

variable {again : Scope → Expr → Build Expr} {scope : Scope} {pos : Option Position}
    {op : Operator} {a b e e' : Expr} {s t u : Session} {shiftAt : Option Position → Option Int}

theorem Attached.takes {x y : Access Expr} {p k}
    (h : Attached again scope pos s x p k b op (some y) t) : x.takes k op b = true := by
  cases h with
  | mask plain => simp [Access.takes, plain]
  | add divisor rest | more divisor rest | sub divisor rest | div divisor rest
  | mod divisor rest => simp [Access.takes, divisor, rest]
  | shiftLeft plain constant less => simp [Access.takes, plain, constant, less]
  | shiftRight kind constant low start high =>
    obtain rfl | ⟨rfl, mask⟩ := kind
    · simp [Access.takes, constant, low, start, high]
    · simp [Access.takes, mask, constant, low, start, high]

theorem stays_comparison (h : op = .lt ∨ op = .gt) : stays op a b = !folds op a b := by
  have free : attaches op a b = false := by
    unfold attaches
    obtain rfl | rfl := h <;> cases a.access? <;> simp [Access.takes]
  have active : b.constant?.any (isNeutral op) = false := by
    obtain rfl | rfl := h <;> cases b.constant? <;> rfl
  have unmerged : merges op a b = false := by obtain rfl | rfl := h <;> rfl
  have single : (op == .or) = false := by obtain rfl | rfl := h <;> rfl
  have fixed : op.commutative = false := by obtain rfl | rfl := h <;> rfl
  simp [stays, free, active, unmerged, single, fixed]

theorem stays_gt : stays .lt b a = stays .gt a b := by
  rw [stays_comparison (.inl rfl), stays_comparison (.inr rfl)]
  unfold folds
  cases a.constant? <;> cases b.constant? <;> rfl

theorem settled_bareBinary :
    (bareBinary op a b).settled = (a.settled && b.settled && stays op a b) := by
  unfold bareBinary
  split
  case isTrue h => rw [settled, stays_gt, h, Bool.and_comm b.settled]
  case isFalse => rw [settled]

theorem isOperand_of_settled (h : (e.bare shiftAt).settled = true) : e.isOperand = true := by
  cases e with
  | float | literal => simp [bare, settled, setPos] at h
  | access x p =>
    rw [bare_access, settled_access] at h
    have shift := h.shift
    rw [Access.bare_shift] at shift
    cases same : x.shift with
    | num v q =>
      cases q with
      | some q => simp [isOperand, same, isConstant, Expr.pos]
      | none => simp [same, bareShift, isOwnShift] at shift
    | _ => simp [same, bareShift, isOwnShift] at shift
  | _ => rfl

theorem needInteger_eq_ok {text u} (h : needInteger e text pos s = .ok u t) : s = t := by
  unfold needInteger at h
  cases type : e.type <;> simp only [type] at h
  case integer => exact (pure_eq_ok.1 h).2
  all_goals simp at h

/-- An operation that stays is only given positions. -/
theorem Operation.of_stays (h : Operation again scope pos s op a b e t)
    (operand : a.isOperand = true)
    (stays : stays op (a.bare s.shiftAt) (b.bare s.shiftAt) = true) :
    e.bare s.shiftAt = bareBinary op (a.bare s.shiftAt) (b.bare s.shiftAt) ∧ s.Close t := by
  obtain ⟨-, -, active, free, unmerged, truths⟩ := stays_iff.1 stays
  cases h with
  | neutral constant neutral => simp [constant?_bare, constant, neutral] at active
  | @attached x y p _ isAccess fixed attaching =>
    obtain ⟨v, q, shift⟩ := shift_of_isOperand operand isAccess
    have takes := (attach?_eq_ok shift rfl attaching).takes
    rw [attaches_bare] at free
    simp [isAccess, access?, fixed, shift, bareShift, takes] at free
  | merged merge =>
    have := (mergeSum?_eq_some merge).1
    rw [merges_bare] at unmerged
    simp [this] at unmerged
  | joined either left right =>
    subst left right
    exact absurd ⟨either, rfl, rfl⟩ truths
  | kept _ same close => exact ⟨same, close⟩
theorem reduceBinary_of_stays (left : (a.bare s.shiftAt).settled = true)
    (right : (b.bare s.shiftAt).settled = true)
    (stay : stays op (a.bare s.shiftAt) (b.bare s.shiftAt) = true)
    (h : reduceBinary again scope op a b pos s = .ok e t) :
    e.bare s.shiftAt = bareBinary op (a.bare s.shiftAt) (b.bare s.shiftAt) ∧ s.Close t := by
  have leftOperand := isOperand_of_settled left
  have rightOperand := isOperand_of_settled right
  obtain ⟨unfolded, ordered, -⟩ := stays_iff.1 stay
  rw [folds_bare] at unfolded
  rw [priority_bare, priority_bare] at ordered
  obtain ⟨x, y, v, left, right, value, -⟩ | ⟨-, h⟩ := reduceBinary_eq_ok leftOperand rightOperand h
  · simp [folds, left, right, value] at unfolded
  · obtain ⟨order, -⟩ | ⟨less, ⟨order, swaps⟩ | ⟨rfl, order⟩ | ⟨rfl, order⟩⟩ :=
      orderOperands_cases op a b <;> simp only [order] at h
    · exact h.of_stays leftOperand stay
    · exact absurd less (Int.not_lt.2 (ordered swaps))
    · exact h.of_stays rightOperand (stays_gt.symm.trans stay)
    · exact h.of_stays rightOperand (stays_gt.trans stay)

/-- Reducing an expression to which no rule applies changes nothing but positions, and it leaves
constants and literals as they are. -/
structure Repeats (again : Scope → Expr → Build Expr) : Prop where
  same : ∀ {scope : Scope} {e e' : Expr} {s t : Session}, (e.bare s.shiftAt).settled = true →
    again scope e s = .ok e' t → e'.bare s.shiftAt = e.bare s.shiftAt ∧ s.Close t
  leaf : ∀ {scope : Scope} {e e' : Expr} {s t : Session},
    e.isConstant = true ∨ e.isLiteral = true → again scope e s = .ok e' t → e = e' ∧ s = t

theorem Repeats.after (repeats : Repeats again) (close : s.Close u)
    (settled : (e.bare s.shiftAt).settled = true) (h : again scope e u = .ok e' t) :
    e'.bare s.shiftAt = e.bare s.shiftAt ∧ s.Close t := by
  rw [← close.shiftAt] at settled ⊢
  obtain ⟨same, close'⟩ := repeats.same settled h
  exact ⟨same, close.trans close'⟩

theorem Repeats.option (repeats : Repeats again) (close : s.Close u) {x y : Option Expr}
    (settled : ∀ e ∈ x.map (·.bare s.shiftAt), e.inAssignment = true ∧ e.settled = true)
    (h : reduceOption again scope x u = .ok y t) :
    y.map (·.bare s.shiftAt) = x.map (·.bare s.shiftAt) ∧ s.Close t := by
  cases x with
  | none =>
    obtain ⟨rfl, rfl⟩ := pure_eq_ok.1 h
    exact ⟨rfl, close⟩
  | some e =>
    simp only [reduceOption, bind_eq_ok, pure_eq_ok] at h
    obtain ⟨e', _, reduced, rfl, rfl⟩ := h
    obtain ⟨same, close'⟩ := repeats.after close (settled _ rfl).2 reduced
    exact ⟨congrArg some same, close'⟩

theorem Repeats.all (repeats : Repeats again) (close : s.Close u) {xs ys : List (Int × Expr)}
    (settled : ∀ x ∈ xs.map (fun x : Int × Expr => (x.1, x.2.bare s.shiftAt)),
      x.2.settled = true)
    (h : xs.mapM (m := Build) (fun x => do pure (x.1, ← again scope x.2)) u = .ok ys t) :
    (ys.map fun x => (x.1, x.2.bare s.shiftAt)) = xs.map (fun x => (x.1, x.2.bare s.shiftAt)) ∧
      s.Close t := by
  induction xs generalizing u ys with
  | nil =>
    obtain ⟨rfl, rfl⟩ := pure_eq_ok.1 h
    exact ⟨rfl, close⟩
  | cons x xs ih =>
    simp only [List.mapM_cons, bind_eq_ok, pure_eq_ok] at h
    obtain ⟨_, _, ⟨e', _, reduced, rfl, rfl⟩, ys, _, rest, rfl, rfl⟩ := h
    simp only [List.map_cons, List.forall_mem_cons] at settled
    obtain ⟨same, close⟩ := repeats.after close settled.1 reduced
    obtain ⟨sames, close⟩ := ih close settled.2 rest
    exact ⟨by simp only [List.map_cons, same, sames], close⟩

theorem bareShift_current (v : Int) (p : Option Position) :
    (num ((shiftAt p).getD v) p).bareShift shiftAt = (num v p).bareShift shiftAt := by
  simp only [bareShift]
  cases shiftAt p <;> rfl

theorem ownShift_eq_ok {p : Position} {v} (own : p.isOwn = true)
    (h : ownShift (num v (some p)) s = .ok e t) :
    num ((s.shiftAt (some p)).getD v) (some p) = e ∧ s = t := by
  simp only [ownShift, bind_eq_ok, pure_eq_ok, currentShift_eq_ok, ownAt,
    Option.getD_some, own, if_true] at h
  obtain ⟨k, u, ⟨current, rfl⟩, _, _, ⟨rfl, rfl⟩, rfl, rfl⟩ := h
  exact ⟨by rw [← current]; rfl, rfl⟩

theorem isOwnShift_bareShift (h : (e.bareShift shiftAt).isOwnShift = true) :
    ∃ v q, e = num v (some q) ∧ q.isOwn = true := by
  cases e with
  | num v q =>
    cases q with
    | some q => exact ⟨v, q, rfl, h⟩
    | none => cases h
  | _ => cases h

theorem Repeats.access (repeats : Repeats again) {x : Access Expr} {p}
    (settled : (x.bare s.shiftAt).Settled) (h : reduceAccess again scope x p s = .ok e t) :
    e.bare s.shiftAt = (Expr.access x p).bare s.shiftAt ∧ s.Close t := by
  obtain ⟨v, q, shift, own⟩ := isOwnShift_bareShift settled.shift
  simp only [reduceAccess, bind_eq_ok, shift] at h
  obtain ⟨n, _, reduceNum, place, _, reduceShift, h⟩ := h
  obtain ⟨mask, _, reduceMask, argument, _, reduceParam, h⟩ := h
  obtain ⟨sameNum, close⟩ := repeats.same settled.num.2 reduceNum
  obtain ⟨rfl, rfl⟩ := repeats.leaf (.inl rfl) reduceShift
  obtain ⟨sameMask, close⟩ := repeats.after close settled.mask.2 reduceMask
  obtain ⟨sameParam, close⟩ := repeats.option close settled.param reduceParam
  generalize (!_ : Bool) = bad at h
  cases bad with
  | true => simp at h
  | false =>
    simp only [Bool.false_eq_true, if_false, bind_eq_ok, pure_eq_ok] at h
    obtain ⟨plus, _, reduceAdd, divisor, _, reduceDiv, rest, _, reduceMod, extra, _, reduceExtra,
      place, _, ownShift, rfl, rfl⟩ := h
    obtain ⟨sameAdd, close⟩ := repeats.option close settled.add reduceAdd
    obtain ⟨sameDiv, close⟩ := repeats.option close settled.div reduceDiv
    obtain ⟨sameMod, close⟩ := repeats.option close settled.mod reduceMod
    obtain ⟨sameExtra, close⟩ := repeats.all close settled.extra reduceExtra
    obtain ⟨rfl, rfl⟩ := ownShift_eq_ok own ownShift
    refine ⟨?_, close⟩
    simp only [bare_access, Access.bare, sameNum, sameMask, sameParam, sameAdd, sameDiv, sameMod,
      sameExtra, shift, close.shiftAt, bareShift_current]

theorem isConstant_bare (e : Expr) : (e.bare shiftAt).isConstant = e.isConstant := by
  have constant (e : Expr) : e.isConstant = e.constant?.isSome := by cases e <;> rfl
  rw [constant, constant, constant?_bare]

theorem isLiteral_bare (e : Expr) : (e.bare shiftAt).isLiteral = e.isLiteral := by
  cases e with
  | binary op a b p =>
    simp only [bare, bareBinary]
    split <;> rfl
  | access a p => rw [bare_access]; rfl
  | _ => rfl

theorem complementStays_bare (e : Expr) : (e.bare shiftAt).complementStays = e.complementStays := by
  cases e with
  | binary op a b p =>
    simp only [bare, bareBinary]
    split <;> rfl
  | access a p => rw [bare_access]; rfl
  | _ => rfl

theorem negationStays_bare (e : Expr) : (e.bare shiftAt).negationStays = e.negationStays := by
  cases e with
  | binary op a b p =>
    simp only [bare, bareBinary]
    split
    case isTrue h => rw [h]; rfl
    case isFalse => rfl
  | access a p => rw [bare_access]; rfl
  | _ => rfl

theorem uncalled_keeps (x : Expr) (r : ForInStep PUnit) (s t : Session)
    (h : (if x.type == .group then do
        stop x.uncalledFault
        pure (ForInStep.yield PUnit.unit)
      else pure (ForInStep.yield PUnit.unit) : Build _) s = .ok r t) : s = t := by
  by_cases group : (x.type == .group) = true
  · rw [if_pos group] at h
    simp at h
  · rw [if_neg group] at h
    exact (pure_eq_ok.1 h).2

theorem integer_keeps {text} (x : Expr) (r : ForInStep PUnit) (s t : Session) (h : (do
        x.needInteger text pos
        pure (ForInStep.yield PUnit.unit) : Build _) s = .ok r t) : s = t := by
  simp only [bind_eq_ok, pure_eq_ok] at h
  obtain ⟨_, _, checked, -, rfl⟩ := h
  exact needInteger_eq_ok checked

/-- A choice whose guard becomes a constant is made; any other one stays. -/
theorem reduceWith_ternary_eq_ok {fuel strict g}
    (h : reduceWith (fuel + 1) strict scope (ternary g a b pos) s = .ok e t) :
    ∃ g' a' b' u v, reduceWith fuel true scope g s = .ok g' u ∧
      reduceWith fuel true scope a u = .ok a' v ∧ reduceWith fuel true scope b v = .ok b' t ∧
      ((∃ n q, g' = num n q ∧ e = if n ≠ 0 then a' else b') ∨ e = ternary g' a' b' pos) := by
  simp only [reduceWith, bind_eq_ok] at h
  obtain ⟨g', u, guard, a', v, yes, b', w, no, h⟩ := h
  cases g' with
  | num n q =>
    obtain ⟨rfl, rfl⟩ := pure_eq_ok.1 h
    exact ⟨_, _, _, _, _, guard, yes, no, .inl ⟨n, q, rfl, rfl⟩⟩
  | _ =>
    simp only [bind_eq_ok] at h
    obtain ⟨_, _, called, _, _, integers, h⟩ := h
    obtain rfl := forIn_eq_ok uncalled_keeps called
    obtain rfl := forIn_eq_ok integer_keeps integers
    obtain ⟨rfl, rfl⟩ := pure_eq_ok.1 h
    exact ⟨_, _, _, _, _, guard, yes, no, .inr rfl⟩

/-- Reducing a settled expression again changes nothing but positions. -/
theorem reduceWith_repeats (fuel : Nat) (strict : Bool) : Repeats (reduceWith fuel strict) := by
  induction fuel generalizing strict with
  | zero => exact ⟨by simp [reduceWith], by simp [reduceWith]⟩
  | succ fuel ih =>
    have again := ih true
    constructor
    · intro scope e e' s t settled h
      cases e with
      | num | patchVar | special | check | reserve | loadTemp =>
        obtain ⟨rfl, rfl⟩ := pure_eq_ok.1 h
        exact ⟨rfl, .refl _⟩
      | param n p =>
        simp only [bare, Expr.settled, Bool.and_eq_true] at settled
        simp only [reduceWith, bind_eq_ok] at h
        obtain ⟨n', u, reduced, h⟩ := h
        obtain ⟨same, close⟩ := again.same settled.2 reduced
        by_cases integer : (n'.type != .integer) = true
        · rw [if_pos integer] at h
          simp at h
        · rw [if_neg integer] at h
          obtain ⟨rfl, rfl⟩ := pure_eq_ok.1 h
          exact ⟨congrArg (param · none) same, close⟩
      | otherParam owner n p =>
        simp only [bare, Expr.settled, Bool.and_eq_true] at settled
        simp only [reduceWith, bind_eq_ok] at h
        obtain ⟨owner', u, reduceOwner, h⟩ := h
        obtain ⟨_, _, labelled, n', _, reduced, h⟩ := h
        obtain ⟨rfl, rfl⟩ :=
          again.leaf (.inr (by rw [← isLiteral_bare]; exact settled.1.1)) reduceOwner
        obtain ⟨_, label⟩ := discard_eq_ok.1 labelled
        obtain ⟨-, rfl⟩ := ofExcept_eq_ok.1 label
        obtain ⟨same, close⟩ := again.same settled.2 reduced
        by_cases integer : (n'.type != .integer) = true
        · rw [if_pos integer] at h
          simp at h
        · rw [if_neg integer] at h
          obtain ⟨rfl, rfl⟩ := pure_eq_ok.1 h
          exact ⟨congrArg (otherParam _ · none) same, close⟩
      | access x p =>
        rw [bare_access, settled_access] at settled
        exact again.access settled h
      | binary op a b p =>
        simp only [bare, settled_bareBinary, Bool.and_eq_true] at settled
        simp only [reduceWith, bind_eq_ok] at h
        obtain ⟨a', u, reduceLeft, b', v, reduceRight, h⟩ := h
        obtain ⟨left, close⟩ := again.same settled.1.1 reduceLeft
        obtain ⟨right, close⟩ := again.after close settled.1.2 reduceRight
        rw [← left, ← right, ← close.shiftAt] at settled
        obtain ⟨same, close'⟩ := reduceBinary_of_stays settled.1.1 settled.1.2 settled.2 h
        rw [close.shiftAt, left, right] at same
        exact ⟨same, close.trans close'⟩
      | ternary g a b p =>
        simp only [bare, Expr.settled, Bool.and_eq_true, Bool.not_eq_true'] at settled
        obtain ⟨g', a', b', _, _, reduceGuard, reduceYes, reduceNo, result⟩ :=
          reduceWith_ternary_eq_ok h
        obtain ⟨guard, close⟩ := again.same settled.1.1.1 reduceGuard
        obtain ⟨yes, close⟩ := again.after close settled.1.1.2 reduceYes
        obtain ⟨no, close⟩ := again.after close settled.1.2 reduceNo
        rw [← guard, isConstant_bare] at settled
        obtain ⟨n, q, rfl, -⟩ | rfl := result
        · cases settled.2
        · exact ⟨by simp only [bare, guard, yes, no], close⟩
      | bitNot e p =>
        simp only [bare, Expr.settled, Bool.and_eq_true] at settled
        simp only [reduceWith, bind_eq_ok] at h
        obtain ⟨x, u, reduced, _, v, checked, h⟩ := h
        obtain rfl := needInteger_eq_ok checked
        obtain ⟨same, close⟩ := again.same settled.1 reduced
        have stays : x.complementStays = true := by
          rw [← complementStays_bare, same]
          exact settled.2
        cases x with
        | num | bitNot => cases stays
        | _ =>
          obtain ⟨rfl, rfl⟩ := pure_eq_ok.1 h
          exact ⟨congrArg (bitNot · none) same, close⟩
      | not e p =>
        simp only [bare, Expr.settled, Bool.and_eq_true] at settled
        simp only [reduceWith, bind_eq_ok] at h
        obtain ⟨x, u, reduced, _, v, checked, h⟩ := h
        obtain rfl := needInteger_eq_ok checked
        obtain ⟨same, close⟩ := again.same settled.1 reduced
        have stays : x.negationStays = true := by
          rw [← negationStays_bare, same]
          exact settled.2
        cases x with
        | num | not => cases stays
        | binary op a b q =>
          simp only [negationStays, Option.isNone_iff_eq_none] at stays
          simp only [stays] at h
          obtain ⟨rfl, rfl⟩ := pure_eq_ok.1 h
          exact ⟨congrArg (Expr.not · none) same, close⟩
        | _ =>
          obtain ⟨rfl, rfl⟩ := pure_eq_ok.1 h
          exact ⟨congrArg (Expr.not · none) same, close⟩
      | boolean e p =>
        simp only [bare, Expr.settled, Bool.and_eq_true, Bool.not_eq_true'] at settled
        simp only [reduceWith, bind_eq_ok] at h
        obtain ⟨x, u, reduced, _, v, checked, h⟩ := h
        obtain rfl := needInteger_eq_ok checked
        obtain ⟨same, close⟩ := again.same settled.1 reduced
        rw [← same, isBoolean_bare] at settled
        simp only [settled.2, Bool.false_eq_true, if_false, pure_eq_ok] at h
        obtain ⟨rfl, rfl⟩ := h
        exact ⟨congrArg (boolean · none) same, close⟩
      | abs e p =>
        simp only [bare, Expr.settled, Bool.and_eq_true, Bool.not_eq_true'] at settled
        simp only [reduceWith, bind_eq_ok] at h
        obtain ⟨x, u, reduced, _, v, checked, h⟩ := h
        obtain rfl := needInteger_eq_ok checked
        obtain ⟨same, close⟩ := again.same settled.1 reduced
        rw [← same, isConstant_bare] at settled
        cases x with
        | num => cases settled.2
        | _ =>
          obtain ⟨rfl, rfl⟩ := pure_eq_ok.1 h
          exact ⟨congrArg (abs · none) same, close⟩
      | _ => simp [bare, Expr.settled, setPos] at settled
    · intro scope e e' s t leaf h
      cases e with
      | num | literal => exact pure_eq_ok.1 h
      | _ => simp [isConstant, isLiteral] at leaf

end Again

end Expr

end NewGrf
