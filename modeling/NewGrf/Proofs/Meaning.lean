import NewGrf.Expr.Reduce
import NewGrf.Proofs.Word

namespace NewGrf

/-- The registers after values have been stored one after the other. -/
def registersAfter : (Word → Word) → List (Int × Word) → Word → Word
  | before, [] => before
  | before, (r, v) :: rest =>
    registersAfter (fun i => if i = Word.ofInt r then v else before i) rest

namespace Access

/-- The bits that an access takes from the content of its variable. -/
def bits (a : Access Word) (content : Word) : Word := content >>> a.shift.count &&& a.mask

/-- What an access makes of the bits that it has taken. -/
def scaled (a : Access Word) (taken : Word) : Word :=
  let sum := taken + a.add.getD 0#32
  match a.div, a.mod with
  | some n, _ => Word.quotient sum n
  | none, some n => Word.remainder sum n
  | none, none => sum

/-- The value of an access, given the content of its variable. -/
def read (a : Access Word) (content : Word) : Word := a.scaled (a.bits content)

/-- The registers after the values that an access passes have been stored one after the other. -/
def registers (a : Access Word) (before : Word → Word) : Word → Word :=
  registersAfter before a.extra

end Access

/-- All that expressions read. -/
structure World where
  param : Word → Word
  /-- Parameters of other files, by the label of the file. -/
  foreign : Option Int → Word → Word
  patch : Int → Word
  special : SpecialParam → Word
  check : Check → Word
  reserved : String → Int → Word
  /-- The registers that a variable looks at, by its number and its argument. -/
  looksAt : Word → Option Word → List Word
  /-- The content of a variable, given what is in the registers that it looks at. -/
  content : Word → Option Word → List Word → Word
  register : Word → Word
  /-- The values that a chain has kept. -/
  cell : Nat → Word
  deriving Inhabited

/-- The content of the variable of an access. All bits of the variable for constants are set. -/
def World.contentOf (w : World) (a : Access Word) : Word :=
  if a.num = 0x1A then BitVec.allOnes 32
  else w.content a.num a.param ((w.looksAt a.num a.param).map (a.registers w.register))

namespace Expr

mutual

/-- The word that an expression stands for. -/
def value (w : World) : Expr → Word
  | num v _ => .ofInt v
  | param n _ => w.param (n.value w)
  | otherParam owner n _ => w.foreign owner.label.toOption (n.value w)
  | patchVar n _ => w.patch n
  | special _ kind _ => w.special kind
  | check c _ => w.check c
  | reserve name count _ => w.reserved name count
  | loadTemp store _ _ => w.cell store
  | access ⟨n, shift, mask, argument, plus, divisor, rest, extra⟩ _ =>
    let a : Access Word := ⟨n.value w, shift.value w, mask.value w, valueOption w argument,
      valueOption w plus, valueOption w divisor, valueOption w rest, valueAll w extra⟩
    a.read (w.contentOf a)
  | binary op a b _ => op.run (a.value w) (b.value w)
  | ternary guard yes no _ => if guard.value w = 0 then no.value w else yes.value w
  | bitNot e _ => ~~~ e.value w
  | not e _ => Word.ofTruth (e.value w == 0)
  | boolean e _ => Word.ofTruth (e.value w != 0)
  | abs e _ => (e.value w).abs
  | _ => 0

def valueOption (w : World) : Option Expr → Option Word
  | none => none
  | some e => some (e.value w)

def valueAll (w : World) : List (Int × Expr) → List (Int × Word)
  | [] => []
  | (r, e) :: es => (r, e.value w) :: valueAll w es

end

end Expr

namespace Expr

/-- The shift of a variable as it is at the moment. -/
def bareShift (shiftAt : Option Position → Option Int) : Expr → Expr
  | num v p => num ((shiftAt p).getD v) p
  | e => e

/-- An operation, with `>` written as `<`. -/
def bareBinary (op : Operator) (a b : Expr) : Expr :=
  if op = .gt then binary .lt b a none else binary op a b none

mutual

/-- An expression without positions other than those of shifts, with the shifts as they are at the
moment. -/
def bare (shiftAt : Option Position → Option Int) : Expr → Expr
  | num v _ => num v none
  | literal t _ => literal t none
  | param n _ => param (n.bare shiftAt) none
  | otherParam owner n _ => otherParam (owner.bare shiftAt) (n.bare shiftAt) none
  | patchVar n _ => patchVar n none
  | special name kind _ => special name kind none
  | check c _ => check c none
  | reserve name count _ => reserve name count none
  | loadTemp store node _ => loadTemp store node none
  | access ⟨n, shift, mask, argument, plus, divisor, rest, extra⟩ _ =>
    access ⟨n.bare shiftAt, shift.bareShift shiftAt, mask.bare shiftAt,
      bareOption shiftAt argument, bareOption shiftAt plus, bareOption shiftAt divisor,
      bareOption shiftAt rest, bareAll shiftAt extra⟩ none
  | binary op a b _ => bareBinary op (a.bare shiftAt) (b.bare shiftAt)
  | ternary guard yes no _ =>
    ternary (guard.bare shiftAt) (yes.bare shiftAt) (no.bare shiftAt) none
  | bitNot e _ => bitNot (e.bare shiftAt) none
  | not e _ => not (e.bare shiftAt) none
  | boolean e _ => boolean (e.bare shiftAt) none
  | abs e _ => abs (e.bare shiftAt) none
  | e => e.setPos none

def bareOption (shiftAt : Option Position → Option Int) : Option Expr → Option Expr
  | none => none
  | some e => some (e.bare shiftAt)

def bareAll (shiftAt : Option Position → Option Int) : List (Int × Expr) → List (Int × Expr)
  | [] => []
  | (r, e) :: es => (r, e.bare shiftAt) :: bareAll shiftAt es

end

end Expr

/-- An access in its bare form. -/
def Access.bare (shiftAt : Option Position → Option Int) (a : Access Expr) : Access Expr :=
  { num := a.num.bare shiftAt, shift := a.shift.bareShift shiftAt, mask := a.mask.bare shiftAt
    param := a.param.map (·.bare shiftAt), add := a.add.map (·.bare shiftAt)
    div := a.div.map (·.bare shiftAt), mod := a.mod.map (·.bare shiftAt)
    extra := a.extra.map fun x => (x.1, x.2.bare shiftAt) }

namespace Expr

section Bare

variable {shiftAt : Option Position → Option Int}

attribute [local simp] bare value inAssignment assignFault? isBoolean

theorem bareOption_eq (e : Option Expr) : bareOption shiftAt e = e.map (·.bare shiftAt) := by
  cases e <;> rfl

theorem bareAll_eq (es : List (Int × Expr)) :
    bareAll shiftAt es = es.map fun x => (x.1, x.2.bare shiftAt) := by
  induction es with
  | nil => rfl
  | cons e es ih => simp only [bareAll, ih, List.map_cons]

@[simp] theorem bare_access (a : Access Expr) (p : Option Position) :
    (access a p).bare shiftAt = access (a.bare shiftAt) none := by
  cases a
  simp only [bare, bareOption_eq, bareAll_eq, Access.bare]

theorem inAssignment_binary (op : Operator) (a b : Expr) (p : Option Position) :
    (binary op a b p).inAssignment = (op.inAssignment && a.inAssignment && b.inAssignment) := by
  cases h : op.inAssignment with
  | false =>
    simp only [inAssignment, assignFault?, h]
    cases op <;> rfl
  | true =>
    simp only [inAssignment, assignFault?, h]
    cases a.assignFault? <;> simp

theorem inAssignment_ternary (g a b : Expr) (p : Option Position) :
    (ternary g a b p).inAssignment = (g.inAssignment && a.inAssignment && b.inAssignment) := by
  simp only [inAssignment, assignFault?]
  cases g.assignFault? <;> cases a.assignFault? <;> simp

theorem inAssignment_bareBinary (op : Operator) (a b : Expr) :
    (bareBinary op a b).inAssignment = (op.inAssignment && a.inAssignment && b.inAssignment) := by
  unfold bareBinary
  split
  case isTrue h =>
    simp only [h, inAssignment_binary, Operator.inAssignment, Bool.true_and, Bool.and_comm]
  case isFalse => rw [inAssignment_binary]

@[simp] theorem inAssignment_access (a : Access Expr) (p : Option Position) :
    (access a p).inAssignment = false := by
  simp only [inAssignment, assignFault?]
  split <;> rfl

/-- Where an expression may stand does not depend on positions. -/
theorem inAssignment_bare (shiftAt : Option Position → Option Int) :
    ∀ e : Expr, (e.bare shiftAt).inAssignment = e.inAssignment
  | binary op a b p => by
    rw [bare, inAssignment_bareBinary, inAssignment_binary, inAssignment_bare shiftAt a,
      inAssignment_bare shiftAt b]
  | ternary g a b p => by
    rw [bare, inAssignment_ternary, inAssignment_ternary, inAssignment_bare shiftAt g,
      inAssignment_bare shiftAt a, inAssignment_bare shiftAt b]
  | bitNot e p | not e p | boolean e p | abs e p => inAssignment_bare shiftAt e
  | access a p => by rw [bare_access, inAssignment_access, inAssignment_access]
  | num .. | float .. | literal .. | ident .. | call .. | array .. | bitmask .. | param ..
  | otherParam .. | patchVar .. | special .. | groupRef .. | storage .. | string .. | cargo ..
  | check .. | reserve .. | function .. | loadTemp .. | loadArg .. | stationSprites .. => rfl

theorem bare_setPos (e : Expr) (p : Option Position) :
    (e.setPos p).bare shiftAt = e.bare shiftAt := by
  cases e with
  | access a q => simp only [setPos, bare_access]
  | _ => rfl

theorem bare_op (op : Operator) (a b : Expr) (p : Option Position) :
    (Expr.op op a b p).bare shiftAt = bareBinary op (a.bare shiftAt) (b.bare shiftAt) := by
  have atLeast (e : Expr) (q : Option Position) :
      (e.atLeastAt q).bare shiftAt = e.bare shiftAt := by
    unfold atLeastAt
    split
    · rw [bare_setPos]
    · rfl
  simp only [Expr.op, bare, atLeast]

/-- The parts of an access. -/
def access? : Expr → Option (Access Expr)
  | access a _ => some a
  | _ => none

theorem access?_bare (e : Expr) : (e.bare shiftAt).access? = e.access?.map (·.bare shiftAt) := by
  cases e with
  | binary op a b p =>
    simp only [bare, bareBinary]
    split <;> rfl
  | access a p => rw [bare_access]; rfl
  | _ => rfl

@[simp] theorem constant?_num (v : Int) (p : Option Position) : (num v p).constant? = some v := rfl

theorem constant?_bare (e : Expr) : (e.bare shiftAt).constant? = e.constant? := by
  cases e with
  | binary op a b p =>
    simp only [bare, bareBinary]
    split <;> rfl
  | access a p => rw [bare_access]; rfl
  | _ => rfl

theorem constant?_eq_some {e : Expr} {v : Int} : e.constant? = some v ↔ ∃ p, e = num v p := by
  cases e <;> simp [constant?]

theorem priority_eq (e : Expr) : e.priority =
    if e.access?.isSome then 0 else if e.constant?.isSome then 2
    else if e.inAssignment then 1 else -1 := by
  cases e <;> rfl

theorem priority_bare (e : Expr) : (e.bare shiftAt).priority = e.priority := by
  simp only [priority_eq, access?_bare, constant?_bare, inAssignment_bare, Option.isSome_map]

theorem isBoolean_bareBinary (op : Operator) (a b : Expr) (p : Option Position) :
    (bareBinary op a b).isBoolean = (binary op a b p).isBoolean := by
  unfold bareBinary
  split
  case isTrue h => rw [h]; rfl
  case isFalse => cases op <;> rfl

theorem isBoolean_binary (op : Operator) (a b : Expr) (p : Option Position) :
    (binary op a b p).isBoolean =
      if op = .and ∨ op = .or ∨ op = .xor then a.isBoolean && b.isBoolean
      else op.returnsBoolean := by
  cases op <;> rfl

theorem isBoolean_bare : ∀ e : Expr, (e.bare shiftAt).isBoolean = e.isBoolean
  | binary op a b p => by
    rw [bare, isBoolean_bareBinary op _ _ none, isBoolean_binary, isBoolean_binary,
      isBoolean_bare a, isBoolean_bare b]
  | ternary g a b p => by simp only [bare, isBoolean, isBoolean_bare a, isBoolean_bare b]
  | access a p => by rw [bare_access]; rfl
  | num .. | float .. | literal .. | ident .. | call .. | array .. | bitmask .. | param ..
  | otherParam .. | patchVar .. | special .. | groupRef .. | storage .. | string .. | cargo ..
  | bitNot .. | not .. | boolean .. | abs .. | check .. | reserve .. | function .. | loadTemp ..
  | loadArg .. | stationSprites .. => rfl

end Bare

end Expr

end NewGrf
