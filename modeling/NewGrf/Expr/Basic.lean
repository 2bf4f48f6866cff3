import NewGrf.Operator
import NewGrf.Position
import NewGrf.Text.Escaped
import NewGrf.Variable.Table

namespace NewGrf

structure Ident where
  text : String
  pos : Option Position := none
  deriving Repr, DecidableEq, Inhabited

inductive Storage where
  | storePerm | storeTemp | loadPerm | loadTemp
  deriving Repr, DecidableEq, Inhabited

namespace Storage

def name : Storage → String
  | storePerm => "STORE_PERM" | storeTemp => "STORE_TEMP"
  | loadPerm => "LOAD_PERM" | loadTemp => "LOAD_TEMP"

def stores : Storage → Bool
  | storePerm | storeTemp => true
  | _ => false

def persistent : Storage → Bool
  | storePerm | loadPerm => true
  | _ => false

def takesOwner : Storage → Bool
  | loadPerm => true
  | _ => false

def limit : Storage → Int
  | storeTemp => 0x10F
  | _ => 0xFF

def reserves (s : Storage) (register : Int) : Bool :=
  !s.persistent && 0x80 ≤ register && register ≤ 0xFF

end Storage

/-- How the value of a patch variable is adjusted after its bits are taken. -/
inductive PatchAdjust where
  | asIs
  | add (n : Int)
  | powerOfTwo (offset : Int)
  deriving Repr, DecidableEq, Inhabited

/-- Names that stand for a parameter of the game or of the file and are read in their own way. -/
inductive SpecialParam where
  | parameter (num : Int) (size : Nat) (writable signed : Bool)
  | bit (param bit : Int)
  | patch (num : Int) (start size : Nat) (adjust : PatchAdjust)
  | configFlag (bit : Int)
  | maglev
  deriving Repr, DecidableEq, Inhabited

namespace SpecialParam

def isBoolean : SpecialParam → Bool
  | bit .. | configFlag .. => true
  | _ => false

def assignable : SpecialParam → Bool
  | parameter .. | bit .. => true
  | _ => false

end SpecialParam

/-- A test that the game makes while it skips: condition number and mnemonic, the variable, the
value on success and failure, and what is compared. -/
structure Check where
  code : Nat
  mnemonic : Option String
  var : Nat
  onTrue : Int
  onFalse : Int
  value : Int
  text : String
  size : Nat := 4
  mask : Option Int := none
  deriving Repr, DecidableEq, Inhabited

inductive Callable where
  | reading (info : Variable.Info)
  /-- A sprite set of a station: the one that is shown by default, or one of a list. -/
  | stationSprites (custom : Bool)
  deriving Repr, DecidableEq, Inhabited

/-- The parts of a variable access: `((var >> shift) & mask)`, then an addition, then a division or
a remainder, each only if present. -/
structure Access (ε : Type) where
  num : ε
  shift : ε
  mask : ε
  param : Option ε := none
  add : Option ε := none
  div : Option ε := none
  mod : Option ε := none
  extra : List (Int × ε) := []

inductive Expr where
  | num (value : Int) (pos : Option Position)
  | float (value : Float) (pos : Option Position)
  | literal (text : String) (pos : Option Position)
  | ident (name : String) (pos : Option Position)
  | call (name : Ident) (args : List Expr) (pos : Option Position)
  | array (values : List Expr) (pos : Option Position)
  | binary (op : Operator) (left right : Expr) (pos : Option Position)
  | ternary (guard yes no : Expr) (pos : Option Position)
  | bitNot (e : Expr) (pos : Option Position)
  | not (e : Expr) (pos : Option Position)
  | boolean (e : Expr) (pos : Option Position)
  | abs (e : Expr) (pos : Option Position)
  | bitmask (bits : List Expr) (pos : Option Position)
  | param (num : Expr) (pos : Option Position)
  | otherParam (owner num : Expr) (pos : Option Position)
  | access (a : Access Expr) (pos : Option Position)
  | patchVar (num : Int) (pos : Option Position)
  | special (name : String) (kind : SpecialParam) (pos : Option Position)
  /-- A block of the action 2 graph; `group` names it when it has no name in the script. -/
  | groupRef (name : Ident) (args : List Expr) (called : Bool) (group : Option Nat)
      (pos : Option Position)
  | storage (kind : Storage) (value : Option Expr) (register : Expr) (owner : Option Expr)
      (pos : Option Position)
  | string (name : Ident) (args : List Expr) (pos : Option Position)
  | cargo (accepts : Bool) (label : String) (number : Int) (values : List Expr)
      (pos : Option Position)
  | check (c : Check) (pos : Option Position)
  | reserve (name : String) (count : Int) (pos : Option Position)
  | function (name : Ident) (target : Callable) (pos : Option Position)
  /-- The value of an inner temporary, by the number of its store and its own number. -/
  | loadTemp (store node : Nat) (pos : Option Position)
  | loadArg (arg node : Nat) (name : String) (pos : Option Position)
  /-- A sprite set of a station layout and its slot, with offsets into the set. -/
  | stationSprites (set : Option Nat) (offset : List Expr) (slot : Option Int)
      (pos : Option Position)

inductive ValueType where
  | integer | float | literal | function | group
  deriving Repr, DecidableEq, Inhabited

namespace Expr

instance : Inhabited Expr := ⟨.num 0 none⟩

def pos : Expr → Option Position
  | num _ p | float _ p | literal _ p | ident _ p | call _ _ p | array _ p | binary _ _ _ p
  | ternary _ _ _ p | bitNot _ p | not _ p | boolean _ p | abs _ p | bitmask _ p | param _ p
  | otherParam _ _ p | access _ p | patchVar _ p | special _ _ p | groupRef _ _ _ _ p
  | storage _ _ _ _ p | string _ _ p | cargo _ _ _ _ p | check _ p | reserve _ _ p
  | function _ _ p | loadTemp _ _ p | loadArg _ _ _ p | stationSprites _ _ _ p => p

def setPos (p : Option Position) : Expr → Expr
  | num a _ => num a p
  | float a _ => float a p
  | literal a _ => literal a p
  | ident a _ => ident a p
  | call a b _ => call a b p
  | array a _ => array a p
  | binary a b c _ => binary a b c p
  | ternary a b c _ => ternary a b c p
  | bitNot a _ => bitNot a p
  | not a _ => not a p
  | boolean a _ => boolean a p
  | abs a _ => abs a p
  | bitmask a _ => bitmask a p
  | param a _ => param a p
  | otherParam a b _ => otherParam a b p
  | access a _ => access a p
  | patchVar a _ => patchVar a p
  | special a b _ => special a b p
  | groupRef a b c d _ => groupRef a b c d p
  | storage a b c d _ => storage a b c d p
  | string a b _ => string a b p
  | cargo a b c d _ => cargo a b c d p
  | check a _ => check a p
  | reserve a b _ => reserve a b p
  | function a b _ => function a b p
  | loadTemp a b _ => loadTemp a b p
  | loadArg a b c _ => loadArg a b c p
  | stationSprites a b c _ => stationSprites a b c p

def atLeastAt (p : Option Position) (e : Expr) : Expr :=
  match e.pos with
  | none => e.setPos (p.map Position.loose)
  | some _ => e

def int (value : Int) (pos : Option Position := none) : Expr := .num (Number.signed32 value) pos

/-- A binary operation. It lies where it is said to, else where its first operand with a position
lies; operands without a position take that of the operation. -/
def op (o : Operator) (left right : Expr) (pos : Option Position := none) : Expr :=
  let p := pos <|> left.pos <|> right.pos
  .binary o (left.atLeastAt p) (right.atLeastAt p) p

def opInt (o : Operator) (left : Expr) (right : Int) (pos : Option Position := none) : Expr :=
  op o left (int right) pos

def var (number : Int) (shift : Int := 0) (mask : Int := 0xFFFFFFFF) (param : Option Expr := none)
    (pos : Option Position := none) : Expr :=
  Expr.access { num := int number, shift := int shift, mask := int mask, param } pos

def type : Expr → ValueType
  | float .. => .float
  | literal .. => .literal
  | function .. => .function
  | groupRef _ _ called _ _ => if called then .integer else .group
  | _ => .integer

def isConstant : Expr → Bool
  | num .. => true
  | _ => false

def constant? : Expr → Option Int
  | num v _ => some v
  | _ => none

def isBoolean : Expr → Bool
  | num v _ => v == 0 || v == 1
  | not .. | boolean .. => true
  | binary .and a b _ | binary .or a b _ | binary .xor a b _ => a.isBoolean && b.isBoolean
  | binary op _ _ _ => op.returnsBoolean
  | ternary _ a b _ => a.isBoolean && b.isBoolean
  | special _ k _ => k.isBoolean
  | _ => false

mutual

/-- Whether two expressions are the same up to positions. Names of the game's own settings are only
the same where they stand at the same place, and other kinds of expressions never. -/
def same : Expr → Expr → Bool
  | num a _, num b _ => a == b
  | ident a _, ident b _ => a == b
  | binary o a b _, binary o' a' b' _ => o == o' && same a a' && same b b'
  | param a _, param b _ => same a b
  | groupRef n as _ _ _, groupRef m bs _ _ _ => n.text == m.text && sameList as bs
  | string n as _, string m bs _ => n.text == m.text && sameList as bs
  | ternary a b c _, ternary a' b' c' _ => same a a' && same b b' && same c c'
  | special a k p, special b l q => a == b && k == l && p == q
  | patchVar a p, patchVar b q => a == b && p == q
  | check a p, check b q => a == b && p == q
  | _, _ => false

def sameList : List Expr → List Expr → Bool
  | [], [] => true
  | a :: as, b :: bs => same a b && sameList as bs
  | _, _ => false

end

mutual

/-- An expression with the counts of its shifts to the right negated where `turned` says so, and
with the shifts of its variables that `shiftAt` tells, both by their positions. -/
def asOf (turned : Option Position → Bool) (shiftAt : Option Position → Option Int) : Expr → Expr
  | binary op a b pos =>
    let right := match b with
      | num n p =>
        if (op == .shiftRight || op == .shiftRightU) && turned p then num (-n) p else num n p
      | b => asOf turned shiftAt b
    binary op (asOf turned shiftAt a) right pos
  | access ⟨n, shift, mask, argument, plus, divisor, rest, extra⟩ pos =>
    let shift := match shift with
      | num v p => num ((shiftAt p).getD v) p
      | e => e
    access ⟨n, shift, asOf turned shiftAt mask, asOfOption turned shiftAt argument,
      asOfOption turned shiftAt plus, asOfOption turned shiftAt divisor,
      asOfOption turned shiftAt rest, extra⟩ pos
  | param n pos => param (asOf turned shiftAt n) pos
  | ternary g a b pos =>
    ternary (asOf turned shiftAt g) (asOf turned shiftAt a) (asOf turned shiftAt b) pos
  | bitNot e pos => bitNot (asOf turned shiftAt e) pos
  | not e pos => not (asOf turned shiftAt e) pos
  | boolean e pos => boolean (asOf turned shiftAt e) pos
  | abs e pos => abs (asOf turned shiftAt e) pos
  | array es pos => array (asOfAll turned shiftAt es) pos
  | groupRef name args called group pos =>
    groupRef name (asOfAll turned shiftAt args) called group pos
  | storage kind value register owner pos =>
    storage kind (asOfOption turned shiftAt value) (asOf turned shiftAt register) owner pos
  | string name args pos => string name (asOfAll turned shiftAt args) pos
  | e => e

def asOfOption (turned : Option Position → Bool) (shiftAt : Option Position → Option Int) :
    Option Expr → Option Expr
  | none => none
  | some e => some (asOf turned shiftAt e)

def asOfAll (turned : Option Position → Bool) (shiftAt : Option Position → Option Int) :
    List Expr → List Expr
  | [] => []
  | e :: es => asOf turned shiftAt e :: asOfAll turned shiftAt es

end

def uncalledFault (e : Expr) : Fault :=
  match e with
  | groupRef name _ _ _ p => { cause := .uncalled name.text, pos := p }
  | _ => { cause := .script "", pos := e.pos }

end Expr

def littleEndian (bytes : List Int) : Int :=
  bytes.foldr (fun b rest => Number.bitOr b (Number.shiftLeft rest 8)) 0

namespace Expr

def label (e : Expr) : Except Fault Int :=
  match e with
  | .literal s p =>
    if !Text.isAscii s then .error Text.unicodeFault
    else if Text.size s false != 4 then
      .error { cause := .script "Expected a string literal of length 4", pos := p }
    else
      match Text.labelBytes? 4 s.toList with
      | some bytes => .ok (littleEndian bytes)
      | none => .error { cause := .script "Cannot convert string to integer id", pos := p }
  | e => .error { cause := .script "Expected a string literal of length 4", pos := e.pos }

end Expr

def labelText (s : String) : String :=
  match s.toList with
  | [a, b, c, d] =>
    if Text.isNameStart a && [b, c, d].all Text.isNameChar then s else "\"" ++ s ++ "\""
  | [a, b, c, d, '\n'] =>
    if Text.isNameStart a && [b, c, d].all Text.isNameChar then s else "\"" ++ s ++ "\""
  | _ => "\"" ++ s ++ "\""

end NewGrf
