import NewGrf.Command.Run
import NewGrf.Layout.Compile
import NewGrf.Production
import NewGrf.Proofs.Bytes
import NewGrf.Proofs.ChainNodes

open List

namespace NewGrf

def InByte (v : Int) : Prop := -0x80 ≤ v ∧ v ≤ 0xFF

def InDword (v : Int) : Prop := -0x80000000 ≤ v ∧ v ≤ 0xFFFFFFFF

namespace Piece

variable {p : Piece} {ps qs : List Piece} {v : Int}

@[simp] theorem fits_hex : (hex v).fits = true ↔ InByte v := by simp [hex, fits, InByte]

@[simp] theorem fits_dwordHex : (dwordHex v).fits = true ↔ InDword v := by simp [fits, InDword]

@[simp] theorem fits_line {note : String} : (line note).fits = true := rfl

@[simp] theorem fits_comment {note : String} : (comment note).fits = true := rfl

end Piece

namespace Storage

/-- A number in a file with the size that the register of a storage has there: one that is stored to
is an operand of its own, one that is read stands beside the variable. -/
def written (kind : Storage) (register : Int) : Piece :=
  if kind.stores then .dwordHex register else .hex register

/-- The register that the game finds. -/
def accessed (kind : Storage) (register : Int) : Nat :=
  Number.lowBytes register (kind.written register).size

/-- A step of a chain that names a register: it reads the register, or it is the constant that the
operator before it stores to. -/
def NamedBy (kind : Storage) (register : Int) (s : Step) : Prop :=
  ∃ r, s = .term (.read r) ∧ if kind.stores then r = .constant register
    else r.var = 0x7D ∧ r.param = some register

variable {kind : Storage} {n : Int}

/-- The game reads the register from the bytes that are written. -/
theorem take_written (kind : Storage) (n : Int) (rest : List UInt8) :
    Input.take (kind.written n).size ((kind.written n).bytes ++ rest) =
      some (kind.accessed n, rest) := by
  unfold accessed
  cases kind <;> exact Input.take_bytes n _

/-- A register that is read stands right behind its variable, one that is stored to behind the
variable of constants and its shift. -/
theorem NamedBy.pieces {s : Step} (h : kind.NamedBy n s) (numbering : Numbering) (more : Bool) :
    ∃ rest, s.pieces numbering more = if kind.stores
      then .hex 0x1A :: .hex (Term.moreBit more) :: kind.written n :: rest
      else .hex 0x7D :: kind.written n :: rest := by
  obtain ⟨r, rfl, named⟩ := h
  cases stores : kind.stores with
  | true =>
    obtain rfl : r = .constant n := by simpa [stores] using named
    refine ⟨[.line], ?_⟩
    rw [if_pos rfl, written, if_pos stores]
    cases more <;> rfl
  | false =>
    obtain ⟨var, argument⟩ : r.var = 0x7D ∧ r.param = some n := by simpa [stores] using named
    refine ⟨(r.pieces more).drop 2, ?_⟩
    simp [written, stores, Step.pieces, Term.pieces, Reading.pieces, var, argument]

theorem reserves_eq_false (temporary : kind.persistent = false) :
    kind.reserves n = false ↔ ¬ (0x80 ≤ n ∧ n ≤ 0xFF) := by
  simp [reserves, temporary]

/-- A number that is accepted is kept for values in between once it has lost its sign. -/
theorem reserved_iff (temporary : kind.persistent = false) (high : n ≤ kind.limit)
    (free : kind.reserves n = false) (fits : (kind.written n).fits = true) :
    (0x80 ≤ kind.accessed n ∧ kind.accessed n ≤ 0xFF) ↔ kind = .loadTemp ∧ n < 0 := by
  rw [reserves_eq_false temporary] at free
  cases kind with
  | storePerm => cases temporary
  | loadPerm => cases temporary
  | storeTemp =>
    have size : accessed .storeTemp n = (n % 4294967296).toNat := rfl
    have fits : InDword n := Piece.fits_dwordHex.1 fits
    simp only [limit, InDword] at high fits
    simp only [size, reduceCtorEq, false_and, iff_false]
    omega
  | loadTemp =>
    have size : accessed .loadTemp n = (n % 256).toNat := rfl
    have fits : InByte n := Piece.fits_hex.1 fits
    simp only [limit, InByte] at high fits
    simp only [size, true_and]
    omega

end Storage

namespace Expr

/-- A storage whose register, if it is a constant, has been let through. -/
def Checked (kind : Storage) (e : Expr) : Prop :=
  ∀ value n p owner pos, e = .storage kind value (.num n p) owner pos →
    n ≤ kind.limit ∧ kind.reserves n = false

/-- A build of which only the result matters. -/
abbrev Only {α : Type} (m : Build α) (P : α → Prop) : Prop := Build.Gives (fun _ => True) m P

theorem Only.any {α : Type} (m : Build α) : Only m fun _ => True :=
  fun _ _ _ _ _ => ⟨trivial, trivial⟩

theorem Only.failThen {α β : Type} {text : String} {pos : Option Position} {next : α → Build β}
    {P : β → Prop} : Only (Build.fail text pos >>= next) P :=
  .bind (P := fun _ => False) .fail fun _ => False.elim

theorem reduceStorage_checked (again : Builtin.Reduce) (scope : Scope) (kind : Storage)
    (value : Option Expr) (register : Expr) (owner : Option Expr) (pos : Option Position) :
    Only (reduceStorage again scope kind value register owner pos) (Checked kind) := by
  have last {register : Expr} {value owner : Option Expr}
      (checked : ∀ n p, register = .num n p → n ≤ kind.limit ∧ kind.reserves n = false) :
      Checked kind (.storage kind value register owner pos) := by
    rintro _ n p _ _ ⟨⟩
    exact checked n p rfl
  unfold reduceStorage
  refine (Only.any _).bind fun value _ => ?_
  -- the checks of the value, of the register and of the owner each come before the same rest
  split
  case' h_1 => refine (Only.any _).bind fun _ _ => ?_
  all_goals
    refine (Only.any _).bind fun register _ => (Only.any _).bind fun _ _ => ?_
    dsimp only
    split
    · next n p =>
      split
      · exact Only.failThen
      · next low =>
        split
        · exact Only.failThen
        · next free =>
          have checked : ∀ m q, Expr.num n p = .num m q →
              m ≤ kind.limit ∧ kind.reserves m = false := by
            rintro _ _ ⟨⟩
            exact ⟨Int.not_lt.1 low, by simpa using free⟩
          refine (Only.any _).bind fun owner _ => ?_
          split
          · exact (Only.any _).bind fun _ _ => .pure (last checked)
          · exact .pure (last checked)
    · next other =>
      refine (Only.any _).bind fun owner _ => ?_
      split
      · exact (Only.any _).bind fun _ _ => .pure (last fun n p same => (other n p same).elim)
      · exact .pure (last fun n p same => (other n p same).elim)

/-- Whatever a storage is reduced to, its register has been checked. -/
theorem reduceWith_checked {fuel : Nat} {strict : Bool} {scope : Scope} {kind : Storage}
    {value owner : Option Expr} {register e : Expr} {pos : Option Position} {s t : Session}
    (run : reduceWith fuel strict scope (.storage kind value register owner pos) s = .ok e t) :
    Checked kind e := by
  cases fuel with
  | zero => cases run
  | succ fuel => exact (reduceStorage_checked _ _ _ _ _ _ _ trivial run).2

end Expr

section Places

variable {kind : Storage} {n : Int} {value owner : Option Expr} {p pos : Option Position}
  {s t : Session}

namespace Chain

open Stateful

variable {d d' : Draft} {u : Unit}

theorem pushOp_eq_ok {op} :
    pushOp op d s = .ok (u, d') t ↔ { d with steps := .op op :: d.steps } = d' ∧ s = t :=
  modify_eq_ok

theorem pushTerm_eq_ok {x} :
    pushTerm x d s = .ok (u, d') t ↔ { d with steps := .term x :: d.steps } = d' ∧ s = t :=
  modify_eq_ok

theorem pushConstant_eq_ok {v note} : pushConstant v note d s = .ok (u, d') t ↔
      { d with steps := .term (.read (.constant v note)) :: d.steps } = d' ∧ s = t := modify_eq_ok

theorem expandStorage_eq_ok {register e : Expr} (temporary : kind.persistent = false)
    (run : expandStorage kind value register owner pos d s = .ok (e, d') t) :
    d = d' ∧ s = t ∧ e = if kind.stores
      then .binary .storeTemp (value.getD (.int 0)) register pos
      else .var 0x7D 0 0xFFFFFFFF (some register) pos := by
  unfold expandStorage at run
  simp only [temporary, Bool.false_and, Bool.false_eq_true, if_false] at run
  obtain ⟨scope, d1, s1, known, run⟩ := bind_eq_ok.1 run
  obtain ⟨_, d2, s2, now, known⟩ := bind_eq_ok.1 known
  obtain ⟨-, rfl, rfl⟩ := get_eq_ok.1 now
  obtain ⟨-, rfl, rfl⟩ := pure_eq_ok.1 known
  split at run
  · obtain ⟨_, _, _, failed, -⟩ := bind_eq_ok.1 run
    simp [lift_eq_ok] at failed
  · obtain ⟨rfl, rfl, rfl⟩ := pure_eq_ok.1 run
    exact ⟨rfl, rfl, rfl⟩

/-- A register is read by a single term. -/
theorem place_load {compile : Compile}
    (run : place compile (.var 0x7D 0 0xFFFFFFFF (some (.num n p)) pos) d s = .ok (u, d') t) :
    ∃ x, d'.steps = x :: d.steps ∧ Storage.loadTemp.NamedBy n x := by
  obtain ⟨var, d1, s1, a1, run⟩ := bind_eq_ok.1 run
  obtain ⟨rfl, rfl, rfl⟩ := pure_eq_ok.1 a1
  obtain ⟨argument, d1, s1, a1, run⟩ := bind_eq_ok.1 run
  obtain ⟨rfl, rfl, rfl⟩ := pure_eq_ok.1 a1
  obtain ⟨_, d1, s1, a1, run⟩ := bind_eq_ok.1 run
  obtain ⟨-, rfl, rfl⟩ := pure_eq_ok.1 a1
  obtain ⟨mask, d1, s1, a1, run⟩ := bind_eq_ok.1 run
  obtain ⟨rfl, rfl, rfl⟩ := pure_eq_ok.1 a1
  obtain ⟨plus, d1, s1, a1, run⟩ := bind_eq_ok.1 run
  obtain ⟨rfl, rfl, rfl⟩ := pure_eq_ok.1 a1
  obtain ⟨divisor, d1, s1, a1, run⟩ := bind_eq_ok.1 run
  obtain ⟨rfl, rfl, rfl⟩ := pure_eq_ok.1 a1
  obtain ⟨rest, d1, s1, a1, run⟩ := bind_eq_ok.1 run
  obtain ⟨rfl, rfl, rfl⟩ := pure_eq_ok.1 a1
  obtain ⟨shift, d1, s1, a1, run⟩ := bind_eq_ok.1 run
  obtain ⟨-, rfl⟩ := lift_eq_ok.1 a1
  obtain ⟨rfl, -⟩ := pushTerm_eq_ok.1 run
  exact ⟨_, rfl, _, rfl, rfl, rfl⟩

/-- A register that is stored to is the operand behind its operator. -/
theorem place_store {depth : Nat} {value : Expr}
    (run : place (compileWith depth) (.binary .storeTemp value (.num n p) pos) d s =
      .ok (u, d') t) :
    ∃ x rest, d'.steps = x :: .op .storeTemp :: rest ∧ Storage.storeTemp.NamedBy n x := by
  have code : Operator.storeTemp.switchCode?.isNone = false := rfl
  change pushBinary (compileWith depth) .storeTemp value (.num n p) pos d s = _ at run
  simp only [pushBinary, code, Bool.false_eq_true, if_false, BEq.rfl, if_true] at run
  obtain ⟨_, d1, s1, -, run⟩ := bind_eq_ok.1 run
  obtain ⟨b, d2, s2, right, run⟩ := bind_eq_ok.1 run
  obtain ⟨rfl, rfl, rfl⟩ := pure_eq_ok.1 right
  obtain ⟨_, d3, s3, -, run⟩ := bind_eq_ok.1 run
  obtain ⟨_, d4, s4, op, run⟩ := bind_eq_ok.1 run
  obtain ⟨rfl, rfl⟩ := pushOp_eq_ok.1 op
  obtain ⟨_, d5, s5, operand, run⟩ := bind_eq_ok.1 run
  obtain ⟨rfl, -⟩ := modify_eq_ok.1 run
  cases depth with
  | zero =>
    have failed := (lift_eq_ok.1 operand).1
    simp at failed
  | succ depth =>
    obtain ⟨e, d6, s6, same, operand⟩ := bind_eq_ok.1 operand
    obtain ⟨rfl, rfl, rfl⟩ := pure_eq_ok.1 same
    obtain ⟨rfl, -⟩ := pushConstant_eq_ok.1 operand
    exact ⟨_, _, rfl, _, rfl, rfl⟩

/-- Wherever a storage stands in a chain, the last step that it adds names its register. -/
theorem compileWith_storage {depth : Nat} (temporary : kind.persistent = false)
    (run : compileWith (depth + 1) (.storage kind value (.num n p) owner pos) d s = .ok (u, d') t) :
    ∃ x rest, d'.steps = x :: rest ∧ kind.NamedBy n x ∧
      (kind.stores = true → rest.head? = some (.op .storeTemp)) := by
  obtain ⟨e, d1, s1, expanded, run⟩ := bind_eq_ok.1 run
  obtain ⟨rfl, rfl, rfl⟩ := expandStorage_eq_ok temporary expanded
  cases kind with
  | storePerm => cases temporary
  | loadPerm => cases temporary
  | storeTemp =>
    obtain ⟨x, rest, steps, named⟩ := place_store run
    exact ⟨x, _, steps, named, fun _ => rfl⟩
  | loadTemp =>
    obtain ⟨x, steps, named⟩ := place_load run
    exact ⟨x, _, steps, named, fun stores => by cases stores⟩

end Chain

/-- A sprite of a layout takes a register as it is named, but not that of a station, which computes
the value again. -/
theorem Layout.registerFor_load {reader reader' : Layout.Reader} {ref : RegisterRef}
    (notStation : reader.feature ≠ 0x04)
    (run : Layout.registerFor (.storage .loadTemp value (.num n p) owner pos) reader s =
      .ok (ref, reader') t) : ref = .fixed n := by
  obtain ⟨now, reader1, s1, known, run⟩ := Stateful.bind_eq_ok.1 run
  obtain ⟨rfl, rfl, rfl⟩ := Stateful.get_eq_ok.1 known
  have other : (reader.feature == 0x04) = false := by simpa using notStation
  rw [other] at run
  exact (Stateful.pure_eq_ok.1 run).1.symm

theorem Production.amount_load {d d' : Chain.Draft} {ref : RegisterRef}
    (run : Production.amount (.storage .loadTemp value (.num n p) owner pos) d s =
      .ok (ref, d') t) : ref = .fixed n :=
  (Stateful.pure_eq_ok.1 run).1.symm

end Places

/-- Where a script names a temporary register by a number that is let through, this number is
written: in the last step of a chain, by a sprite of a layout, or by a production. The register that
the game takes it for is kept for values in between exactly if it is read and its number is
negative. -/
theorem accepted_reaches_reserved_iff {fuel : Nat} {strict : Bool} {scope : Scope} {kind : Storage}
    {value value' owner owner' : Option Expr} {register : Expr} {pos pos' p : Option Position}
    {n : Int} {s t : Session} (temporary : kind.persistent = false)
    (accepted : Expr.reduceWith fuel strict scope (.storage kind value register owner pos) s =
      .ok (.storage kind value' (.num n p) owner' pos') t) :
    (∀ depth d u x d' v,
      Chain.compileWith (depth + 1) (.storage kind value' (.num n p) owner' pos') d u =
        .ok (x, d') v → ∃ last before, d'.steps = last :: before ∧
          (kind.stores = true → before.head? = some (.op .storeTemp)) ∧
          ∀ numbering more, ∃ rest, last.pieces numbering more = if kind.stores
            then .hex 0x1A :: .hex (Term.moreBit more) :: kind.written n :: rest
            else .hex 0x7D :: kind.written n :: rest) ∧
    (kind = .loadTemp → ∀ reader u ref reader' v, reader.feature ≠ 0x04 →
      Layout.registerFor (.storage kind value' (.num n p) owner' pos') reader u =
        .ok (ref, reader') v → ∀ registers, .hex (ref.number registers) = kind.written n) ∧
    (kind = .loadTemp → ∀ d u ref d' v,
      Production.amount (.storage kind value' (.num n p) owner' pos') d u = .ok (ref, d') v →
        ∀ registers, .hex (ref.number registers) = kind.written n) ∧
    (∀ rest, Input.take (kind.written n).size ((kind.written n).bytes ++ rest) =
      some (kind.accessed n, rest)) ∧
    ((kind.written n).fits = true →
      (0x80 ≤ kind.accessed n ∧ kind.accessed n ≤ 0xFF ↔ kind = .loadTemp ∧ n < 0)) := by
  obtain ⟨high, free⟩ := Expr.reduceWith_checked accepted _ n p _ _ rfl
  refine ⟨fun depth d u x d' v run => ?_, ?_, ?_, kind.take_written n,
    Storage.reserved_iff temporary high free⟩
  · obtain ⟨last, before, steps, named, behind⟩ := Chain.compileWith_storage temporary run
    exact ⟨last, before, steps, behind, named.pieces⟩
  · rintro rfl reader u ref reader' v notStation run registers
    rw [Layout.registerFor_load notStation run]
    rfl
  · rintro rfl d u ref d' v run registers
    rw [Production.amount_load run]
    rfl

/-- The register -128 is let through, and the game takes it for the first of those that are kept. -/
theorem negative_register_is_reserved :
    Expr.reduceWith 2 true [] (.storage .loadTemp none (.num (-128) none) none none) {} =
      .ok (.storage .loadTemp none (.num (-128) none) none none) {} ∧
    (∃ d', Chain.compileWith 1 (.storage .loadTemp none (.num (-128) none) none none)
      { feature := 0 } {} = .ok ((), d') {} ∧ ∃ last before, d'.steps = last :: before ∧
        ∀ numbering more, ∃ rest, last.pieces numbering more =
          .hex 0x7D :: Storage.loadTemp.written (-128) :: rest) ∧
    Storage.loadTemp.accessed (-128) = 0x80 := by
  have accepted : Expr.reduceWith 2 true [] (.storage .loadTemp none (.num (-128) none) none none)
      {} = .ok (.storage .loadTemp none (.num (-128) none) none none) {} := rfl
  obtain ⟨chain, -, -, -, -⟩ := accepted_reaches_reserved_iff rfl accepted
  obtain ⟨d', run⟩ : ∃ d', Chain.compileWith 1
      (.storage .loadTemp none (.num (-128) none) none none) { feature := 0 } {} =
        .ok ((), d') {} := ⟨_, rfl⟩
  obtain ⟨last, before, steps, -, pieces⟩ := chain 0 _ _ _ _ _ run
  exact ⟨accepted, ⟨d', run, last, before, steps, pieces⟩, rfl⟩

end NewGrf
