import NewGrf.Output.Piece

namespace NewGrf

inductive InfoKey where
  | name (label : String)
  | number (n : Int)
  deriving Repr, DecidableEq, Inhabited

inductive InfoNode where
  | text (key : InfoKey) (lines : List (Nat × String))
  | branch (key : InfoKey) (nodes : List InfoNode)
  | value (key : InfoKey) (size : Nat) (value : Int)
  /-- The palette that the images use, which is known last. -/
  | palette
  | depth
  | bits (param first count : Int)
  | limits (low high : Int)
  deriving Repr, Inhabited

namespace InfoKey

def piece : InfoKey → Piece
  | name l => .ascii l
  | number n => .dword n

end InfoKey

namespace InfoNode

structure Late where
  palette : String
  depth : String

private def head (kind : String) (key : InfoKey) : List Piece := [.ascii kind, key.piece]

private def binary (key : String) (size : Int) (body : List Piece) : List Piece :=
  head "B" (.name key) ++ [Piece.word size] ++ body ++ [Piece.line]

mutual

def pieces (late : Late) : InfoNode → List Piece
  | text key lines =>
    lines.flatMap fun (lang, t) => head "T" key ++ [Piece.hex lang, .string t, .line]
  | branch key nodes => head "C" key ++ [Piece.line] ++ allPieces late nodes ++ [Piece.hex 0, .line]
  | value key size v => head "B" key ++ [Piece.word size] ++ Piece.ofSize v size ++ [Piece.line]
  | palette => binary "PALS" 1 [Piece.ascii late.palette]
  | depth => binary "BLTR" 1 [Piece.ascii late.depth]
  | bits param first count => binary "MASK" 3 [.byte param, .byte first, .byte count]
  | limits low high => binary "LIMI" 8 [.dword low, .dword high]

def allPieces (late : Late) : List InfoNode → List Piece
  | [] => []
  | n :: ns => n.pieces late ++ allPieces late ns

end

mutual

def size : InfoNode → Nat
  | text _ lines => Number.total (lines.map fun (_, t) => 6 + Text.size t)
  | branch _ nodes => 6 + sizeOfAll nodes
  | value _ size _ => 7 + size
  | palette | depth => 8
  | bits .. => 10
  | limits .. => 15

def sizeOfAll : List InfoNode → Nat
  | [] => 0
  | n :: ns => n.size + sizeOfAll ns

end

mutual

/-- Cuts a node into one that has room and the rest. A node that is not a branch is not cut. There
is no cut of a branch that is too large and of which nothing is left. -/
def split (n : InfoNode) (room : Int) : Option (Option InfoNode × Option InfoNode) :=
  if n.size ≤ room then some (some n, none)
  else match n with
    | branch key nodes =>
      match splitAll nodes (room - 6) with
      | some (fit, rest) =>
        if rest.isEmpty then none
        else some (if fit.isEmpty then none else some (branch key fit), some (branch key rest))
      | none => none
    | n => some (none, some n)

def splitAll : List InfoNode → Int → Option (List InfoNode × List InfoNode)
  | [], _ => some ([], [])
  | n :: ns, room =>
    match split n room with
    | some (fit, some rest) => some (fit.toList, rest :: ns)
    | some (some fit, none) =>
      match splitAll ns (room - fit.size) with
      | some (fits, rest) => some (fit :: fits, rest)
      | none => none
    | some (none, none) => splitAll ns room
    | none => none

end

mutual

def count : InfoNode → Nat
  | branch _ nodes => 1 + countAll nodes
  | _ => 1

def countAll : List InfoNode → Nat
  | [] => 0
  | n :: ns => n.count + countAll ns

end

mutual

/-- What is left has fewer nodes, unless it is all. -/
theorem count_of_split {fit : Option InfoNode} {rest : InfoNode} :
    ∀ (n : InfoNode) (room : Int), n.split room = some (fit, some rest) →
      rest.count ≤ n.count ∧ (fit.isSome → rest.count < n.count)
  | n, room, h => by
    unfold split at h
    split at h
    · cases h
    · cases n with
      | branch key nodes =>
        dsimp only at h
        split at h
        case h_1 fits left cut =>
          split at h
          · cases h
          · simp only [Option.some.injEq, Prod.mk.injEq] at h
            obtain ⟨rfl, rfl⟩ := h
            obtain ⟨most, fewer⟩ := countAll_of_splitAll nodes _ cut
            refine ⟨by simp only [count]; omega, fun some => ?_⟩
            have : countAll left < countAll nodes := fewer (by rintro rfl; simp at some)
            simp only [count]
            omega
        case h_2 => cases h
      | _ =>
        simp only [Option.some.injEq, Prod.mk.injEq] at h
        obtain ⟨rfl, rfl⟩ := h
        exact ⟨Nat.le_refl _, fun some => by cases some⟩

theorem countAll_of_splitAll {fits left : List InfoNode} :
    ∀ (ns : List InfoNode) (room : Int), splitAll ns room = some (fits, left) →
      countAll left ≤ countAll ns ∧ (fits ≠ [] → countAll left < countAll ns)
  | [], _, h => by
    simp only [splitAll, Option.some.injEq, Prod.mk.injEq] at h
    obtain ⟨rfl, rfl⟩ := h
    exact ⟨Nat.le_refl _, fun some => absurd rfl some⟩
  | n :: ns, room, h => by
    have positive : 0 < n.count := by cases n <;> simp only [count] <;> omega
    unfold splitAll at h
    split at h
    case h_1 fit rest cut =>
      simp only [Option.some.injEq, Prod.mk.injEq] at h
      obtain ⟨rfl, rfl⟩ := h
      obtain ⟨most, fewer⟩ := count_of_split n _ cut
      refine ⟨by simp only [countAll]; omega, fun some => ?_⟩
      have : rest.count < n.count := fewer (by cases fit <;> simp_all)
      simp only [countAll]
      omega
    case h_2 fit cut =>
      split at h
      case h_1 more rest cutRest =>
        simp only [Option.some.injEq, Prod.mk.injEq] at h
        obtain ⟨rfl, rfl⟩ := h
        have := (countAll_of_splitAll ns _ cutRest).1
        simp only [countAll]
        omega
      case h_2 => cases h
    case h_3 =>
      have := (countAll_of_splitAll ns _ h).1
      simp only [countAll]
      omega
    case h_4 => cases h

end

/-- Cuts a tree into trees of at most the given size. Each of them must hold something. -/
def cut (room : Int) (n : InfoNode) : Option (List InfoNode) :=
  match _ : n.split room with
  | some (some fit, none) => some [fit]
  | some (some fit, some rest) => (cut room rest).map (fit :: ·)
  | _ => none
termination_by n.count
decreasing_by exact (count_of_split n room ‹_›).2 rfl

def actionRoom : Int := 65535

def trees (n : InfoNode) : Option (List InfoNode) := cut actionRoom n

end InfoNode

end NewGrf
