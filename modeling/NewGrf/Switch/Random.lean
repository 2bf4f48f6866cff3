import NewGrf.Switch.Actions

namespace NewGrf

namespace RandomSwitch

structure Source where
  code : Int
  firstBit : Nat
  bits : Nat
  triggers : Bool
  /-- For kinds that take a count: what it is added to. -/
  counted : Option Int := none

private def vehicleSources : List (String × Source) := [
  ("SELF", ⟨0x80, 0, 16, true, none⟩),
  ("PARENT", ⟨0x83, 0, 16, false, none⟩),
  ("TILE", ⟨0x80, 0, 16, false, none⟩),
  ("BACKWARD_SELF", ⟨0x84, 0, 16, false, some 0x00⟩),
  ("FORWARD_SELF", ⟨0x84, 0, 16, false, some 0x40⟩),
  ("BACKWARD_ENGINE", ⟨0x84, 0, 16, false, some 0x80⟩),
  ("BACKWARD_SAMEID", ⟨0x84, 0, 16, false, some 0xC0⟩)]

def sources (feature : Int) : List (String × Source) :=
  if 0x00 ≤ feature && feature ≤ 0x03 then vehicleSources
  else if feature == 0x04 then
    [("SELF", ⟨0x80, 0, 16, true, none⟩), ("TILE", ⟨0x80, 16, 4, true, none⟩)]
  else if feature == 0x05 || feature == 0x0F then [("SELF", ⟨0x80, 0, 8, false, none⟩)]
  else if feature == 0x07 then [("SELF", ⟨0x80, 0, 8, true, none⟩)]
  else if feature == 0x09 then
    [("SELF", ⟨0x80, 0, 8, true, none⟩), ("PARENT", ⟨0x83, 0, 16, true, none⟩)]
  else if feature == 0x0A then [("SELF", ⟨0x80, 0, 16, false, none⟩)]
  else if [0x10, 0x12, 0x13].contains feature then [("SELF", ⟨0x80, 0, 2, false, none⟩)]
  else if feature == 0x11 then
    [("SELF", ⟨0x80, 0, 16, false, none⟩), ("TILE", ⟨0x80, 16, 4, false, none⟩)]
  else []

def drawsFor (total : Nat) : Nat := go total 1
where
  go : Nat → Nat → Nat
    | 0, n => n
    | fuel + 1, n => if n < total then go fuel (2 * n) else n

/-- Whether the bits of a number of draws, from a bit on, are all in a mask. -/
def fits (mask draws bit : Nat) : Bool :=
  mask &&& ((draws - 1) <<< bit) == (draws - 1) <<< bit

def freeMask (source : Source) (others : List RandomNode) : Nat :=
  others.foldl (fun mask r => mask - (mask &&& ((r.draws - 1) <<< r.firstBit)))
    ((Number.twoPow source.bits - 1) <<< source.firstBit)

abbrev Placed := String × RandomNode

/-- The bits and the number of draws to use: those of the switches that this one depends on, or the
first bits that are free. -/
def place (name : String) (source : Source) (draws : Nat) (dependent : List Placed)
    (independent : List RandomNode) : Except String (Nat × Nat) := do
  let mask := freeMask source independent
  match dependent with
  | (first, r) :: others =>
    for (other, o) in others do
      if r.firstBit ≠ o.firstBit then
        throw ("random_switch '" ++ name ++ "' cannot be dependent on both '" ++ first ++ "' and '"
          ++ other ++ "' as these are independent of each other.")
      if r.draws ≠ o.draws then
        throw ("random_switch '" ++ name ++ "' cannot be dependent on both '" ++ first ++ "' and '"
          ++ other ++ "' as they don't use the same amount of random data.")
    if r.draws < draws then
      throw ("random_switch '" ++ name ++ "' cannot be dependent on '" ++ first
        ++ "' as it requires more random data.")
    unless fits mask r.draws r.firstBit do
      throw ("Combination of dependence on and independence from random_switches is not possible "
        ++ "for random_switch '" ++ name ++ "'.")
    pure (r.firstBit, r.draws)
  | [] =>
    match (List.range' source.firstBit source.bits).find? (fits mask draws) with
    | some bit => pure (bit, draws)
    | none =>
      throw ("Independence of all given random_switches is not possible for random_switch '" ++ name
        ++ "'.")

/-- The choice that gets the next draw: the one whose probability is the highest in relation to the
draws that it would have. -/
def neediest (probabilities weights : List Nat) : Nat :=
  let better (best : Option (Nat × Nat × Nat)) (c : (Nat × Nat) × Nat) : Option (Nat × Nat × Nat) :=
    let ((p, w), i) := c
    match best with
    | none => if 0 < p then some (i, p, w + 1) else none
    | some (_, q, v) => if p * v > q * (w + 1) then some (i, p, w + 1) else best
  (((probabilities.zip weights).zipIdx.foldl better none).map (·.1)).getD 0

/-- How many draws each choice has, when some more are to be shared out. -/
def weights (probabilities : List Nat) : Nat → List Nat
  | 0 => probabilities
  | more + 1 =>
    let ws := weights probabilities more
    ws.modify (neediest probabilities ws) (· + 1)

/-- The random switches that some references name, as far as they have become nodes. -/
def placed (refs : List Choice) : Build (List Placed) := do
  let found ← refs.mapM fun c => do
    match c.value with
    | some (.groupRef name ..) =>
      let b ← Build.block? (← Build.resolve name)
      match b.randomNode with
      | some i =>
        let n ← Build.node i
        match n.body with
        | .random r => pure (some (n.name, r))
        | _ => pure none
      | none => pure none
    | _ => pure none
  pure (found.filterMap fun p => p)

/-- What the switch looks at, and the count that goes with it; a count that is not known is computed
first. -/
def source (s : RandomSwitch) : Build (Source × Option Int × Option Expr) := do
  let kind := s.kind.text
  match (sources s.feature).lookup kind with
  | none =>
    Build.fail ("Invalid combination for random_switch feature " ++ toString s.feature
      ++ " and type '" ++ kind ++ "'. ") s.kind.pos
  | some source =>
    let (count, computed) ← match s.count, source.counted with
      | none, some _ =>
        Build.fail ("Value '" ++ kind
          ++ "' for random_switch parameter 2 'type' requires a parameter.") s.kind.pos
      | none, none => pure (none, none)
      | some _, none =>
        Build.fail ("Value '" ++ kind
          ++ "' for random_switch parameter 2 'type' should not have a parameter.") s.kind.pos
      | some e, some base =>
        let computed : Option Expr := some (.opInt .storeTemp e 0x100 s.kind.pos)
        match e with
        | .num v _ =>
          if 1 ≤ v && v ≤ 15 then pure (some (Number.bitOr base v), none)
          else pure (some base, computed)
        | _ => pure (some base, computed)
    if s.triggers.constant? != some 0 && !source.triggers then
      Build.fail ("Triggers may not be set for random_switch feature " ++ toString s.feature
        ++ " and type '" ++ kind ++ "'. ") s.kind.pos
    pure (source, count, computed)

def draftChoices (node : Nat) (range : VarRange) (total draws : Nat) :
    List (RandomChoice × Nat × Nat) → Nat → Drafting (List RandomResult)
  | [], _ => pure []
  | (c, p, w) :: rest, offset => do
    let (result, note) ← Chain.result Chain.compile node range offset c.result.value (.int 0) w
    let note := "(" ++ toString p ++ "/" ++ toString total ++ ") -> (" ++ toString w ++ "/"
      ++ toString draws ++ "): " ++ note
    let rest ← draftChoices node range total draws rest (offset + 2 * w)
    pure ({ result, weight := w, note } :: rest)

/-- A node that computes something for another node and always leads there. -/
def leadingTo (d : Chain.Draft) (name : String) (pos : Option Position) (target : Nat)
    (asCall : Bool) : Build (List Action × Nat) := do
  let i ← Build.newNode
    { feature := d.feature, name, pos
      body := .chain
        { varRange := d.range, chain := d.chain
          ranges := [{ low := 0, high := 0, result := .node target }], default := .node target } }
  Build.refer i target asCall
  Build.refer i target asCall
  pure (d.before ++ Action.patching d.nodePatches ++ [.node i], i)

def actions (id : Nat) (s : RandomSwitch) : Build (List Action) := do
  let sets ← SpriteSet.showingAll id
  let (source, count, computed) ← source s
  let probabilities := s.choices.map fun c => (c.probability.constant?.getD 0).toNat
  let total := Number.total probabilities
  let draws := drawsFor total
  let most := if source.bits < 7 then Number.twoPow source.bits else 0x80
  if most < draws then
    Build.fail ("The maximum sum of all random_switch probabilities is " ++ toString most
      ++ ", encountered " ++ toString total ++ ".") s.pos
  let dependent ← placed s.dependent
  let independent ← placed s.independent
  let placing := place s.name.text source draws dependent (independent.map (·.2))
  let (firstBit, draws) ← match placing with
    | .ok r => pure r
    | .error text => Build.fail text s.pos
  let random : RandomNode :=
    { kind := source.code, count, triggers := s.triggers.constant?.getD 0, firstBit, draws }
  let node ← Build.newNode
    { feature := s.feature, name := s.name.text, pos := some s.pos, body := .random random }
  Build.modifyBlock id fun b => { b with randomNode := some node }
  Assign.saveParams
  let ws := weights probabilities (draws - total)
  let range : VarRange := if source.code == 0x83 then .parent else .self
  let parts := s.choices.zip (probabilities.zip ws)
  let (choices, d) ← (draftChoices node range total draws parts
    (if count.isSome then 8 else 7)).run {}
  Build.setBody node (.random { random with choices })
  let actions := sets ++ d.actions ++ Action.patching d.patches ++ [.node node]
  let actions ← match computed with
    | none =>
      Build.setNode id s.feature node
      pure actions
    | some e =>
      let d ← Chain.ofExpr s.feature .self e
      let (more, i) ← leadingTo d (s.name.text ++ "@registers") (some s.pos) node false
      Build.setNode id s.feature i
      pure (actions ++ more)
  Assign.restoreParams
  pure actions

end RandomSwitch

end NewGrf
