import NewGrf.Script.Construct

namespace NewGrf

namespace Block

def new (b : Block) : Build Nat := do
  let s ← get
  set { s with blocks := s.blocks.push b }
  pure s.blocks.size

def register (id : Nat) (name : Ident) (pos : Position) : Build Unit := do
  if (← get).blockIds.contains name.text then
    Build.fail ("Block with name '" ++ name.text ++ "' has already been defined") pos
  modify fun s => { s with blockIds := s.blockIds.set name.text id }

end Block

def popUnusedParam (pos : Option Position) : Build Int := do
  let (n, params) ← Build.ofExcept ((← get).params.popUnused pos)
  modify fun s => { s with params }
  pure n

namespace Stmt

/-- A label written as a name is a literal. -/
def labelLiteral : Expr → Expr
  | .ident n p => .literal n p
  | e => e

def registerCargo (label : Expr) (number : Nat) : Build Expr := do
  let l := labelLiteral label
  discard (Build.ofExcept l.label)
  match l with
  | .literal text _ =>
    if (← get).names.cargos.contains text then
      Build.warn ("Duplicate entry in cargo table: " ++ text) label.pos
    else Build.modifyNames fun n => { n with cargos := n.cargos.set text number }
  | _ => pure ()
  pure l

def registerTrack (kind : TrackKind) (entry : TrackEntry) (number : Nat) :
    Build TrackEntry := do
  let (name, entry) ← match entry with
    | .choice name labels => do
      let labels := labels.map labelLiteral
      labels.forM fun l => discard (Build.ofExcept l.label)
      pure (name.text, TrackEntry.choice name labels)
    | .label e => do
      let l := labelLiteral e
      discard (Build.ofExcept l.label)
      let text := match l with
        | .literal t _ => t
        | _ => ""
      pure (text, .label l)
  Build.modifyNames fun n => match kind with
    | .rail => { n with rails := n.rails.set name number }
    | .road => { n with roads := n.roads.set name number }
    | .tram => { n with trams := n.trams.set name number }
  pure entry

def registerConstant (name value : Expr) : Build Unit := do
  match name with
  | .ident n p =>
    if NameTable.isConstant (← get).names n then
      Build.fail ("Redefinition of constant '" ++ n ++ "'.") p
    let (v, _) ← value.reduceConstant Scope.general
    Build.modifyNames fun names => { names with constants := names.constants.set n v }
  | e => Build.fail "Constant name should be an identifier" e.pos

/-- The number that the script asks for; -1 stands for any. -/
def givenId (h : ItemHead) : Build (Option Expr) := do
  match h.id with
  | some e => do
    let (v, p) ← e.reduceConstant Scope.general
    pure (if v == -1 then none else some (Expr.num v p))
  | none => pure none

/-- The name of an item and its number. An item that is named again keeps its number. -/
def namedId (h : ItemHead) (id : Option Expr) : Build (Option String × Option Expr) := do
  match h.name with
  | none => pure (none, id)
  | some (.ident n _) => do
    match (← get).names.items.get? n with
    | none => pure (some n, id)
    | some old =>
      match id.bind Expr.constant?, old.id.constant? with
      | some new, some given =>
        if new ≠ given then
          Build.fail ("Duplicate item with name '" ++ n
            ++ "'. This item has already been assigned to id " ++ toString given
            ++ ", cannot reassign to id " ++ toString new) h.pos
      | _, _ => pure ()
      pure (some n, some old.id)
  | some _ => Build.fail "Item parameter 2 'name' should be an identifier" h.pos

def takeId (h : ItemHead) (id : Option Expr) : Build Expr := do
  let count := match h.size with
    | some (v, _) => (houseSizes.lookup v).getD 1
    | none => 1
  let space := (← get).idSpaces[h.feature.toNat]?.getD default
  let setSpace (s : IdSpace) : Build Unit := modify fun st =>
    { st with idSpaces := st.idSpaces.setIfInBounds h.feature.toNat s }
  match id with
  | none => do
    let (v, space) ← Build.ofExcept (space.allocate count h.pos)
    setSpace space
    pure (Expr.int v)
  | some e => do
    let v := e.constant?.getD 0
    if !(← Build.ofExcept (space.isDefined v count e.pos)) then setSpace (space.mark v count)
    pure e

def registerItem (h : ItemHead) : Build ItemHead := do
  let (name, id) ← namedId h (← givenId h)
  let id ← takeId h id
  if let some n := name then
    Build.modifyNames fun names =>
      { names with items := names.items.set n { id, feature := h.feature } }
  pure { h with id := some id }

mutual

def register : Stmt → Build Stmt
  | cargotable labels pos => do
    Build.once "cargo table" pos
    pure (cargotable (← labels.zipIdx.mapM fun (l, i) => registerCargo l i) pos)
  | trackTable kind entries pos => do
    pure (trackTable kind (← entries.zipIdx.mapM fun (e, i) => registerTrack kind e i) pos)
  | constant name value => do
    registerConstant name value
    pure (constant name value)
  | grf g => do
    Build.once "GRF-block" g.pos
    pure (grf g)
  | spriteset s => do
    let id ← Block.new { content := .spriteset s, name := some s.name, pos := s.pos }
    Block.register id s.name s.pos
    pure (block id)
  | assign target value pos => do
    let target ← target.reduceLeniently Scope.general
    if let .ident n p := target then
      if ((← get).names.occurrences.get? n).getD 1 ≤ 1 then
        Build.warn ("Named parameter '" ++ n ++ "' is not referenced, ignoring.") p .optimisation
      else
        let number ← popUnusedParam pos
        Build.modifyNames fun names => { names with params := names.params.set n number }
    pure (assign target value pos)
  | item head body => do
    let head ← registerItem head
    pure (item head (← registerAll body))
  | conditional branches => do pure (conditional (← registerBranches branches))
  | loop guard body pos => do pure (loop guard (← registerAll body) pos)
  | s => pure s

def registerAll : List Stmt → Build (List Stmt)
  | [] => pure []
  | s :: ss => do
    let s ← s.register
    pure (s :: (← registerAll ss))

def registerBranches : List (Branch Stmt) → Build (List (Branch Stmt))
  | [] => pure []
  | ⟨guard, body, pos⟩ :: bs => do
    let body ← registerAll body
    pure (⟨guard, body, pos⟩ :: (← registerBranches bs))

end

end Stmt

end NewGrf
