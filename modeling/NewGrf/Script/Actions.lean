import NewGrf.FileInfo.Description
import NewGrf.FileInfo.Tree
import NewGrf.Graphics.Actions
import NewGrf.Production
import NewGrf.Property.Snowline
import NewGrf.Script.Prepare
import NewGrf.Sprite.Replace

namespace NewGrf.Stmt

def blockActions (id : Nat) : Build (List Action) := do
  let b ← Build.block? id
  if b.isSpriteset then return []
  if !(← Block.isNeeded id) then return []
  let b ← Build.block? id
  let features := b.features.mergeSort (fun a b => a ≤ b)
  match b.content with
  | .switchBlock s => s.actions id
  | .randomSwitch s => s.actions id
  | .produceOld p => Production.ofAmounts id p
  | .produce p => Production.ofCargos id p
  | .spriteset _ => pure []
  | .spritegroup g => do pure (← features.mapM (g.actions id)).flatten
  | .spritelayout l => do
    pure (← (features.filter (· != 0x04)).mapM (l.actions id)).flatten
  | .graphics g => g.actions id (← get).item.id false

def wagonActions (wagon : Expr) (id : Nat) : Build (List Action) := do
  let (n, pos) ← wagon.reduceConstant [NameTable.items]
  match (← Build.block? id).content with
  | .graphics g => g.actions id (.num n pos) true
  | _ => pure []

mutual

def actions : Stmt → Build (List Action)
  | assign target value _ => Assign.compile target value
  | skipAll _ => pure [.skip (Skip.always 9 0)]
  | conditional branches =>
    Assign.conditional Assign.compile (branchActions branches) (branches.head?.map Branch.pos)
  | loop guard body pos => Assign.loop Assign.compile guard (allActions body) pos
  | item head body => do
    enterItem head
    allActions body
  | properties props _ => Property.blockActions props
  | described d => FileInfo.actions d
  | errorMessage e => Messages.actions e
  | deactivate ids _ => pure [.turnOff (ids.map fun e => e.constant?.getD 0)]
  | block id => blockActions id
  | wagonGraphics wagon id => wagonActions wagon id
  | towns indices => pure (indices.map .town)
  | replace start b => Sprite.replace start b
  | replaceNew kind offset b => Sprite.replaceNew kind offset b
  | baseGraphics number b => Sprite.baseGraphics (number.map (·.1)) b
  | fontGlyph size char b => Sprite.fontGlyphs size char b
  | cargotable labels _ => pure (Property.cargoTable labels)
  | trackTable kind entries _ => Property.trackTable kind entries
  | basecost costs _ => BaseCost.actions costs
  | snowline s => Snowline.actions s
  | disableItem feature first last pos =>
    Property.disable feature (first.bind Expr.constant?) (last.bind Expr.constant?) pos
  | engineOverride args _ =>
    match args.map fun e => e.constant?.getD 0 with
    | [source, target] => pure (Property.takeOver source target)
    | _ => pure []
  | sortVehicles feature ids _ =>
    match ids with
    | .array es _ => Property.sort feature (es.map fun e => (e.constant?.getD 0, e.pos))
    | _ => pure []
  | _ => pure []

def allActions : List Stmt → Build (List Action)
  | [] => pure []
  | s :: ss => do
    let first ← s.actions
    pure (first ++ (← allActions ss))

def branchActions : List (Branch Stmt) → List Assign.CompiledBranch
  | [] => []
  | ⟨guard, body, _⟩ :: bs => (guard, allActions body) :: branchActions bs

end

end NewGrf.Stmt
