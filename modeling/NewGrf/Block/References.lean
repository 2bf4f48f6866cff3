import NewGrf.Expr.Reduce
import NewGrf.Feature

namespace NewGrf

namespace Block

def insertNew (x : Nat) (xs : List Nat) : List Nat :=
  if xs.contains x then xs else xs ++ [x]

def addReference (id : Nat) (name : Ident) (args : List Expr) (pos : Option Position) :
    Build Unit := do
  if name.text == "CB_FAILED" then return
  let target ← Build.resolve name
  let t ← Build.block? target
  if t.isSpriteset then
    unless args.isEmpty do
      Build.fail ("Passing parameters to '" ++ name.text
        ++ "' is only possible from a spritelayout.") pos
    Build.modifyBlock id fun b => { b with usedSets := b.usedSets ++ [target] }
  else
    unless args.length == t.numParams do
      Build.fail ("'" ++ name.text ++ "' expects " ++ toString t.numParams
        ++ " parameters, encountered " ++ toString args.length ++ ".") pos
    Build.modifyBlock id fun b => { b with uses := insertNew target b.uses }
    Build.modifyBlock target fun b => { b with users := insertNew id b.users }

def addReferences (id : Nat) (es : List Expr) : Build Unit :=
  (Expr.referencesIn es).forM fun e => match e with
    | .groupRef name args _ _ pos => addReference id name args pos
    | _ => pure ()

/-- The features of a user have to be those of the block. -/
def checkUser (b : Block) (user : Nat) : Build Unit := do
  let u ← Build.block? user
  if u.features != b.features then
    let other := (u.features.filter fun f => !b.features.contains f).headD 0
    Build.fail ("Cannot refer to block '" ++ (b.name.map (·.text)).getD "" ++ "' with feature '"
      ++ Feature.name (b.features.headD 0) ++ "', expected feature is '" ++ Feature.name other
      ++ "'") u.pos

/-- Whether a block is used. The first time this is asked, users that are not used themselves are
forgotten, and the features of the others are taken over. A block is used by later blocks only,
which bounds the depth. -/
def isUsed : Nat → Nat → Build Bool
  | 0, _ => pure false
  | fuel + 1, id => do
    let b ← Build.block? id
    if !b.isReferable then return true
    if !b.prepared then
      Build.modifyBlock id fun b => { b with prepared := true }
      for user in b.users do
        unless ← isUsed fuel user do
          Build.modifyBlock user fun u => { u with uses := u.uses.erase id }
          Build.modifyBlock id fun b => { b with users := b.users.erase user }
      let b ← Build.block? id
      if b.hasOwnFeature then b.users.forM (checkUser b)
      else
        for user in b.users do
          let u ← Build.block? user
          Build.modifyBlock id fun b =>
            { b with features := b.features ++ u.features.filter (!b.features.contains ·) }
      if b.users.isEmpty then
        match b.outcome with
        | .value .. => pure ()
        | _ =>
          Build.warn ("Block '" ++ (b.name.map (·.text)).getD ""
            ++ "' is not referenced, ignoring.") b.pos .optimisation
    pure (!(← Build.block? id).users.isEmpty)

def isNeeded (id : Nat) : Build Bool := do isUsed ((← get).blocks.size + 1) id

end Block

end NewGrf
