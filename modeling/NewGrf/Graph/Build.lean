import NewGrf.Action.Basic
import NewGrf.Session

namespace NewGrf

namespace Build

def modifyGraph (f : Graph → Graph) : Build Unit := modify fun s => { s with graph := f s.graph }

def newNode (n : Node) : Build Nat := do
  let (i, graph) := (← get).graph.addNode n
  modify fun s => { s with graph }
  pure i

def newCell : Build Nat := do
  let (i, graph) := (← get).graph.addCell
  modify fun s => { s with graph }
  pure i

def newLoad : Build Nat := do
  let (i, graph) := (← get).graph.addLoad
  modify fun s => { s with graph }
  pure i

def node (i : Nat) : Build Node := do pure ((← get).graph.node i)

def setBody (i : Nat) (body : NodeBody) : Build Unit :=
  modifyGraph fun g => g.modifyNode i fun n => { n with body }

def refer (source target : Nat) (isCall : Bool := false) : Build Unit :=
  modifyGraph fun g => g.addReference source { target, isCall }

def linkNode (i : Nat) : Build Unit := do
  let graph ← ofExcept ((← get).graph.link i)
  modify fun s => { s with graph }

def giveRegisters (i : Nat) : Build Unit := do
  let graph ← ofExcept ((← get).graph.giveRegisters i)
  modify fun s => { s with graph }

def nodeOf (name : Ident) (group : Option Nat) (feature : Int) : Build Nat := do
  match group with
  | some i => pure i
  | none =>
    let b ← block? (← resolve name)
    pure ((b.nodes.lookup feature).getD 0)

def setNode (id : Nat) (feature : Int) (node : Nat) : Build Unit :=
  modifyBlock id fun b => { b with nodes := b.nodes ++ [(feature, node)] }

def cellsOf (id : Nat) (feature : Int) : Build (List Nat) := do
  pure (((← block? id).registers.lookup feature).getD [])

/-- New cells for parameters, and the table in which their names are found. Each time a name is
found it is a load of its own. -/
def newParams (id : Nat) (feature : Int) (names : List String) : Build (List (Nat × String)) := do
  let params ← names.mapM fun name => do pure (← newCell, name)
  modifyBlock id fun b => { b with registers := b.registers ++ [(feature, params.map (·.1))] }
  pure params

end Build

structure Draft where
  actions : List Action := []
  patches : List Patch := []

abbrev Drafting := StateT Draft Build

namespace Drafting

def emit (actions : List Action) : Drafting Unit :=
  modify fun d => { d with actions := d.actions ++ actions }

def patch (patches : List Patch) : Drafting Unit :=
  modify fun d => { d with patches := d.patches ++ patches }

end Drafting

def Action.patching (patches : List Patch) : List Action :=
  if patches.isEmpty then [] else [.patch patches]

end NewGrf
