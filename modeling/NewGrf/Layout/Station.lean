import NewGrf.Layout.Compile

namespace NewGrf.Station

def setTable : NameTable := fun name pos =>
  pure (match name with
    | "DEFAULT" => some (.function ⟨name, pos⟩ (.stationSprites false) none)
    | "CUSTOM" => some (.function ⟨name, pos⟩ (.stationSprites true) none)
    | _ => none)

structure Reader where
  params : List (Nat × String) := []
  stores : Layout.Stores := []
  collections : List Action := []
  layouts : List Layout.Parsed := []
  deriving Inhabited

def readLayout (feature : Int) (r : Reader) (e : Expr) : Chain.Adding Reader := do
  let fault : Chain.Adding Reader := Build.fail "Expected a SpriteLayout" e.pos
  match e with
  | .groupRef name args _ _ _ =>
    match (← Build.block? (← Build.resolve name)).content with
    | .spritelayout l =>
      let params ← l.params.zipIdx.mapM fun (p, i) => do
        let cell ← Build.newCell
        Chain.pushAll Chain.compile (args[i]?.getD (.int 0))
        Chain.pushOp .storeTemp
        Chain.pushTerm (.pass cell)
        Chain.pushOp .last
        pure (cell, p.text)
      let ((collections, parsed), reader) ← (Layout.read l).run
        { feature, tables := [NameTable.ofParams params, setTable], stores := r.stores }
      pure { params := r.params ++ params, stores := reader.stores
             collections := r.collections ++ collections, layouts := r.layouts ++ [parsed] }
    | _ => fault
  | _ => fault

def layoutActions (feature id : Int) (layouts : List Layout.Parsed) : Build (List Action) := do
  Assign.saveParams
  let (layouts, d) ← (layouts.mapM fun p => Layout.finish p 7).run {}
  Assign.restoreParams
  pure (d.actions ++ Action.patching d.patches
    ++ [.properties { feature, first := id, properties := [
      .stationLayouts 0x1A (layouts.map (·.1)) (layouts.flatMap (·.2))] }])

/-- The property for the layouts of a station, the node that fills their registers, and what has to
be known to show them. -/
def layouts (feature id : Int) (es : List Expr) : Build (List Action × StationLayouts) := do
  modify fun s => { s with stationSlots := {} }
  let build : Chain.Adding Reader := do
    let r ← es.foldlM (readLayout feature) {}
    Layout.pushStores r.stores
    pure r
  let (r, chain) ← build.run { feature, range := .self }
  let slots := (← get).stationSlots
  let actions := r.collections ++ (← layoutActions feature id r.layouts)
  if chain.steps.isEmpty then return (actions, { slots, registers := none })
  let chain := { chain with steps := chain.steps.drop 1 }
  let name := "Station Layout@registers - Id " ++ hexText 2 id
  let i ← Build.newNode
    { feature, name, pos := none
      body := .chain { params := r.params, chain := chain.chain
                       defaultNote := "Return computed value" } }
  pure (actions ++ chain.before ++ Action.patching chain.nodePatches ++ [.node i],
    { slots, registers := some (name, i) })

def copyLayouts (feature id source : Int) : Action :=
  .properties
    { feature, first := id
      properties := [.values 0x0A [.number source] (if source < 0xFF then 1 else 3)] }

end NewGrf.Station
