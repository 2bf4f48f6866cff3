import NewGrf.Action.Assign
import NewGrf.Property.Special

namespace NewGrf.Property

def gameFeature : Int := 0x08

def labelOf : Expr → String
  | .literal t _ => t
  | _ => ""

def cargoTable (labels : List Expr) : List Action :=
  [.properties { feature := gameFeature, first := 0, count := labels.length
                 properties := [.labelTable 0x09 (labels.map labelOf)] }]

def trackNumbers : TrackKind → Int × Nat
  | .rail => (0x12, 0x0D)
  | .road => (0x16, 0x0F)
  | .tram => (0x17, 0x11)

/-- Sets a parameter to a label, behind a skip for the case that the label is not defined. -/
def ifDefined (missing : Nat) (param label : Int) : List Action :=
  [.skip { kind := 0x09, param := 0, size := 4, code := missing, mnemonic := none
           value := Number.signed32 label, target := 1 },
    .assign { target := param, left := 0xFF, op := .assign, right := 0xFF
              data := some (Number.signed32 label) }]

/-- Sets a parameter to the first of some labels that is defined, or else to the last. The last
label is assigned first, and each earlier one behind a skip. -/
def firstDefined (missing : Nat) (labels : List Int) : Build (Int × List Action) := do
  match labels.reverse with
  | [] => pure (0, [])
  | last :: others =>
    let (param, before) ← Assign.intoParam Assign.compile (.int last)
    pure (param, before ++ others.flatMap (ifDefined missing param))

structure TrackTable where
  before : List Action := []
  patches : List Patch := []
  labels : List String := []

def addTrack (missing : Nat) (t : TrackTable) (entry : TrackEntry) : Build TrackTable := do
  match entry with
  | .label e | .choice _ [e] => pure { t with labels := t.labels ++ [labelOf e] }
  | .choice _ es =>
    let numbers ← es.mapM fun e => Build.ofExcept e.label
    let (param, before) ← firstDefined missing numbers
    pure {
      before := t.before ++ before
      patches := t.patches ++ [{ param, size := 4, offset := 8 + 4 * t.labels.length }]
      labels := t.labels ++ ["\\00\\00\\00\\00"] }

def trackTable (kind : TrackKind) (entries : List TrackEntry) : Build (List Action) := do
  Assign.saveParams
  let (number, missing) := trackNumbers kind
  let t ← entries.foldlM (addTrack missing) {}
  Assign.restoreParams
  let action : PropertyAction :=
    { feature := gameFeature, first := 0, count := entries.length
      properties := [.labelTable number t.labels] }
  pure (Assign.withPatches t.before t.patches (.properties action))

def voidValues : Int → Option (Nat × List (Int × Nat × Int))
  | 0x00 => some (116, [(0x06, 1, 0)])
  | 0x01 => some (88, [(0x06, 1, 0)])
  | 0x02 => some (11, [(0x06, 1, 0)])
  | 0x03 => some (41, [(0x06, 1, 0)])
  | 0x07 => some (110, [(0x08, 1, 0xFF)])
  | 0x0A => some (37, [(0x08, 1, 0xFF)])
  | 0x0D => some (10, [(0x08, 1, 0xFF)])
  | 0x0B => some (27, [(0x08, 1, 0xFF), (0x17, 4, 0)])
  | _ => none

/-- Makes items of the game void: all of a feature, or those in a range. -/
def disable (feature : Int) (first last : Option Int) (pos : Position) : Build (List Action) := do
  match voidValues feature with
  | none =>
    Build.fail ("disable_item() is not available for feature " ++ toString feature ++ ".") pos
  | some (total, props) =>
    let (start, count) := match first, last with
      | none, _ => (0, total)
      | some a, none => (a, 1)
      | some a, some b => (a, (b - a + 1).toNat)
    let properties := props.map fun (number, size, v) =>
      PropertyData.values number (List.replicate count (.number v)) size
    pure [.properties { feature, first := start, count, properties }]

def takeOver (source target : Int) : List Action :=
  [.properties { feature := gameFeature, first := 0
                 properties := [.takeover 0x11 source target] }]

/-- The property for the order of the vehicles of a feature. -/
def orderNumber : Int → Option Int
  | 0x00 => some 0x1A
  | 0x01 => some 0x20
  | 0x02 | 0x03 => some 0x1B
  | _ => none

/-- Puts vehicles in an order: the last one behind the first, then each one before its follower. -/
def sort (feature : Int) (ids : List (Int × Option Position)) : Build (List Action) := do
  match ids, orderNumber feature with
  | first :: _ :: _, some number =>
    let order := ids.reverse
    (order.zip (first :: order)).mapM fun ((id, _), (behind, pos)) => do
      let data ← valueOf number behind 3 pos
      pure (.properties { feature, first := id, properties := [data] })
  | _ :: _ :: _, none => throw (.system "internal" "")
  | _, _ => pure []

end NewGrf.Property
