import NewGrf.Sprite.Encode

namespace NewGrf.Recolour

def pairs (l : RecolourLine) : List (Int × Int) :=
  (List.range (l.high - l.low + 1).toNat).map fun (i : Nat) =>
    (l.low + i, if l.toHigh.isSome then l.toLow + i else l.toLow)

/-- The colour in place of each; a later line takes precedence. -/
def table (lines : List RecolourLine) : List Int :=
  let all := (lines.flatMap pairs).reverse
  (List.range 256).map fun (i : Nat) => (all.lookup (i : Int)).getD i

def check (lines : List RecolourLine) : Build Unit := lines.forM fun l =>
  match l.toHigh with
  | some toHigh =>
    if l.high - l.low == toHigh - l.toLow then pure ()
    else Build.fail "From and to ranges in a recolour block need to have the same size" l.pos
  | none => pure ()

def written (lines : List RecolourLine) : Build (List Int) := do
  let t := table lines
  match Palette.ofName? (← get).paletteName with
  | some .default => pure t
  | some .legacy =>
    let r ← Build.ofExcept (Palette.recolourLegacy t)
    pure (r.map fun (c : Nat) => (c : Int))
  | _ =>
    Build.fail ("Recolour sprites are only supported when writing to the DEFAULT (DOS) or LEGACY"
      ++ " (WIN) palette. If you don't have any real sprites use the commandline option -p to set"
      ++ " a palette.")

end NewGrf.Recolour
