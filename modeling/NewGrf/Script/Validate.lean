import NewGrf.Script.Basic

namespace NewGrf

inductive Enclosure where
  | conditional | loop | item
  deriving Repr, DecidableEq, Inhabited

structure Placement where
  name : String
  skippable : Bool := true
  repeatable : Bool := true
  inItem : Bool := false
  outsideItem : Bool := true
  deriving Repr, Inhabited

namespace Placement

/-- What is wrong with a place, given what encloses it from the outermost to the innermost. -/
def faultText? (p : Placement) (around : List Enclosure) : Option String :=
  let wrong : Enclosure → Option String
    | .conditional =>
      if p.skippable then none else some " may not appear inside a conditional block."
    | .loop => if p.repeatable then none else some " may not appear inside a loop."
    | .item => if p.inItem then none else some " may not appear inside an item block."
  match around.findSome? wrong with
  | some t => some (p.name ++ t)
  | none =>
    if p.outsideItem || around.contains .item then none
    else some (p.name ++ " must appear inside an item block.")

end Placement

namespace Stmt

def placement? : Stmt → Option (Placement × Option Position)
  | switchBlock s => fixed "switch-block" s.pos
  | randomSwitch s => fixed "random_switch-block" s.pos
  | produceOld p => fixed "produce-block" p.pos
  | produce p => fixed "produce-block" p.pos
  | spriteset s => fixed "spriteset" s.pos
  | spritegroup s => fixed "spritegroup" s.pos
  | spritelayout s => fixed "spritelayout" s.pos
  | template t => fixed "template declaration" t.pos
  | tilelayout t => fixed "tile layout" t.pos
  | townNames t => fixed "town_names-block" t.pos
  | cargotable _ pos => fixed "cargo table" pos
  | trackTable kind _ pos => fixed (kind.text ++ "type table") pos
  | grf g => fixed "grf-block" g.pos
  | constant name _ =>
    some ({ name := "constant", skippable := false, repeatable := false }, name.pos)
  | assign _ _ pos => some ({ name := "parameter assignment" }, pos)
  | skipAll pos => free "exit-statement" pos
  | properties _ pos => inside "property-block" pos
  | graphics g => inside "graphics-block" g.pos
  | liveryOverride _ g => inside "livery override" g.pos
  | errorMessage e => free "error()" e.pos
  | disableItem _ _ _ pos => free "disable_item()" pos
  | deactivate _ pos => free "deactivate()" pos
  | replace _ b => free "replace-block" b.pos
  | replaceNew _ _ b => free "replacenew-block" b.pos
  | baseGraphics _ b => free "base_graphics-block" b.pos
  | fontGlyph _ _ b => free "font_glyph-block" b.pos
  | altSprites _ _ _ _ b => free "alt_sprites-block" b.pos
  | snowline s => free "snowline-block" s.pos
  | engineOverride _ pos => free "engine_override()" pos
  | sortVehicles _ _ pos => free "sort-block" pos
  | basecost _ pos => free "basecost-block" pos
  | conditional _ | loop .. | item .. | block _ | wagonGraphics .. | described _ | towns _
  | done => none
where
  fixed (name : String) (pos : Position) : Option (Placement × Option Position) :=
    some ({ name, skippable := false, repeatable := false }, some pos)
  free (name : String) (pos : Position) : Option (Placement × Option Position) :=
    some ({ name }, some pos)
  inside (name : String) (pos : Position) : Option (Placement × Option Position) :=
    some ({ name, inItem := true, outsideItem := false }, some pos)

mutual

def placeFault? (around : List Enclosure) : Stmt → Option Fault
  | conditional branches => branchFault? (around ++ [.conditional]) branches
  | loop _ body _ => placeFaultIn? (around ++ [.loop]) body
  | item _ body => placeFaultIn? (around ++ [.item]) body
  | s =>
    match s.placement? with
    | some (p, pos) => (p.faultText? around).map fun t => { cause := .script t, pos }
    | none => none

def placeFaultIn? (around : List Enclosure) : List Stmt → Option Fault
  | [] => none
  | s :: ss => (placeFault? around s).orElse fun _ => placeFaultIn? around ss

def branchFault? (around : List Enclosure) : List (Branch Stmt) → Option Fault
  | [] => none
  | ⟨_, body, _⟩ :: bs =>
    (placeFaultIn? around body).orElse fun _ => branchFault? around bs

end

end Stmt

end NewGrf
