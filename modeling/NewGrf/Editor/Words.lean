import NewGrf.Action.Messages
import NewGrf.Action.Texts
import NewGrf.Graphics.Callback
import NewGrf.Layout.Compile
import NewGrf.Property.BaseCost
import NewGrf.Property.Table
import NewGrf.Sprite.Replace
import NewGrf.Token.Basic

namespace NewGrf.Editor

def dropRepeated : List String → List String
  | a :: b :: rest => if a == b then dropRepeated (b :: rest) else a :: dropRepeated (b :: rest)
  | words => words

def ordered (words : List String) : List String :=
  dropRepeated (words.mergeSort fun a b => decide (a ≤ b))

private def keys {α : Type} (table : List (String × α)) : List String := table.map (·.1)

def units : List String := ordered (Measure.all.map (·.name))

def keywords : List String := ordered (Keyword.table.map fun (_, word, _) => word)

def functions : List String := ordered (keys Builtin.table)

def layoutKinds : List String := ["building", "childsprite", "ground"]

def blockWords : List String :=
  ordered (units ++ keywords ++ functions ++ layoutKinds ++ ["int", "bool"])

section

open Variable

def variableNames : List String := ordered (keys (global ++ vehicle ++ train ++ roadVehicle ++ ship
  ++ plane ++ vehicleCalled ++ stop ++ stopCalled ++ station ++ stationCalled ++ canal ++ house
  ++ houseCalled ++ industryTile ++ industryTileCalled ++ industry ++ industryCalled ++ airport
  ++ object ++ objectCalled ++ railType ++ roadType ++ tramType ++ airportTile
  ++ airportTileCalled ++ town))

end

def knownFeatures : List Int := [
  0x00, 0x01, 0x02, 0x03, 0x04, 0x05, 0x07, 0x09, 0x0A, 0x0B, 0x0D, 0x0F, 0x10, 0x11, 0x12, 0x13]

def properties : List String :=
  ordered (knownFeatures.flatMap fun f => keys ((Property.table? f).getD []))

def layoutParams : List String := ordered Layout.paramNames

def callbacks : List String := ordered (knownFeatures.flatMap fun f => keys (Callback.ofFeature f))

def descriptionWords : List String := [
  "bit", "def_value", "desc", "grfid", "max_value", "min_compatible_version", "min_value", "name",
  "names", "type", "version"]

def propertyWords : List String :=
  ordered (variableNames ++ properties ++ layoutParams ++ callbacks ++ descriptionWords)

def features : List String := ordered (keys Feature.table)

def ranges : List String := ["PARENT", "SELF"]

def featureWords : List String := ordered (features ++ ranges)

def constants : List String :=
  let tracks : Names := {}
  ordered (keys Constant.numbers ++ keys Constant.aliases ++ keys SpecialParam.gameParams
    ++ keys SpecialParam.bits ++ keys SpecialParam.patchVariables ++ keys SpecialParam.configFlags
    ++ keys SpecialParam.maglevs ++ keys tracks.rails ++ keys tracks.roads ++ keys tracks.trams)

def extraSprites : List String := ordered (keys Sprite.extraKinds)

def fontSizes : List String := ordered (keys Sprite.fontSizes)

def messages : List String := ordered (keys Messages.known ++ keys Messages.severities)

def spriteFlags : List String := ordered (keys ImageSprite.flagNames)

def costs : List String :=
  ordered (BaseCost.names ++ ["PR_CONSTRUCTION", "PR_RUNNING", "PR_BUILD_VEHICLE"])

def constantWords : List String :=
  ordered (constants ++ extraSprites ++ fontSizes ++ messages ++ spriteFlags ++ costs)

end NewGrf.Editor
