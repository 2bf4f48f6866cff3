import NewGrf.Position

namespace NewGrf

inductive Warning where
  | general | deprecation | optimisation
  deriving Repr, DecidableEq, Inhabited

structure Console where
  /-- 1 shows warnings, 2 also information, 3 also progress, 4 also times. -/
  verbosity : Int := 3
  muted : List Warning := []
  terminal : Bool := false
  out : String := ""
  err : String := ""
  progress : Option String := none
  repeated : Bool := false
  deriving Repr, Inhabited

namespace Console

def print (c : Console) (line : String) : Console := { c with out := c.out ++ line ++ "\n" }

def replaceLine (c : Console) (text : String) : Console :=
  if c.terminal then { c with out := c.out ++ "\r" ++ text ++ "\x1b[K" } else c

def hideProgress (c : Console) : Console :=
  if c.progress.isSome then c.replaceLine "" else c

def showProgress (c : Console) : Console :=
  match c.progress with
  | some text => c.replaceLine text
  | none => c

/-- Ends the current step. The clock of a run stands still, so every step takes no time. -/
def endProgress (c : Console) : Console :=
  let c := c.hideProgress
  let c := match c.progress with
    | some text => if 4 ≤ c.verbosity then c.print (text ++ " 0.0 s") else c
    | none => c
  { c with progress := none, repeated := false }

def beginProgress (c : Console) (text : String) : Console :=
  if c.verbosity < 3 then c
  else
    let c := if c.progress.isSome then c.endProgress else c
    { c with progress := some text }.replaceLine text

def updateProgress (c : Console) (text : String) : Console :=
  if c.verbosity < 3 then c
  else if c.repeated then { c with progress := some text }
  else { c with progress := some text, repeated := true }.replaceLine text

def printAside (c : Console) (line : String) : Console :=
  (c.hideProgress.print line).showProgress

def info (c : Console) (text : String) : Console :=
  if c.verbosity < 2 then c else c.printAside (" nmlc info: " ++ text)

def printError (c : Console) (colour line : String) : Console :=
  let c := c.hideProgress
  let line := if c.terminal then "\x1b[" ++ colour ++ "m" ++ line ++ "\x1b[0m" else line
  { c with err := c.err ++ line ++ "\n" }.showProgress

def located (text : String) : Option Position → String
  | some p => p.text ++ ": " ++ text
  | none => text

def warn (c : Console) (kind : Warning) (text : String) (pos : Option Position := none) :
    Console :=
  if c.verbosity < 1 || c.muted.contains kind then c
  else c.printError "93" (" nmlc warning: " ++ located text pos)

def complain (c : Console) (text : String) (pos : Position) : Console :=
  c.printError "91" (" nmlc ERROR: " ++ located text pos)

def error (c : Console) (text : String) : Console :=
  c.endProgress.printError "91" (" nmlc ERROR: " ++ text)

end Console

end NewGrf
