import NewGrf.Action.Basic
import NewGrf.Session

namespace NewGrf.Sounds

def firstNumber : Nat := 73

def volume : Sound → Int
  | .file _ v | .imported _ _ v => v

def action : Sound × Option Position → Action
  | (.file name _, pos) => .soundFile name pos
  | (.imported owner number _, _) => .importSound owner number

structure Series where
  first : Nat
  volumes : List Int

def Series.action (s : Series) : Action :=
  .properties { feature := 0x0C, first := s.first, count := s.volumes.length
                properties := [.values 0x08 (s.volumes.map .number) 1] }

/-- Writes volumes in series. A series is written when a number is left out or the numbers end; one
that starts with the last number is not written. -/
def series : List (Nat × Int) → Series → List Series
  | [], _ => []
  | [(id, v)], s =>
    if s.first + s.volumes.length == id then [{ s with volumes := s.volumes ++ [v] }] else [s]
  | (id, v) :: rest, s =>
    if s.first + s.volumes.length == id then series rest { s with volumes := s.volumes ++ [v] }
    else s :: series rest { first := id, volumes := [v] }

def volumeActions (volumes : List (Nat × Int)) : List Action :=
  match volumes with
  | [] => []
  | (first, _) :: _ => (series volumes { first, volumes := [] }).map Series.action

def actions (sounds : List (Sound × Option Position)) : List Action :=
  if sounds.isEmpty then []
  else
    let volumes := sounds.zipIdx.filterMap fun ((s, _), i) =>
      if volume s == 100 then none else some (i + firstNumber, (volume s * 128).tdiv 100)
    .soundCount sounds.length :: sounds.map action ++ volumeActions volumes

end NewGrf.Sounds
