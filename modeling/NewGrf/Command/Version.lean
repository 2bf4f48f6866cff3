import NewGrf.Session
import NewGrf.Text.Integer
import NewGrf.Text.LetterCase
import NewGrf.Text.Printable

namespace NewGrf.Version

inductive Answer where
  | words (ws : List String)
  | failed (code : Int)
  | unable (number : Int) (text : String)
  deriving Repr, Inhabited

structure Checkout where
  folder : String
  refresh : Answer
  diff : Answer
  date : Answer
  describe : Answer
  branch : Answer
  deriving Repr, Inhabited

inductive Problem where
  | notInstalled
  | unable (number : Int) (text : String)
  | failed (command : List String) (code : Int)
  deriving Repr, DecidableEq, Inhabited

def Problem.text : Problem → String
  | notInstalled => "Git checkout found but `git` isn't installed; cannot determine version."
  | unable number text =>
    "Git checkout found but cannot determine its version. Error(" ++ toString number ++ "): "
      ++ text
  | failed command code =>
    "Git checkout found but cannot determine its version. Error:  Command '["
      ++ ", ".intercalate (command.map fun c => Text.quoted c)
      ++ "]' returned non-zero exit status " ++ toString code ++ "."

def wordsOf (s : String) : List String :=
  ((s.toList.splitBy fun a b => Text.isBlank a == Text.isBlank b).filter fun w =>
    w.any fun c => !Text.isBlank c).map String.ofList

def Checkout.ask (c : Checkout) (command : List String) : Answer → Except Problem (List String)
  | .words ws => .ok ws
  | .failed code => .error (.failed (["git", "-C", c.folder] ++ command) code)
  | .unable number text => .error (.unable number text)

structure Commit where
  tag : String
  isRelease : Bool
  changeset : String
  date : String
  isModified : Bool
  branch : String
  deriving Repr, Inhabited

/-- A description is a tag, the number of commits since, and the commit. The tag may have dashes. -/
def splitDescription (s : String) : String × String × String :=
  match (s.splitOn "-").reverse with
  | changeset :: count :: tag => ("-".intercalate tag.reverse, count, changeset)
  | parts => ("-".intercalate parts.reverse, "", "")

/-- A dash is left out of a tag and becomes a dot in the name of a branch. Where the branch is not
the main one, its name is part of a version that is not a release. -/
def Commit.version (c : Commit) : String :=
  let base := Text.lower (c.tag.replace "-" "")
  let unreleased := c.isModified || !c.isRelease
  let date := if unreleased then ".post" ++ c.date.replace "-" "" else ""
  let parts := (if unreleased && c.branch != "master" then [c.branch.replace "-" "."] else [])
    ++ (if c.isRelease then [] else [c.changeset]) ++ (if c.isModified then ["m"] else [])
  base ++ date ++ (if parts.isEmpty then "" else "+" ++ ".".intercalate parts)

def Checkout.commit (c : Checkout) : Except Problem Commit := do
  match c.refresh with
  | .unable 2 _ => .error .notInstalled
  | _ => pure ()
  let changes ← c.ask ["diff-index", "HEAD"] c.diff
  let date ← c.ask ["show", "-s", "--pretty=%ci", "HEAD"] c.date
  let description ← c.ask ["describe", "--tags", "--long"] c.describe
  let (tag, count, changeset) := splitDescription (description.head?.getD "")
  let branch := match c.branch with
    | .words (b :: _) => ((b.splitOn "/").getLast?).getD ""
    | _ => "master"
  pure { tag, changeset, branch, isRelease := count == "0", isModified := !changes.isEmpty
         date := date.head?.getD "" }

def ofCheckout? (c : Option Checkout) : Build (Option String) := do
  match c.map Checkout.commit with
  | none => pure none
  | some (.ok commit) => pure (some commit.version)
  | some (.error p) =>
    Build.modifyConsole fun console => console.print p.text
    pure none

def get (c : Option Checkout) (saved : Option String) : Build String := do
  match ← ofCheckout? c with
  | some v => if v.isEmpty then pure (saved.getD "unknown") else pure v
  | none => pure (saved.getD "unknown")

def savedFile (version : String) : String :=
  "# this file is autogenerated by setup.py\nversion = \"" ++ version ++ "\"\n"

/-- Saves the version of a checkout, if there is a folder for it. The result is the version and what
was written. -/
def save (c : Option Checkout) (folder : Bool) : Build (Option (String × String)) := do
  match ← ofCheckout? c with
  | none => pure none
  | some v =>
    if v.isEmpty then pure none
    else if folder then pure (some (v, savedFile v))
    else
      Build.modifyConsole fun console => console.print "Version file NOT written"
      pure none

structure Environment where
  program : String
  images : String
  parser : String
  runtime : String
  runtimeVersion : String
  deriving Repr, Inhabited

def report (version : String) (e : Environment) : String :=
  version ++ "\n\nnmlc: " ++ e.program ++ "\nLZ77 implementation: Python\n\n"
    ++ "Library versions encountered:\n  PIL: " ++ e.images ++ "\n  PLY: " ++ e.parser
    ++ "\n\nPython: " ++ e.runtime ++ "\nversion " ++ e.runtimeVersion

end NewGrf.Version
