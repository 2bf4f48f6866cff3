import NewGrf.Number.Decimal
import NewGrf.Text.Integer
import NewGrf.Text.Printable

namespace NewGrf.Text

inductive FieldValue where
  | int (value : Int)
  | float (value : Float)
  | text (value : String)
  deriving Inhabited

namespace FieldValue

def kindName : FieldValue → String
  | int _ => "int"
  | float _ => "float"
  | text _ => "str"

def plain : FieldValue → String
  | int v => toString v
  | float v => Number.floatText v
  | text v => v

end FieldValue

structure Field where
  left : Bool := false
  plus : Bool := false
  blank : Bool := false
  alternate : Bool := false
  zero : Bool := false
  width : Nat := 0
  precision : Option Nat := none
  deriving Repr, Inhabited

structure FormatState where
  rest : List Char
  values : List FieldValue
  index : Nat := 0

abbrev Formatter := EStateM String FormatState

namespace Formatter

def next : Formatter Char := do
  let s ← get
  match s.rest with
  | [] => throw "incomplete format"
  | c :: rest =>
    set { s with rest, index := s.index + 1 }
    pure c

def peek : Formatter Char := do
  match (← get).rest with
  | [] => throw "incomplete format"
  | c :: _ => pure c

def value : Formatter FieldValue := do
  let s ← get
  match s.values with
  | [] => throw "not enough arguments for format string"
  | v :: values =>
    set { s with values }
    pure v

def starValue : Formatter Int := do
  match ← value with
  | .int v => pure v
  | _ => throw "* wants int"

def flags : Nat → Field → Formatter Field
  | 0, f => pure f
  | fuel + 1, f => do
    match ← peek with
    | '-' => discard next; flags fuel { f with left := true }
    | '+' => discard next; flags fuel { f with plus := true }
    | ' ' => discard next; flags fuel { f with blank := true }
    | '#' => discard next; flags fuel { f with alternate := true }
    | '0' => discard next; flags fuel { f with zero := true }
    | _ => pure f

def digits (limit : Nat) (tooBig : String) : Nat → Nat → Formatter Nat
  | 0, n => pure n
  | fuel + 1, n => do
    match (← get).rest with
    | [] => throw "incomplete format"
    | c :: _ =>
      if '0' ≤ c ∧ c ≤ '9' then
        let d := c.toNat - 48
        if (limit - d) / 10 < n then throw tooBig
        discard next
        digits limit tooBig fuel (n * 10 + d)
      else pure n

def width (f : Field) : Formatter Field := do
  match ← peek with
  | '*' =>
    discard next
    let w ← starValue
    pure { f with left := f.left || w < 0, width := w.natAbs }
  | _ =>
    let n ← digits 0x7FFFFFFFFFFFFFFF "width too big" ((← get).rest.length + 1) 0
    pure { f with width := n }

def precision (f : Field) : Formatter Field := do
  match (← get).rest with
  | '.' :: _ =>
    discard next
    match ← peek with
    | '*' =>
      discard next
      let p ← starValue
      pure { f with precision := some p.toNat }
    | _ =>
      let n ← digits 0x7FFFFFFF "precision too big" ((← get).rest.length + 1) 0
      pure { f with precision := some n }
  | _ => pure f

end Formatter

namespace Field

def pad (f : Field) (s : String) : String :=
  let fill := "".pushn ' ' (f.width - s.length)
  if f.left then s ++ fill else fill ++ s

def padNumber (f : Field) (negative : Bool) (mark body : String) : String :=
  let sign := if negative then "-" else if f.plus then "+" else if f.blank then " " else ""
  let head := sign ++ mark
  if f.zero && !f.left then
    head ++ "".pushn '0' (f.width - head.length - body.length) ++ body
  else f.pad (head ++ body)

def ofInt (f : Field) (kind : Char) (v : Int) : String :=
  let n := v.natAbs
  let (base, mark) : Nat × String := match kind with
    | 'o' => (8, "0o") | 'x' => (16, "0x") | 'X' => (16, "0X") | _ => (10, "")
  let ds := Nat.toDigits base n
  let ds := if kind == 'X' then ds.map Char.toUpper else ds
  let body := String.ofList (List.replicate (f.precision.getD 0 - ds.length) '0' ++ ds)
  f.padNumber (v < 0) (if f.alternate then mark else "") body

def ofFloat (f : Field) (kind : Char) (v : Float) : String :=
  let p := f.precision.getD 6
  match Number.classify v with
  | .nan => f.padNumber false "" (if kind.isUpper then "NAN" else "nan")
  | .infinite negative => f.padNumber negative "" (if kind.isUpper then "INF" else "inf")
  | .finite negative b =>
    let mark := if kind.isUpper then 'E' else 'e'
    let body := match kind with
      | 'f' | 'F' => Number.fixed b p f.alternate
      | 'e' | 'E' => Number.scientific b p f.alternate mark
      | _ => Number.general b p f.alternate mark
    f.padNumber negative "" body

def ofText (f : Field) (s : String) : String :=
  f.pad (match f.precision with
    | some p => String.ofList (s.toList.take p)
    | none => s)

end Field

def fieldText (f : Field) (kind : Char) (index : Nat) (v : FieldValue) : Except String String :=
  let quote (asciiOnly : Bool) : String := match v with
    | .text s => quoted s asciiOnly
    | v => v.plain
  if kind == 's' then .ok (f.ofText v.plain)
  else if kind == 'r' then .ok (f.ofText (quote false))
  else if kind == 'a' then .ok (f.ofText (quote true))
  else if kind == 'd' || kind == 'i' || kind == 'u' then
    match v with
    | .int n => .ok (f.ofInt kind n)
    | .float x =>
      match Number.classify x with
      | .nan => .error "cannot convert float NaN to integer"
      | .infinite _ => .error "cannot convert float infinity to integer"
      | .finite .. => .ok (f.ofInt kind (Number.truncate x))
    | v =>
      .error ("%" ++ kind.toString ++ " format: a real number is required, not " ++ v.kindName)
  else if kind == 'o' || kind == 'x' || kind == 'X' then
    match v with
    | .int n => .ok (f.ofInt kind n)
    | v => .error ("%" ++ kind.toString ++ " format: an integer is required, not " ++ v.kindName)
  else if "eEfFgG".toList.contains kind then
    match v with
    | .int n => .ok (f.ofFloat kind (Number.floatOfInt n))
    | .float x => .ok (f.ofFloat kind x)
    | v => .error ("must be real number, not " ++ v.kindName)
  else if kind == 'c' then
    match v with
    | .int n =>
      if 0 ≤ n ∧ n < 0x110000 then .ok (f.pad (Char.ofNat n.toNat).toString)
      else .error "%c arg not in range(0x110000)"
    | .text s => if s.length == 1 then .ok (f.pad s) else .error "%c requires int or char"
    | .float _ => .error "%c requires int or char"
  else
    let shown := if 31 < kind.toNat && kind.toNat < 128 then kind.toString else "?"
    .error ("unsupported format character '" ++ shown ++ "' (0x"
      ++ String.ofList (Nat.toDigits 16 kind.toNat) ++ ") at index " ++ toString index)

def field : Formatter String := do
  let first ← Formatter.peek
  if first == '%' then
    discard Formatter.next
    pure "%"
  else if first == '(' then throw "format requires a mapping"
  else
    let f ← Formatter.flags ((← get).rest.length + 1) {}
    let f ← Formatter.precision (← Formatter.width f)
    let c ← Formatter.peek
    if c == 'h' || c == 'l' || c == 'L' then discard Formatter.next
    let index := (← get).index
    let kind ← Formatter.next
    let v ← Formatter.value
    match fieldText f kind index v with
    | .ok s => pure s
    | .error e => throw e

def fillIn : Nat → String → Formatter String
  | 0, done => pure done
  | fuel + 1, done => do
    match (← get).rest with
    | [] => pure done
    | '%' :: _ =>
      discard Formatter.next
      let s ← field
      fillIn fuel (done ++ s)
    | c :: _ =>
      discard Formatter.next
      fillIn fuel (done.push c)

/-- A format with its fields filled in; every value has to be used. -/
def format (form : String) (values : List FieldValue) : Except String String :=
  match (fillIn (form.length + 1) "").run { rest := form.toList, values } with
  | .error e _ => .error e
  | .ok s left =>
    if left.values.isEmpty then .ok s
    else .error "not all arguments converted during string formatting"

end NewGrf.Text
