namespace NewGrf

def hexText (width : Nat) (n : Int) : String :=
  let ds := (Nat.toDigits 16 n.natAbs).map Char.toUpper
  let sign := if n < 0 then "-" else ""
  sign ++ String.ofList (List.replicate (width - ds.length - sign.length) '0' ++ ds)

def hexLower (n : Int) : String := (hexText 1 n).toLower

end NewGrf
