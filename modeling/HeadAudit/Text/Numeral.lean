namespace HeadAudit.Numeral

def padded (width n : Nat) : String :=
  let digits := (toString n).toList
  String.ofList (List.replicate (width - digits.length) '0' ++ digits)

def ofInt (i : Int) : String :=
  if i < 0 then "-" ++ toString i.natAbs else toString i.natAbs

end HeadAudit.Numeral
