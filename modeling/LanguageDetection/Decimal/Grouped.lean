namespace LanguageDetection.Decimal

/-- Digits with a comma before every third digit from the end. -/
def groupDigits : List Char → List Char
  | [] => []
  | digit :: rest =>
      if rest.length % 3 == 0 && !rest.isEmpty then digit :: ',' :: groupDigits rest
      else digit :: groupDigits rest

def grouped (n : Nat) : String :=
  String.ofList (groupDigits (Nat.toDigits 10 n))

end LanguageDetection.Decimal
