import LanguageDetection.Decimal.Shortest
import LanguageDetection.Toml.Text

namespace LanguageDetection.Toml

open LanguageDetection.Text

/-- Digits, between two of which an underscore may stand. The underscores are left out. -/
def moreDigits (p : Char → Bool) : List Char → List Char × List Char
  | [] => ([], [])
  | '_' :: c :: rest =>
      if p c then
        let (digits, rest) := moreDigits p rest
        (c :: digits, rest)
      else ([], '_' :: c :: rest)
  | c :: rest =>
      if p c then
        let (digits, rest) := moreDigits p rest
        (c :: digits, rest)
      else ([], c :: rest)

def digits (p : Char → Bool) : Take (List Char) := do
  let first ← Take.satisfy p
  let more ← fun rest => some (moreDigits p rest)
  return first :: more

def sign : Take (List Char) := do
  match ← Take.peek? with
  | some '+' =>
      Take.char '+'
      return ['+']
  | some '-' =>
      Take.char '-'
      return ['-']
  | _ => return []

def wholeDigits : Take (List Char) := do
  match ← Take.peek? with
  | some '0' =>
      Take.char '0'
      return ['0']
  | _ => digits Char.isDigit

def bounded (n : Int) : Take Int :=
  if Int64.minValue.toInt ≤ n && n ≤ Int64.maxValue.toInt then pure n else Take.fail

def decimalInteger : Take Int := do
  let minus := (← sign) == ['-']
  let n : Int := valueOf 10 (← wholeDigits)
  bounded (if minus then -n else n)

def basedInteger (mark : Char) (base : Nat) (p : Char → Bool) : Take Int := do
  Take.chars ['0', mark]
  bounded (valueOf base (← digits p))

def integer : Take Int :=
  basedInteger 'x' 16 isHexDigit
    <|> basedInteger 'o' 8 (fun c => '0' ≤ c && c ≤ '7')
    <|> basedInteger 'b' 2 (fun c => c == '0' || c == '1')
    <|> decimalInteger

def fraction : Take (List Char) := do
  Take.char '.'
  return '.' :: (← digits Char.isDigit)

def exponent : Take (List Char) := do
  let _ ← Take.satisfy fun c => c == 'e' || c == 'E'
  let minus ← sign
  return 'e' :: minus ++ (← digits Char.isDigit)

def places : Take (List Char) := do
  match ← Take.attempt fraction with
  | some fraction => return fraction ++ ((← Take.attempt exponent).getD [])
  | none => exponent

def plainFloat : Take Float := do
  let start ← sign
  let whole ← wholeDigits
  let places ← places
  match Decimal.read? (String.ofList (start ++ whole ++ places)) with
  | some x => if x == 1.0 / 0.0 then Take.fail else return x
  | none => Take.fail

def namedFloat : Take Float := do
  let minus := (← sign) == ['-']
  let x : Float ←
    (do
      Take.chars ['i', 'n', 'f']
      return (1.0 / 0.0 : Float))
    <|> (do
      Take.chars ['n', 'a', 'n']
      return (0.0 / 0.0 : Float))
  return if minus then -x else x

def float : Take Float :=
  plainFloat <|> namedFloat

/-- A number of exactly so many digits, within bounds, and its digits. -/
def fixedDigits (count low high : Nat) : Take (List Char) := fun rest =>
  let digits := rest.take count
  let n := valueOf 10 digits
  if digits.length == count && digits.all Char.isDigit && low ≤ n && n ≤ high then
    some (digits, rest.drop count)
  else none

def isLeapYear (year : Nat) : Bool :=
  year % 4 == 0 && (year % 100 != 0 || year % 400 == 0)

def daysInMonth (year month : Nat) : Nat :=
  if month == 2 then if isLeapYear year then 29 else 28
  else if month == 4 || month == 6 || month == 9 || month == 11 then 30
  else 31

def date : Take (List Char) := do
  let year ← fixedDigits 4 0 9999
  Take.char '-'
  let month ← fixedDigits 2 1 12
  Take.char '-'
  let day ← fixedDigits 2 1 (daysInMonth (valueOf 10 year) (valueOf 10 month))
  return year ++ '-' :: month ++ '-' :: day

/-- Parts of a second: nine digits of them count, and zeros at the end are dropped. -/
def secondParts : Take (List Char) := do
  Take.char '.'
  let digits ← Take.takeWhile Char.isDigit
  if digits.isEmpty then Take.fail
  else
    let kept := ((digits.take 9).reverse.dropWhile (· == '0')).reverse
    return if kept.isEmpty then [] else '.' :: kept

def time : Take (List Char) := do
  let hour ← fixedDigits 2 0 23
  Take.char ':'
  let minute ← fixedDigits 2 0 59
  Take.char ':'
  let second ← fixedDigits 2 0 60
  let parts ← Take.attempt secondParts
  return hour ++ ':' :: minute ++ ':' :: second ++ parts.getD []

def timeOffset : Take (List Char) := do
  let mark ← Take.satisfy fun c => c == 'Z' || c == 'z' || c == '+' || c == '-'
  if mark == 'Z' || mark == 'z' then return ['Z']
  else
    let hour ← fixedDigits 2 0 23
    Take.char ':'
    let minute ← fixedDigits 2 0 59
    let mark := if hour == ['0', '0'] && minute == ['0', '0'] then '+' else mark
    return mark :: hour ++ ':' :: minute

def timeOfDate : Take (List Char) := do
  let _ ← Take.satisfy fun c => c == 'T' || c == 't' || c == ' '
  let time ← time
  return 'T' :: time ++ (← Take.attempt timeOffset).getD []

def moment : Take String := do
  match ← Take.attempt date with
  | some date => return String.ofList (date ++ (← Take.attempt timeOfDate).getD [])
  | none => return String.ofList (← time)

end LanguageDetection.Toml
