import Snippet.Toml.Quoted

/-! Numbers and times of TOML: which words are written forms of them. -/

set_option autoImplicit false

namespace Snippet.Toml

/-- Digits of a base, with single underscores between them. -/
def areDigits (isDigit : Char → Bool) : Text → Bool
  | [] => false
  | [c] => isDigit c
  | c :: '_' :: r => isDigit c && areDigits isDigit r
  | c :: r => isDigit c && areDigits isDigit r

def valueOfDigits (base : Nat) (digits : Text) : Nat :=
  (digits.filter (· != '_')).foldl (fun n c => n * base + (hexValue? c).getD 0) 0

/-- A whole number without a sign and without a zero in front. -/
def isDecimal (s : Text) : Bool :=
  areDigits Char.isDigit s && (s == ['0'] || s.head? != some '0')

def splitSign : Text → Bool × Text
  | '-' :: r => (true, r)
  | '+' :: r => (false, r)
  | s => (false, s)

def inRange (n : Int) : Bool := -9223372036854775808 ≤ n && n ≤ 9223372036854775807

def isBinaryDigit (c : Char) : Bool := c == '0' || c == '1'

def isOctalDigit (c : Char) : Bool := '0' ≤ c && c ≤ '7'

def isHexDigit (c : Char) : Bool := (hexValue? c).isSome

def integer? (word : Text) : Option Int :=
  let based (isDigit : Char → Bool) (base : Nat) (digits : Text) : Option Int :=
    if areDigits isDigit digits then some (valueOfDigits base digits) else none
  let value? :=
    match word with
    | '0' :: 'x' :: r => based isHexDigit 16 r
    | '0' :: 'o' :: r => based isOctalDigit 8 r
    | '0' :: 'b' :: r => based isBinaryDigit 2 r
    | _ =>
      let (negative, digits) := splitSign word
      if isDecimal digits then
        let n : Int := valueOfDigits 10 digits
        some (if negative then -n else n)
      else none
  value?.filter inRange

/-- The smallest number that is rounded to infinity in 64 bits. -/
def overflow : Nat := Nat.pow 2 1024 - Nat.pow 2 970

/-- Whether a number of 64 bits can hold `digits` times a power of ten. -/
def isFinite (digits : Text) (exponent : Int) : Bool :=
  let n := valueOfDigits 10 digits
  if n = 0 then true
  else if 400 < exponent then false
  else if exponent < -(400 + digits.length : Nat) then true
  else n * Nat.pow 10 exponent.toNat < overflow * Nat.pow 10 (-exponent).toNat

/-- Whether a word is the written form of a number with a fraction or an exponent.
A positive number beyond the range is none. -/
def isFloat (word : Text) : Bool :=
  let (negative, s) := splitSign word
  if s == "inf".toList || s == "nan".toList then true
  else
    let (mantissa, power?) :=
      match Text.cutAt? (fun t => if t.head?.any (fun c => c == 'e' || c == 'E') then some t.tail else none) s with
      | some (before, after) => (before, some after)
      | none => (s, none)
    let (whole, fraction?) :=
      match Text.cut? ['.'] mantissa with
      | some (before, after) => (before, some after)
      | none => (mantissa, none)
    let (negativePower, power) := splitSign (power?.getD ['0'])
    let fraction := fraction?.getD []
    let exponent : Int := valueOfDigits 10 power
    (power?.isSome || fraction?.isSome) && isDecimal whole &&
      (fraction?.isNone || areDigits Char.isDigit fraction) && areDigits Char.isDigit power &&
      (negative || isFinite (whole ++ fraction)
        ((if negativePower then -exponent else exponent) - (fraction.filter (· != '_')).length))

def readDigits (count : Nat) (s : Text) : Option (Nat × Text) :=
  let digits := s.take count
  if digits.length == count && digits.all Char.isDigit then
    some (valueOfDigits 10 digits, s.drop count)
  else none

def isLeapYear (year : Nat) : Bool := year % 4 == 0 && (year % 100 != 0 || year % 400 == 0)

def daysOfMonth (year month : Nat) : Nat :=
  if month == 2 then if isLeapYear year then 29 else 28
  else if month == 4 || month == 6 || month == 9 || month == 11 then 30
  else 31

def afterDate? (s : Text) : Option Text := do
  let (year, s) ← readDigits 4 s
  let s ← Text.after? ['-'] s
  let (month, s) ← readDigits 2 s
  let s ← Text.after? ['-'] s
  let (day, s) ← readDigits 2 s
  if 1 ≤ month && month ≤ 12 && 1 ≤ day && day ≤ daysOfMonth year month then some s else none

def afterTime? (s : Text) : Option Text := do
  let (hour, s) ← readDigits 2 s
  let s ← Text.after? [':'] s
  let (minute, s) ← readDigits 2 s
  let s ← Text.after? [':'] s
  let (second, s) ← readDigits 2 s
  if hour ≤ 23 && minute ≤ 59 && second ≤ 60 then
    match s with
    | '.' :: r =>
      let rest := r.dropWhile Char.isDigit
      if rest.length < r.length then some rest else none
    | _ => some s
  else none

def isZone (s : Text) : Bool :=
  match s with
  | [] => true
  | ['Z'] | ['z'] => true
  | sign :: r =>
    (sign == '+' || sign == '-') &&
      (do
        let (hour, s) ← readDigits 2 r
        let s ← Text.after? [':'] s
        let (minute, s) ← readDigits 2 s
        some (s.isEmpty && hour ≤ 23 && minute ≤ 59)).getD false

def isTime (s : Text) : Bool := afterTime? s == some []

def isDate (s : Text) : Bool := afterDate? s == some []

def isZonedTime (s : Text) : Bool := (afterTime? s).any isZone

def isDateTime (s : Text) : Bool :=
  match afterDate? s with
  | some (c :: r) => (c == 'T' || c == 't') && isZonedTime r
  | _ => false

end Snippet.Toml
