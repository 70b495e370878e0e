import GraphPrograms.Toml.Value

/-!
Numbers, truth values and dates of a TOML document: the values that stand without quotes.
-/

namespace GraphPrograms.Toml

/-- Digits without the underscores between them; none if there are no digits, or if an underscore
does not stand between two of them. -/
def digits? (isDigit : Char → Bool) (text : Text) : Option Text :=
  let pieces := text.splitOn '_'
  if pieces.all fun piece => !piece.isEmpty && piece.all isDigit then some pieces.flatten
  else none

/-- The value of a digit in bases up to sixteen. -/
def digitValue (digit : Char) : Nat :=
  if digit.isDigit then digit.toNat - '0'.toNat
  else if digit.isLower then digit.toNat - 'a'.toNat + 10
  else digit.toNat - 'A'.toNat + 10

def isHexDigit (digit : Char) : Bool :=
  digit.isDigit || ('a' ≤ digit && digit ≤ 'f') || ('A' ≤ digit && digit ≤ 'F')

/-- The number that digits of a base spell. -/
def numberOf (base : Nat) (digits : Text) : Nat :=
  digits.foldl (fun number digit => base * number + digitValue digit) 0

/-- Splits the sign off a number. -/
def signed : Text → Bool × Text
  | '-' :: rest => (true, rest)
  | '+' :: rest => (false, rest)
  | text => (false, text)

/-- Decimal digits that start with zero only if zero is all there is. -/
def wholeDigits? (text : Text) : Option Text := do
  let digits ← digits? Char.isDigit text
  if digits.length = 1 ∨ digits.head? ≠ some '0' then some digits else none

/-- An integer, decimal with a sign or in another base without one. -/
def integer? (text : Text) : Option Int :=
  let inBase := fun (base : Nat) (isDigit : Char → Bool) (rest : Text) =>
    (digits? isDigit rest).map fun digits => (numberOf base digits : Int)
  match text with
  | '0' :: 'x' :: rest => inBase 16 isHexDigit rest
  | '0' :: 'o' :: rest => inBase 8 (fun digit => '0' ≤ digit && digit ≤ '7') rest
  | '0' :: 'b' :: rest => inBase 2 (fun digit => digit == '0' || digit == '1') rest
  | _ =>
      let (negative, rest) := signed text
      (wholeDigits? rest).map fun digits =>
        if negative then -(numberOf 10 digits : Int) else numberOf 10 digits

/-- Whether a double holds `mantissa * 10 ^ exponent`, that is, whether the nearest one is not
infinite. -/
def isFinite (mantissa : Nat) (digits : Nat) (exponent : Int) : Bool :=
  if mantissa = 0 then true
  else if exponent + digits < 300 then true
  else if 330 < exponent + digits ∧ 330 < exponent then false
  else
    decide (mantissa * Nat.pow 10 exponent.toNat <
      (1 <<< 1024 - 1 <<< 970) * Nat.pow 10 (-exponent).toNat)

/-- The finite part of a float, after its sign. -/
def unsignedFloat? (text : Text) : Option Value := do
  let mantissa := text.takeWhile fun mark => mark != 'e' && mark != 'E'
  let tail := text.drop mantissa.length
  let exponent : Int ← match tail with
    | [] => some 0
    | _ :: rest =>
        let (negative, digits) := signed rest
        (digits? Char.isDigit digits).map fun digits =>
          if negative then -(numberOf 10 digits : Int) else numberOf 10 digits
  let (whole, fraction) ← match Text.cut? '.' mantissa with
    | none => if tail.isEmpty then none else (wholeDigits? mantissa).map fun digits => (digits, [])
    | some (left, right) => do
        let whole ← wholeDigits? left
        let fraction ← digits? Char.isDigit right
        some (whole, fraction)
  let digits := (whole ++ fraction).dropWhile (· == '0')
  some (.float (isFinite (numberOf 10 digits) digits.length (exponent - fraction.length)))

def float? (text : Text) : Option Value :=
  let rest := (signed text).2
  if rest = "inf".toList ∨ rest = "nan".toList then some (.float true) else unsignedFloat? rest

/-- The number of two digits, and the rest. -/
def twoDigits? : Text → Option (Nat × Text)
  | first :: second :: rest =>
      if first.isDigit && second.isDigit then some (numberOf 10 [first, second], rest) else none
  | _ => none

def skip? (mark : Char) : Text → Option Text
  | first :: rest => if first = mark then some rest else none
  | [] => none

/-- The number of days of a month. -/
def daysIn (year month : Nat) : Nat :=
  if month = 2 then
    if year % 4 = 0 ∧ (year % 100 ≠ 0 ∨ year % 400 = 0) then 29 else 28
  else if month = 4 ∨ month = 6 ∨ month = 9 ∨ month = 11 then 30
  else 31

/-- Reads a day, `2024-02-29`. -/
def day? (text : Text) : Option Text := do
  let (century, rest) ← twoDigits? text
  let (years, rest) ← twoDigits? rest
  let (month, rest) ← twoDigits? (← skip? '-' rest)
  let (day, rest) ← twoDigits? (← skip? '-' rest)
  if 1 ≤ month ∧ month ≤ 12 ∧ 1 ≤ day ∧ day ≤ daysIn (100 * century + years) month then some rest
  else none

/-- Reads a time, `07:32`, `07:32:00` or `07:32:00.5`. -/
def time? (text : Text) : Option Text := do
  let (hour, rest) ← twoDigits? text
  let (minute, rest) ← twoDigits? (← skip? ':' rest)
  if 24 < hour ∨ 59 < minute then none
  else
    match rest with
    | ':' :: rest => do
        let (second, rest) ← twoDigits? rest
        if 60 < second then none
        else
          match rest with
          | '.' :: fraction =>
              if (fraction.head?).any Char.isDigit then some (fraction.dropWhile Char.isDigit)
              else none
          | _ => some rest
    | _ => some rest

/-- Reads what may follow a day and a time: nothing, `Z`, or a distance in hours and minutes. -/
def zone? : Text → Option Text
  | [] => some []
  | first :: rest =>
      if first = 'Z' ∨ first = 'z' then some rest
      else if first = '+' ∨ first = '-' then do
        let (hours, rest) ← twoDigits? rest
        let (minutes, rest) ← twoDigits? (← skip? ':' rest)
        if 60 * hours + minutes ≤ 24 * 60 then some rest else none
      else none

/-- Whether a text is a day, a time or both. -/
def isMoment (text : Text) : Bool :=
  match day? text with
  | some [] => true
  | some (between :: rest) =>
      (between == 'T' || between == 't' || between == ' ') &&
        ((time? rest).bind zone?) == some []
  | none => time? text == some []

/-- The value of an unquoted text. -/
def unquoted? (text : Text) : Option Value :=
  if text = "true".toList then some (.boolean true)
  else if text = "false".toList then some (.boolean false)
  else if isMoment text then some .moment
  else
    match integer? text with
    | some number => some (.integer number)
    | none => float? text

end GraphPrograms.Toml
