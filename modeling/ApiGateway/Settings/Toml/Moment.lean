import ApiGateway.Number.Integer

/-!
# Dates and times

A moment is a date, a time, or both with an offset perhaps. It is kept as a text: `T` between date and
time, no zeros at the end of a fraction of a second, and `Z` or a sign before the offset.
-/

namespace ApiGateway.Settings.Toml.Moment

/-- The number of two digits. -/
def pair? (a b : Char) : Option Nat :=
  if a.isDigit && b.isDigit then Number.natOfDigits? 10 [a, b] else none

/-- Holds for years with a day more. -/
def isLeap (year : Nat) : Bool :=
  year % 4 == 0 && (year % 100 != 0 || year % 400 == 0)

/-- How many days a month has; a number that is no month has none. -/
def days (year month : Nat) : Nat :=
  if month = 2 then (if isLeap year then 29 else 28)
  else if month ∈ [4, 6, 9, 11] then 30
  else if 1 ≤ month && month ≤ 12 then 31
  else 0

/-- The date that the text begins with, and what follows it. -/
def date? : List Char → Option (List Char × List Char)
  | a :: b :: c :: d :: '-' :: e :: f :: '-' :: g :: h :: rest => do
    let century ← pair? a b
    let year ← pair? c d
    let month ← pair? e f
    let day ← pair? g h
    if 1 ≤ day && day ≤ days (century * 100 + year) month then
      return ([a, b, c, d, '-', e, f, '-', g, h], rest)
    else none
  | _ => none

/-- The fraction of a second that the text begins with: at most nine digits, without zeros at their end
but with one digit at least. -/
def fraction? : List Char → Option (List Char × List Char)
  | '.' :: cs =>
    let (ds, rest) := cs.span Char.isDigit
    if ds.isEmpty then none
    else
      let kept := ((ds.take 9).reverse.dropWhile (· == '0')).reverse
      some ('.' :: (if kept.isEmpty then ['0'] else kept), rest)
  | rest => some ([], rest)

/-- The time that the text begins with; seconds may be left out. -/
def time? : List Char → Option (List Char × List Char)
  | a :: b :: ':' :: c :: d :: rest => do
    let hour ← pair? a b
    let minute ← pair? c d
    if 23 < hour || 59 < minute then none
    let clock := [a, b, ':', c, d]
    match rest with
    | ':' :: e :: f :: rest => do
      let second ← pair? e f
      if 60 < second then none
      let (fraction, rest) ← fraction? rest
      return (clock ++ [':', e, f] ++ fraction, rest)
    | rest => return (clock, rest)
  | _ => none

/-- The offset that the text consists of, or nothing. -/
def offset? : List Char → Option (List Char)
  | [] => some []
  | ['Z'] => some ['Z']
  | ['z'] => some ['Z']
  | [sign, a, b, ':', c, d] => do
    let hours ← pair? a b
    let minutes ← pair? c d
    if 23 < hours || 59 < minutes then none
    let sign := if hours = 0 && minutes = 0 then (if sign = '-' then '+' else sign) else sign
    if sign = '+' || sign = '-' then return [sign, a, b, ':', c, d] else none
  | _ => none

/-- The text of the moment that the characters spell. -/
def text? (cs : List Char) : Option (List Char) :=
  match date? cs with
  | some (date, []) => some date
  | some (date, mark :: rest) => do
    if mark != 'T' && mark != 't' && mark != ' ' then none
    let (time, rest) ← time? rest
    return date ++ 'T' :: time ++ (← offset? rest)
  | none =>
    match time? cs with
    | some (time, []) => some time
    | _ => none

end ApiGateway.Settings.Toml.Moment
