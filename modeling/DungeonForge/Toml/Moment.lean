import DungeonForge.Decimal.Basic

/-!
Dates and times of TOML, read and written in one normal form: a `T` between date and time, a
capital `Z`, at most nine digits of a second's fraction and no zeros at its end.
-/

namespace DungeonForge.Toml

def digitsExactly : Nat → List Char → Option (Nat × List Char)
  | 0, cs => some (0, cs)
  | n + 1, c :: cs => do
    let v ← Decimal.digitValue? c
    let (low, rest) ← digitsExactly n cs
    return (v * Decimal.tenTo n + low, rest)
  | _ + 1, [] => none

def padded (width n : Nat) : List Char :=
  let ds := Decimal.digits n
  List.replicate (width - ds.length) '0' ++ ds

def isLeapYear (year : Nat) : Bool :=
  year % 4 = 0 && (year % 100 ≠ 0 || year % 400 = 0)

def daysIn (year month : Nat) : Nat :=
  if month = 2 then (if isLeapYear year then 29 else 28)
  else if [4, 6, 9, 11].contains month then 30
  else 31

def readDate (cs : List Char) : Option (List Char × List Char) := do
  let (year, cs) ← digitsExactly 4 cs
  let '-' :: cs := cs | none
  let (month, cs) ← digitsExactly 2 cs
  let '-' :: cs := cs | none
  let (day, cs) ← digitsExactly 2 cs
  if month < 1 ∨ 12 < month ∨ day < 1 ∨ daysIn year month < day then none
  else return (padded 4 year ++ '-' :: padded 2 month ++ '-' :: padded 2 day, cs)

/-- The first nine digits of a fraction without the zeros at the end; one digit always stays. -/
def fractionText (ds : List Char) : List Char :=
  let kept := ((ds.take 9).reverse.dropWhile (· = '0')).reverse
  if kept.isEmpty then ['0'] else kept

/-- Hours and minutes, with or without seconds; only seconds may have a fraction. -/
def readTime (cs : List Char) : Option (List Char × List Char) := do
  let (hour, cs) ← digitsExactly 2 cs
  let ':' :: cs := cs | none
  let (minute, cs) ← digitsExactly 2 cs
  if 23 < hour ∨ 59 < minute then none
  else
    let head := padded 2 hour ++ ':' :: padded 2 minute
    match cs with
    | ':' :: cs =>
      let (second, cs) ← digitsExactly 2 cs
      if 60 < second then none
      else
        let head := head ++ ':' :: padded 2 second
        match cs with
        | '.' :: cs =>
          let ds := cs.takeWhile Char.isDigit
          if ds.isEmpty then none
          else return (head ++ '.' :: fractionText ds, cs.dropWhile Char.isDigit)
        | cs => return (head, cs)
    | cs => return (head, cs)

def readOffset (cs : List Char) : Option (List Char × List Char) :=
  match cs with
  | 'Z' :: cs => some (['Z'], cs)
  | 'z' :: cs => some (['Z'], cs)
  | sign :: cs => do
    if sign ≠ '+' ∧ sign ≠ '-' then none
    else
      let (hour, cs) ← digitsExactly 2 cs
      let ':' :: cs := cs | none
      let (minute, cs) ← digitsExactly 2 cs
      if 23 < hour ∨ 59 < minute then none
      else
        let sign := if hour = 0 ∧ minute = 0 then '+' else sign
        return (sign :: padded 2 hour ++ ':' :: padded 2 minute, cs)
  | [] => none

def moment? (cs : List Char) : Option (List Char) :=
  match readDate cs with
  | some (date, []) => some date
  | some (date, sep :: cs) =>
    if sep = 'T' ∨ sep = 't' ∨ sep = ' ' then
      match readTime cs with
      | some (time, []) => some (date ++ 'T' :: time)
      | some (time, rest) =>
        match readOffset rest with
        | some (offset, []) => some (date ++ 'T' :: time ++ offset)
        | _ => none
      | none => none
    else none
  | none =>
    match readTime cs with
    | some (time, []) => some time
    | _ => none

end DungeonForge.Toml
