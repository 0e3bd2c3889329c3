import DocStream.Toml.Reader.Number

/-! Dates and times, read into one written form. -/

namespace DocStream.Toml.Reader

def digits (count least most : Nat) : Reader (List Char) := do
  let cs := (← get).take count
  let n := Text.natOf 10 cs
  if cs.length = count && cs.all Char.isDigit && least ≤ n && n ≤ most then
    set ((← get).drop count)
    return cs
  else fail

def daysIn (year month : Nat) : Nat :=
  if month = 2 then
    if year % 4 = 0 && (year % 100 ≠ 0 || year % 400 = 0) then 29 else 28
  else if [4, 6, 9, 11].contains month then 30
  else 31

def date : Reader (List Char) := do
  let year ← digits 4 0 9999
  exactly ['-']
  let month ← digits 2 1 12
  exactly ['-']
  let day ← digits 2 1 (daysIn (Text.natOf 10 year) (Text.natOf 10 month))
  return year ++ '-' :: month ++ '-' :: day

def secondFraction : Reader (List Char) := do
  if ← take? '.' then
    let ds ← run Char.isDigit
    if ds.isEmpty then fail
    let kept := ((ds.take 9).reverse.dropWhile (· = '0')).reverse
    return if kept.isEmpty then [] else '.' :: kept
  else return []

def time : Reader (List Char) := do
  let hour ← digits 2 0 23
  exactly [':']
  let minute ← digits 2 0 59
  exactly [':']
  let second ← digits 2 0 60
  return hour ++ ':' :: minute ++ ':' :: second ++ (← secondFraction)

def zone : Reader (List Char) := do
  if (← take? 'Z') || (← take? 'z') then return ['Z']
  else
    match ← sign with
    | none => return []
    | some west =>
      let hour ← digits 2 0 23
      exactly [':']
      let minute ← digits 2 0 59
      let none? := Text.natOf 10 (hour ++ minute) = 0
      return (if west && !none? then '-' else '+') :: hour ++ ':' :: minute

def timeOfDate : Reader (List Char) := do
  if (← take? 'T') || (← take? 't') || (← take? ' ') then
    let t ← time
    return 'T' :: t ++ (← zone)
  else fail

def moment : Reader Toml := do
  match ← attempt date with
  | some d =>
    let t ← attempt timeOfDate
    return .moment (String.ofList (d ++ t.getD []))
  | none => return .moment (String.ofList (← time))

end DocStream.Toml.Reader
