namespace CatalogSearch.Calendar

structure Date where
  year : Nat
  month : Nat
  day : Nat
  deriving DecidableEq

def isLeap (year : Nat) : Bool := year % 4 == 0 && (year % 100 != 0 || year % 400 == 0)

def daysIn (year month : Nat) : Nat :=
  if month = 2 then (if isLeap year then 29 else 28)
  else if month = 4 ∨ month = 6 ∨ month = 9 ∨ month = 11 then 30
  else 31

def Date.isValid (d : Date) : Bool :=
  1 ≤ d.year && d.year ≤ 9999 && 1 ≤ d.month && d.month ≤ 12 && 1 ≤ d.day && d.day ≤ daysIn d.year d.month

def daysBefore (year month : Nat) : Nat := (List.range (month - 1)).foldl (fun days m => days + daysIn year (m + 1)) 0

def daysBeforeYear (year : Nat) : Nat := (year - 1) * 365 + (year - 1) / 4 - (year - 1) / 100 + (year - 1) / 400

def Date.ordinal (d : Date) : Nat := daysBeforeYear d.year + daysBefore d.year d.month + d.day

def Date.weekday (d : Date) : Nat := (d.ordinal + 6) % 7

def daysInYear (year : Nat) : Nat := if isLeap year then 366 else 365

def ofYearDay (year n : Nat) : Date :=
  let month := (List.range 12).countP fun m => daysBefore year (m + 1) ≤ n
  ⟨year, month, n - daysBefore year month + 1⟩

def nearYear (year : Nat) (n : Int) : Date :=
  if n < 0 then ofYearDay (year - 1) (n + daysInYear (year - 1)).toNat
  else if n < daysInYear year then ofYearDay year n.toNat
  else ofYearDay (year + 1) (n - daysInYear year).toNat

/-- The Monday on which week 1 of a year begins, in days after the first of January: it is the week
that holds the first Thursday. -/
def firstMonday (year : Nat) : Int :=
  let newYear := (⟨year, 1, 1⟩ : Date).weekday
  if newYear > 3 then 7 - newYear else -newYear

def weeksIn (year : Nat) : Nat :=
  let newYear := (⟨year, 1, 1⟩ : Date).weekday
  if newYear = 3 ∨ (newYear = 2 ∧ isLeap year) then 53 else 52

def ofWeek? (year week day : Nat) : Option Date := do
  guard (1 ≤ year && 1 ≤ week && week ≤ weeksIn year && 1 ≤ day && day ≤ 7)
  let date := nearYear year (firstMonday year + 7 * (week - 1 : Nat) + (day - 1 : Nat))
  guard date.isValid
  pure date

end CatalogSearch.Calendar
