/-!
Days of the calendar and times of a day, with how messages show them.
-/

namespace KnotAtlas

structure Date where
  year : Nat
  month : Nat
  day : Nat
  deriving DecidableEq, Repr

namespace Date

def isLeap (year : Nat) : Bool :=
  (year % 4 = 0 && year % 100 != 0) || year % 400 = 0

def daysIn (year month : Nat) : Nat :=
  if month = 2 then (if isLeap year then 29 else 28)
  else if month ∈ [4, 6, 9, 11] then 30
  else 31

end Date

/-- A time of a day, to the millionth of a second. -/
structure TimeOfDay where
  hour : Nat
  minute : Nat
  second : Nat
  micro : Nat
  deriving DecidableEq, Repr

inductive DateFault where
  | year (n : Nat)
  | month
  | day
  | hour
  | minute
  | second
  deriving DecidableEq, Repr

def DateFault.message : DateFault → String
  | .year n => s!"year {n} is out of range"
  | .month => "month must be in 1..12"
  | .day => "day is out of range for month"
  | .hour => "hour must be in 0..23"
  | .minute => "minute must be in 0..59"
  | .second => "second must be in 0..59"

namespace Date

def ofNumbers (year month day : Nat) : Except DateFault Date :=
  if year = 0 then .error (.year year)
  else if month = 0 || 12 < month then .error .month
  else if day = 0 || daysIn year month < day then .error .day
  else .ok ⟨year, month, day⟩

def padded (width n : Nat) : String :=
  let digits := toString n
  String.ofList (List.replicate (width - digits.length) '0') ++ digits

def text (d : Date) : String :=
  s!"{padded 4 d.year}-{padded 2 d.month}-{padded 2 d.day}"

def numbers (d : Date) : String :=
  s!"{d.year}, {d.month}, {d.day}"

end Date

namespace TimeOfDay

def ofNumbers (hour minute second micro : Nat) : Except DateFault TimeOfDay :=
  if 23 < hour then .error .hour
  else if 59 < minute then .error .minute
  else if 59 < second then .error .second
  else .ok ⟨hour, minute, second, micro⟩

/-- A time of a day as text; millionths are left out if there are none. -/
def text (t : TimeOfDay) : String :=
  let fraction := if t.micro = 0 then "" else "." ++ Date.padded 6 t.micro
  s!"{Date.padded 2 t.hour}:{Date.padded 2 t.minute}:{Date.padded 2 t.second}{fraction}"

/-- The numbers of a time as messages show them; zeros at the end are left out. -/
def numbers (t : TimeOfDay) : String :=
  let minutes := s!"{t.hour}, {t.minute}"
  if t.micro != 0 then s!"{minutes}, {t.second}, {t.micro}"
  else if t.second != 0 then s!"{minutes}, {t.second}"
  else minutes

end TimeOfDay
end KnotAtlas
