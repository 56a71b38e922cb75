/-
Dates and times of a document.

A date is written as year, month and day with hyphens between them, a time as hour, minute and
second with colons, perhaps with a fraction of a second. A date may be followed by a time, behind a
`T` or a space, and this by its offset from universal time. Only days of the calendar are dates.
-/
import LineCalculator.Toml.Numeral

namespace LineCalculator.Toml

/-- The number between two bounds that two digits at the front of a text stand for, and the text
after them. -/
def twoDigits? (low high : Nat) : List Char → Option (Nat × List Char)
  | c :: d :: rest =>
    let n := numberIn 10 [c, d]
    if isDecimal c ∧ isDecimal d ∧ low ≤ n ∧ n ≤ high then some (n, rest) else none
  | _ => none

/-- The text after a character that it has to start with. -/
def skipChar? (c : Char) : List Char → Option (List Char)
  | d :: rest => if d = c then some rest else none
  | [] => none

theorem length_twoDigits?_lt {low high n : Nat} {s rest : List Char}
    (h : twoDigits? low high s = some (n, rest)) : rest.length < s.length := by
  unfold twoDigits? at h
  split at h
  · simp at h
    obtain ⟨-, -, rfl⟩ := h
    simp only [List.length_cons]
    omega
  · cases h

theorem length_skipChar?_lt {c : Char} {s rest : List Char} (h : skipChar? c s = some rest) :
    rest.length < s.length := by
  unfold skipChar? at h
  split at h
  · simp at h
    obtain ⟨-, rfl⟩ := h
    simp
  · cases h

/-- The number of days of a month. -/
def daysIn (year month : Nat) : Nat :=
  if month = 2 then
    if year % 4 = 0 ∧ (year % 100 ≠ 0 ∨ year % 400 = 0) then 29 else 28
  else if month = 4 ∨ month = 6 ∨ month = 9 ∨ month = 11 then 30
  else 31

/-- The text after a date. -/
def skipDate? (s : List Char) : Option (List Char) := do
  let (century, s) ← twoDigits? 0 99 s
  let (year, s) ← twoDigits? 0 99 s
  let s ← skipChar? '-' s
  let (month, s) ← twoDigits? 1 12 s
  let s ← skipChar? '-' s
  let (day, s) ← twoDigits? 1 31 s
  let year := 100 * century + year
  if 0 < year ∧ day ≤ daysIn year month then some s else none

/-- The text after hours and minutes. -/
def skipClock? (s : List Char) : Option (List Char) := do
  let (_, s) ← twoDigits? 0 23 s
  let s ← skipChar? ':' s
  let (_, s) ← twoDigits? 0 59 s
  return s

/-- The text after the fraction of a second, or the whole text if it starts with none. -/
def skipSubsecond : List Char → List Char
  | '.' :: c :: rest => if isDecimal c then rest.dropWhile isDecimal else '.' :: c :: rest
  | s => s

/-- The text after a time. -/
def skipTime? (s : List Char) : Option (List Char) := do
  let s ← skipClock? s
  let s ← skipChar? ':' s
  let (_, s) ← twoDigits? 0 59 s
  return skipSubsecond s

/-- The text after an offset from universal time, or the whole text if it starts with none. -/
def skipOffset (s : List Char) : List Char :=
  match s with
  | c :: rest =>
    if c = 'Z' ∨ c = 'z' then rest
    else if c = '+' ∨ c = '-' then (skipClock? rest).getD s
    else s
  | [] => s

/-- The text after the time that follows a date, or the whole text if none does. -/
def skipTimeOfDay (s : List Char) : List Char :=
  match s with
  | c :: rest =>
    if c = 'T' ∨ c = 't' ∨ c = ' ' then ((skipTime? rest).map skipOffset).getD s else s
  | [] => s

theorem length_skipDate?_lt {s rest : List Char} (h : skipDate? s = some rest) :
    rest.length < s.length := by
  simp only [skipDate?, Option.bind_eq_bind, Option.bind_eq_some_iff, Prod.exists] at h
  obtain ⟨_, _, h₁, _, _, h₂, _, h₃, _, _, h₄, _, h₅, _, _, h₆, h⟩ := h
  have := length_twoDigits?_lt h₁
  have := length_twoDigits?_lt h₂
  have := length_skipChar?_lt h₃
  have := length_twoDigits?_lt h₄
  have := length_skipChar?_lt h₅
  have := length_twoDigits?_lt h₆
  split at h <;> cases h
  omega

theorem length_skipClock?_lt {s rest : List Char} (h : skipClock? s = some rest) :
    rest.length < s.length := by
  simp only [skipClock?, Option.bind_eq_bind, Option.bind_eq_some_iff, Prod.exists] at h
  obtain ⟨_, _, h₁, _, h₂, _, _, h₃, h⟩ := h
  have := length_twoDigits?_lt h₁
  have := length_skipChar?_lt h₂
  have := length_twoDigits?_lt h₃
  cases h
  omega

theorem length_skipSubsecond_le (s : List Char) : (skipSubsecond s).length ≤ s.length := by
  unfold skipSubsecond
  split
  next rest =>
    have := length_dropWhile_le isDecimal rest
    split <;> simp
    omega
  next => simp

theorem length_skipTime?_lt {s rest : List Char} (h : skipTime? s = some rest) :
    rest.length < s.length := by
  simp only [skipTime?, Option.bind_eq_bind, Option.bind_eq_some_iff, Prod.exists] at h
  obtain ⟨_, h₁, _, h₂, _, s, h₃, h⟩ := h
  have := length_skipClock?_lt h₁
  have := length_skipChar?_lt h₂
  have := length_twoDigits?_lt h₃
  have := length_skipSubsecond_le s
  cases h
  omega

theorem length_skipOffset_le (s : List Char) : (skipOffset s).length ≤ s.length := by
  unfold skipOffset
  split
  next c rest =>
    split
    · simp
    · split
      · match h : skipClock? rest with
        | some s => have := length_skipClock?_lt h; simp; omega
        | none => simp
      · simp
  next => simp

theorem length_skipTimeOfDay_le (s : List Char) : (skipTimeOfDay s).length ≤ s.length := by
  unfold skipTimeOfDay
  split
  next c rest =>
    split
    · match h : skipTime? rest with
      | some s =>
        have := length_skipTime?_lt h
        have := length_skipOffset_le s
        simp; omega
      | none => simp
    · simp
  next => simp

/-- A date, a time, or both. -/
def readMoment? (s : List Char) : Option (Taken Value s) :=
  let moment (rest : List Char) (shorter : rest.length < s.length) :=
    some ⟨.moment (s.take (s.length - rest.length)), rest, shorter⟩
  match h : skipDate? s with
  | some rest =>
    moment (skipTimeOfDay rest)
      (Nat.lt_of_le_of_lt (length_skipTimeOfDay_le rest) (length_skipDate?_lt h))
  | none =>
    match h : skipTime? s with
    | some rest => moment rest (length_skipTime?_lt h)
    | none => none

end LineCalculator.Toml
