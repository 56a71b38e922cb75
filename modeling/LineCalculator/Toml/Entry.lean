/-
Entries and their values.

An entry is a path of keys, an equals sign and a value. Values nest: an array holds values, with
comments and line breaks between them, and an inline table holds entries on one line. They are read
as deep as there is reach for, and a value beyond it ends the reading.

* `readValue` — the value at the front of a text;
* `readEntry` — the path and the value of an entry.
-/
import LineCalculator.Toml.Moment

namespace LineCalculator.Toml

/-- Whether a character may stand in a key without quotes. -/
def isBareKey (c : Char) : Bool :=
  ('a' ≤ c && c ≤ 'z') || ('A' ≤ c && c ≤ 'Z') || isDecimal c || c = '-' || c = '_'

/-- Whether a key may start with a character. -/
def startsKey (c : Char) : Bool :=
  isBareKey c || c = '\x22' || c = '\x27'

/-- One key of a path. -/
def readKey : Reader Key
  | '\x22' :: s => do return (← readBasic s).past _
  | '\x27' :: s => do return (← readLiteral s).past _
  | c :: s =>
    if isBareKey c then
      .ok ⟨c :: s.takeWhile isBareKey, s.dropWhile isBareKey, length_dropWhile_lt isBareKey c s⟩
    else .error .malformed
  | [] => .error .malformed

/-- A path, with the gaps around its keys. -/
def readPath (s : List Char) : Except Flaw (Taken Path s) := do
  let key := (← readKey s).dropGap
  match h : key.rest with
  | '.' :: rest => do
    let more ← readPath (skipGap rest)
    return key.andThen h (more.pastGap.map (key.value :: ·))
  | _ => return key.map fun k => [k]
termination_by s.length
decreasing_by exact Nat.lt_of_le_of_lt (length_skipGap_le rest) (key.length_tail_lt h)

/-- The truth value at the front of a text. -/
def readBoolean? (s : List Char) : Option (Taken Value s) :=
  match s with
  | 't' :: 'r' :: 'u' :: 'e' :: rest => some ⟨.boolean true, rest, by simp; omega⟩
  | 'f' :: 'a' :: 'l' :: 's' :: 'e' :: rest => some ⟨.boolean false, rest, by simp; omega⟩
  | _ => none

/-- A value that holds no others. -/
def readScalar : Reader Value := fun s =>
  if s.head? = some '\x22' ∨ s.head? = some '\x27' then do
    return (← readQuoted s).map .text
  else
    match readBoolean? s with
    | some r => .ok r
    | none =>
      match readMoment? s with
      | some r => .ok r
      | none => readNumeral s

/-- An inline table with an entry of its own, unless the path leads through or to an entry that is
there, or through one of the `closed` paths. -/
def addInline? (closed : List Path) (path : Path) (value : Value) (t : Table) : Option Table :=
  match path.getLast? with
  | some key =>
    if closed.any (·.isPrefixOf path) then none
    else t.alter? false (Table.add? key value) path.dropLast
  | none => none

mutual

/-- The value at the front of a text, within some collections. -/
def readValue (reach : Reach) (around : List Enclosure) (s : List Char) :
    Except Flaw (Taken Value s) :=
  if reach around s then
    match s with
    | '[' :: rest => do return (← readElements reach (.array :: around) [] rest).past _
    | '{' :: rest =>
      have le := length_skipGap_le rest
      match _h : skipGap rest with
      | '}' :: rest' => .ok ⟨.table [], rest', Nat.lt_succ_of_lt (length_tail_lt le _h)⟩
      | _ => do
        return (← readInline reach (.table :: around) [] [] (skipGap rest)).within
          (Nat.le_succ_of_le le)
    | s => readScalar s
  else .error .tooDeep
termination_by (s.length, 0)
decreasing_by all_goals (simp only [Prod.lex_def, List.length_cons]; omega)

/-- The rest of an array whose first elements are given, the latest of them first. -/
def readElements (reach : Reach) (around : List Enclosure) (done : List Value) (s : List Char) :
    Except Flaw (Taken Value s) := do
  let before ← skipFiller s
  have le := before.le
  match _h : before.rest with
  | ']' :: rest => return ⟨.array done.reverse, rest, length_tail_lt le _h⟩
  | _ => do
    let element ← readValue reach around before.rest
    have shorter := element.shorter
    let after ← skipFiller element.rest
    have le' := after.le
    match _h' : after.rest with
    | ']' :: rest =>
      return ⟨.array (element.value :: done).reverse, rest, by
        have := length_tail_lt le' _h'; omega⟩
    | ',' :: rest => do
      have lt := length_tail_lt le' _h'
      let more ← readElements reach around (element.value :: done) rest
      return more.within (by omega)
    | _ => .error .malformed
termination_by (s.length, 1)
decreasing_by all_goals (simp only [Prod.lex_def]; omega)

/-- The rest of an inline table, from an entry on, with its first entries and the paths that they
have closed. -/
def readInline (reach : Reach) (around : List Enclosure) (t : Table) (closed : List Path)
    (s : List Char) : Except Flaw (Taken Value s) := do
  let entry ← readEntry reach around s
  have shorter := entry.shorter
  match addInline? closed entry.value.1 entry.value.2 t with
  | none => .error .malformed
  | some t =>
    have le := length_skipGap_le entry.rest
    match _h : skipGap entry.rest with
    | '}' :: rest => return ⟨.table t, rest, by have := length_tail_lt le _h; omega⟩
    | ',' :: rest => do
      have lt := length_tail_lt le _h
      have le' := length_skipGap_le rest
      let closed := if entry.value.2.isCollection then entry.value.1 :: closed else closed
      let more ← readInline reach around t closed (skipGap rest)
      return more.within (by omega)
    | _ => .error .malformed
termination_by (s.length, 1)
decreasing_by all_goals (simp only [Prod.lex_def, true_and]; omega)

/-- The path and the value of an entry. -/
def readEntry (reach : Reach) (around : List Enclosure) (s : List Char) :
    Except Flaw (Taken (Path × Value) s) := do
  let path ← readPath s
  have shorter := path.shorter
  match _h : path.rest with
  | '=' :: rest => do
    have lt := length_tail_lt (Nat.le_refl _) _h
    have le := length_skipGap_le rest
    let r ← readValue reach around (skipGap rest)
    return (r.map (path.value, ·)).within (by omega)
  | _ => .error .malformed
termination_by (s.length, 0)
decreasing_by all_goals (simp only [Prod.lex_def]; omega)

end

end LineCalculator.Toml
