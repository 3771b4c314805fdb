import ChatRelay.Text.Digit
import ChatRelay.Toml.Value

/-!
# TOML strings, numbers and moments

Readers for the values without parts. A reader takes the characters that are left and gives what it
read with those left behind it, or nothing if they do not start with it.
-/

namespace ChatRelay.Toml

/-- A reader of a `α` from the front of a text. -/
abbrev Reader (α : Type) := List Char → Option (α × List Char)

/-- Blanks within a line. -/
def isBlank (c : Char) : Bool := c = ' ' || c = '\t'

/-- Characters that stand for themselves in a comment. -/
def isPlain (c : Char) : Bool := c = '\t' || (' ' ≤ c && c != '\x7f')

/-- Characters that stand for themselves between double quotes. -/
def isBasic (c : Char) : Bool := isPlain c && c != '"' && c != '\\'

/-- Characters that stand for themselves between single quotes. -/
def isLiteral (c : Char) : Bool := isPlain c && c != '\''

/-- Leave out blanks. -/
def skipBlanks (s : List Char) : List Char := s.dropWhile isBlank

/-- Read the end of a line. -/
def newline? : List Char → Option (List Char)
  | '\n' :: rest => some rest
  | '\r' :: '\n' :: rest => some rest
  | _ => none

/-- Leave out a comment, if one starts here. -/
def skipComment : List Char → List Char
  | '#' :: rest => rest.dropWhile isPlain
  | s => s

/-- Read one given character. -/
def char? (c : Char) : List Char → Option (List Char)
  | d :: rest => if c = d then some rest else none
  | [] => none

/-- Read a given text. -/
def text? (expected : String) (s : List Char) : Option (List Char) :=
  if expected.toList.isPrefixOf s then some (s.drop expected.length) else none

/-! ## Strings -/

/-- Read the character whose number stands here in base 16 with `count` digits. Surrogates are no
characters. -/
def codePoint (count : Nat) (s : List Char) : Option (Char × List Char) := do
  let digits := s.take count
  let n ← Text.number? 16 digits
  if digits.length = count && n.isValidChar then some (Char.ofNat n, s.drop count) else none

/-- The character that a letter behind a backslash stands for. -/
def escaped? : Char → Option Char
  | 'b' => some '\x08'
  | 'f' => some '\x0c'
  | 'n' => some '\n'
  | 'r' => some '\r'
  | 't' => some '\t'
  | '\\' => some '\\'
  | '"' => some '"'
  | _ => none

/-- Read an escape behind its backslash. -/
def escape : Reader Char
  | 'u' :: rest => codePoint 4 rest
  | 'U' :: rest => codePoint 8 rest
  | c :: rest => (escaped? c).map fun c => (c, rest)
  | [] => none

theorem length_codePoint {count : Nat} {s rest : List Char} {c : Char}
    (h : codePoint count s = some (c, rest)) : rest.length ≤ s.length := by
  simp only [codePoint, Option.bind_eq_bind, Option.bind_eq_some_iff] at h
  obtain ⟨n, -, h⟩ := h
  split at h
  · simp only [Option.some.injEq, Prod.mk.injEq] at h
    rw [← h.2, List.length_drop]
    omega
  · simp at h

theorem length_escape {s rest : List Char} {c : Char} (h : escape s = some (c, rest)) :
    rest.length < s.length := by
  unfold escape at h
  split at h
  · have := length_codePoint h
    simp only [List.length_cons]
    omega
  · have := length_codePoint h
    simp only [List.length_cons]
    omega
  · simp only [Option.map_eq_some_iff, Prod.mk.injEq] at h
    obtain ⟨_, -, -, rfl⟩ := h
    simp
  · simp at h

/-- Read up to the closing double quote. -/
def basicBody (out : String) : Reader String
  | [] => none
  | c :: rest =>
    if c = '"' then some (out, rest)
    else if c = '\\' then
      match _h : escape rest with
      | none => none
      | some (c, rest') => basicBody (out.push c) rest'
    else if isBasic c then basicBody (out.push c) rest
    else none
termination_by s => s.length
decreasing_by
  · have := length_escape _h
    simp only [List.length_cons]
    omega
  · simp

/-- Read a string between double quotes on one line. -/
def basicString : Reader String
  | '"' :: rest => basicBody "" rest
  | _ => none

/-- Read a string between single quotes on one line. -/
def literalString : Reader String
  | '\'' :: rest =>
    let (body, rest) := rest.span isLiteral
    (char? '\'' rest).map fun rest => (String.ofList body, rest)
  | _ => none

/-- Read the quotes at the end of a string of several lines: three close it, and up to two more in
front of them belong to it. -/
def closingQuotes (quote : Char) (out : String) (s : List Char) : Option (String × List Char) :=
  let count := min (s.takeWhile (· = quote)).length 5
  if count < 3 then none
  else some (out ++ String.ofList (List.replicate (count - 3) quote), s.drop count)

theorem length_newline? {s rest : List Char} (h : newline? s = some rest) :
    rest.length < s.length := by
  unfold newline? at h
  split at h <;> cases h <;> simp only [List.length_cons] <;> omega

/-- Read a string of several lines up to its closing quotes. Between double quotes a backslash starts an
escape, or leaves out the blanks and line ends behind it if it ends a line. -/
def multilineBody (quote : Char) (skipping : Bool) (out : String) (s : List Char) :
    Option (String × List Char) :=
  match closingQuotes quote out s with
  | some closed => some closed
  | none =>
    match _h : newline? s with
    | some rest => multilineBody quote skipping (if skipping then out else out.push '\n') rest
    | none =>
      match s with
      | [] => none
      | c :: rest =>
        if skipping && isBlank c then multilineBody quote true out rest
        else if c = '\\' && quote = '"' then
          if (newline? (skipBlanks rest)).isSome then multilineBody quote true out rest
          else
            match _h : escape rest with
            | none => none
            | some (c, rest') => multilineBody quote false (out.push c) rest'
        else if isPlain c then multilineBody quote false (out.push c) rest
        else none
termination_by s.length
decreasing_by
  · exact length_newline? _h
  · simp
  · simp
  · have := length_escape _h
    simp only [List.length_cons]
    omega
  · simp

/-- Read a string of several lines. A line end right behind the opening quotes is left out. -/
def multilineString (quote : Char) (s : List Char) : Option (String × List Char) := do
  let rest ← text? (String.ofList [quote, quote, quote]) s
  multilineBody quote false "" ((newline? rest).getD rest)

/-- Read any string. -/
def string (s : List Char) : Option (String × List Char) :=
  if (text? "\"\"\"" s).isSome then multilineString '"' s
  else if (text? "'''" s).isSome then multilineString '\'' s
  else (basicString s).or (literalString s)

/-! ## Numbers -/

/-- Read digits with single underscores between them: the digits alone, and the rest. -/
def digitsBody (isDigit : Char → Bool) (out : List Char) : Reader (List Char)
  | '_' :: c :: rest => if isDigit c then digitsBody isDigit (c :: out) rest else none
  | '_' :: [] => none
  | c :: rest => if isDigit c then digitsBody isDigit (c :: out) rest else some (out.reverse, c :: rest)
  | [] => some (out.reverse, [])

/-- Read one or more digits with single underscores between them. -/
def digits (isDigit : Char → Bool) : Reader (List Char)
  | c :: rest => if isDigit c then digitsBody isDigit [c] rest else none
  | [] => none

/-- Read a sign: whether it is a minus. -/
def sign : List Char → Bool × List Char
  | '+' :: rest => (false, rest)
  | '-' :: rest => (true, rest)
  | s => (false, s)

/-- Read decimal digits, of which the first is no zero unless it is the only one. -/
def decimalDigits : Reader (List Char)
  | '0' :: rest => some (['0'], rest)
  | s => digits Char.isDigit s

/-- The value of digits in a base. -/
def valueOf (base : Nat) (ds : List Char) : Nat := (Text.number? base ds).getD 0

/-- The greatest size of an integer: that of the least one of 64 bits with a sign. -/
def integerLimit : Nat := Int64.minValue.toInt.natAbs

/-- The integer of a sign and digits, if it fits into 64 bits with its sign. -/
def fitting? (negative : Bool) (base : Nat) (ds : List Char) : Option Value := do
  let size ← Text.numberUpTo? integerLimit base ds
  let n : Int := if negative then -size else size
  if n ≤ Int64.maxValue.toInt then some (.integer n) else none

/-- Read an integer. -/
def integer : Reader Value
  | '0' :: 'x' :: rest => do
    let (ds, rest) ← digits (fun c => (Text.digit? 16 c).isSome) rest
    some (← fitting? false 16 ds, rest)
  | '0' :: 'o' :: rest => do
    let (ds, rest) ← digits (fun c => (Text.digit? 8 c).isSome) rest
    some (← fitting? false 8 ds, rest)
  | '0' :: 'b' :: rest => do
    let (ds, rest) ← digits (fun c => (Text.digit? 2 c).isSome) rest
    some (← fitting? false 2 ds, rest)
  | s => do
    let (negative, s) := sign s
    let (ds, rest) ← decimalDigits s
    some (← fitting? negative 10 ds, rest)

/-- The least number that rounds to infinity as a double: half a unit beyond the greatest one. -/
def leastOverflow : Nat := 1 <<< 1024 - 1 <<< 970

/-- Whether the integer written by `ds`, times `10 ^ e`, rounds to infinity as a double. Only a number
with as many places as `leastOverflow`, 309, has to be compared digit by digit. -/
def overflows (ds : List Char) (e : Int) : Bool :=
  let significant := ds.dropWhile (· = '0')
  let places : Int := significant.length + e
  if significant.isEmpty then false
  else if places ≠ 309 then 309 < places
  else leastOverflow ≤ valueOf 10 ((significant ++ List.replicate 309 '0').take 309)

/-- The size from which an exponent takes no further digits. -/
def exponentLimit : Nat := 65536

/-- The size of an exponent: the value of its digits up to the first with which it reaches the limit. -/
def exponentSize (ds : List Char) : Nat :=
  ds.foldl (fun n c => if n < exponentLimit then n * 10 + valueOf 10 [c] else n) 0

/-- Read an exponent. -/
def exponent (s : List Char) : Option (Int × List Char) :=
  match s with
  | c :: rest =>
    if c = 'e' || c = 'E' then do
      let (negative, rest) := sign rest
      let (ds, rest) ← digits Char.isDigit rest
      let n : Int := exponentSize ds
      some (if negative then -n else n, rest)
    else none
  | [] => none

/-- Read a number with a fraction or an exponent. One that rounds to infinity is refused. -/
def decimalFloat (s : List Char) : Option (Value × List Char) := do
  let (negative, s) := sign s
  let (whole, s) ← decimalDigits s
  let (fraction, e, rest) ← match s with
    | '.' :: rest => do
      let (fraction, rest) ← digits Char.isDigit rest
      match rest with
      | 'e' :: _ | 'E' :: _ => do
        let (e, rest) ← exponent rest
        some (fraction, e, rest)
      | _ => some (fraction, (0 : Int), rest)
    | _ => do
      let (e, rest) ← exponent s
      some ([], e, rest)
  if !negative && overflows (whole ++ fraction) (e - fraction.length) then none
  else some (.float, rest)

/-- Read infinity or the absent number. -/
def specialFloat (s : List Char) : Option (Value × List Char) :=
  let (_, s) := sign s
  ((text? "inf" s).or (text? "nan" s)).map fun rest => (.float, rest)

/-! ## Moments -/

/-- Read exactly `count` digits whose value is in a range. -/
def fixedDigits (count low high : Nat) (s : List Char) : Option (Nat × List Char) :=
  let ds := s.take count
  if ds.length = count && ds.all Char.isDigit then
    let n := valueOf 10 ds
    if low ≤ n && n ≤ high then some (n, s.drop count) else none
  else none

/-- The number of days of a month. -/
def daysOf (year month : Nat) : Nat :=
  if month = 2 then
    if year % 4 = 0 && (year % 100 ≠ 0 || year % 400 = 0) then 29 else 28
  else if month = 4 || month = 6 || month = 9 || month = 11 then 30
  else 31

/-- Read a date. -/
def date (s : List Char) : Option (List Char) := do
  let (year, s) ← fixedDigits 4 0 9999 s
  let s ← char? '-' s
  let (month, s) ← fixedDigits 2 1 12 s
  let s ← char? '-' s
  let (_, s) ← fixedDigits 2 1 (daysOf year month) s
  some s

/-- Read a time of day. -/
def timeOfDay (s : List Char) : Option (List Char) := do
  let (_, s) ← fixedDigits 2 0 23 s
  let s ← char? ':' s
  let (_, s) ← fixedDigits 2 0 59 s
  let s ← char? ':' s
  let (_, s) ← fixedDigits 2 0 60 s
  match s with
  | '.' :: rest =>
    let (fraction, behind) := rest.span Char.isDigit
    if fraction.isEmpty then some s else some behind
  | _ => some s

/-- Read the distance from universal time. -/
def offset : List Char → Option (List Char)
  | 'Z' :: rest | 'z' :: rest => some rest
  | c :: rest =>
    if c = '+' || c = '-' then do
      let (_, rest) ← fixedDigits 2 0 23 rest
      let rest ← char? ':' rest
      let (_, rest) ← fixedDigits 2 0 59 rest
      some rest
    else none
  | [] => none

/-- Read a date, a time of day, or both with the distance from universal time. -/
def moment (s : List Char) : Option (Value × List Char) :=
  match date s with
  | none => (timeOfDay s).map fun rest => (.moment, rest)
  | some rest =>
    let withTime := match rest with
      | c :: behind =>
        if c = 'T' || c = 't' || c = ' ' then
          (timeOfDay behind).map fun behind => (offset behind).getD behind
        else none
      | [] => none
    some (.moment, withTime.getD rest)

/-- Read a number or a moment. -/
def number (s : List Char) : Option (Value × List Char) :=
  (moment s).or ((decimalFloat s).or ((specialFloat s).or (integer s)))

end ChatRelay.Toml
