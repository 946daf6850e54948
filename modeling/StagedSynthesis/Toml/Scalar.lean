import StagedSynthesis.Toml.Value

/-!
# Written scalars

How strings, numbers, truth values and times are written in a settings file. Each reader takes a
value off the front of a text and returns what is left, or nothing if no such value stands there.
-/

namespace StagedSynthesis.Toml

/-- Takes a value off the front of a text. -/
abbrev Reader (α : Type) := List Char → Option (α × List Char)

/-- A space or a tab. -/
def isSpace (c : Char) : Bool :=
  c = ' ' || c = '\t'

/-- The text without leading spaces and tabs. -/
def skipSpace (text : List Char) : List Char :=
  text.dropWhile isSpace

/-- A character that may stand in a comment or a string: a tab, or anything but the control
characters of ASCII. -/
def isPlain (c : Char) : Bool :=
  c = '\t' || (0x20 ≤ c.toNat && c.toNat ≠ 0x7F)

/-- The text after a line ending, if one leads it. -/
def afterNewline? : List Char → Option (List Char)
  | '\n' :: rest => some rest
  | '\r' :: '\n' :: rest => some rest
  | _ => none

/-- The text after a word, if the word leads it. -/
def afterWord? : List Char → List Char → Option (List Char)
  | [], text => some text
  | expected :: word, c :: rest => if c = expected then afterWord? word rest else none
  | _ :: _, [] => none

/-! ## Strings -/

/-- The value of a hexadecimal digit. -/
def hexValue? (c : Char) : Option Nat :=
  if c.isDigit then some (c.toNat - '0'.toNat)
  else if 'a' ≤ c ∧ c ≤ 'f' then some (c.toNat - 'a'.toNat + 10)
  else if 'A' ≤ c ∧ c ≤ 'F' then some (c.toNat - 'A'.toNat + 10)
  else none

/-- The number that hexadecimal digits denote. -/
def hexNumber? (digits : List Char) : Option Nat :=
  digits.foldl (fun number c => do some (16 * (← number) + (← hexValue? c))) (some 0)

/-- The character that an escape of hexadecimal digits denotes. -/
def escapedScalar? (digits : List Char) : Option Char := do
  let code ← hexNumber? digits
  if code.isValidChar then some (Char.ofNat code) else none

/-- The character that an escape of one letter denotes. -/
def escapedLetter? : Char → Option Char
  | 'b' => some '\x08'
  | 't' => some '\t'
  | 'n' => some '\n'
  | 'f' => some '\x0c'
  | 'r' => some '\r'
  | '"' => some '"'
  | '\\' => some '\\'
  | _ => none

/-- The rest of a string between double quotes, up to the closing quote. -/
def basicBody : Reader (List Char)
  | [] => none
  | '"' :: rest => some ([], rest)
  | '\\' :: 'u' :: a :: b :: c :: d :: rest => do
      let escaped ← escapedScalar? [a, b, c, d]
      let (body, after) ← basicBody rest
      some (escaped :: body, after)
  | '\\' :: 'U' :: a :: b :: c :: d :: e :: f :: g :: h :: rest => do
      let escaped ← escapedScalar? [a, b, c, d, e, f, g, h]
      let (body, after) ← basicBody rest
      some (escaped :: body, after)
  | '\\' :: letter :: rest => do
      let escaped ← escapedLetter? letter
      let (body, after) ← basicBody rest
      some (escaped :: body, after)
  | c :: rest =>
      if isPlain c && c ≠ '\\' then do
        let (body, after) ← basicBody rest
        some (c :: body, after)
      else
        none

/-- The rest of a string between single quotes, which has no escapes. -/
def literalBody : Reader (List Char)
  | [] => none
  | '\'' :: rest => some ([], rest)
  | c :: rest =>
      if isPlain c then do
        let (body, after) ← literalBody rest
        some (c :: body, after)
      else
        none

/-- Whether a backslash before this text joins lines: only spaces lie between it and the line
ending. -/
def joinsLines (text : List Char) : Bool :=
  (afterNewline? (skipSpace text)).isSome

/-- The rest of a string between three double quotes. Up to two quotes may stand right before the
closing three. While lines are being joined, blanks and line endings are left out. -/
def longBasicBody (joining : Bool) : Reader (List Char)
  | [] => none
  | '"' :: '"' :: '"' :: '"' :: '"' :: rest => some (['"', '"'], rest)
  | '"' :: '"' :: '"' :: '"' :: rest => some (['"'], rest)
  | '"' :: '"' :: '"' :: rest => some ([], rest)
  | '\r' :: '\n' :: rest => do
      let (body, after) ← longBasicBody joining rest
      some (if joining then body else '\n' :: body, after)
  | '\n' :: rest => do
      let (body, after) ← longBasicBody joining rest
      some (if joining then body else '\n' :: body, after)
  | '\\' :: 'u' :: a :: b :: c :: d :: rest => do
      let escaped ← escapedScalar? [a, b, c, d]
      let (body, after) ← longBasicBody false rest
      some (escaped :: body, after)
  | '\\' :: 'U' :: a :: b :: c :: d :: e :: f :: g :: h :: rest => do
      let escaped ← escapedScalar? [a, b, c, d, e, f, g, h]
      let (body, after) ← longBasicBody false rest
      some (escaped :: body, after)
  | '\\' :: letter :: rest =>
      if joinsLines (letter :: rest) then
        longBasicBody true (letter :: rest)
      else do
        let escaped ← escapedLetter? letter
        let (body, after) ← longBasicBody false rest
        some (escaped :: body, after)
  | c :: rest =>
      if joining && isSpace c then longBasicBody true rest
      else if isPlain c && c ≠ '\\' then do
        let (body, after) ← longBasicBody false rest
        some (c :: body, after)
      else
        none

/-- The rest of a string between three single quotes. -/
def longLiteralBody : Reader (List Char)
  | [] => none
  | '\'' :: '\'' :: '\'' :: '\'' :: '\'' :: rest => some (['\'', '\''], rest)
  | '\'' :: '\'' :: '\'' :: '\'' :: rest => some (['\''], rest)
  | '\'' :: '\'' :: '\'' :: rest => some ([], rest)
  | '\r' :: '\n' :: rest => do
      let (body, after) ← longLiteralBody rest
      some ('\n' :: body, after)
  | c :: rest =>
      if isPlain c || c = '\n' then do
        let (body, after) ← longLiteralBody rest
        some (c :: body, after)
      else
        none

/-- The text without the line ending that may follow the opening quotes of a long string. -/
def afterOpening (text : List Char) : List Char :=
  (afterNewline? text).getD text

/-- A string in any of its four notations. -/
def stringText : Reader (List Char)
  | '"' :: '"' :: '"' :: rest => longBasicBody false (afterOpening rest)
  | '"' :: rest => basicBody rest
  | '\'' :: '\'' :: '\'' :: rest => longLiteralBody (afterOpening rest)
  | '\'' :: rest => literalBody rest
  | _ => none

/-! ## Numbers -/

/-- Digits after a first one. Single underscores between digits are left out. -/
def moreDigits (isDigit : Char → Bool) : List Char → List Char × List Char
  | '_' :: c :: rest =>
      if isDigit c then
        let (digits, after) := moreDigits isDigit rest
        (c :: digits, after)
      else
        ([], '_' :: c :: rest)
  | c :: rest =>
      if isDigit c then
        let (digits, after) := moreDigits isDigit rest
        (c :: digits, after)
      else
        ([], c :: rest)
  | [] => ([], [])

/-- One digit or more, with single underscores between them left out. -/
def someDigits (isDigit : Char → Bool) : Reader (List Char)
  | [] => none
  | c :: rest =>
      if isDigit c then
        let (digits, after) := moreDigits isDigit rest
        some (c :: digits, after)
      else
        none

/-- Whether a minus sign leads the text, and the text after an optional sign. -/
def afterSign : List Char → Bool × List Char
  | '-' :: rest => (true, rest)
  | '+' :: rest => (false, rest)
  | text => (false, text)

/-- The number that decimal digits denote. -/
def decimalNumber (digits : List Char) : Nat :=
  digits.foldl (fun number c => 10 * number + (c.toNat - '0'.toNat)) 0

/-- A sign and decimal digits without a needless leading zero. -/
def signedDigits (text : List Char) : Option ((Bool × List Char) × List Char) :=
  let (negative, unsigned) := afterSign text
  match unsigned with
  | '0' :: rest => some ((negative, ['0']), rest)
  | _ => (someDigits Char.isDigit unsigned).map fun (digits, rest) => ((negative, digits), rest)

/-- An integer, if it fits into 64 bits with sign. -/
def integerValue? (number : Int) : Option Value :=
  if Int64.minValue.toInt ≤ number ∧ number ≤ Int64.maxValue.toInt then some (.integer number)
  else none

/-- The digit of a base, and its value. -/
def baseDigits (base : Nat) : Reader Value := fun text => do
  let (digits, rest) ← someDigits (fun c => (hexValue? c).any (· < base)) text
  let number := digits.foldl (fun number c => base * number + (hexValue? c).getD 0) 0
  let value ← integerValue? number
  some (value, rest)

/-- An integer in decimal, hexadecimal, octal or binary notation. -/
def integer : Reader Value
  | '0' :: 'x' :: rest => baseDigits 16 rest
  | '0' :: 'o' :: rest => baseDigits 8 rest
  | '0' :: 'b' :: rest => baseDigits 2 rest
  | text => do
      let ((negative, digits), rest) ← signedDigits text
      let number : Int := decimalNumber digits
      let value ← integerValue? (if negative then -number else number)
      some (value, rest)

/-- The exponent of a floating-point number. -/
def exponent : Reader Int
  | 'e' :: text | 'E' :: text => do
      let (negative, unsigned) := afterSign text
      let (digits, rest) ← someDigits Char.isDigit unsigned
      let number : Int := decimalNumber digits
      some (if negative then -number else number, rest)
  | _ => none

/-- Whether `mantissa * 10 ^ exponent` is rounded beyond the largest double-precision number. The
number of digits settles all but the closest cases. -/
def exceedsDouble (mantissa : Nat) (exponent : Int) : Bool :=
  let digits : Int := (Nat.toDigits 10 mantissa).length
  let bound := Nat.pow 2 1024 - Nat.pow 2 970
  if mantissa = 0 ∨ digits + exponent < 308 then false
  else if 310 < digits + exponent then true
  else if 0 ≤ exponent then bound ≤ mantissa * Nat.pow 10 exponent.toNat
  else bound * Nat.pow 10 (-exponent).toNat ≤ mantissa

/-- A floating-point number with a fraction, an exponent or both. A positive number must not be too
large for double precision. -/
def decimalFloat : Reader Value := fun text => do
  let ((negative, whole), rest) ← signedDigits text
  let (fraction, power, rest) ←
    match rest with
    | '.' :: rest => do
        let (fraction, rest) ← someDigits Char.isDigit rest
        match rest with
        | 'e' :: _ | 'E' :: _ => do
            let (power, rest) ← exponent rest
            some (fraction, power, rest)
        | _ => some (fraction, 0, rest)
    | _ => do
        let (power, rest) ← exponent rest
        some ([], power, rest)
  if !negative && exceedsDouble (decimalNumber (whole ++ fraction)) (power - fraction.length) then
    none
  else
    some (.float, rest)

/-- An infinite floating-point number, or one that is not a number. -/
def specialFloat : Reader Value := fun text => do
  let unsigned := (afterSign text).2
  let rest ← afterWord? ['i', 'n', 'f'] unsigned <|> afterWord? ['n', 'a', 'n'] unsigned
  some (.float, rest)

/-- A truth value. -/
def boolean : Reader Value := fun text =>
  ((afterWord? ['t', 'r', 'u', 'e'] text).map fun rest => (.boolean true, rest)) <|>
    ((afterWord? ['f', 'a', 'l', 's', 'e'] text).map fun rest => (.boolean false, rest))

/-! ## Times -/

/-- A number of exactly so many decimal digits. -/
def fixedDigits (count : Nat) : Reader Nat := fun text =>
  let digits := text.take count
  if digits.length = count && digits.all Char.isDigit then
    some (decimalNumber digits, text.drop count)
  else
    none

/-- A number of two digits between bounds. -/
def twoDigits (least greatest : Nat) : Reader Nat := fun text => do
  let (number, rest) ← fixedDigits 2 text
  if least ≤ number ∧ number ≤ greatest then some (number, rest) else none

/-- How many days a month has. -/
def daysIn (year month : Nat) : Nat :=
  if month = 2 then
    if year % 4 = 0 ∧ (year % 100 ≠ 0 ∨ year % 400 = 0) then 29 else 28
  else if month = 4 ∨ month = 6 ∨ month = 9 ∨ month = 11 then 30
  else 31

/-- The text after a date. -/
def afterDate? (text : List Char) : Option (List Char) := do
  let (year, rest) ← fixedDigits 4 text
  let rest ← afterWord? ['-'] rest
  let (month, rest) ← twoDigits 1 12 rest
  let rest ← afterWord? ['-'] rest
  let (_, rest) ← twoDigits 1 (daysIn year month) rest
  some rest

/-- The text after a time of day with seconds and perhaps a fraction of them. -/
def afterClock? (text : List Char) : Option (List Char) := do
  let (_, rest) ← twoDigits 0 23 text
  let rest ← afterWord? [':'] rest
  let (_, rest) ← twoDigits 0 59 rest
  let rest ← afterWord? [':'] rest
  let (_, rest) ← twoDigits 0 60 rest
  match rest with
  | '.' :: fraction =>
      if (fraction.takeWhile Char.isDigit).isEmpty then none
      else some (fraction.dropWhile Char.isDigit)
  | _ => some rest

/-- The text after the offset from universal time, where one is given. -/
def afterOffset? : List Char → Option (List Char)
  | 'Z' :: rest | 'z' :: rest => some rest
  | '+' :: rest | '-' :: rest => do
      let (_, rest) ← twoDigits 0 23 rest
      let rest ← afterWord? [':'] rest
      let (_, rest) ← twoDigits 0 59 rest
      some rest
  | rest => some rest

/-- A date, a time of day, or both with an optional offset. -/
def time : Reader Value := fun text =>
  match afterDate? text with
  | some rest =>
      let withClock := match rest with
        | 'T' :: clock | 't' :: clock | ' ' :: clock => (afterClock? clock).bind afterOffset?
        | _ => none
      some (.time, withClock.getD rest)
  | none => (afterClock? text).map fun rest => (.time, rest)

/-- Any value that is neither an array nor a table. -/
def scalar : Reader Value := fun text =>
  ((stringText text).map fun (body, rest) => (.text (String.ofList body), rest)) <|>
    time text <|> decimalFloat text <|> specialFloat text <|> integer text <|> boolean text

end StagedSynthesis.Toml
