import ModulatorInspector.Toml.Document
import ModulatorInspector.Toml.Lexeme

namespace ModulatorInspector.Toml

def isDigit (radix : Nat) (c : Char) : Bool := (Numeral.digit? radix c).isSome

def moreDigits? (radix : Nat) : List Char → Option (List Char × List Char)
  | [] => some ([], [])
  | '_' :: [] => none
  | '_' :: d :: rest => if isDigit radix d then prefixed [d] (moreDigits? radix rest) else none
  | c :: rest =>
      if isDigit radix c then prefixed [c] (moreDigits? radix rest) else some ([], c :: rest)

def digits? (radix : Nat) : List Char → Option (List Char × List Char)
  | c :: rest => if isDigit radix c then prefixed [c] (moreDigits? radix rest) else none
  | [] => none

def sign : List Char → Bool × List Char
  | '+' :: rest => (false, rest)
  | '-' :: rest => (true, rest)
  | cs => (false, cs)

-- No zero in front of another digit: after a zero the number is over.
def decimal? (cs : List Char) : Option (Bool × List Char × List Char) :=
  let (negative, cs) := sign cs
  match cs with
  | '0' :: rest => some (negative, ['0'], rest)
  | cs => (digits? 10 cs).map fun (digits, rest) => (negative, digits, rest)

def valueOf (radix : Nat) (digits : List Char) : Nat :=
  digits.foldl (fun total c => total * radix + (Numeral.digit? radix c).getD 0) 0

def integer? (cs : List Char) : Option (Int × List Char) :=
  let based (radix : Nat) (cs : List Char) : Option (Int × List Char) :=
    (digits? radix cs).bind fun (digits, rest) =>
      let n := valueOf radix digits
      if n ≤ Numeral.greatestSigned64 then some (n, rest) else none
  match cs with
  | '0' :: 'x' :: rest => based 16 rest
  | '0' :: 'o' :: rest => based 8 rest
  | '0' :: 'b' :: rest => based 2 rest
  | cs =>
      (decimal? cs).bind fun (negative, digits, rest) =>
        let n := valueOf 10 digits
        if negative then
          if n ≤ Numeral.greatestSigned64 + 1 then some (-(n : Int), rest) else none
        else if n ≤ Numeral.greatestSigned64 then some (n, rest) else none

def fraction? : List Char → Option (List Char × List Char)
  | '.' :: rest => digits? 10 rest
  | _ => none

def exponent? : List Char → Option (Int × List Char)
  | c :: rest =>
      if c = 'e' ∨ c = 'E' then
        let (negative, rest) := sign rest
        (digits? 10 rest).map fun (digits, rest) =>
          let n : Int := valueOf 10 digits
          (if negative then -n else n, rest)
      else none
  | [] => none

def point? (cs : List Char) : Option (Binary64 × List Char) :=
  (decimal? cs).bind fun (negative, digits, rest) =>
    let number (decimals : List Char) (exponent : Int) : Binary64 :=
      Binary64.ofDecimal negative (valueOf 10 (digits ++ decimals)) (exponent - decimals.length)
    match fraction? rest with
    | some (decimals, rest) =>
        match exponent? rest with
        | some (exponent, rest) => some (number decimals exponent, rest)
        | none => some (number decimals 0, rest)
    | none => (exponent? rest).map fun (exponent, rest) => (number [] exponent, rest)

def special? (cs : List Char) : Option (Binary64 × List Char) :=
  let (negative, cs) := sign cs
  match cs with
  | 'i' :: 'n' :: 'f' :: rest => some (.infinite negative, rest)
  | 'n' :: 'a' :: 'n' :: rest => some (.notANumber, rest)
  | _ => none

-- A number that is written out and too great to be finite is refused, unless it is negative.
def float? (cs : List Char) : Option (Binary64 × List Char) :=
  match point? cs with
  | some (.infinite false, _) => none
  | some read => some read
  | none => special? cs

def ranged? (count low high : Nat) (cs : List Char) : Option (Nat × List Char) :=
  let digits := cs.take count
  let n := valueOf 10 digits
  if digits.length = count ∧ digits.all (isDigit 10) ∧ low ≤ n ∧ n ≤ high then
    some (n, cs.drop count)
  else none

def mark? (c : Char) (cs : List Char) : Option (List Char) :=
  if cs.head? = some c then some cs.tail else none

def daysIn (year month : Nat) : Nat :=
  if month = 2 then
    if year % 4 = 0 ∧ (year % 100 ≠ 0 ∨ year % 400 = 0) then 29 else 28
  else if month = 4 ∨ month = 6 ∨ month = 9 ∨ month = 11 then 30
  else 31

def date? (cs : List Char) : Option (List Char) := do
  let (year, cs) ← ranged? 4 0 9999 cs
  let cs ← mark? '-' cs
  let (month, cs) ← ranged? 2 1 12 cs
  let cs ← mark? '-' cs
  let (_, cs) ← ranged? 2 1 (daysIn year month) cs
  return cs

def time? (cs : List Char) : Option (List Char) := do
  let (_, cs) ← ranged? 2 0 23 cs
  let cs ← mark? ':' cs
  let (_, cs) ← ranged? 2 0 59 cs
  let cs ← mark? ':' cs
  let (_, cs) ← ranged? 2 0 60 cs
  match cs with
  | '.' :: d :: rest => return if isDigit 10 d then rest.dropWhile (isDigit 10) else cs
  | _ => return cs

def zone (cs : List Char) : List Char :=
  let numeric (rest : List Char) : Option (List Char) := do
    let (_, cs) ← ranged? 2 0 23 rest
    let cs ← mark? ':' cs
    let (_, cs) ← ranged? 2 0 59 cs
    return cs
  match cs with
  | c :: rest =>
      if c = 'Z' ∨ c = 'z' then rest
      else if c = '+' ∨ c = '-' then (numeric rest).getD cs
      else cs
  | [] => []

def dateTime? (cs : List Char) : Option (List Char) :=
  match date? cs with
  | none => time? cs
  | some rest =>
      match rest with
      | c :: timed =>
          if c = 'T' ∨ c = 't' ∨ c = ' ' then some (((time? timed).map zone).getD rest)
          else some rest
      | [] => some rest

def number? (cs : List Char) : Option (Item × List Char) :=
  match dateTime? cs with
  | some rest => some (.dateTime, rest)
  | none =>
      match float? cs with
      | some (x, rest) => some (.float x, rest)
      | none => (integer? cs).map fun (n, rest) => (.integer n, rest)

end ModulatorInspector.Toml
