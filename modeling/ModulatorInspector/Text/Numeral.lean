namespace ModulatorInspector.Numeral

def digit? (radix : Nat) (c : Char) : Option Nat :=
  let value :=
    if '0' ≤ c ∧ c ≤ '9' then some (c.toNat - 48)
    else if 'a' ≤ c ∧ c ≤ 'z' then some (c.toNat - 87)
    else if 'A' ≤ c ∧ c ≤ 'Z' then some (c.toNat - 55)
    else none
  value.filter (· < radix)

def greatest16 : Nat := 65535
def greatest32 : Nat := 4294967295
def greatest64 : Nat := 18446744073709551615
def greatestSigned64 : Nat := 9223372036854775807

inductive Fault where
  | empty | badDigit | tooLarge | tooSmall
  deriving DecidableEq, Repr

def Fault.message : Fault → String
  | .empty => "cannot parse integer from empty string"
  | .badDigit => "invalid digit found in string"
  | .tooLarge => "number too large to fit in target type"
  | .tooSmall => "number too small to fit in target type"

-- `limit` is the greatest magnitude; `beyond` says which side of the range it bounds.
def magnitude (radix limit : Nat) (beyond : Fault) : Nat → List Char → Except Fault Nat
  | total, [] => .ok total
  | total, c :: rest =>
      match digit? radix c with
      | none => .error .badDigit
      | some d =>
          if limit < total * radix + d then .error beyond
          else magnitude radix limit beyond (total * radix + d) rest

-- A plus sign may stand before the digits. A sign alone is a bad digit, not an empty text.
def natural (radix limit : Nat) : List Char → Except Fault Nat
  | [] => .error .empty
  | ['+'] => .error .badDigit
  | '+' :: digits => magnitude radix limit .tooLarge 0 digits
  | digits => magnitude radix limit .tooLarge 0 digits

def signed64 : List Char → Except Fault Int
  | ['-'] => .error .badDigit
  | '-' :: digits =>
      (magnitude 10 (greatestSigned64 + 1) .tooSmall 0 digits).map fun n => -(n : Int)
  | text => (natural 10 greatestSigned64 text).map Int.ofNat

-- A comma follows a digit when a positive multiple of three digits remains after it.
def separate : List Char → List Char
  | [] => []
  | c :: rest =>
      if rest ≠ [] ∧ rest.length % 3 = 0 then c :: ',' :: separate rest else c :: separate rest

def grouped (n : Nat) : String := String.ofList (separate (Nat.toDigits 10 n))

def hexDigit (n : Nat) : Char := if n < 10 then Char.ofNat (48 + n) else Char.ofNat (55 + n)

def hex4 (n : UInt16) : String :=
  String.ofList ([4096, 256, 16, 1].map fun place => hexDigit (n.toNat / place % 16))

end ModulatorInspector.Numeral
