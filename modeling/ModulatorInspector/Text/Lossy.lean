namespace ModulatorInspector.Utf8

def bytes (text : String) : List UInt8 := text.toUTF8.data.toList

def text? (bytes : List UInt8) : Option String := String.fromUTF8? ⟨bytes.toArray⟩

end ModulatorInspector.Utf8

namespace ModulatorInspector.Lossy

def replacement : Char := '\uFFFD'

-- For a leading byte: how many bytes follow, and the range of the first of them.
def lead? (b : UInt8) : Option (Nat × UInt8 × UInt8) :=
  if 0xC2 ≤ b && b ≤ 0xDF then some (1, 0x80, 0xBF)
  else if b = 0xE0 then some (2, 0xA0, 0xBF)
  else if b = 0xED then some (2, 0x80, 0x9F)
  else if 0xE1 ≤ b && b ≤ 0xEF then some (2, 0x80, 0xBF)
  else if b = 0xF0 then some (3, 0x90, 0xBF)
  else if 0xF1 ≤ b && b ≤ 0xF3 then some (3, 0x80, 0xBF)
  else if b = 0xF4 then some (3, 0x80, 0x8F)
  else none

def payload (b : UInt8) : Nat := b.toNat % 64

-- `wanted` is how many bytes the open character still lacks, the next of them in `low..high`.
inductive State where
  | between
  | inside (wanted : Nat) (low high : UInt8) (value : Nat)

def fresh (b : UInt8) : List Char × State :=
  if b < 0x80 then ([Char.ofNat b.toNat], .between)
  else match lead? b with
    | some (n, low, high) =>
        let bits := if n = 1 then b.toNat % 32 else if n = 2 then b.toNat % 16 else b.toNat % 8
        ([], .inside n low high bits)
    | none => ([replacement], .between)

def step : State → UInt8 → List Char × State
  | .between, b => fresh b
  | .inside wanted low high value, b =>
      if low ≤ b && b ≤ high then
        let next := value * 64 + payload b
        match wanted with
        | n + 2 => ([], .inside (n + 1) 0x80 0xBF next)
        | _ => ([Char.ofNat next], .between)
      else
        let (shown, state) := fresh b
        (replacement :: shown, state)

def finish : State → List Char
  | .between => []
  | .inside .. => [replacement]

def decodeFrom : State → List UInt8 → List Char
  | state, [] => finish state
  | state, b :: rest =>
      let (shown, next) := step state b
      shown ++ decodeFrom next rest

def decode (bytes : List UInt8) : String := String.ofList (decodeFrom .between bytes)

end ModulatorInspector.Lossy
