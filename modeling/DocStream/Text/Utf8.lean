/-! Text from bytes that may not all be text. A character cut short gives one replacement character,
and so does every byte that no character begins with. -/

namespace DocStream.Text

def replacement : Char := '\ufffd'

/-- A character of which some bytes are there: their bits, how many bytes are missing, and the range
that the next one is in. -/
structure Partial where
  bits : Nat
  missing : Nat
  least : UInt8 := 0x80
  greatest : UInt8 := 0xbf

def Partial.ofLead (b : UInt8) : Option Partial :=
  if 0xc2 ≤ b && b ≤ 0xdf then some { bits := b.toNat - 0xc0, missing := 1 }
  else if 0xe0 ≤ b && b ≤ 0xef then
    some
      { bits := b.toNat - 0xe0, missing := 2
        least := if b = 0xe0 then 0xa0 else 0x80
        greatest := if b = 0xed then 0x9f else 0xbf }
  else if 0xf0 ≤ b && b ≤ 0xf4 then
    some
      { bits := b.toNat - 0xf0, missing := 3
        least := if b = 0xf0 then 0x90 else 0x80
        greatest := if b = 0xf4 then 0x8f else 0xbf }
  else none

def begin (b : UInt8) : List Char × Option Partial :=
  if b < 0x80 then ([Char.ofNat b.toNat], none)
  else
    match Partial.ofLead b with
    | some p => ([], some p)
    | none => ([replacement], none)

def Partial.next (p : Partial) (b : UInt8) : List Char × Option Partial :=
  if p.least ≤ b && b ≤ p.greatest then
    let bits := 64 * p.bits + (b.toNat - 0x80)
    if p.missing = 1 then ([Char.ofNat bits], none)
    else ([], some { bits, missing := p.missing - 1 })
  else
    let (cs, q) := begin b
    (replacement :: cs, q)

def lenientFrom (p : Option Partial) : List UInt8 → List Char
  | [] => if p.isSome then [replacement] else []
  | b :: bs =>
    let (cs, q) :=
      match p with
      | none => begin b
      | some p => p.next b
    cs ++ lenientFrom q bs

def decodeLenient (bytes : ByteArray) : String :=
  String.ofList (lenientFrom none bytes.data.toList)

end DocStream.Text
