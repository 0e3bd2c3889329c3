import DocStream.Html.Reference.Names
import DocStream.Html.Token
import DocStream.Text.Digit

/-! Character references, from behind the ampersand: a number in decimal or hexadecimal, or a name.
A name with its semicolon counts before the longest name that can do without, and in an attribute
value the latter must not run into a letter, a digit or an equals sign. -/

namespace DocStream.Html

/-- What a reference stands for, nothing if it is none; the faults met; and the text after it. -/
structure Resolved where
  chars : List Char := []
  faults : List Fault := []
  rest : List Char

/-- The characters that numbers from 128 to 159 stand for instead of controls; zero for none. -/
def controlReplacements : List Nat :=
  [0x20ac, 0, 0x201a, 0x192, 0x201e, 0x2026, 0x2020, 0x2021, 0x2c6, 0x2030, 0x160, 0x2039, 0x152,
   0, 0x17d, 0, 0, 0x2018, 0x2019, 0x201c, 0x201d, 0x2022, 0x2013, 0x2014, 0x2dc, 0x2122, 0x161,
   0x203a, 0x153, 0, 0x17e, 0x178]

def numberedChar (n : Nat) : Char × Bool :=
  if 0x10ffff < n || n = 0 || (0xd800 ≤ n && n ≤ 0xdfff) then ('\ufffd', false)
  else if 0x80 ≤ n && n ≤ 0x9f then
    let m := controlReplacements.getD (n - 0x80) 0
    (Char.ofNat (if m = 0 then n else m), false)
  else
    let odd := (1 ≤ n && n ≤ 8) || n = 0xb || (0xd ≤ n && n ≤ 0x1f) || n = 0x7f ||
      (0xfdd0 ≤ n && n ≤ 0xfdef) || n % 0x10000 = 0xfffe || n % 0x10000 = 0xffff
    (Char.ofNat n, !odd)

def numbered (base : Nat) (whole cs : List Char) : Resolved :=
  let digits := cs.takeWhile (Text.isDigitIn base)
  let rest := cs.dropWhile (Text.isDigitIn base)
  if digits.isEmpty then { faults := [.numberWithoutDigits], rest := whole }
  else
    let n := Text.natOf base digits
    let (c, inOrder) := numberedChar n
    let numberFault := if inOrder then [] else [.invalidNumber]
    match rest with
    | ';' :: rest => { chars := [c], faults := numberFault, rest }
    | rest => { chars := [c], faults := .numberWithoutSemicolon :: numberFault, rest }

def bareName (cs : List Char) : Option String :=
  (bareNames.filter fun n => n.toList.isPrefixOf cs).foldl
    (fun best n => match best with
      | some b => if b.length < n.length then some n else some b
      | none => some n)
    none

def namedReference (inAttribute : Bool) (cs : List Char) : Resolved :=
  let run := cs.takeWhile Char.isAlphanum
  let rest := cs.dropWhile Char.isAlphanum
  let closed := rest.head? = some ';'
  let whole := if closed then named (String.ofList run) else none
  match whole with
  | some s => { chars := s.toList, rest := rest.drop 1 }
  | none =>
    match bareName run with
    | some n =>
      let after := cs.drop n.length
      let joined := inAttribute && after.head?.any fun c => c = '=' || c.isAlphanum
      if joined then { rest := cs }
      else
        { chars := ((named n).getD "").toList
          faults := [.referenceWithoutSemicolon]
          rest := after }
    | none =>
      { faults := if closed && !run.isEmpty then [.unknownReference] else [], rest := cs }

def resolve (inAttribute : Bool) (cs : List Char) : Resolved :=
  match cs with
  | '#' :: 'x' :: rest => numbered 16 cs rest
  | '#' :: 'X' :: rest => numbered 16 cs rest
  | '#' :: rest => numbered 10 cs rest
  | c :: _ => if c.isAlphanum then namedReference inAttribute cs else { rest := cs }
  | [] => { rest := cs }

end DocStream.Html
