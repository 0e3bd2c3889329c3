import DocStream.Toml.Reader.Moment

/-! Reading TOML: values, whose brackets nest less than 80 deep, and documents, line by line. -/

namespace DocStream.Toml

namespace Reader

/-! ### Values -/

def itemsFrom (item : Reader Toml) : Nat → Reader (List Toml)
  | 0 => fail
  | fuel + 1 => do
    gap
    if ← take? ']' then return []
    else
      let v ← item
      gap
      if ← take? ',' then return v :: (← itemsFrom item fuel)
      else
        exactly [']']
        return [v]

def membersFrom (item : Reader Toml) (t : Toml) : Nat → Reader Toml
  | 0 => fail
  | fuel + 1 => do
    let (path, last) ← key
    exactly ['=']
    blanks
    let v ← item
    blanks
    match t.assign path last v with
    | none => fail
    | some t =>
      if ← take? ',' then membersFrom item t fuel
      else
        exactly ['\x7d']
        return t

def value : (depth : Nat) → Reader Toml
  | 0 => fail
  | depth + 1 => do
    match ← peek with
    | some '"' => return .string (← text '"')
    | some '\x27' => return .string (← text '\x27')
    | some 't' => exactly "true".toList; return .bool true
    | some 'f' => exactly "false".toList; return .bool false
    | some '[' =>
      if depth = 0 then fail
      skip
      return .array (← itemsFrom (value depth) ((← get).length + 1))
    | some '\x7b' =>
      if depth = 0 then fail
      skip
      let empty : Toml := .table .inline []
      blanks
      if ← take? '\x7d' then return empty
      else membersFrom (value depth) empty ((← get).length + 1)
    | _ =>
      match ← attempt moment with
      | some m => return m
      | none => number

/-! ### Documents -/

/-- One line: a header, which later lines belong to, or a key with its value. -/
def line (header : List String) (t : Toml) : Reader (List String × Toml) := do
  if ← take? '[' then
    let isItem ← take? '['
    let (path, last) ← key
    exactly (if isItem then [']', ']'] else [']'])
    restOfLine
    match editAt false (if isItem then openItem last else openTable last) path t with
    | some t => return (path ++ [last], t)
    | none => fail
  else
    let (path, last) ← key
    exactly ['=']
    blanks
    let v ← value maxNesting
    restOfLine
    match editAt false (fun t => t.assign path last v) header t with
    | some t => return (header, t)
    | none => fail

def linesFrom (header : List String) (t : Toml) : Nat → Reader Toml
  | 0 => fail
  | fuel + 1 => do
    blanks
    match ← get with
    | [] => return t
    | '#' :: _ | '\n' :: _ | '\r' :: _ =>
      comment?
      if (← lineEnd?) || (← get).isEmpty then linesFrom header t fuel else fail
    | _ =>
      let (header, t) ← line header t
      linesFrom header t fuel

end Reader

def read (text : String) : Option Toml :=
  let cs := text.toList
  let cs := if cs.head? = some '\ufeff' then cs.tail else cs
  (Reader.linesFrom [] (.table .header []) (cs.length + 2) cs).map (·.1)

end DocStream.Toml
