import DocStream.Binary64

/-! TOML documents as trees. A table remembers how it came about, since that decides what may still
be added to it; so do arrays, of which only those made of headers grow. -/

namespace DocStream

/-- A table is given by a header of its own, implied by a longer header, made by a dotted key, or
written in braces. -/
inductive TableForm where
  | header
  | implied
  | dotted
  | inline
deriving DecidableEq, Repr

inductive Toml where
  | string (s : String)
  | integer (n : Int)
  | real (x : Binary64.Extended)
  | bool (b : Bool)
  | moment (text : String)
  | array (items : List Toml)
  | tables (items : List Toml)
  | table (form : TableForm) (entries : List (String × Toml))
deriving Inhabited

namespace Toml

def setEntry (key : String) (v : Toml) : List (String × Toml) → List (String × Toml)
  | [] => [(key, v)]
  | (k, w) :: rest => if k = key then (k, v) :: rest else (k, w) :: setEntry key v rest

/-- Changes the table that keys lead to from `t`, making the tables on the way that do not exist.
Keys on the way through an array of tables mean its last table. Dotted keys may not enter a table
with a header, and nothing may enter one in braces. -/
def editAt (dotted : Bool) (f : Toml → Option Toml) : List String → Toml → Option Toml
  | [], t => f t
  | k :: ks, .table form entries => do
    let new : Toml := .table (if dotted then .dotted else .implied) []
    let child ←
      match (entries.lookup k).getD new with
      | .tables items => do
        let last ← editAt dotted f ks (← items.getLast?)
        some (.tables (items.dropLast ++ [last]))
      | .table .inline _ => none
      | .table childForm es =>
        if dotted && childForm = .header then none else editAt dotted f ks (.table childForm es)
      | _ => none
    some (.table form (setEntry k child entries))
  | _ :: _, _ => none

def addEntry (isDotted : Bool) (key : String) (v : Toml) : Toml → Option Toml
  | .table form entries =>
    if decide (form = .dotted) ≠ isDotted || (entries.lookup key).isSome then none
    else some (.table form (entries ++ [(key, v)]))
  | _ => none

def assign (t : Toml) (path : List String) (key : String) (v : Toml) : Option Toml :=
  editAt true (addEntry (!path.isEmpty) key v) path t

/-- Gives a table its header; one that a longer header implied before becomes that table. -/
def openTable (key : String) : Toml → Option Toml
  | .table form entries =>
    match entries.lookup key with
    | none => some (.table form (entries ++ [(key, .table .header [])]))
    | some (.table .implied es) => some (.table form (setEntry key (.table .header es) entries))
    | some _ => none
  | _ => none

def openItem (key : String) : Toml → Option Toml
  | .table form entries =>
    match entries.lookup key with
    | none => some (.table form (entries ++ [(key, .tables [.table .header []])]))
    | some (.tables items) =>
      some (.table form (setEntry key (.tables (items ++ [.table .header []])) entries))
    | some _ => none
  | _ => none

end Toml

end DocStream
