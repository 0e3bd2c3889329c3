import DocStream.Config.KeyPath
import DocStream.Text.Lowercase
import DocStream.Toml.Value

/-! Trees of settings. Names are kept in small letters. A table put where a table stands is merged
into it, name by name; anything else replaces what it is put over. A setting knows the file it came
from, if it came from one. -/

namespace DocStream.Config

inductive Scalar where
  | nothing
  | bool (b : Bool)
  | integer (n : Int)
  | real (x : Binary64.Extended)
  | text (s : String)
deriving DecidableEq, Repr

inductive Setting where
  | scalar (origin : Option String) (value : Scalar)
  | list (origin : Option String) (items : List Setting)
  | table (origin : Option String) (entries : List (String × Setting))
deriving Inhabited

namespace Setting

def nothing : Setting := .scalar none .nothing

def empty : Setting := .table none []

def origin : Setting → Option String
  | scalar o _ => o
  | list o _ => o
  | table o _ => o

def entries : Setting → List (String × Setting)
  | table _ es => es
  | _ => []

def get? (t : Setting) (name : String) : Option Setting := t.entries.lookup (Text.lower name)

def putEntry (name : String) (v : Setting) : List (String × Setting) → List (String × Setting)
  | [] => [(name, v)]
  | (k, w) :: rest => if k = name then (k, v) :: rest else (k, w) :: putEntry name v rest

def put (t : Setting) (name : String) (v : Setting) : Setting :=
  match t with
  | table o es => .table o (putEntry (Text.lower name) v es)
  | _ => .table none (putEntry (Text.lower name) v [])

mutual

def assign (t : Setting) (name : String) : Setting → Setting
  | .table _ es => t.put name (mergeEntries ((t.get? name).getD empty) es)
  | .scalar o v => t.put name (.scalar o v)
  | .list o vs => t.put name (.list o vs)

def mergeEntries (t : Setting) : List (String × Setting) → Setting
  | [] => t
  | (k, v) :: rest => mergeEntries (t.assign k v) rest

end

/-- Changes the item at a place, after adding as many empty ones as that takes: last, or first for a
place counted from the end. -/
def changePlace (i : Int) (f : Setting → Setting) (items : List Setting) : List Setting :=
  match i with
  | .ofNat n => (items ++ List.replicate (n + 1 - items.length) nothing).modify n f
  | .negSucc n =>
    (List.replicate (n + 1 - items.length) nothing ++ items).modify (items.length - (n + 1)) f

def setAt (v : Setting) : List PathStep → Setting → Setting
  | [], _ => v
  | [.name k], t => t.assign k v
  | .name k :: steps, t => t.put k (setAt v steps ((t.get? k).getD nothing))
  | .place i :: steps, .list o items => .list o (changePlace i (setAt v steps) items)
  | .place i :: steps, _ => .list none (changePlace i (setAt v steps) [])

def set (t : Setting) (path : KeyPath) (v : Setting) : Setting :=
  setAt v (.name path.root :: path.steps) t

mutual

def ofToml (origin : Option String) : Toml → Setting
  | .string s => .scalar origin (.text s)
  | .integer n => .scalar origin (.integer n)
  | .real x => .scalar origin (.real x)
  | .bool b => .scalar origin (.bool b)
  | .moment s => .scalar origin (.text s)
  | .array items => .list origin (ofItems origin items)
  | .tables items => .list origin (ofItems origin items)
  | .table _ es => .table origin (ofEntries origin es)

def ofItems (origin : Option String) : List Toml → List Setting
  | [] => []
  | v :: vs => ofToml origin v :: ofItems origin vs

def ofEntries (origin : Option String) : List (String × Toml) → List (String × Setting)
  | [] => []
  | (k, v) :: es => (k, ofToml origin v) :: ofEntries origin es

end

end Setting

end DocStream.Config
