import DocStream.Dialect
import DocStream.Rendering

/-! Command lines. Options may stand before and after the path, short ones in one word; a value
follows its option or is attached to it. No option may be given twice, and what looks like an option
is never a value. -/

namespace DocStream.CommandLine

structure Arguments where
  path : Option String := none
  wiki : Bool := false
  strict : Bool := false
  listDialects : Bool := false
  dialect : Option Dialect := none
  format : Option OutputFormat := none
  config : Option String := none
deriving DecidableEq

inductive Stop where
  | usage
  | help
  | version
deriving DecidableEq, Repr

inductive Flag where
  | wiki
  | strict
  | listDialects

inductive ValueOption where
  | dialect
  | format
  | config

inductive OptionMeaning where
  | flag (flag : Flag)
  | value (option : ValueOption)
  | stop (stop : Stop)

def shortOption : Char → OptionMeaning
  | 'w' => .flag .wiki
  | 's' => .value .dialect
  | 'f' => .value .format
  | 'c' => .value .config
  | 'h' => .stop .help
  | 'V' => .stop .version
  | _ => .stop .usage

def longOption : String → OptionMeaning
  | "wiki" => .flag .wiki
  | "syntax" => .value .dialect
  | "format" => .value .format
  | "strict" => .flag .strict
  | "config" => .value .config
  | "list-syntaxes" => .flag .listDialects
  | "help" => .stop .help
  | "version" => .stop .version
  | _ => .stop .usage

namespace Arguments

def setFlag (a : Arguments) : Flag → Except Stop Arguments
  | .wiki => if a.wiki then throw .usage else return { a with wiki := true }
  | .strict => if a.strict then throw .usage else return { a with strict := true }
  | .listDialects =>
    if a.listDialects then throw .usage else return { a with listDialects := true }

def setValue (a : Arguments) (o : ValueOption) (v : String) : Except Stop Arguments :=
  match o with
  | .dialect =>
    match a.dialect, Dialect.all.find? (·.id = v) with
    | none, some d => return { a with dialect := some d }
    | _, _ => throw .usage
  | .format =>
    match a.format, [OutputFormat.text, .json].find? (·.name = v) with
    | none, some f => return { a with format := some f }
    | _, _ => throw .usage
  | .config => if a.config.isSome then throw .usage else return { a with config := some v }

def setPath (a : Arguments) (path : String) : Except Stop Arguments :=
  if a.path.isSome then throw .usage else return { a with path := some path }

end Arguments

def looksLikeOption (s : String) : Bool :=
  match s.toList with
  | '-' :: _ :: _ => true
  | _ => false

inductive Progress where
  | complete (a : Arguments)
  | awaits (a : Arguments) (option : ValueOption)

def readShort (a : Arguments) : List Char → Except Stop Progress
  | [] => return .complete a
  | c :: cs =>
    match shortOption c with
    | .stop s => throw s
    | .flag f => do readShort (← a.setFlag f) cs
    | .value o =>
      match cs with
      | [] => return .awaits a o
      | '=' :: v => return .complete (← a.setValue o (String.ofList v))
      | v => return .complete (← a.setValue o (String.ofList v))

def readLong (a : Arguments) (cs : List Char) : Except Stop Progress :=
  let name := String.ofList (cs.takeWhile (· ≠ '='))
  match longOption name, cs.dropWhile (· ≠ '=') with
  | .flag f, [] => return .complete (← a.setFlag f)
  | .value o, [] => return .awaits a o
  | .value o, _ :: v => return .complete (← a.setValue o (String.ofList v))
  | .stop s, [] => throw s
  | _, _ => throw .usage

def readPaths (a : Arguments) : List String → Except Stop Arguments
  | [] => return a
  | s :: rest => do readPaths (← a.setPath s) rest

def readOption (a : Arguments) (s : String) : Except Stop Progress :=
  match s.toList with
  | '-' :: '-' :: cs => readLong a cs
  | cs => readShort a cs.tail

def readFrom : Progress → List String → Except Stop Arguments
  | .complete a, [] => return a
  | .awaits .., [] => throw .usage
  | .complete a, s :: rest => do
    if !looksLikeOption s then readFrom (.complete (← a.setPath s)) rest
    else if s = "--" then readPaths a rest
    else readFrom (← readOption a s) rest
  | .awaits a o, v :: rest => do
    if looksLikeOption v then throw .usage
    else readFrom (.complete (← a.setValue o v)) rest

def read (args : List String) : Except Stop Arguments := do
  let a ← readFrom (.complete {}) args
  if a.path.isNone && !a.listDialects then throw .usage else return a

end DocStream.CommandLine
