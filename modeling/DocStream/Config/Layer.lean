import DocStream.Config
import DocStream.Toml.Reader

/-! Configuration in layers over the defaults, which are a file of their own. Files are merged in
their order, and single settings go over all files, in their order too. A file that is missing under
its name is looked for with `.toml` after it; for one that is there and cannot be read nothing else
is looked for. Names that differ in capitals only are one name. Where a file spells a name in two
ways, nothing says which of them decides; here the entries count in the order in which they stand.
-/

namespace DocStream.Config

inductive Layer where
  | file (name : String) (required : Bool)
  | override (path : KeyPath) (value : Scalar)
deriving DecidableEq, Repr

inductive FileState where
  | absent
  | unreadable (reason : String)
  | text (text : String)

instance : Coe (Option String) FileState where
  coe
    | some text => .text text
    | none => .absent

def reportedName (name : String) : String :=
  "/".intercalate ((name.splitOn "/").filter fun part => part ≠ "" && part ≠ ".")

def findFile (readFile : String → FileState) (name : String) : Except Fault (String × String) :=
  match readFile name with
  | .text text => return (reportedName name, text)
  | .unreadable reason => throw (.unreadableFile reason)
  | .absent =>
    match readFile (name ++ ".toml") with
    | .text text => return (reportedName (name ++ ".toml"), text)
    | .unreadable reason => throw (.unreadableFile reason)
    | .absent => throw (.missingFile name)

/-- The first words of every report on a text that is no TOML. -/
def briefReport (_ : String) : String := "TOML parse error"

def withoutMark (text : String) : String :=
  let cs := text.toList
  String.ofList (if cs.head? = some '\ufeff' then cs.tail else cs)

def readSettings (origin : Option String) (text : String) : Option Setting :=
  (Toml.read (withoutMark text)).map (.ofToml origin)

def settingsOf (report : String → String) (origin : Option String) (text : String) :
    Except Fault Setting :=
  (readSettings origin text).getDM (throw (.malformedFile ⟨report (withoutMark text), origin⟩))

def applyFile (t : Setting) (file : Setting) : Setting :=
  file.entries.foldl (fun t (k, v) =>
    match KeyPath.parse k with
    | .ok path => t.set path v
    | .error _ => t.assign k v) t

def applyFileLayer (report : String → String) (readFile : String → FileState) (t : Setting) :
    Layer → Except Fault Setting
  | .override .. => return t
  | .file name required =>
    match findFile readFile name with
    | .ok (name, text) => do return applyFile t (← settingsOf report (some name) text)
    | .error fault => if required then throw fault else return t

def applyOverride (t : Setting) : Layer → Setting
  | .override path v => t.set path (.scalar none v)
  | .file .. => t

def defaultText : String :=
  "# Default configuration for the adoc toolchain.\n" ++
  "#\n" ++
  "# Every key is listed here; user files passed with --config only need the keys\n" ++
  "# they change.\n" ++
  "\n" ++
  "[translate]\n" ++
  "# Untyped links point at wiki documents instead of URLs\n" ++
  "wiki_mode = false\n" ++
  "# Syntax label reported in the document metadata, \"asciidoc/1.0\" or \"asciidoctor/1.0\".\n" ++
  "# Both run the same translation.\n" ++
  "syntax = \"asciidoc/1.0\"\n" ++
  "# Deepest block nesting accepted before translation fails\n" ++
  "max_depth = 256\n" ++
  "\n" ++
  "[fragment]\n" ++
  "# Fail on html parse errors in inline content instead of recovering\n" ++
  "strict = false\n" ++
  "\n" ++
  "[output]\n" ++
  "# \"text\" prints one event per line, \"json\" prints an array of events\n" ++
  "format = \"text\"\n"

def defaults (report : String → String) : Except Fault Setting := do
  return applyFile .empty (← settingsOf report none defaultText)

def settle (readFile : String → FileState) (layers : List Layer)
    (report : String → String := briefReport) : Except Fault Setting := do
  let files ← layers.foldlM (applyFileLayer report readFile) (← defaults report)
  return layers.foldl applyOverride files

def load (readFile : String → FileState) (layers : List Layer)
    (report : String → String := briefReport) : Except Fault Config := do
  ofSetting (← settle readFile layers report)

end DocStream.Config
