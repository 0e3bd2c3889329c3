import DocStream.CommandLine.Arguments
import DocStream.CommandLine.Folder
import DocStream.Config.Layer
import DocStream.Fragment.Html
import DocStream.Fragment.Plain
import DocStream.Text.Utf8
import DocStream.Translation

/-! What the program prints for a command line. The configuration comes before the source, and the
source before its events; the first of them to fail is the only thing reported, and nothing of the
stream is printed then. -/

namespace DocStream.CommandLine

/-- What comes from outside: bytes, and what is said of a text that is no TOML. -/
structure Sources where
  file : String → Except ReadFault ByteArray
  input : Except ReadFault ByteArray
  tomlReport : String → String := Config.briefReport

structure Outcome where
  code : Nat
  output : String := ""
  errors : String := ""
deriving DecidableEq

def usageText : String := "Usage: adoc-events [OPTIONS] [path]"

def helpText : String :=
  "Prints the render events of an AsciiDoc source tree\n\n" ++ usageText ++ "\n\n" ++
  "Arguments:\n" ++
  "  [path]  Path to the JSON source tree, or '-' for stdin\n\n" ++
  "Options:\n" ++
  "  -w, --wiki             Resolve untyped links to wiki documents instead of URLs\n" ++
  "  -s, --syntax <syntax>  Syntax label reported in the document metadata (does not change the " ++
  "translation) [possible values: asciidoc/1.0, asciidoctor/1.0]\n" ++
  "  -f, --format <format>  Output format (default: text) [possible values: text, json]\n" ++
  "      --strict           Fail on html errors in inline content instead of recovering\n" ++
  "  -c, --config <config>  TOML configuration file layered over the defaults\n" ++
  "      --list-syntaxes    List the supported syntaxes\n" ++
  "  -h, --help             Print help\n" ++
  "  -V, --version          Print version\n"

def versionText : String := "adoc-events 0.1.0\n"

def dialectList : String :=
  "Supported syntaxes:\n\n" ++
    String.join (Dialect.all.map fun d => "  " ++ d.id ++ " - " ++ d.name ++ "\n")

def setting (root key : String) (v : Config.Scalar) : Config.Layer :=
  .override ⟨root, [.name key]⟩ v

def layers (a : Arguments) : List Config.Layer :=
  (a.config.map fun name => .file name true).toList ++
    (a.dialect.map fun d => setting "translate" "syntax" (.text d.id)).toList ++
    (a.format.map fun f => setting "output" "format" (.text f.name)).toList ++
    (if a.wiki then [setting "translate" "wiki_mode" (.bool true)] else []) ++
    (if a.strict then [setting "fragment" "strict" (.bool true)] else [])

/-- A configuration file, in which what is no text is replaced. A name that stands for no file is
another matter than a file that cannot be read. -/
def Sources.settings (s : Sources) (name : String) : Config.FileState :=
  match s.file name with
  | .ok bytes => .text (Text.decodeLenient bytes)
  | .error .missing | .error .isDirectory | .error .notDirectory => .absent
  | .error f => .unreadable f.message

def loadConfig (s : Sources) (a : Arguments) : Except Config.Fault Config :=
  Config.load s.settings (layers a) s.tomlReport

def decode (bytes : ByteArray) : Except ReadFault String :=
  match String.fromUTF8? bytes with
  | some text => .ok text
  | none => .error .notUtf8

def readSource (s : Sources) (path : String) : Except ReadFault String := do
  decode (← if path = "-" then s.input else s.file path)

def translate (s : Sources) (a : Arguments) (path : String) : Except String String := do
  let config ← (loadConfig s a).mapError fun f => "Configuration error: " ++ f.message
  let text ← (readSource s path).mapError fun f =>
    "Error reading " ++ path ++ ": " ++ f.message
  let translator : Translator :=
    { inline := Fragment.Html.reader config.strict
      plain := Fragment.Plain.reader
      dialect := config.dialect
      maxDepth := config.maxDepth }
  let events ← (translator.parse Source.read config.wikiMode text).mapError fun e =>
    "Translation error: " ++ e.message
  return render config.format events

def run (s : Sources) (args : List String) : Outcome :=
  match read args with
  | .error .usage => { code := 2, errors := usageText ++ "\n" }
  | .error .help => { code := 0, output := helpText }
  | .error .version => { code := 0, output := versionText }
  | .ok a =>
    if a.listDialects then { code := 0, output := dialectList }
    else
      match translate s a (a.path.getD "-") with
      | .ok output => { code := 0, output }
      | .error message => { code := 1, errors := message ++ "\n" }

end DocStream.CommandLine
