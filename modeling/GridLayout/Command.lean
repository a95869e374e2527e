import GridLayout.Description.Toml
import GridLayout.Description.Yaml
import GridLayout.Report

/-!
# The command line

Three commands on a file that describes a layout: `size` and `layout` print a report, as text or as
JSON, and `check` says whether the layout can be computed. The arguments are understood before the
file is looked at, and its content before its kind is known.

* `Invocation.ofArguments?` understands the arguments, `Invocation.run` gives the output.
-/

namespace GridLayout

inductive Command where
  | size (json : Bool)
  | layout (width height : Option Int) (json : Bool)
  | check
deriving DecidableEq

structure Invocation where
  command : Command
  file : String
deriving DecidableEq

/-- Why there is no output. -/
inductive CommandFault where
  | usage
  | unreadableFile (file : String)
  | unknownFormat (file : String)
  | invalidToml
  | invalidYaml
  | description (fault : DescriptionFault)
deriving DecidableEq

def CommandFault.message : CommandFault → String
  | usage => "usage: (size | layout | check) FILE"
  | unreadableFile file => "cannot read " ++ file
  | unknownFormat file =>
    "unknown description format: " ++ file ++ " (expected .toml, .yaml or .yml)"
  | invalidToml => "TOML error"
  | invalidYaml => "YAML error"
  | description fault => fault.message

namespace Invocation

/-! ## Arguments -/

/-- What the arguments after the name of the command say; each may be given once. -/
structure Options where
  file : Option String
  width : Option Int
  height : Option Int
  json : Bool

/-- Set the width from its argument. -/
def Options.setWidth? (o : Options) (s : List Char) : Option Options := do
  if o.width.isSome then none else return { o with width := some (← Text.intOfBits? 32 s) }

/-- Set the height from its argument. -/
def Options.setHeight? (o : Options) (s : List Char) : Option Options := do
  if o.height.isSome then none else return { o with height := some (← Text.intOfBits? 32 s) }

/-- Set the file, which has a name that is not empty. -/
def Options.setFile? (o : Options) (s : String) : Option Options :=
  if o.file.isSome ∨ s = "" then none else some { o with file := some s }

/-- The value of an option that is written with an equals sign. -/
def valueAfter? (name argument : String) : Option (List Char) :=
  let start := name.toList ++ ['=']
  if start.isPrefixOf argument.toList then some (argument.toList.drop start.length) else none

/-- The argument is an option, or a mistake for one. A dash alone is a file. -/
def looksLikeOption (argument : String) : Bool :=
  argument.toList.head? == some '-' && argument != "-"

/-- The value of an option in an argument of its own. -/
def separateValue? (argument : String) : Option (List Char) :=
  if looksLikeOption argument then none else some argument.toList

/-- Understand the arguments after the name of the command. Those after two dashes are files. -/
def readOptions (o : Options) : List String → Option Options
  | [] => some o
  | "--" :: rest => rest.foldlM Options.setFile? o
  | "--json" :: rest => if o.json then none else readOptions { o with json := true } rest
  | "--width" :: s :: rest | "-W" :: s :: rest => do
    readOptions (← o.setWidth? (← separateValue? s)) rest
  | "--height" :: s :: rest | "-H" :: s :: rest => do
    readOptions (← o.setHeight? (← separateValue? s)) rest
  | argument :: rest =>
    match valueAfter? "--width" argument, valueAfter? "--height" argument with
    | some s, _ => do readOptions (← o.setWidth? s) rest
    | none, some s => do readOptions (← o.setHeight? s) rest
    | none, none =>
      if looksLikeOption argument then none else do readOptions (← o.setFile? argument) rest

/-- The command of a name with the options it knows. -/
def command? (name : String) (o : Options) : Option Command :=
  let noExtent := o.width.isNone && o.height.isNone
  match name with
  | "size" => if noExtent then some (.size o.json) else none
  | "layout" => some (.layout o.width o.height o.json)
  | "check" => if noExtent && !o.json then some .check else none
  | _ => none

/-- What the arguments ask for. -/
def ofArguments? : List String → Option Invocation
  | name :: rest => do
    let options ← readOptions ⟨none, none, none, false⟩ rest
    return ⟨← command? name options, ← options.file⟩
  | [] => none

/-! ## Output -/

/-- The part of a file's name after the last point, unless that is where the name starts. -/
def fileExtension? (file : String) : Option String :=
  let reversed := (file.toList.reverse.takeWhile (· != '/'))
  let extension := reversed.takeWhile (· != '.')
  match reversed.drop extension.length with
  | '.' :: _ :: _ => some (String.ofList extension.reverse)
  | _ => none

/-- Read a description by the extension of its file. -/
def load (file content : String) : Except CommandFault Description :=
  let orFault (fault : CommandFault) : Option Description → Except CommandFault Description
    | some d => .ok d
    | none => .error fault
  match fileExtension? file with
  | some "toml" => orFault .invalidToml (Description.ofToml? content)
  | some "yaml" | some "yml" => orFault .invalidYaml (Description.ofYaml? content)
  | _ => .error (.unknownFormat file)

/-- What a command prints for a description, without the last line end. -/
def output (i : Invocation) (d : Description) : Except DescriptionFault String :=
  match i.command with
  | .size json => d.sizeReport.map fun r => if json then r.toValue.toPrettyJson else r.toText
  | .layout width height json =>
    (d.layoutReport width height).map fun r => if json then r.toValue.toPrettyJson else r.toText
  | .check => d.check.map fun n => i.file ++ s!": ok ({n} components)"

/-- What an invocation prints, given the content of its file if that can be read. -/
def run (i : Invocation) (content : Option String) : Except CommandFault String := do
  let some content := content | throw (.unreadableFile i.file)
  let description ← load i.file content
  let output ← (i.output description).mapError .description
  return output ++ "\n"

end Invocation

/-- What a command line prints; `content` is the content of a file if that can be read. -/
def runCommandLine (arguments : List String) (content : String → Option String) :
    Except CommandFault String :=
  match Invocation.ofArguments? arguments with
  | some i => i.run (content i.file)
  | none => .error .usage

end GridLayout
