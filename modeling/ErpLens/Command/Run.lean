import ErpLens.Command.AnalyzeFolder
import ErpLens.Command.Ask
import ErpLens.Command.Help
import ErpLens.Command.Options

/-!
# Running the tools

A tool first makes sure that it has a key for the language model, then reads its words, then does
what they say. Help ends a tool with success, words that it does not understand with code two.
-/

namespace ErpLens.Command

open Program Report Retrieval

def setKey (key : Option String) : Program Unit :=
  match key.filter fun key => !key.isEmpty with
  | none => do
    say (Color.red.paint "ERROR: GOOGLE_API_KEY not found in .env")
    fail (.exit 1)
  | some key => do
    ask (.configure key)
    say (Color.green.paint "✓ Gemini API configured")

def jsonOption : OptionSpec := ⟨["--json"], .flag "json"⟩

def collectionOption : OptionSpec := ⟨["--collection"], .value "collection"⟩

def fileOption : OptionSpec := ⟨["--file"], .value "file"⟩

def folderOption : OptionSpec := ⟨["--folder"], .value "folder"⟩

inductive SuiteCommand where
  | analyze | build | ask | search
deriving Repr, DecidableEq

namespace SuiteCommand

def ofName? : String → Option SuiteCommand
  | "analyze" => some analyze
  | "rag-init" => some build
  | "rag-ask" => some ask
  | "rag-search" => some search
  | _ => none

def spec : SuiteCommand → CommandSpec
  | analyze => ⟨"path", [helpOption, jsonOption]⟩
  | build => ⟨"path", [helpOption, collectionOption]⟩
  | ask => ⟨"question", [helpOption, collectionOption, fileOption, folderOption]⟩
  | search => ⟨"keyword", [helpOption, collectionOption]⟩

def help : SuiteCommand → String
  | analyze => analyzeHelp
  | build => buildHelp
  | ask => askHelp
  | search => searchHelp

end SuiteCommand

def stop {α : Type} (help : String) : Stop → Program α
  | .help => do
    say help
    fail (.exit 0)
  | .misuse => fail (.exit 2)

def readWords (spec : CommandSpec) (help : String) (words : List String) :
    Program (String × Parsed) :=
  match spec.read words with
  | .ok found => return found
  | .error reason => stop help reason

def analyzePath (tool : Tool) (path : String) (saving : Bool) : Program Unit := do
  let root ← files
  if Files.isDirectory root path then analyzeFolder tool path saving
  else if Files.isFile root path then analyzeFile tool path saving
  else
    say (Color.red.paint ("Path not found: " ++ path))
    fail (.exit 1)

def SuiteCommand.run (command : SuiteCommand) (argument : String) (parsed : Parsed) :
    Program Unit :=
  let collection := (parsed.value? "collection").getD defaultCollection
  match command with
  | .analyze => analyzePath .suite argument (parsed.hasFlag "json")
  | .build => buildStore argument collection
  | .ask => askStore argument collection
      { file := parsed.value? "file", folder := parsed.value? "folder" }
  | .search => searchStore argument collection

def runSuite (words : List String) : Program Unit := do
  match readSuite words with
  | .error reason => stop suiteHelp reason
  | .ok found =>
    match found.command with
    | none =>
      if found.hasExtras then fail (.exit 2)
      say suiteHelp
      fail (.exit 1)
    | some (name, rest) =>
      match SuiteCommand.ofName? name with
      | none => fail (.exit 2)
      | some command =>
        let (argument, parsed) ← readWords command.spec command.help rest
        if found.hasExtras || parsed.hasExtras then fail (.exit 2)
        command.run argument parsed

def runAnalyzer (words : List String) : Program Unit := do
  let (path, parsed) ← readWords ⟨"path", [helpOption, jsonOption]⟩ analyzerHelp words
  if parsed.hasExtras then fail (.exit 2)
  analyzePath .analyzer path (parsed.hasFlag "json")

def run (tool : Tool) (key : Option String) (words : List String) : Program Unit := do
  setKey key
  match tool with
  | .suite => runSuite words
  | .analyzer => runAnalyzer words

end ErpLens.Command
