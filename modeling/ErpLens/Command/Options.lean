import ErpLens.Text.Digit
import ErpLens.Text.Search

/-!
# Options and arguments

A command takes one argument and some options. A long option can be cut short as long as it is clear
which one is meant, and a value can follow as the next word or after an equals sign. After `--`
every word is an argument.
-/

namespace ErpLens.Command

inductive OptionKind where
  | help
  | flag (name : String)
  | value (name : String)
deriving Repr, DecidableEq

structure OptionSpec where
  spellings : List String
  kind : OptionKind
deriving Repr, DecidableEq

def helpOption : OptionSpec := ⟨["-h", "--help"], .help⟩

structure CommandSpec where
  argument : String
  options : List OptionSpec
deriving Repr, DecidableEq

inductive Stop where
  | help
  | misuse
deriving Repr, DecidableEq

structure FoundOption where
  kind : OptionKind
  spelling : String
  attached : Option String
deriving Repr, DecidableEq

inductive Word where
  | separator
  | plain (text : String)
  | option (found : FoundOption)
  | unknownOption (text : String)
deriving Repr, DecidableEq

def spellings (options : List OptionSpec) : List (String × OptionKind) :=
  options.flatMap fun option => option.spellings.map fun spelling => (spelling, option.kind)

def splitEquals (text : String) : String × Option String :=
  let chars := text.toList
  let rest := chars.dropWhile (· != '=')
  (String.ofList (chars.takeWhile (· != '=')),
    match rest with
    | [] => none
    | _ :: value => some (String.ofList value))

/-- The options that a word can be short for. A word with one dash can be a one-letter option with
the rest attached. -/
def candidates (options : List OptionSpec) (text : String) : List FoundOption :=
  if Text.startsWith text "--" then
    let (start, attached) := splitEquals text
    (spellings options).filterMap fun (spelling, kind) =>
      if Text.startsWith spelling start then some ⟨kind, spelling, attached⟩ else none
  else
    let letter := Text.take 2 text
    let rest := String.ofList (text.toList.drop 2)
    (spellings options).filterMap fun (spelling, kind) =>
      if spelling == letter then some ⟨kind, spelling, some rest⟩
      else if Text.startsWith spelling text then some ⟨kind, spelling, none⟩
      else none

def isNegativeNumber (text : String) : Bool :=
  match text.toList with
  | '-' :: digits =>
    let rest := digits.dropWhile Text.isDigit
    match rest with
    | [] => !digits.isEmpty
    | '.' :: places => !places.isEmpty && places.all Text.isDigit
    | _ => false
  | _ => false

def classify (options : List OptionSpec) (text : String) : Except Stop Word :=
  if text == "--" then .ok .separator
  else if !Text.startsWith text "-" || text == "-" then .ok (.plain text)
  else
    match (spellings options).find? (·.1 == text) with
    | some (spelling, kind) => .ok (.option ⟨kind, spelling, none⟩)
    | none =>
      let (start, attached) := splitEquals text
      match attached, (spellings options).find? (·.1 == start) with
      | some _, some (spelling, kind) => .ok (.option ⟨kind, spelling, attached⟩)
      | _, _ =>
        match candidates options text with
        | [found] => .ok (.option found)
        | _ :: _ :: _ => .error .misuse
        | [] =>
          if isNegativeNumber text || Text.contains text " " then .ok (.plain text)
          else .ok (.unknownOption text)

def classifyAll (options : List OptionSpec) : List String → Except Stop (List Word)
  | [] => .ok []
  | text :: rest => do
    match ← classify options text with
    | .separator => return .separator :: rest.map .plain
    | word => return word :: (← classifyAll options rest)

structure Parsed where
  argument : Option String := none
  flags : List String := []
  values : List (String × String) := []
  hasExtras : Bool := false
deriving Repr, DecidableEq

def Parsed.hasFlag (parsed : Parsed) (name : String) : Bool :=
  parsed.flags.contains name

def Parsed.value? (parsed : Parsed) (name : String) : Option String :=
  (parsed.values.find? (·.1 == name)).map Prod.snd

/-- Acts on an option that takes no value: nothing may be attached to it, but the letter of a
one-letter option may be repeated. -/
def bareOption (found : FoundOption) : Except Stop Unit :=
  match found.attached with
  | none => .ok ()
  | some attached =>
    let letter := found.spelling.toList.drop 1
    if letter.length == 1 && !attached.isEmpty && attached.toList.all (letter.contains ·) then .ok ()
    else .error .misuse

def act (parsed : Parsed) : List Word → Except Stop Parsed
  | [] => .ok parsed
  | .unknownOption _ :: rest => act { parsed with hasExtras := true } rest
  | .option found :: rest =>
    match found.kind with
    | .help => do
      bareOption found
      throw .help
    | .flag name => do
      bareOption found
      act { parsed with flags := name :: parsed.flags } rest
    | .value name =>
      match found.attached with
      | some value => act { parsed with values := (name, value) :: parsed.values } rest
      | none =>
        match rest with
        | .plain value :: rest =>
          act { parsed with values := (name, value) :: parsed.values } rest
        | _ => .error .misuse
  | .plain text :: .separator :: rest =>
    match parsed.argument with
    | none => act { parsed with argument := some text } rest
    | some _ => act { parsed with hasExtras := true } (.separator :: rest)
  | .plain text :: rest =>
    match parsed.argument with
    | none => act { parsed with argument := some text } rest
    | some _ => act { parsed with hasExtras := true } rest
  | .separator :: .plain text :: rest =>
    match parsed.argument with
    | none => act { parsed with argument := some text } rest
    | some _ => act { parsed with hasExtras := true } (.plain text :: rest)
  | .separator :: rest => act { parsed with hasExtras := true } rest
termination_by words => words.length

def CommandSpec.read (spec : CommandSpec) (words : List String) :
    Except Stop (String × Parsed) := do
  let parsed ← act {} (← classifyAll spec.options words)
  match parsed.argument with
  | none => throw .misuse
  | some argument => return (argument, parsed)

structure SuiteWords where
  command : Option (String × List String) := none
  hasExtras : Bool := false
deriving Repr, DecidableEq

def findCommand (found : SuiteWords) : List (Word × String) → Except Stop SuiteWords
  | [] => .ok found
  | (.plain text, _) :: rest => .ok { found with command := some (text, rest.map Prod.snd) }
  | (.separator, _) :: [] => .ok { found with hasExtras := true }
  | (.separator, _) :: _ => .error .misuse
  | (.unknownOption _, _) :: rest => findCommand { found with hasExtras := true } rest
  | (.option option, _) :: _ => do
    bareOption option
    throw .help

def readSuite (words : List String) : Except Stop SuiteWords := do
  findCommand {} ((← classifyAll [helpOption] words).zip words)

end ErpLens.Command
