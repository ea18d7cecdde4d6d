/-
Entail/CommandLine/Request.lean

What a command line asks for.

Options may stand among the other words, with their value in the next word or after an equals sign,
and none may be given twice.  After a double hyphen every word is taken as it stands.
-/

namespace Entail.CommandLine

/-- Answer a question. -/
structure Ask where
  /-- The words of the question. -/
  question : List String := []
  /-- The file with the settings. -/
  config : Option String := none
  /-- How many sketches may be asked for. -/
  budget : Option Nat := none
  /-- The file with replies to replay. -/
  replay : Option String := none
  /-- Write JSON. -/
  json : Bool := false
  deriving DecidableEq, Repr

/-- Decide a sketch. -/
structure Check where
  /-- The file with the sketch. -/
  file : Option String := none
  /-- Write JSON. -/
  json : Bool := false
  deriving DecidableEq, Repr

/-- A command. -/
inductive Request where
  | ask (command : Ask)
  | check (command : Check)
  deriving DecidableEq, Repr

/-- Why words are no command. -/
inductive Refusal where
  /-- They ask how the program is used. -/
  | help
  /-- They do not fit. -/
  | misuse
  deriving DecidableEq, Repr

/-! ### Words and options -/

/-- How the words of a command change what it asks for.  A change that is not allowed gives
nothing. -/
structure Grammar (ρ : Type) where
  /-- The options without a value. -/
  flag : String → Option (ρ → Option ρ)
  /-- The options with a value. -/
  option : String → Option (String → ρ → Option ρ)
  /-- Any other word. -/
  word : String → ρ → Option ρ

/-- How a word is taken when it may be an option. -/
inductive Token where
  | plain
  | rest
  | long (name : String) (value : Option String)
  | short (letters : List Char)

/-- Tell options from other words.  A lone hyphen is no option. -/
def token (word : String) : Token :=
  match word.toList with
  | ['-', '-'] => .rest
  | '-' :: '-' :: name =>
    .long (String.ofList (name.takeWhile (· != '=')))
      ((name.dropWhile (· != '=')).head?.map fun _ =>
        String.ofList ((name.dropWhile (· != '=')).drop 1))
  | '-' :: c :: letters => .short (c :: letters)
  | _ => .plain

/-- Whether a word can be the value of the option before it. -/
def isValue (word : String) : Bool :=
  match token word with
  | .plain => true
  | _ => false

/-- What comes of a change, which may not be allowed. -/
def allowed {ρ : Type} : Option ρ → Except Refusal ρ
  | some r => .ok r
  | none => .error .misuse

/-- Read the words of a command, unless those before are refused. -/
def Grammar.read {ρ : Type} (g : Grammar ρ) : Except Refusal ρ → List String → Except Refusal ρ
  | .error e, _ => .error e
  | .ok r, [] => .ok r
  | .ok r, word :: rest =>
    match token word with
    | .plain => g.read (allowed (g.word word r)) rest
    -- From here on no word is an option.
    | .rest => allowed (rest.foldlM (fun r w => g.word w r) r)
    | .short letters => .error (if letters.head? = some 'h' then .help else .misuse)
    | .long name value =>
      match g.flag name, g.option name, value, rest with
      | some set, _, none, rest => g.read (allowed (set r)) rest
      | none, some set, some v, rest => g.read (allowed (set v r)) rest
      | none, some set, none, v :: rest =>
        if isValue v then g.read (allowed (set v r)) rest else .error .misuse
      | none, none, none, _ => .error (if name = "help" then .help else .misuse)
      | _, _, _, _ => .error .misuse

/-! ### Commands -/

/-- Give a setting a value, unless it has one. -/
def once {α : Type} (old : Option α) (new : α) : Option (Option α) :=
  match old with
  | none => some (some new)
  | some _ => none

/-- A number of 64 bits without a sign, though a plus sign may stand in front. -/
def count? (word : String) : Option Nat :=
  let digits := match word.toList with
    | '+' :: s => s
    | s => s
  if digits ≠ [] ∧ digits.all Char.isDigit then
    let n := digits.foldl (fun n c => n * 10 + (c.toNat - '0'.toNat)) 0
    if n < Nat.pow 2 64 then some n else none
  else none

/-- The words of a question, and its options. -/
def askGrammar : Grammar Ask where
  flag name :=
    if name = "json" then some fun a => if a.json then none else some { a with json := true }
    else none
  option name :=
    if name = "config" then
      some fun v a => (once a.config v).map fun config => { a with config }
    else if name = "replay" then
      some fun v a => (once a.replay v).map fun replay => { a with replay }
    else if name = "max-iterations" then
      some fun v a => do
        let budget ← once a.budget (← count? v)
        return { a with budget }
    else none
  word w a := some { a with question := a.question ++ [w] }

/-- At most one file, and the options of a check. -/
def checkGrammar : Grammar Check where
  flag name :=
    if name = "json" then some fun c => if c.json then none else some { c with json := true }
    else none
  option _ := none
  word w c := (once c.file w).map fun file => { c with file }

/-- What help can be asked about: the whole program, or one of its commands. -/
def topics : List (List String) := [[], ["ask"], ["check"], ["help"]]

/-- The command that words give. -/
def Request.ofWords : List String → Except Refusal Request
  | "ask" :: rest => (askGrammar.read (.ok {}) rest).map .ask
  | "check" :: rest => (checkGrammar.read (.ok {}) rest).map .check
  | "help" :: words => .error (if topics.contains words then .help else .misuse)
  | word :: _ => .error (if word = "--help" || word.startsWith "-h" then .help else .misuse)
  | [] => .error .misuse

namespace Request

/-- The files that a command reads. -/
def files : Request → List String
  | .ask a => a.config.toList ++ a.replay.toList
  | .check c => c.file.toList

/-- Whether a command reads the standard input. -/
def readsInput : Request → Bool
  | .ask a => a.question = []
  | .check c => c.file = none

end Request

end Entail.CommandLine
