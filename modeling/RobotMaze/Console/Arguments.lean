import RobotMaze.Text.Split

/-! # Command lines — words read by a grammar

    A command line is a list of words.  A grammar says which commands there are
    and which options each takes; the options that all commands share may stand
    before and after the name of a command.

    * `Grammar` is the tree of commands, each with its `OptionRule`s;
    * `Level` is what was said to one command of the tree;
    * `Grammar.read` reads the words into a command, or says why there is none. -/

namespace RobotMaze.Console

/-! ## Grammars -/

/-- An option of a command. -/
structure OptionRule where
  /-- The name behind two hyphens. -/
  long : String
  /-- The letter behind one hyphen. -/
  short : Option Char
  /-- Which texts are values of the option; none where it takes no value. -/
  accepts : Option (String → Bool)

namespace OptionRule

/-- An option without a value. -/
def switch (long : String) (short : Option Char) : OptionRule := ⟨long, short, none⟩

/-- An option with a text. -/
def text (long : String) (short : Option Char) : OptionRule := ⟨long, short, some fun _ => true⟩

/-- An option with a value of some type. -/
def typed {α : Type} (long : String) (short : Option Char) (ofText? : String → Option α) :
    OptionRule :=
  ⟨long, short, some fun s => (ofText? s).isSome⟩

end OptionRule

/-- What was said to a command: its switches, its options with their values, and its words. -/
structure Level where
  switches : List String := []
  values : List (String × String) := []
  words : List String := []

namespace Level

/-- Whether a switch was set. -/
def has (l : Level) (name : String) : Bool := l.switches.contains name

/-- The value of an option. -/
def value? (l : Level) (name : String) : Option String := l.values.lookup name

/-- The value of an option of some type. -/
def typed? {α : Type} (l : Level) (ofText? : String → Option α) (name : String) : Option α :=
  (l.value? name).bind ofText?

/-- What was said at two levels; of an option at both, the first one's value counts. -/
def append (l m : Level) : Level :=
  ⟨l.switches ++ m.switches, l.values ++ m.values, l.words ++ m.words⟩

end Level

/-- A tree of commands that read as values of a type. -/
inductive Grammar (α : Type) where
  /-- A name under which there are further commands. -/
  | group (commands : List (String × Grammar α))
  /-- A command with options and so many words; none where something required is missing. -/
  | command (options : List OptionRule) (words : Nat) (build : Level → Option α)

/-- Why the words are no command that can be run. -/
inductive Declined where
  /-- Help was asked for. -/
  | help
  /-- The version was asked for. -/
  | version
  | misuse
  deriving DecidableEq, Repr

namespace Grammar

variable {α : Type}

/-- The commands under a name. -/
def commands : Grammar α → List (String × Grammar α)
  | .group commands => commands
  | .command _ _ _ => []

/-- The options of a command. -/
def options : Grammar α → List OptionRule
  | .group _ => []
  | .command options _ _ => options

/-- The number of words that a command takes. -/
def wordCount : Grammar α → Nat
  | .group _ => 0
  | .command _ words _ => words

/-- The command that was given. -/
def build (l : Level) : Grammar α → Except Declined α
  | .group _ => .error .misuse
  | .command _ _ build =>
      match build l with
      | some a => .ok a
      | none => .error .misuse

/-- The answer to a call for help about a command, named by a path, or about help itself. -/
def helpOn (g : Grammar α) : List String → Declined
  | [] => .help
  | name :: rest =>
      match g.commands.lookup name with
      | some inner => inner.helpOn rest
      | none => if name = "help" ∧ rest.isEmpty ∧ !g.commands.isEmpty then .help else .misuse

end Grammar

/-! ## Reading -/

/-- Where the reading of one level stands. -/
structure Progress where
  level : Level := {}
  /-- An option that is not settled yet, with its value if that was seen. -/
  pending : Option (OptionRule × Option String) := none
  /-- Whether hyphens count no more. -/
  isLiteral : Bool := false

namespace Progress

/-- Whether the next word is the value of an option. -/
def awaitsValue (p : Progress) : Bool := p.pending.any fun (_, value) => value.isNone

/-- Notes the value of an option, which must not come twice. -/
def note (p : Progress) (rule : OptionRule) (value : String) : Except Declined Progress :=
  let isGood := (rule.accepts.getD fun _ => true) value
  if (p.level.value? rule.long).isSome || !isGood then .error .misuse
  else
    .ok { p with
      pending := none
      level := { p.level with values := (rule.long, value) :: p.level.values } }

/-- Settles the option that is pending. -/
def settle (p : Progress) : Except Declined Progress :=
  match p.pending with
  | none => .ok p
  | some (rule, some value) => p.note rule value
  | some (_, none) => .error .misuse

/-- Takes a switch, or an option of which the value is still to come. -/
def take (p : Progress) (rule : OptionRule) : Except Declined Progress := do
  let p ← p.settle
  if rule.accepts.isSome then return { p with pending := some (rule, none) }
  else if p.level.has rule.long then throw .misuse
  else return { p with level := { p.level with switches := rule.long :: p.level.switches } }

/-- Takes an option with its value. -/
def takeValue (p : Progress) (rule : OptionRule) (value : String) : Except Declined Progress := do
  if rule.accepts.isSome then
    let p ← p.settle
    p.note rule value
  else throw .misuse

/-- Takes a word. -/
def takeWord (p : Progress) (most : Nat) (word : String) : Except Declined Progress := do
  let p ← p.settle
  if p.level.words.length < most then
    return { p with level := { p.level with words := p.level.words ++ [word] } }
  else throw .misuse

end Progress

/-- The options at one level of a command line, and whether the version can be asked for. -/
structure Rules where
  options : List OptionRule
  hasVersion : Bool

namespace Rules

/-- What the rest of a word says after a long option's two hyphens. -/
def takeLong (r : Rules) (p : Progress) (body : String) : Except Declined Progress :=
  let (name, value) := match Text.splitOnce? '=' body with
    | some (name, value) => (name, some value)
    | none => (body, none)
  match r.options.find? fun rule => rule.long == name with
  | some rule =>
      match value with
      | some value => p.takeValue rule value
      | none => p.take rule
  | none =>
      if value.isSome then .error .misuse
      else if name = "help" then do
        let _ ← p.settle
        throw .help
      else if name = "version" && r.hasVersion then do
        let _ ← p.settle
        throw .version
      else .error .misuse

/-- What the letters of a word say after a single hyphen. -/
def takeShort (r : Rules) (p : Progress) : List Char → Except Declined Progress
  | [] => .ok p
  | c :: rest =>
      match r.options.find? fun rule => rule.short == some c with
      | some rule =>
          if rule.accepts.isSome && !rest.isEmpty then
            let value := if rest.head? == some '=' then rest.drop 1 else rest
            p.takeValue rule (String.ofList value)
          else do
            let p ← p.take rule
            r.takeShort p rest
      | none =>
          if c = 'h' then do
            let _ ← p.settle
            throw .help
          else if c = 'V' && r.hasVersion then do
            let _ ← p.settle
            throw .version
          else .error .misuse

/-- What one word says that names no command. -/
def takeNext (r : Rules) (most : Nat) (p : Progress) (word : String) :
    Except Declined Progress :=
  if p.isLiteral then p.takeWord most word
  else
    match word.toList with
    | ['-', '-'] => .ok { p with isLiteral := true }
    | '-' :: '-' :: body => r.takeLong p (String.ofList body)
    | '-' :: c :: rest => r.takeShort p (c :: rest)
    | _ =>
        match p.pending with
        | some (rule, none) => .ok { p with pending := some (rule, some word) }
        | _ => p.takeWord most word

end Rules

namespace Grammar

variable {α : Type}

/-- Reads the words at one level and below it, with the options that all levels share. -/
def readFrom (shared : List OptionRule) (isTop : Bool) (g : Grammar α) (p : Progress) :
    List String → Except Declined (α × Level)
  | [] => do
      let p ← p.settle
      return (← g.build p.level, p.level)
  | word :: rest =>
      let inner := if p.isLiteral || p.awaitsValue then none else g.commands.lookup word
      match inner with
      | some inner => do
          let (a, below) ← readFrom shared false inner {} rest
          let p ← p.settle
          return (a, below.append p.level)
      | none =>
          if word = "help" ∧ !g.commands.isEmpty ∧ !p.isLiteral ∧ !p.awaitsValue then
            .error (g.helpOn rest)
          else do
            let p ← (Rules.mk (g.options ++ shared) isTop).takeNext g.wordCount p word
            readFrom shared isTop g p rest

/-- Reads the words of a command line; the options that all levels share come back with the
    command. -/
def read (shared : List OptionRule) (g : Grammar α) (words : List String) :
    Except Declined (α × Level) :=
  readFrom shared true g {} words

end Grammar

end RobotMaze.Console
