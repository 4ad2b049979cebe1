import RobotMaze.Config.Variable

/-! # Files of variables

    A file of variables has a line `NAME=value` for each, perhaps behind the
    word `export`.  A value may stand in quotes, over several lines, and may
    hold other variables as `$NAME` or `${NAME}`; a line or its end may be a
    comment.

    * `statements` joins the lines that quotes hold together;
    * `statement?` reads one of them;
    * `loadFile` adds the variables of a file to an environment, up to the first
      line that cannot be read; a variable that is set keeps its value. -/

namespace RobotMaze.Config

/-! ## Lines -/

/-- Where the end of a line stands with respect to quotes. -/
inductive Quoting where
  | outside
  /-- Behind white space, where a comment may start. -/
  | blank
  | escape
  | double
  | doubleEscape
  | single
  | singleEscape
  deriving DecidableEq, Repr

/-- What a character opens outside quotes. -/
def Quoting.opened (c : Char) : Quoting :=
  if c = '\\' then .escape
  else if c = '"' then .double
  else if c = '\'' then .single
  else .outside

/-- One character further. -/
def Quoting.next (q : Quoting) (c : Char) : Quoting :=
  match q with
  | .outside =>
      if Text.isBlank c && c != '\n' && c != '\r' then .blank else opened c
  | .blank => opened c
  | .escape => .outside
  | .double => if c = '\\' then .doubleEscape else if c = '"' then .outside else .double
  | .doubleEscape => .double
  | .single => if c = '\\' then .singleEscape else if c = '\'' then .outside else .single
  | .singleEscape => .single

/-- A line up to its comment, and where it ends; none if there is a comment. -/
def beforeComment (q : Quoting) : List Char → List Char × Option Quoting
  | [] => ([], some q)
  | c :: rest =>
      if q = .blank ∧ c = '#' then ([], none)
      else
        let (line, last) := beforeComment (q.next c) rest
        (c :: line, last)

/-- The lines of a text, each with the break at its end. -/
def lines : List Char → List (List Char)
  | [] => []
  | c :: rest =>
      if c = '\n' then [c] :: lines rest
      else
        match lines rest with
        | line :: more => (c :: line) :: more
        | [] => [[c]]

/-- The statements of a file: its lines, those between quotes put together.  What quotes leave open
    at the end is none. -/
def statements (open? : Option (List Char × Quoting)) : List (List Char) → List (List Char)
  | [] => []
  | line :: rest =>
      let (before, q) := open?.getD ([], .outside)
      if open?.isNone && (Text.dropBlankStart line).head? == some '#' then statements none rest
      else
        let (line, last) := beforeComment q line
        match last with
        | none => (before ++ line) :: statements none rest
        | some .outside => (before ++ line) :: statements none rest
        | some q => statements (some (before ++ line, q)) rest

/-! ## Values -/

/-- Where the reading of a value stands; the flags say whether it is between double quotes. -/
inductive Place where
  | plain
  | double
  | single
  | escape (quoted : Bool)
  /-- In the name of a variable, with its letters so far, the last first. -/
  | name (quoted : Bool) (letters : List Char)
  /-- In a name between braces. -/
  | braced (quoted : Bool) (letters : List Char)
  /-- Behind the blank that ends a value. -/
  | ended
  deriving DecidableEq, Repr

/-- Back in the text around an escape or a name. -/
def Place.around (quoted : Bool) : Place := if quoted then .double else .plain

/-- The character that stands behind a backslash. -/
def unescaped? (c : Char) : Option Char :=
  if c = '\\' ∨ c = '\'' ∨ c = '"' ∨ c = '$' ∨ c = ' ' then some c
  else if c = 'n' then some '\n'
  else none

/-- A letter or a digit in the name of a variable. -/
def isNameChar (c : Char) : Bool := c.isAlphanum || (127 < c.toNat && !Text.isBlank c)

/-- The value of a variable; one that is not set is empty. -/
def valueOf (env : Environment) (letters : List Char) : List Char :=
  ((env.lookup (String.ofList letters.reverse)).getD "").toList

/-- What the end of the text adds to a value, if it may end there. -/
def atEnd? (env : Environment) : Place → Option (List Char)
  | .plain => some []
  | .ended => some []
  | .escape false => some []
  | .name false letters => some (valueOf env letters)
  | _ => none

/-- The value of a text. -/
def value (env : Environment) (place : Place) : List Char → Option (List Char)
  | [] => atEnd? env place
  | c :: rest =>
      match place with
      | .ended =>
          if c = ' ' ∨ c = '\t' then value env .ended rest
          else if c = '#' then some []
          else none
      | .escape quoted =>
          match unescaped? c with
          | some d => (value env (.around quoted) rest).map (d :: ·)
          | none => none
      | .single =>
          if c = '\'' then value env .plain rest
          else (value env .single rest).map (c :: ·)
      | .name quoted letters =>
          if isNameChar c then value env (.name quoted (c :: letters)) rest
          else if c = openBrace ∧ letters = [] then value env (.braced quoted []) rest
          else if c = '$' then
            (value env (.name quoted []) rest).map (valueOf env letters ++ ·)
          else (value env (.around quoted) rest).map (valueOf env letters ++ c :: ·)
      | .braced quoted letters =>
          if c = closeBrace then
            (value env (.around quoted) rest).map (valueOf env letters ++ ·)
          else value env (.braced quoted (c :: letters)) rest
      | .double =>
          if c = '$' then value env (.name true []) rest
          else if c = '"' then value env .plain rest
          else if c = '\\' then value env (.escape true) rest
          else (value env .double rest).map (c :: ·)
      | .plain =>
          if c = '$' then value env (.name false []) rest
          else if c = '\'' then value env .single rest
          else if c = '"' then value env .double rest
          else if c = '\\' then value env (.escape false) rest
          else if c = ' ' ∨ c = '\t' then value env .ended rest
          else (value env .plain rest).map (c :: ·)

/-! ## Statements -/

/-- A character of the name that a statement sets, other than the first. -/
def isTargetChar (c : Char) : Bool := c.isAlphanum || c == '_' || c == '.'

/-- Reads the name that a statement sets, and the blanks behind it. -/
def target? (cs : List Char) : Option (String × List Char) :=
  let letters := cs.takeWhile isTargetChar
  match letters with
  | c :: _ =>
      if c.isAlpha ∨ c = '_' then
        some (String.ofList letters, Text.dropBlankStart (cs.drop letters.length))
      else none
  | [] => none

/-- Reads the name that a statement sets up to its equals sign, perhaps behind the word `export`. -/
def assigned? (cs : List Char) : Option (String × List Char) :=
  match target? cs with
  | some (name, '=' :: rest) => some (name, rest)
  | some ("export", rest) =>
      match target? rest with
      | some (name, '=' :: rest) => some (name, rest)
      | _ => none
  | _ => none

/-- Whether nothing is left but a comment. -/
def isDone (cs : List Char) : Bool := cs.isEmpty || cs.head? == some '#'

/-- Reads a statement: a name with its value, or nothing; none if it cannot be read. -/
def statement? (env : Environment) (cs : List Char) : Option (Option (String × String)) :=
  let cs := Text.trimChars cs
  if isDone cs then some none
  else
    match assigned? cs with
    | none => none
    | some (name, rest) =>
        let rest := Text.dropBlankStart rest
        if isDone rest then some (some (name, ""))
        else (value env .plain rest).map fun letters => some (name, String.ofList letters)

/-- Adds a variable, unless it is set. -/
def Environment.add (env : Environment) (name text : String) : Environment :=
  if (env.lookup name).isSome then env else env ++ [(name, text)]

/-- Adds the variables of statements, up to the first that cannot be read. -/
def loadStatements (env : Environment) : List (List Char) → Environment
  | [] => env
  | cs :: rest =>
      match statement? env cs with
      | none => env
      | some none => loadStatements env rest
      | some (some (name, text)) => loadStatements (env.add name text) rest

/-- Adds the variables of a file. -/
def loadFile (text : String) (env : Environment) : Environment :=
  let cs := match text.toList with
    | c :: rest => if c.toNat = 0xFEFF then rest else c :: rest
    | [] => []
  loadStatements env (statements none (lines cs))

end RobotMaze.Config
