import NodeGroups.CommandLine.Usage

/-!
Reading a command line. Words are taken one by one. The value of an option or operand is checked
when the next argument begins, so that the first fault in this order is the one reported; at a place
that leads on to another, the last value is checked after all that comes below.

After the word `--` nothing but operands can come.
-/

set_option autoImplicit false

namespace NodeGroups.CommandLine

inductive Word
  /-- The word `--`. -/
  | escape
  /-- A long name after two hyphens, and the value after an equality sign. -/
  | long (name : String) (value : Option String)
  /-- Letters after a hyphen. -/
  | short (first : Char) (rest : List Char)
  | plain
  deriving DecidableEq

def valueAfterEquals (cs : List Char) : Option String :=
  match cs.dropWhile (· != '=') with
  | [] => none
  | _ :: value => some (String.ofList value)

def Word.ofText (text : String) : Word :=
  match text.toList with
  | ['-', '-'] => .escape
  | '-' :: '-' :: cs => .long (String.ofList (cs.takeWhile (· != '='))) (valueAfterEquals cs)
  | '-' :: c :: cs => .short c cs
  | _ => .plain

abbrev Values := List (String × String)

structure Given where
  values : Values
  /-- The last option or operand, not checked yet, with its value if that was given. -/
  pending : Option (Argument × Option String)
  /-- How many operands were given. -/
  operands : Nat
  /-- Nothing but operands can come. -/
  escaped : Bool
  deriving DecidableEq

namespace Given

def nothing : Given := ⟨[], none, 0, false⟩

def take (g : Given) (a : Argument) (value : String) : Except Usage Given :=
  if (g.values.lookup a.name).isSome then .error .repeatedArgument
  else if a.admission.admits value then .ok { g with values := g.values ++ [(a.name, value)] }
  else .error .invalidValue

/-- Checks the last argument. -/
def settle (g : Given) : Except Usage Given :=
  match g.pending with
  | none => .ok g
  | some (_, none) => .error .invalidValue
  | some (a, some value) => { g with pending := none }.take a value

def awaitsValue (g : Given) : Bool :=
  match g.pending with
  | some (_, none) => true
  | _ => false

def nextOperand? (g : Given) (p : Place) : Option Argument := p.operands[g.operands]?

/-- Whether a word that looks like an option can be the next operand. -/
def takesHyphens (g : Given) (p : Place) : Bool :=
  match g.nextOperand? p with
  | some a => a.takesHyphens
  | none => false

/-- Why a word is no operand. -/
def refusal (g : Given) (p : Place) (text : String) : Usage :=
  if p.isBranching && !(g.escaped && (p.branch? text).isSome) then .unknownCommand
  else .unknownArgument

def addOperand (g : Given) (p : Place) (text : String) : Except Usage Given :=
  match g.nextOperand? p with
  | none => .error (g.refusal p text)
  | some a => do
    let g ← g.settle
    return { g with pending := some (a, some text), operands := g.operands + 1 }

/-- Takes a word as the value that an option waits for, or else as an operand. -/
def addText (g : Given) (p : Place) (text : String) : Except Usage Given :=
  match g.pending with
  | some (a, none) => .ok { g with pending := some (a, some text) }
  | _ => g.addOperand p text

def addSwitch (g : Given) (s : Switch) : Except Usage Given := do
  let g ← g.settle
  match s with
  | .help => .error .help
  | .version => .error .version
  | .rawPatterns => g.take { name := "raw-patterns" } ""

/-- Takes an option, whose value may come with the next word. -/
def addOption (g : Given) (a : Argument) (value : Option String) : Except Usage Given := do
  let g ← g.settle
  match value with
  | some v => g.take a v
  | none => return { g with pending := some (a, none) }

def addLong (g : Given) (p : Place) (text name : String) (value : Option String) :
    Except Usage Given :=
  match p.option? name, p.switches.lookup name with
  | some a, _ => g.addOption a value
  | none, some s => if value.isSome then .error .surplusValue else g.addSwitch s
  | none, none => if g.takesHyphens p then g.addText p text else .error .unknownArgument

/-- Takes a word of letters. Every switch of one letter ends the reading, so only the first letter
counts. -/
def addShort (g : Given) (p : Place) (text : String) (c : Char) (cs : List Char) :
    Except Usage Given :=
  if g.takesHyphens p && (c :: cs).any (fun l => (p.letters.lookup l).isNone) then g.addText p text
  else
    match p.letters.lookup c with
    | some s => g.addSwitch s
    | none => .error .unknownArgument

def addWord (g : Given) (p : Place) (text : String) : Except Usage Given :=
  if g.escaped then g.addOperand p text
  else
    match Word.ofText text with
    | .escape => .ok { g with escaped := true }
    | .long name value => g.addLong p text name value
    | .short c cs => g.addShort p text c cs
    | .plain => g.addText p text

def branch? (g : Given) (p : Place) (text : String) : Option Branch :=
  if g.escaped || g.awaitsValue then none else p.branch? text

end Given

namespace Values

def required (vs : Values) (name : String) : Except Usage String :=
  match vs.lookup name with
  | some v => .ok v
  | none => .error .missingArgument

def flags (vs : Values) : Flags where
  file := vs.lookup "config"
  baseUrl := vs.lookup "base-url"
  csrfToken := vs.lookup "csrf-token"
  rawPatterns := (vs.lookup "raw-patterns").isSome

def command (vs : Values) : Place → Except Usage Command
  | .program | .classes | .rules | .groupVariables =>
    .error (if vs.isEmpty then .helpForLackOfArguments else .missingCommand)
  | .search => do
    match Dataset.names.lookup (← vs.required "dataset") with
    | none => .error .invalidValue
    | some dataset =>
      return .search dataset ((vs.lookup "query").getD "") (vs.lookup "environment")
        (vs.lookup "master-zone")
  | .showClasses => return .showClasses (← vs.required "group") (vs.lookup "environment")
  | .showRules => return .showRules (← vs.required "group")
  | .pin =>
    return .pin (← vs.required "group") (← vs.required "certname") (vs.lookup "master-zone")
  | .unpin => return .unpin (← vs.required "group") (← vs.required "certname")
  | .showVariables => return .showVariables (← vs.required "group")
  | .setVariable =>
    return .setVariable (← vs.required "group") (← vs.required "key") (← vs.required "value")
  | .unsetVariable => return .unsetVariable (← vs.required "group") (← vs.required "key")
  | .sync => return .sync (← vs.required "master") (vs.lookup "label")
  | .classify => return .classify (← vs.required "certname") (← vs.required "master-id")

end Values

namespace Invocation

/-- Reads the words at a place: the flags above the command if there are any, and the command. -/
def read (p : Place) (g : Given) : List String → Except Usage Invocation
  | [] => do
    let g ← g.settle
    return ⟨g.values.flags, ← g.values.command p⟩
  | text :: rest =>
    match g.branch? p text with
    | some .help => .error (p.helpOn rest)
    | some (.place below) => do
      let invocation ← read below .nothing rest
      let g ← g.settle
      return { invocation with flags := g.values.flags }
    | none => do
      let g ← g.addWord p text
      read p g rest

/-- Reads a command line, without the name of the program. -/
def ofArguments (args : List String) : Except Usage Invocation := read .program .nothing args

end Invocation

end NodeGroups.CommandLine
