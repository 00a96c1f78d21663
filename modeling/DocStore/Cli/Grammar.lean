import DocStore.Text.Classes
import DocStore.Query.Basic
/-!
# The command-line grammar

The commands of the `doclite` program, their arguments, their help texts and how a command line
is matched against them.

A command has options (`--name <VALUE>` or a bare switch), positional arguments and possibly
subcommands, one of which must then be given. Matching reads the words left to right:

* a word naming a subcommand starts that subcommand, and the rest of the line belongs to it;
  `help` instead prints the help of the commands named after it;
* `--` makes every later word positional;
* `--long` and `--long=value` name options, `-h` (and `-V` at the top) are the short switches;
* any other word is the value of the option before it, or the next positional argument.

A value is checked when the next word is read (or at the end), so a later unknown word is
reported before a bad value. A failure prints an `error:` line, tips, the usage line and a
pointer to `--help`, and stops with status 2; help and the version go to standard output with
status 0; a command that needs a subcommand and got no words at all prints its help as an error.
-/

namespace DocStore

namespace Cli

/-- How an argument takes its value. -/
inductive ArgShape where
  /-- A switch without a value. -/
  | flag
  /-- An option written `--long <VALUE>`. -/
  | option (valueName : String)
  /-- A positional argument written `<VALUE>`. -/
  | positional (valueName : String)
deriving DecidableEq, Repr

/-- How the text of a value is checked. -/
inductive ValueKind where
  /-- Any text. -/
  | text
  /-- A path: any text but the empty one. -/
  | path
  /-- An unsigned 64-bit number. -/
  | unsigned
  /-- One of the given names. -/
  | choice (names : List String)
  /-- `key=value`. -/
  | keyValue
  /-- `field op value`. -/
  | filter
  /-- `field` or `field:direction`. -/
  | order
deriving DecidableEq, Repr

/-- An argument of a command. -/
structure ArgSpec where
  id : String
  long : String := ""
  short : Option Char := none
  shape : ArgShape
  help : String := ""
  kind : ValueKind := .text
  repeated : Bool := false
  default : Option String := none
  env : Option String := none
  requires : Option String := none
deriving Repr

namespace ArgSpec

/-- Is this a positional argument? -/
def isPositional (a : ArgSpec) : Bool :=
  match a.shape with
  | .positional _ => true
  | _ => false

/-- Does this argument take a value? -/
def takesValue (a : ArgSpec) : Bool :=
  match a.shape with
  | .flag => false
  | _ => true

/-- How the argument is named in messages: `--long <VALUE>`, `--long` or `<VALUE>`. -/
def display (a : ArgSpec) : String :=
  match a.shape with
  | .flag => "--" ++ a.long
  | .option v => "--" ++ a.long ++ " <" ++ v ++ ">"
  | .positional v => "<" ++ v ++ ">"

/-- The names a value may take, when the argument lists them. -/
def choices (a : ArgSpec) : List String :=
  match a.kind with
  | .choice names => names
  | _ => []

end ArgSpec

/-- The switch that prints help. -/
def helpArg : ArgSpec := { id := "help", long := "help", short := some 'h', shape := .flag, help := "Print help" }

/-- The switch that prints the version. -/
def versionArg : ArgSpec :=
  { id := "version", long := "version", short := some 'V', shape := .flag, help := "Print version" }

/-- The commands of the program. -/
inductive Command where
  | root
  | get
  | set
  | update
  | patch
  | delete
  | add
  | query
  | count
  | watch
  | index
  | exportStore
  | importStore
  | file
  | filePut
  | fileGet
  | fileRm
deriving DecidableEq, Repr, Inhabited

namespace Command

/-- The word that names a command. -/
def word : Command → String
  | .root => "doclite"
  | .get => "get"
  | .set => "set"
  | .update => "update"
  | .patch => "patch"
  | .delete => "delete"
  | .add => "add"
  | .query => "query"
  | .count => "count"
  | .watch => "watch"
  | .index => "index"
  | .exportStore => "export"
  | .importStore => "import"
  | .file => "file"
  | .filePut => "put"
  | .fileGet => "get"
  | .fileRm => "rm"

/-- The full name of a command, as usage lines write it. -/
def fullName : Command → String
  | .root => "doclite"
  | .filePut => "doclite file put"
  | .fileGet => "doclite file get"
  | .fileRm => "doclite file rm"
  | c => "doclite " ++ c.word

/-- The subcommands of a command, without the implicit `help`. -/
def children : Command → List Command
  | .root => [.get, .set, .update, .patch, .delete, .add, .query, .count, .watch, .index,
      .exportStore, .importStore, .file]
  | .file => [.filePut, .fileGet, .fileRm]
  | _ => []

/-- Does the command take a subcommand? -/
def hasChildren (c : Command) : Bool := !c.children.isEmpty

/-- The one-line description of a command. -/
def about : Command → String
  | .root => "CLI interface for doclite"
  | .get => "Get a single document (e.g. users/alice)"
  | .set => "Create or replace a document"
  | .update => "Merge fields into an existing document"
  | .patch => "Apply a JSON Patch (RFC 6902 operations array) to a document"
  | .delete => "Delete a document"
  | .add => "Add a document with a generated id"
  | .query => "Query a collection or collection group"
  | .count => "Count the documents a query matches"
  | .watch => "Print query results every time they change, until interrupted"
  | .index => "Create an index on a field of a collection"
  | .exportStore => "Export the whole store"
  | .importStore => "Replace the whole store with a backup"
  | .file => "Stored binary files"
  | .filePut => "Upload a local file"
  | .fileGet => "Show a stored file's metadata, or save its content with --output"
  | .fileRm => "Delete a stored file"

/-- The description of the implicit `help` subcommand. -/
def helpAbout : String := "Print this message or the help of the given subcommand(s)"

/-- A positional argument. -/
def positional (id valueName help : String) (kind : ValueKind := .text) : ArgSpec :=
  { id := id, shape := .positional valueName, help := help, kind := kind }

/-- The document data arguments of `set`, `update` and `add`. -/
def dataArgs : List ArgSpec :=
  [{ id := "fields", long := "field", shape := .option "FIELDS", kind := .keyValue, repeated := true,
     help := "Field values (e.g. --field name=\"Alice Chen\" --field address.city=Lisbon)" },
   { id := "json", long := "json", shape := .option "JSON",
     help := "Whole document as a JSON object; --field values are applied on top" }]

/-- The query arguments of `query`, `count` and `watch`. -/
def queryArgs : List ArgSpec :=
  [positional "collection" "COLLECTION" "Collection path, or collection id with --group",
   { id := "group", long := "group", shape := .flag,
     help := "Query every collection with this id, at any depth" },
   { id := "filters", long := "where", shape := .option "FILTERS", kind := .filter, repeated := true,
     help := "Filter as \"field op value\" (e.g. --where \"age >= 18\")" },
   { id := "order", long := "order-by", shape := .option "ORDER", kind := .order, repeated := true,
     help := "Sort key as field or field:desc" },
   { id := "limit", long := "limit", shape := .option "LIMIT", kind := .unsigned },
   { id := "limit_to_last", long := "limit-to-last", shape := .option "LIMIT_TO_LAST", kind := .unsigned }]

/-- The arguments a command declares, in order, without the help and version switches. -/
def args : Command → List ArgSpec
  | .root =>
    [{ id := "config", long := "config", shape := .option "CONFIG", kind := .path,
       help := "YAML config file; --data-dir and --name override its values" },
     { id := "data_dir", long := "data-dir", shape := .option "DATA_DIR", kind := .path,
       env := some "DOCLITE_DATA_DIR", help := "Directory holding the store (default: current directory)" },
     { id := "name", long := "name", shape := .option "NAME", env := some "DOCLITE_NAME",
       help := "Store file name" },
     { id := "format", long := "format", shape := .option "FORMAT", kind := .choice ["yaml", "json"],
       default := some "yaml", help := "Output format" }]
  | .get | .delete => [positional "path" "PATH" "Document path"]
  | .set | .update => positional "path" "PATH" "Document path" :: dataArgs
  | .patch => [positional "path" "PATH" "Document path", positional "ops" "OPS" "Patch operations as JSON"]
  | .add => positional "collection" "COLLECTION" "Collection path" :: dataArgs
  | .query | .count | .watch => queryArgs
  | .index =>
    [positional "collection" "COLLECTION" "Collection path",
     positional "field" "FIELD" "Field path (dotted for nested fields)"]
  | .exportStore =>
    [{ id := "binary", long := "binary", shape := .flag, requires := some "output",
       help := "Raw database image instead of JSON rows" },
     { id := "output", long := "output", shape := .option "OUTPUT", kind := .path,
       help := "Write to a file instead of stdout" }]
  | .importStore =>
    [positional "file" "FILE" "Backup file" .path,
     { id := "binary", long := "binary", shape := .flag, help := "The file is a raw database image" }]
  | .file => []
  | .filePut =>
    [positional "path" "PATH" "Storage path", positional "source" "SOURCE" "Local file to upload" .path,
     { id := "content_type", long := "content-type", shape := .option "CONTENT_TYPE",
       default := some "application/octet-stream" }]
  | .fileGet =>
    [positional "path" "PATH" "Storage path",
     { id := "output", long := "output", shape := .option "OUTPUT", kind := .path }]
  | .fileRm => [positional "path" "PATH" "Storage path"]

/-- Every switch and option of a command, the help and version switches last. -/
def switches (c : Command) : List ArgSpec :=
  (c.args.filter (fun a => !a.isPositional)) ++ [helpArg] ++ (if c = .root then [versionArg] else [])

/-- The positional arguments of a command, in order. -/
def positionals (c : Command) : List ArgSpec := c.args.filter ArgSpec.isPositional

/-- The subcommand a word names, `help` aside. -/
def child? (c : Command) (w : String) : Option Command := c.children.find? (fun k => k.word == w)

/-- The words naming the subcommands, `help` included. -/
def childWords (c : Command) : List String :=
  if c.hasChildren then c.children.map Command.word ++ ["help"] else []

/-- The environment variables that the program's options fall back on. -/
def environmentNames : List String := Command.root.args.filterMap ArgSpec.env

end Command

/-! ## Help -/

/-- `n` spaces. -/
def spaces (n : Nat) : String := String.ofList (List.replicate n ' ')

/-- The value of a variable of an environment. -/
def lookupEnv (env : List (String × String)) (name : String) : Option String :=
  (env.find? (fun p => p.1 == name)).map Prod.snd

/-- The bracketed notes after an argument's help: its variable, default and choices. -/
def specNotes (env : List (String × String)) (a : ArgSpec) : List String :=
  (match a.env with
    | some v => ["[env: " ++ v ++ "=" ++ (lookupEnv env v).getD "" ++ "]"]
    | none => []) ++
  (match a.default with
    | some d => ["[default: " ++ d ++ "]"]
    | none => []) ++
  (match a.choices with
    | [] => []
    | cs => ["[possible values: " ++ ", ".intercalate cs ++ "]"])

/-- The help text of an argument with its notes. -/
def helpWithNotes (env : List (String × String)) (a : ArgSpec) : String :=
  match specNotes env a with
  | [] => a.help
  | notes => (if a.help.isEmpty then "" else a.help ++ " ") ++ " ".intercalate notes

/-- The usage of a command as its help shows it. -/
def Command.usage (c : Command) : String :=
  let options := c.args.any (fun a => !a.isPositional)
  c.fullName ++ (if options then " [OPTIONS]" else "") ++
    String.join (c.positionals.map (fun a => " " ++ a.display)) ++
    (if c.hasChildren then " <COMMAND>" else "")

/-- The usage line of an error, built from the arguments in use: the required options and
those in use, then the positional arguments, in order. -/
def Command.usageWith (c : Command) (required used : List String) : String :=
  if used.isEmpty then c.usage
  else
    let ids := (required ++ used).foldl (fun acc i => if acc.contains i then acc else acc ++ [i]) []
    let opts := ids.filterMap (fun i => (c.switches.find? (fun a => a.id == i)))
    let poss := c.positionals.filter (fun a => ids.contains a.id)
    c.fullName ++ String.join (opts.map (fun a => " " ++ a.display)) ++
      String.join (poss.map (fun a => " " ++ a.display)) ++
      (if c.hasChildren then " <COMMAND>" else "")

/-- The line of an option in the help: short and long names, padding to the help column, help. -/
def optionLine (env : List (String × String)) (width : Nat) (a : ArgSpec) : String :=
  let lead := match a.short with
    | some s => "-" ++ String.singleton s ++ ", "
    | none => "    "
  "  " ++ lead ++ a.display ++ spaces (width + 2 - a.display.length) ++ helpWithNotes env a

/-- The line of a positional argument in the help. -/
def positionalLine (env : List (String × String)) (width : Nat) (a : ArgSpec) : String :=
  "  " ++ a.display ++ spaces (width + 2 - a.display.length) ++ helpWithNotes env a

/-- The widest of some texts. -/
def widest (xs : List String) : Nat := xs.foldl (fun w x => max w x.length) 2

/-- The help of a command. -/
def Command.helpText (c : Command) (env : List (String × String)) : String :=
  let subs : List (String × String) :=
    c.children.map (fun k => (k.word, k.about)) ++ (if c.hasChildren then [("help", Command.helpAbout)] else [])
  let subWidth := widest (subs.map Prod.fst)
  let commands := if subs.isEmpty then [] else
    ["Commands:\n" ++ "\n".intercalate (subs.map (fun (w, t) => "  " ++ w ++ spaces (subWidth + 2 - w.length) ++ t))]
  let poss := c.positionals
  let posWidth := widest (poss.map ArgSpec.display)
  let arguments := if poss.isEmpty then [] else
    ["Arguments:\n" ++ "\n".intercalate (poss.map (positionalLine env posWidth))]
  let opts := c.switches
  let optWidth := widest (opts.map ArgSpec.display)
  let options := ["Options:\n" ++ "\n".intercalate (opts.map (optionLine env optWidth))]
  c.about ++ "\n\nUsage: " ++ c.usage ++ "\n\n" ++ "\n\n".intercalate (commands ++ arguments ++ options) ++ "\n"

/-- The help of the implicit `help` subcommand of a command. -/
def helpCommandText (c : Command) : String :=
  Command.helpAbout ++ "\n\nUsage: " ++ c.fullName ++ " help [COMMAND]...\n\n" ++
    "Arguments:\n  [COMMAND]...  Print help for the subcommand(s)\n"

/-- The version line. -/
def versionText : String := "doclite 0.1.0\n"

/-! ## Similar names -/

/-- The counts behind the Jaro similarity of two texts: matching characters, transpositions and
the two lengths. Matching characters are those equal within half the longer length (less one) of
each other, each used once; transpositions are matched characters out of order, halved. -/
def jaroCounts (a b : String) : Nat × Nat × Nat × Nat := Id.run do
  let xs := a.toList.toArray
  let ys := b.toList.toArray
  let la := xs.size
  let lb := ys.size
  let range := max la lb / 2 - 1
  let mut aFlags := Array.replicate la false
  let mut bFlags := Array.replicate lb false
  let mut m := 0
  for i in [0:la] do
    let lo := i - range
    let hi := min lb (i + range + 1)
    let mut found : Option Nat := none
    for j in [lo:hi] do
      if found.isNone ∧ ys.getD j ' ' = xs.getD i ' ' ∧ !bFlags.getD j false then found := some j
    match found with
    | some j =>
      aFlags := aFlags.setIfInBounds i true
      bFlags := bFlags.setIfInBounds j true
      m := m + 1
    | none => pure ()
  let aMatched := ((List.range la).filter (fun i => aFlags.getD i false)).map (fun i => xs.getD i ' ')
  let bMatched := ((List.range lb).filter (fun j => bFlags.getD j false)).map (fun j => ys.getD j ' ')
  let t := ((aMatched.zip bMatched).filter (fun p => p.1 ≠ p.2)).length / 2
  return (m, t, la, lb)

/-- The Jaro similarity of two texts, `(m / la + m / lb + (m - t) / m) / 3`, computed in binary64
with each step rounded: 1 for two empty texts, 0 when one is empty or nothing matches. -/
def jaro (a b : String) : Binary64 :=
  let (m, t, la, lb) := jaroCounts a b
  let one := Binary64.ofNat 1
  if la = 0 ∧ lb = 0 then one
  else if la = 0 ∨ lb = 0 ∨ m = 0 then Binary64.zero
  else
    let q (n d : Nat) : Binary64 := (Binary64.div (.ofNat n) (.ofNat d)).getD Binary64.zero
    let s1 := (Binary64.addSameSign (q m la) (q m lb)).getD Binary64.zero
    let s2 := (Binary64.addSameSign s1 (q (m - t) m)).getD Binary64.zero
    (Binary64.div s2 (.ofNat 3)).getD Binary64.zero

/-- The binary64 nearest to 0.7, the least similarity of a suggestion (exclusive). -/
def suggestionThreshold : Binary64 := (Binary64.div (.ofNat 7) (.ofNat 10)).getD Binary64.zero

/-- The candidates more than 0.7 similar to a word, least similar first. -/
def similar (word : String) (candidates : List String) : List String :=
  let scored := (candidates.map (fun c => (jaro word c, c))).filter (fun (x, _) =>
    Binary64.compareValue x suggestionThreshold == .gt)
  let sorted := scored.mergeSort (fun (x, _) (y, _) => Binary64.compareValue x y != .gt)
  sorted.map Prod.snd

/-! ## Errors -/

/-- A usage error, with what it prints. `helpFlag` says whether the command it concerns has a
`--help` switch to point to; the `help` subcommand has none. -/
structure UsageError where
  message : String
  tips : List String := []
  usage : Option String := none
  helpFlag : Bool := true
deriving Repr

/-- The text of a usage error. -/
def UsageError.text (e : UsageError) : String :=
  "error: " ++ e.message ++
    (if e.tips.isEmpty then "" else "\n" ++ String.join (e.tips.map (fun t => "\n  tip: " ++ t))) ++
    (match e.usage with
      | some u => "\n\nUsage: " ++ u
      | none => "") ++
    (if e.helpFlag then "\n\nFor more information, try '--help'.\n" else "\n")

/-- The list of possible values that follows some messages. -/
def valuesNote (names : List String) : String :=
  if names.isEmpty then "" else "\n  [possible values: " ++ ", ".intercalate names ++ "]"

/-- An option given without a value. -/
def emptyValue (a : ArgSpec) : UsageError :=
  { message := "a value is required for '" ++ a.display ++ "' but none was supplied" ++ valuesNote a.choices }

/-- A value refused by its check, with the reason. -/
def invalidValue (a : ArgSpec) (v reason : String) : UsageError :=
  { message := "invalid value '" ++ v ++ "' for '" ++ a.display ++ "': " ++ reason }

/-! ## Checking values -/

/-- An unsigned 64-bit number written in decimal, with an optional `+`. -/
def parseUnsigned (s : String) : Except String Nat :=
  let digits := match s.toList with
    | '+' :: rest => rest
    | cs => cs
  if s.isEmpty then .error "cannot parse integer from empty string"
  else if digits.isEmpty ∨ !digits.all Char.isDigit then .error "invalid digit found in string"
  else
    let n := digits.foldl (fun n c => 10 * n + (c.toNat - '0'.toNat)) 0
    if n ≥ Nat.pow 2 64 then .error "number too large to fit in target type" else .ok n

/-- Split `key=value` at the first `=`. -/
def parseKeyValue (s : String) : Except String (String × String) :=
  match s.splitOn "=" with
  | k :: v :: rest => .ok (k, "=".intercalate (v :: rest))
  | _ => .error ("Invalid key=value pair: no '=' found in '" ++ s ++ "'")

/-- Trim white space from both ends of a text. -/
def trimWhite (s : String) : String :=
  String.ofList (((s.toList.dropWhile Text.isWhiteSpace).reverse.dropWhile Text.isWhiteSpace).reverse)

/-- Split a text at the first `n - 1` white-space characters. -/
def splitWhite : Nat → List Char → List String
  | 0, _ => []
  | 1, cs => [String.ofList cs]
  | n + 2, cs =>
    match cs.findIdx? Text.isWhiteSpace with
    | some i => String.ofList (cs.take i) :: splitWhite (n + 1) (cs.drop (i + 1))
    | none => [String.ofList cs]

/-- The three words of a filter `field op value`, the value trimmed. -/
def filterWords (s : String) : Except String (String × String × String) :=
  match splitWhite 3 (trimWhite s).toList with
  | [field, op, value] => .ok (field, op, trimWhite value)
  | _ => .error ("Invalid filter '" ++ s ++ "': expected \"field op value\"")

/-- Split `field:direction` at the last `:`; `none` without one. -/
def splitOrder (s : String) : String × Option String :=
  match s.splitOn ":" with
  | [] | [_] => (s, none)
  | parts => (":".intercalate parts.dropLast, parts.getLast?)

/-! ## Matching a command line -/

/-- The values matched for the arguments of one command, in the order the arguments were first
given. A switch has the value `true`. -/
structure Matches where
  values : List (String × List String) := []
deriving Repr, Inhabited

namespace Matches

/-- Is the argument given? -/
def has (m : Matches) (id : String) : Bool := m.values.any (fun p => p.1 == id)

/-- The values of an argument. -/
def all (m : Matches) (id : String) : List String :=
  ((m.values.find? (fun p => p.1 == id)).map Prod.snd).getD []

/-- The first value of an argument. -/
def first? (m : Matches) (id : String) : Option String := (m.all id).head?

/-- Record a value. -/
def add (m : Matches) (id v : String) : Matches :=
  if m.has id then { values := m.values.map (fun p => if p.1 == id then (p.1, p.2 ++ [v]) else p) }
  else { values := m.values ++ [(id, [v])] }

/-- The arguments given, in order. -/
def ids (m : Matches) : List String := m.values.map Prod.fst

end Matches

/-- Where the parse of one command stopped. -/
inductive Reply where
  /-- Print a text on standard output and stop with status 0. -/
  | out (text : String)
  /-- Print a text on standard error and stop with status 2. -/
  | err (text : String)
deriving Repr

/-- The state while the words of one command are read. -/
structure LevelState where
  given : Matches := {}
  /-- An argument whose value is not checked yet, with the value when it has one. -/
  pending : Option (ArgSpec × Option String) := none
  /-- The number of positional values read. -/
  taken : Nat := 0
  /-- Whether `--` was read. -/
  trailing : Bool := false

/-- Check a value for an argument. -/
def checkValue (a : ArgSpec) (v : String) : Except UsageError Unit :=
  match a.kind with
  | .text => .ok ()
  | .path => if v.isEmpty then .error (emptyValue a) else .ok ()
  | .unsigned => (parseUnsigned v).map (fun _ => ()) |>.mapError (invalidValue a v)
  | .choice names =>
    if names.contains v then .ok ()
    else if v.isEmpty then .error (emptyValue a)
    else .error { message := "invalid value '" ++ v ++ "' for '" ++ a.display ++ "'" ++ valuesNote names,
                  tips := ((similar v names).getLast?.map (fun s => "a similar value exists: '" ++ s ++ "'")).toList }
  | .keyValue => (parseKeyValue v).map (fun _ => ()) |>.mapError (invalidValue a v)
  | .filter =>
    match filterWords v with
    | .error e => .error (invalidValue a v e)
    | .ok (_, op, _) =>
      match WhereOp.parse op with
      | .ok _ => .ok ()
      | .error e => .error (invalidValue a v e.text)
  | .order =>
    match splitOrder v with
    | (_, some d) =>
      match Direction.parse d with
      | .ok _ => .ok ()
      | .error e => .error (invalidValue a v e.text)
    | (_, none) => .ok ()

/-- Record a value for an argument: a second use of a single-use argument is refused, then the
value is checked. -/
def record (c : Command) (m : Matches) (a : ArgSpec) (v : String) : Except UsageError Matches := do
  if m.has a.id ∧ !a.repeated then
    throw { message := "the argument '" ++ a.display ++ "' cannot be used multiple times",
            usage := some c.usage }
  checkValue a v
  return m.add a.id v

/-- Check the pending value, if any. -/
def LevelState.resolve (c : Command) (st : LevelState) : Except UsageError LevelState :=
  match st.pending with
  | none => .ok st
  | some (a, none) => .error (emptyValue a)
  | some (a, some v) => do
    let m ← record c st.given a v
    return { st with given := m, pending := none }

/-- The arguments in use, the pending one included. -/
def LevelState.used (st : LevelState) : List String :=
  match st.pending with
  | some (a, _) => if st.given.has a.id then st.given.ids else st.given.ids ++ [a.id]
  | none => st.given.ids

/-- The error for a word that is neither an argument nor a subcommand. -/
def strayWord (c : Command) (w : String) : UsageError :=
  if c.hasChildren then
    match similar w c.childWords with
    | [] => { message := "unrecognized subcommand '" ++ w ++ "'", usage := some c.usage }
    | [s] => { message := "unrecognized subcommand '" ++ w ++ "'",
               tips := ["a similar subcommand exists: '" ++ s ++ "'"], usage := some c.usage }
    | ss => { message := "unrecognized subcommand '" ++ w ++ "'",
              tips := ["some similar subcommands exist: " ++ ", ".intercalate (ss.map (fun s => "'" ++ s ++ "'"))],
              usage := some c.usage }
  else { message := "unexpected argument '" ++ w ++ "' found", usage := some c.usage }

/-- A suggestion for an unknown `--long` word: the most similar long name of the command itself,
or else one of a subcommand that the remaining words name (the one named first), with that
subcommand. -/
def suggestLong (c : Command) (name : String) (rest : List String) : Option (String × Option Command) :=
  match (similar name (c.switches.map ArgSpec.long)).getLast? with
  | some s => some (s, none)
  | none =>
    let options := c.children.filterMap (fun k =>
      match (similar name (k.switches.map ArgSpec.long)).getLast?, rest.idxOf? k.word with
      | some s, some i => some (i, s, k)
      | _, _ => none)
    let best := options.foldl (fun (acc : Option (Nat × String × Command)) o =>
      match acc with
      | some b => if o.1 < b.1 then some o else some b
      | none => some o) none
    best.map (fun (_, s, k) => (s, some k))

/-- The error for an unknown `--long` word, given the words after it. -/
def unknownLong (c : Command) (st : LevelState) (name : String) (rest : List String) : UsageError :=
  let suggestion := suggestLong c name rest
  let required := c.positionals.map ArgSpec.id
  let used := match suggestion with
    | some (s, _) =>
      match c.switches.find? (fun a => a.long == s) with
      | some a => if st.used.contains a.id then st.used else st.used ++ [a.id]
      | none => st.used
    | none => st.used
  let tips := match suggestion with
    | some (s, none) => ["a similar argument exists: '--" ++ s ++ "'"]
    | some (s, some k) => ["'" ++ k.word ++ " --" ++ s ++ "' exists"]
    | none =>
      if !st.trailing ∧ !c.positionals.isEmpty then
        ["to pass '--" ++ name ++ "' as a value, use '-- --" ++ name ++ "'"]
      else []
  { message := "unexpected argument '--" ++ name ++ "' found", tips := tips,
    usage := some (c.usageWith required used) }

/-- The error for an unknown short switch. -/
def unknownShort (c : Command) (st : LevelState) (ch : Char) : UsageError :=
  let w := "-" ++ String.singleton ch
  { message := "unexpected argument '" ++ w ++ "' found",
    tips := if !st.trailing ∧ !c.positionals.isEmpty then ["to pass '" ++ w ++ "' as a value, use '-- " ++ w ++ "'"] else [],
    usage := some c.usage }

/-- The reply of the `help` subcommand for the words after it. -/
def helpFor (env : List (String × String)) : Command → List String → Nat → Reply
  | c, [], _ => .out (c.helpText env)
  | _, _, 0 => .err ""
  | c, w :: rest, fuel + 1 =>
    if w = "help" ∧ c.hasChildren then
      if rest.isEmpty then .out (helpCommandText c)
      else .err ({ message := "unrecognized subcommand '" ++ rest.headD "" ++ "'",
                   usage := some (c.fullName ++ " help [COMMAND]..."), helpFlag := false } : UsageError).text
    else match c.child? w with
      | some k => helpFor env k rest fuel
      | none => .err ({ message := "unrecognized subcommand '" ++ w ++ "'", usage := some c.usage } : UsageError).text

/-- What one word does. -/
inductive Step where
  | more (st : LevelState)
  | stop (r : Reply)
  | descend (st : LevelState) (k : Command) (rest : List String)

/-- Read a `--long` word. -/
def longWord (c : Command) (env : List (String × String)) (st : LevelState) (body : String)
    (rest : List String) : Except UsageError Step := do
  let (name, attached) := match body.splitOn "=" with
    | n :: v :: rest => (n, some ("=".intercalate (v :: rest)))
    | _ => (body, none)
  match c.switches.find? (fun a => a.long == name) with
  | none => throw (unknownLong c st name rest)
  | some a =>
    match a.shape, attached with
    | .flag, some v =>
      throw { message := "unexpected value '" ++ v ++ "' for '" ++ a.display ++ "' found; no more were expected",
              usage := some (c.usageWith (c.positionals.map ArgSpec.id) (st.used ++ [a.id])) }
    | .flag, none =>
      let st ← st.resolve c
      if a.id = "help" then return .stop (.out (c.helpText env))
      if a.id = "version" then return .stop (.out versionText)
      let m ← record c st.given a "true"
      return .more { st with given := m }
    | _, some v =>
      let st ← st.resolve c
      let m ← record c st.given a v
      return .more { st with given := m }
    | _, none =>
      let st ← st.resolve c
      return .more { st with pending := some (a, none) }

/-- Read a `-x` word: only its first switch matters, as each known one stops the parse. -/
def shortWord (c : Command) (env : List (String × String)) (st : LevelState) (ch : Char) :
    Except UsageError Step := do
  match c.switches.find? (fun a => a.short == some ch) with
  | none => throw (unknownShort c st ch)
  | some a =>
    let _ ← st.resolve c
    if a.id = "version" then return .stop (.out versionText)
    return .stop (.out (c.helpText env))

/-- Read a word that is a value: of the option awaiting one, or the next positional argument. -/
def valueWord (c : Command) (st : LevelState) (w : String) : Except UsageError Step := do
  match st.pending, st.trailing with
  | some (a, none), false => return .more { st with pending := some (a, some w) }
  | _, _ =>
    match c.positionals[st.taken]? with
    | some a =>
      let st ← st.resolve c
      return .more { st with pending := some (a, some w), taken := st.taken + 1 }
    | none =>
      if st.trailing ∧ c.childWords.contains w then
        throw { message := "unexpected argument '" ++ w ++ "' found",
                tips := ["subcommand '" ++ w ++ "' exists; to use it, remove the '--' before it"],
                usage := some c.usage }
      throw (strayWord c w)

/-- Read one word. -/
def readWord (c : Command) (env : List (String × String)) (st : LevelState) (w : String)
    (rest : List String) : Except UsageError Step := do
  if !st.trailing then
    if c.hasChildren ∧ w = "help" then return .stop (helpFor env c rest (rest.length + 1))
    match c.child? w with
    | some k =>
      let st ← st.resolve c
      return .descend st k rest
    | none => pure ()
    if w = "--" then return .more { st with trailing := true }
    if w.startsWith "--" then return ← longWord c env st (String.ofList (w.toList.drop 2)) rest
    match w.toList with
    | '-' :: ch :: _ => return ← shortWord c env st ch
    | _ => pure ()
  valueWord c st w

/-- Read the words of one command, stopping at a subcommand. -/
def readWords (c : Command) (env : List (String × String)) :
    LevelState → List String → Except UsageError (Sum Reply (LevelState × Option (Command × List String)))
  | st, [] => return .inr (← st.resolve c, none)
  | st, w :: rest =>
    match readWord c env st w rest with
    | .error e => .error e
    | .ok (.stop r) => return .inl r
    | .ok (.descend st k more) => return .inr (st, some (k, more))
    | .ok (.more st) => readWords c env st rest

/-- Fill in the arguments taken from the environment and the defaults. -/
def withFallbacks (c : Command) (env : List (String × String)) (m : Matches) : Except UsageError Matches :=
  c.args.foldlM (fun m a =>
    if m.has a.id then .ok m
    else match a.env.bind (lookupEnv env) with
      | some v => do checkValue a v; return m.add a.id v
      | none => .ok m) m

/-- Apply the defaults of the arguments not given. -/
def withDefaults (c : Command) (m : Matches) : Matches :=
  c.args.foldl (fun m a =>
    match a.default with
    | some d => if m.has a.id then m else { values := m.values ++ [(a.id, [d])] }
    | none => m) m

/-- Check that the required arguments are there: every positional argument, and what the given
arguments require. -/
def checkRequired (c : Command) (explicit : List String) (m : Matches) : Except UsageError Unit := do
  let needed := c.positionals.map ArgSpec.id ++
    (c.args.filterMap (fun a => if m.has a.id then a.requires else none))
  let missing := needed.filter (fun i => !m.has i)
  if missing.isEmpty then return ()
  let missingArgs := c.switches.filter (fun a => missing.contains a.id) ++
    c.positionals.filter (fun a => missing.contains a.id)
  throw { message := "the following required arguments were not provided:" ++
            String.join (missingArgs.map (fun a => "\n  " ++ a.display)),
          usage := some (c.usageWith needed (explicit ++ missing)) }

/-- What a command line asks for. -/
inductive Request where
  /-- Run a command with the matches of the top level and of the command. -/
  | run (top : Matches) (command : Command) (own : Matches)
  /-- Print and stop. -/
  | reply (r : Reply)
deriving Repr

/-- Parse the words of a command and of its subcommands, `fuel` levels deep. -/
def parseLevel (env : List (String × String)) : Nat → Command → List String →
    Except UsageError (Sum Reply (List Matches × Command × Matches))
  | 0, _, _ => .ok (.inl (.err ""))
  | fuel + 1, c, words => do
    match ← readWords c env {} words with
    | .inl r => return .inl r
    | .inr (st, some (k, rest)) =>
      match ← parseLevel env fuel k rest with
      | .inl r => return .inl r
      | .inr (parents, leaf, own) =>
        let m ← withFallbacks c env st.given
        return .inr (withDefaults c m :: parents, leaf, own)
    | .inr (st, none) =>
      let m ← withFallbacks c env st.given
      if c.hasChildren then
        if m.values.isEmpty then return .inl (.err (c.helpText env))
        throw { message := "'" ++ c.fullName ++ "' requires a subcommand but one was not provided\n  [subcommands: " ++
                  ", ".intercalate c.childWords ++ "]",
                usage := some c.usage }
      let explicit := m.ids
      let m := withDefaults c m
      checkRequired c explicit m
      return .inr ([], c, m)

/-- Parse a command line (without the program name) in an environment. -/
def parse (env : List (String × String)) (words : List String) : Request :=
  match parseLevel env 3 .root words with
  | .error e => .reply (.err e.text)
  | .ok (.inl r) => .reply r
  | .ok (.inr (parents, leaf, own)) => .run (parents.headD {}) leaf own

end Cli

end DocStore
