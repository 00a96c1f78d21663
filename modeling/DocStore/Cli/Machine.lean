import DocStore.Error
import DocStore.Time.Instant
/-!
# The machine a command runs on

A command of the program reads and writes files, reads the clock and draws fresh document ids.
`Machine` names those needs, so that one description of the commands runs on a real machine
and on `Disk`, a machine kept in memory.

`Disk` models a directory tree the way Linux reports failures:

* a path is read component by component; a component that is a file where a directory is
  needed fails with "Not a directory", a missing one with "No such file or directory";
* reading a directory fails with "Is a directory", and so do writing and removing one;
* creating directories creates every missing ancestor; a file in the way fails with "File
  exists" when it is the path itself;
* `.` components are dropped and `..` removes the component before it.

Fresh ids on a `Disk` are version-4 UUID texts numbered from zero, so each is distinct.
-/

namespace DocStore

namespace Cli

/-- What a command needs from the machine it runs on. -/
class Machine (m : Type → Type) where
  /-- The bytes of a file. -/
  readFile : String → m (Except IoFailure (List UInt8))
  /-- Create or replace a file. -/
  writeFile : String → List UInt8 → m (Except IoFailure Unit)
  /-- Create a directory and its missing ancestors. -/
  createDirs : String → m (Except IoFailure Unit)
  /-- Remove a file. -/
  removeFile : String → m (Except IoFailure Unit)
  /-- Whether anything exists at a path. -/
  isPresent : String → m Bool
  /-- The current time. -/
  clock : m Instant
  /-- A fresh random id. -/
  freshId : m String

/-- Two lowercase hexadecimal digits of a byte. -/
def hexByte (b : UInt8) : String :=
  let d (n : Nat) : Char := "0123456789abcdef".toList.getD n '0'
  String.ofList [d (b.toNat / 16), d (b.toNat % 16)]

/-- The text of a version-4 UUID made of 16 bytes: the version and variant bits are set, and the
hexadecimal digits are grouped 8-4-4-4-12. -/
def uuidText (bytes : List UInt8) : String :=
  let bs := (bytes ++ List.replicate 16 0).take 16
  let bs := bs.set 6 ((bs.getD 6 0 &&& 0x0f) ||| 0x40)
  let bs := bs.set 8 ((bs.getD 8 0 &&& 0x3f) ||| 0x80)
  let hex (from_ n : Nat) : String := String.join (((bs.drop from_).take n).map hexByte)
  hex 0 4 ++ "-" ++ hex 4 2 ++ "-" ++ hex 6 2 ++ "-" ++ hex 8 2 ++ "-" ++ hex 10 6

/-- The UUID given out as the `n`th fresh id of a `Disk`. -/
def sequentialId (n : Nat) : String :=
  uuidText (List.replicate 10 0 ++ (List.range 6).reverse.map (fun i => UInt8.ofNat (n / Nat.pow 256 i % 256)))

/-- The components of a path: `.` and empty components dropped, `..` undoing the one before. -/
def pathComponents (p : String) : List String :=
  ((p.splitOn "/").filter (fun s => s ≠ "" ∧ s ≠ ".")).foldl
    (fun acc s => if s = ".." then acc.dropLast else acc ++ [s]) []

/-- A path in the form a `Disk` stores it. -/
def normalPath (p : String) : String :=
  (if p.startsWith "/" then "/" else "") ++ "/".intercalate (pathComponents p)

/-- The directory part of a path: everything before its last `/`, or nothing. -/
def parentPath (p : String) : String :=
  match (p.splitOn "/").dropLast with
  | [] => ""
  | parts => "/".intercalate parts

/-- What is at a path. -/
inductive Entry where
  | file
  | directory
deriving DecidableEq, Repr

/-- A directory tree in memory, with a clock and a counter of ids given out. -/
structure Disk where
  files : List (String × List UInt8) := []
  dirs : List String := []
  clock : Instant := ⟨0, 0⟩
  issued : Nat := 0
deriving Repr, Inhabited

namespace Disk

/-- What is at a normalised path. -/
def entry (d : Disk) (p : String) : Option Entry :=
  if p = "" ∨ p = "/" then some .directory
  else if d.files.any (fun f => f.1 == p) then some .file
  else if d.dirs.contains p ∨ d.files.any (fun f => f.1.startsWith (p ++ "/")) ∨
      d.dirs.any (fun x => x.startsWith (p ++ "/")) then some .directory
  else none

/-- The normalised paths of the ancestors of a normalised path, outermost first. -/
def ancestors (p : String) : List String :=
  let absolute := p.startsWith "/"
  let cs := pathComponents p
  (List.range (cs.length - 1)).map (fun k =>
    (if absolute then "/" else "") ++ "/".intercalate (cs.take (k + 1)))

/-- Check that every ancestor of a path is a directory. -/
def reach (d : Disk) (p : String) : Except IoFailure Unit :=
  (ancestors p).forM (fun a =>
    match d.entry a with
    | some .directory => .ok ()
    | some .file => .error .notADirectory
    | none => .error .notFound)

/-- The bytes of a file. -/
def read (d : Disk) (path : String) : Except IoFailure (List UInt8) := do
  let p := normalPath path
  d.reach p
  match d.entry p with
  | some .file => return ((d.files.find? (fun f => f.1 == p)).map Prod.snd).getD []
  | some .directory => throw .isADirectory
  | none => throw .notFound

/-- Create or replace a file. -/
def write (d : Disk) (path : String) (bytes : List UInt8) : Except IoFailure Disk := do
  let p := normalPath path
  if p = "" then throw .notFound
  d.reach p
  match d.entry p with
  | some .directory => throw .isADirectory
  | some .file => return { d with files := d.files.map (fun f => if f.1 == p then (p, bytes) else f) }
  | none => return { d with files := d.files ++ [(p, bytes)] }

/-- Create a directory and its missing ancestors. -/
def createDirs (d : Disk) (path : String) : Except IoFailure Disk :=
  let p := normalPath path
  let chain := ancestors p ++ (if p = "" then [] else [p])
  chain.foldlM (fun (d : Disk) a =>
    match d.entry a with
    | some .directory => .ok d
    | some .file => .error (if a = p then .alreadyExists else .notADirectory)
    | none => .ok { d with dirs := d.dirs ++ [a] }) d

/-- Remove a file. -/
def remove (d : Disk) (path : String) : Except IoFailure Disk := do
  let p := normalPath path
  d.reach p
  match d.entry p with
  | some .file => return { d with files := d.files.filter (fun f => f.1 != p) }
  | some .directory => throw .isADirectory
  | none => throw .notFound

/-- Whether anything exists at a path. -/
def present (d : Disk) (path : String) : Bool :=
  let p := normalPath path
  match d.reach p with
  | .ok () => (d.entry p).isSome
  | .error _ => false

end Disk

/-- Commands running on a `Disk`. -/
abbrev DiskM := StateM Disk

/-- Apply a change to the disk when it succeeds. -/
def DiskM.change (f : Disk → Except IoFailure Disk) : DiskM (Except IoFailure Unit) := do
  match f (← get) with
  | .ok d => set d; return .ok ()
  | .error e => return .error e

instance : Machine DiskM where
  readFile p := do return (← get).read p
  writeFile p bytes := DiskM.change (fun d => d.write p bytes)
  createDirs p := DiskM.change (fun d => d.createDirs p)
  removeFile p := DiskM.change (fun d => d.remove p)
  isPresent p := do return (← get).present p
  clock := do return (← get).clock
  freshId := do
    let d ← get
    set { d with issued := d.issued + 1 }
    return sequentialId d.issued

end Cli

end DocStore
