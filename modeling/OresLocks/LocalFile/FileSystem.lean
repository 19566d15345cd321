import OresLocks.JsValue
import OresLocks.Shared.Programs

/-!
# The filesystem around one lock path

The lock path, its parent and the entries of the lock directory. One operation is one
atomic step. What the filesystem may decide is in `Choice`: the identity of a new
file, how much a read returns, the texts of errors, and what a directory stream
shows, since a stream need not show changes made while it is open.

`creator`, `tenant`, `opened` and `trace` are read by no operation. They record who
made an object, who may change the lock directory, which file a caller opened last,
and every marker or directory that was removed or renamed.
-/

namespace OresLocks.LocalFile

set_option autoImplicit false

/-- One call of the library, by one process. -/
structure Call where
  process : Nat
  number : Nat
  deriving DecidableEq

inductive Name where
  | owner
  | pending
  | recovering
  | other (text : String)
  deriving DecidableEq

inductive Place where
  | parent
  | lock
  | entry (name : Name)
  deriving DecidableEq

inductive NodeType where
  | file
  | directory
  | symlink
  | other
  deriving DecidableEq

structure Identity where
  dev : Nat
  ino : Nat
  birthtimeMs : Nat
  deriving DecidableEq

structure Stat where
  type : NodeType
  mode : Nat
  nlink : Nat
  size : Nat
  identity : Identity
  deriving DecidableEq

/-- A rejected filesystem call: its `code` property and its message. -/
structure FsError where
  code : Option String
  message : String
  deriving DecidableEq

structure File where
  type : NodeType
  mode : Nat
  nlink : Nat
  content : Bytes
  identity : Identity
  creator : Option Call

def File.stat (file : File) : Stat :=
  ⟨file.type, file.mode, file.nlink, file.content.length, file.identity⟩

/-- What stands at the lock path. -/
structure Node where
  type : NodeType
  mode : Nat
  identity : Identity
  entries : List (Name × Nat)
  creator : Option Call
  tenant : Option Call

def Node.stat (node : Node) : Stat := ⟨node.type, node.mode, 2, 0, node.identity⟩

/-- A step that destroys or renames something. -/
inductive Removal where
  | unlinked (name : Name)
  | renamed (source target : Name)
  | replaced (name : Name)
  | removedDirectory
  deriving DecidableEq

structure Effect where
  call : Call
  removal : Removal
  creator : Option Call
  content : Bytes
  deriving DecidableEq

structure Fs where
  parent : Option Stat
  lock : Option Node
  files : Nat → File
  count : Nat
  opened : Call → Option Nat
  trace : List Effect

structure Choice where
  message : String
  identity : Identity
  entry : Option Name
  bytesRead : Nat

inductive FsOp where
  | mkdirParent
  | mkdir
  | rmdir
  | lstat (place : Place)
  | openExclusive (name : Name)
  | openRead (name : Name)
  | write (handle : Nat) (bytes : Bytes)
  | sync (handle : Nat)
  | close (handle : Nat)
  | fstat (handle : Nat)
  | read (handle position length : Nat)
  | rename (source target : Name)
  | unlink (name : Name)
  | opendir
  | readDirectory
  | closeDirectory
  | sleep (ms : Nat)
  deriving DecidableEq

/-- What a call resolves with. A handle is the number of its file. -/
abbrev FsOp.Answer : FsOp → Type
  | .lstat _ => Stat
  | .fstat _ => Stat
  | .openExclusive _ => Nat
  | .openRead _ => Nat
  | .read _ _ _ => Bytes
  | .readDirectory => Option Name
  | _ => Unit

abbrev FsAnswer (op : FsOp) : Type := Except FsError op.Answer

namespace Fs

def error (code : String) (choice : Choice) : FsError := ⟨some code, choice.message⟩

/-- The lock directory, for an operation on one of its entries. -/
def directory (fs : Fs) (choice : Choice) : Except FsError Node :=
  match fs.lock with
  | none => .error (error "ENOENT" choice)
  | some node =>
    if node.type = .directory then .ok node else .error (error "ENOTDIR" choice)

/-- The directory with the file that an entry names. -/
def entry (fs : Fs) (name : Name) (choice : Choice) : Except FsError (Node × Nat) :=
  match fs.directory choice with
  | .error e => .error e
  | .ok node =>
    match node.entries.lookup name with
    | none => .error (error "ENOENT" choice)
    | some file => .ok (node, file)

def setFile (fs : Fs) (number : Nat) (file : File) : Fs :=
  { fs with files := fun n => if n = number then file else fs.files n }

def setEntries (fs : Fs) (node : Node) (entries : List (Name × Nat)) : Fs :=
  { fs with lock := some { node with entries } }

/-- One name less for a file. -/
def dropLink (fs : Fs) (number : Nat) : Fs :=
  fs.setFile number { fs.files number with nlink := (fs.files number).nlink - 1 }

def record (fs : Fs) (caller : Call) (removal : Removal) (number : Nat) : Fs :=
  { fs with trace := fs.trace ++
      [⟨caller, removal, (fs.files number).creator, (fs.files number).content⟩] }

def without (entries : List (Name × Nat)) (name : Name) : List (Name × Nat) :=
  entries.filter fun entry => decide (entry.1 ≠ name)

def mkdirParent (fs : Fs) (choice : Choice) : FsAnswer .mkdirParent × Fs :=
  match fs.parent with
  | none => (.ok (), { fs with parent := some ⟨.directory, 0o700, 2, 0, choice.identity⟩ })
  | some stat =>
    if stat.type = .directory ∨ stat.type = .symlink then (.ok (), fs)
    else (.error (error "EEXIST" choice), fs)

def mkdir (fs : Fs) (caller : Call) (choice : Choice) : FsAnswer .mkdir × Fs :=
  match fs.parent, fs.lock with
  | none, _ => (.error (error "ENOENT" choice), fs)
  | some _, some _ => (.error (error "EEXIST" choice), fs)
  | some stat, none =>
    if stat.type = .directory ∨ stat.type = .symlink then
      (.ok (), { fs with
        lock := some ⟨.directory, 0o700, choice.identity, [], some caller, some caller⟩ })
    else (.error (error "ENOTDIR" choice), fs)

def rmdir (fs : Fs) (caller : Call) (choice : Choice) : FsAnswer .rmdir × Fs :=
  match fs.directory choice with
  | .error e => (.error e, fs)
  | .ok node =>
    if node.entries = [] then
      (.ok (), { fs with
        lock := none, trace := fs.trace ++ [⟨caller, .removedDirectory, node.creator, []⟩] })
    else (.error (error "ENOTEMPTY" choice), fs)

def lstat (fs : Fs) (place : Place) (choice : Choice) : FsAnswer (.lstat place) :=
  match place with
  | .parent =>
    match fs.parent with
    | none => .error (error "ENOENT" choice)
    | some stat => .ok stat
  | .lock =>
    match fs.lock with
    | none => .error (error "ENOENT" choice)
    | some node => .ok node.stat
  | .entry name =>
    match fs.entry name choice with
    | .error e => .error e
    | .ok (_, number) => .ok (fs.files number).stat

/-- `open` with the flag `wx` and mode `0o600`. -/
def openExclusive (fs : Fs) (caller : Call) (name : Name) (choice : Choice) :
    FsAnswer (.openExclusive name) × Fs :=
  match fs.directory choice with
  | .error e => (.error e, fs)
  | .ok node =>
    match node.entries.lookup name with
    | some _ => (.error (error "EEXIST" choice), fs)
    | none =>
      (.ok fs.count, { (fs.setFile fs.count ⟨.file, 0o600, 1, [], choice.identity, some caller⟩).setEntries
        node (node.entries ++ [(name, fs.count)]) with count := fs.count + 1 })

def openRead (fs : Fs) (caller : Call) (name : Name) (choice : Choice) :
    FsAnswer (.openRead name) × Fs :=
  match fs.entry name choice with
  | .error e => (.error e, fs)
  | .ok (_, number) =>
    (.ok number, { fs with opened := fun c => if c = caller then some number else fs.opened c })

def write (fs : Fs) (handle : Nat) (bytes : Bytes) : Fs :=
  fs.setFile handle { fs.files handle with content := (fs.files handle).content ++ bytes }

/-- At least one byte before the end of the file, and no more than asked for. -/
def read (fs : Fs) (handle position length : Nat) (choice : Choice) : Bytes :=
  ((fs.files handle).content.drop position).take (min length (max 1 choice.bytesRead))

def rename (fs : Fs) (caller : Call) (source target : Name) (choice : Choice) :
    FsAnswer (.rename source target) × Fs :=
  match fs.entry source choice with
  | .error e => (.error e, fs)
  | .ok (node, number) =>
    let entries := without (without node.entries source) target ++ [(target, number)]
    let tenant := if target = .recovering then some caller else node.tenant
    let moved := (fs.record caller (.renamed source target) number).setEntries
      { node with tenant } entries
    match node.entries.lookup target with
    | none => (.ok (), moved)
    | some replaced => (.ok (), (moved.record caller (.replaced target) replaced).dropLink replaced)

def unlink (fs : Fs) (caller : Call) (name : Name) (choice : Choice) :
    FsAnswer (.unlink name) × Fs :=
  match fs.entry name choice with
  | .error e => (.error e, fs)
  | .ok (node, number) =>
    if (fs.files number).type = .directory then (.error (error "EISDIR" choice), fs)
    else (.ok (), ((fs.record caller (.unlinked name) number).setEntries node
      (without node.entries name)).dropLink number)

def opendir (fs : Fs) (choice : Choice) : FsAnswer .opendir :=
  match fs.directory choice with
  | .error e => .error e
  | .ok _ => .ok ()

/-- One filesystem step. -/
def perform (fs : Fs) (caller : Call) (choice : Choice) : (op : FsOp) → FsAnswer op × Fs
  | .mkdirParent => fs.mkdirParent choice
  | .mkdir => fs.mkdir caller choice
  | .rmdir => fs.rmdir caller choice
  | .lstat place => (fs.lstat place choice, fs)
  | .openExclusive name => fs.openExclusive caller name choice
  | .openRead name => fs.openRead caller name choice
  | .write handle bytes => (.ok (), fs.write handle bytes)
  | .sync _ => (.ok (), fs)
  | .close _ => (.ok (), fs)
  | .fstat handle => (.ok (fs.files handle).stat, fs)
  | .read handle position length => (.ok (fs.read handle position length choice), fs)
  | .rename source target => fs.rename caller source target choice
  | .unlink name => fs.unlink caller name choice
  | .opendir => (fs.opendir choice, fs)
  | .readDirectory => (.ok choice.entry, fs)
  | .closeDirectory => (.ok (), fs)
  | .sleep _ => (.ok (), fs)

end Fs

end OresLocks.LocalFile
