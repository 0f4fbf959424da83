import CarsinOS.Lib.FileSystem
import CarsinOS.Lib.Bytes
import CarsinOS.Number

/-! The file access of the local tools, which a sandbox confines to its allowed roots. -/
namespace CarsinOS.Tools
open CarsinOS.Lib

inductive FsWriteMode where
  | create
  | overwrite
  | append
  deriving DecidableEq

structure FsReadRequest where
  path : Text
  maxBytes : Option Nat

structure FsWriteRequest where
  path : Text
  content : Text
  mode : FsWriteMode

/-- The command of an execution is parsed and checked against the allowed binaries. -/
structure ExecRequest where
  admitted : Bool
  workdir : Option Text

inductive ToolRequest where
  | exec (args : ExecRequest)
  | fsRead (args : FsReadRequest)
  | fsWrite (args : FsWriteRequest)

inductive ToolError where
  | invalidRequest (text : Text)
  | policyDenied (text : Text)
  | io (error : IoError)
  deriving DecidableEq

/-- What a tool answers, as far as it says something of files. -/
inductive ToolOutput where
  | exec
  | fsRead (path : Text) (bytes : Nat) (content : List UInt8) (truncated : Bool)
  | fsWrite (path : Text) (bytesWritten : Nat)
  deriving DecidableEq

/-- A request that was carried out: its answer, the file it opened or the directory it entered, and
the file system after it. -/
structure Done where
  output : ToolOutput
  opened : Option Location
  after : FileSystem

structure ToolSandboxPolicy where
  allowedRoots : List Location

/-- The runner on a file system, in its current directory. -/
structure LocalToolRunner where
  maxReadBytes : Nat
  sandbox : ToolSandboxPolicy
  currentDir : Except IoError Location
  /-- How many links a path may lead through. -/
  links : Nat

def display : Location → Text
  | [] => ['/']
  | [name] => '/' :: name
  | name :: dir => display dir ++ '/' :: name

/-! Paths. -/

/-- `Path::components` of an absolute path. -/
def components (path : List Text) : List Text := path.filter fun part => part ≠ [] ∧ part ≠ ['.']

def parent (path : List Text) : Option (List Text) :=
  if components path = [] then none else some (components path).dropLast

def fileName (path : List Text) : Option Text :=
  (components path).getLast?.filter (· ≠ ['.', '.'])

/-- The location is one of the allowed roots, or under one. -/
def ToolSandboxPolicy.Allows (sandbox : ToolSandboxPolicy) (location : Location) : Prop :=
  ∃ root ∈ sandbox.allowedRoots, root <:+ location

instance (sandbox : ToolSandboxPolicy) (location : Location) :
    Decidable (sandbox.Allows location) := by
  unfold ToolSandboxPolicy.Allows
  infer_instance

namespace LocalToolRunner
variable (runner : LocalToolRunner) (fs : FileSystem)

def normalizeAbsolutePath (path : Text) : Except IoError (List Text) :=
  if isAbsolute path then .ok (segments path)
  else do
    let dir ← runner.currentDir
    .ok (dir.reverse ++ segments path)

def named (message : String) : Except IoError (List Text) → Except ToolError (List Text)
  | .ok path => .ok path
  | .error error => .error (.invalidRequest (message.toList ++ error.text.toList))

def ensureAllowedRoot (candidate : Location) : Except ToolError Unit :=
  if runner.sandbox.Allows candidate then .ok ()
  else .error (.policyDenied
    ("path '".toList ++ display candidate ++ "' is outside allowed roots".toList))

def resolveWorkdir (raw : Text) : Except ToolError Location := do
  let candidate ← named "invalid workdir: " (runner.normalizeAbsolutePath raw)
  match fs.canonicalize runner.links candidate with
  | .error _ => .error (.invalidRequest "workdir must exist inside allowed roots".toList)
  | .ok canonical => do
    runner.ensureAllowedRoot canonical
    .ok canonical

def resolveReadPath (raw : Text) : Except ToolError Location := do
  let candidate ← named "invalid fs_read path: " (runner.normalizeAbsolutePath raw)
  match fs.canonicalize runner.links candidate with
  | .error error =>
    .error (.invalidRequest ("fs_read path resolution failed: ".toList ++ error.text.toList))
  | .ok canonical => do
    runner.ensureAllowedRoot canonical
    .ok canonical

/-- The parent is resolved and checked; the file name is joined to it as it is. -/
def resolveWritePath (raw : Text) : Except ToolError (Location × Text) := do
  let candidate ← named "invalid fs_write path: " (runner.normalizeAbsolutePath raw)
  match parent candidate with
  | none => .error (.invalidRequest "fs_write path must include a parent directory".toList)
  | some parent =>
    match fs.canonicalize runner.links parent with
    | .error _ => .error (.invalidRequest
        "fs_write parent directory must already exist inside allowed roots".toList)
    | .ok canonicalParent => do
      runner.ensureAllowedRoot canonicalParent
      match fileName candidate with
      | none => .error (.invalidRequest "fs_write path must include a file name".toList)
      | some fileName => .ok (canonicalParent, fileName)

def opening {α : Type} : Except IoError α → Except ToolError α
  | .ok a => .ok a
  | .error error => .error (.io error)

def exec (args : ExecRequest) : Except ToolError Done :=
  if args.admitted = false then .error (.policyDenied [])
  else match args.workdir with
    | none => .ok ⟨.exec, none, fs⟩
    | some workdir => do
      let canonicalWorkdir ← runner.resolveWorkdir fs workdir
      let entered ← opening (fs.enter runner.links canonicalWorkdir.reverse)
      .ok ⟨.exec, some entered, fs⟩

def fsRead (args : FsReadRequest) : Except ToolError Done := do
  if trimChars args.path = [] then
    .error (.invalidRequest "fs_read path cannot be empty".toList)
  else
    let path ← runner.resolveReadPath fs args.path
    let (location, bytes) ← opening (fs.readFile runner.links path.reverse)
    let maxBytes := args.maxBytes.getD runner.maxReadBytes
    .ok ⟨.fsRead (display path) bytes.length (bytes.take maxBytes) (maxBytes < bytes.length),
      some location, fs⟩

/-- The file that is opened: a new one in the first mode, else the one the path leads to. -/
def openFile (path : Location × Text) : FsWriteMode → Except IoError Location
  | .create => fs.openNew runner.links path.1.reverse path.2
  | .overwrite | .append => fs.openWritable runner.links (path.1.reverse ++ [path.2])

/-- What is in the file once it is opened. -/
def kept (location : Location) : FsWriteMode → List UInt8
  | .append =>
    match fs.node location with
    | some (.file contents) => contents
    | _ => []
  | .create | .overwrite => []

variable {runner fs}

theorem openFile_writable {path : Location × Text} {mode : FsWriteMode} {location : Location}
    (opened : runner.openFile fs path mode = .ok location) : fs.Writable location := by
  cases mode with
  | create => exact FileSystem.openNew_writable opened
  | _ => exact FileSystem.openWritable_writable opened

variable (runner fs)

def fsWrite (args : FsWriteRequest) : Except ToolError Done :=
  if trimChars args.path = [] then
    .error (.invalidRequest "fs_write path cannot be empty".toList)
  else
    match runner.resolveWritePath fs args.path with
    | .error refused => .error refused
    | .ok path =>
      match opened : runner.openFile fs path args.mode with
      | .error error => .error (.io error)
      | .ok location => .ok ⟨
          .fsWrite (display (path.2 :: path.1)) (utf8Bytes args.content).length, some location,
          fs.write location (kept fs location args.mode ++ utf8Bytes args.content)
            (openFile_writable opened)⟩

def run : ToolRequest → Except ToolError Done
  | .exec args => runner.exec fs args
  | .fsRead args => runner.fsRead fs args
  | .fsWrite args => runner.fsWrite fs args

end LocalToolRunner
end CarsinOS.Tools
