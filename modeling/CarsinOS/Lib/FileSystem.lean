import Mathlib.Data.List.Infix

/-! A file system of directories, files and symbolic links, and how a path is resolved in it. -/
namespace CarsinOS.Lib

inductive Node where
  | directory
  | file (contents : List UInt8)
  | link (target : List Char)
  deriving DecidableEq

/-- Where a node is: the names on the way to it, the last one first. -/
abbrev Location := List (List Char)

/-- A name a directory may hold. -/
def Proper (name : List Char) : Prop := name ≠ [] ∧ name ≠ ['.'] ∧ name ≠ ['.', '.']

instance (name : List Char) : Decidable (Proper name) := inferInstanceAs (Decidable (_ ∧ _ ∧ _))

/-- A tree: what is somewhere has a proper name in a directory. -/
structure FileSystem where
  node : Location → Option Node
  root : node [] = some .directory
  nested : ∀ name dir, node (name :: dir) ≠ none → node dir = some .directory ∧ Proper name

inductive IoError where
  | notFound | notADirectory | isADirectory | alreadyExists | tooManyLinks | invalidInput
  deriving DecidableEq

def IoError.text : IoError → String
  | .notFound => "No such file or directory (os error 2)"
  | .notADirectory => "Not a directory (os error 20)"
  | .isADirectory => "Is a directory (os error 21)"
  | .alreadyExists => "File exists (os error 17)"
  | .tooManyLinks => "Too many levels of symbolic links (os error 40)"
  | .invalidInput => "file name contained an unexpected NUL byte"

/-- What stands between the slashes of a path. -/
def segments (path : List Char) : List (List Char) := path.splitOn '/'

def isAbsolute (path : List Char) : Bool := path.head? = some '/'

namespace FileSystem
variable (fs : FileSystem)

/-! The resolution of a path, one segment after the other. A link stands for the segments of its
target, and only so many links are followed. -/

def walkWith (creating : Bool) (follow : Location → List (List Char) → Except IoError Location) :
    Location → List (List Char) → Except IoError Location
  | here, [] => .ok here
  | here, segment :: rest =>
    if fs.node here ≠ some .directory then .error .notADirectory
    else if segment = [] ∨ segment = ['.'] then walkWith creating follow here rest
    else if segment = ['.', '.'] then walkWith creating follow here.tail rest
    else match fs.node (segment :: here) with
      | none => if creating = true ∧ rest = [] then .ok (segment :: here) else .error .notFound
      | some (.link target) =>
        if target = [] then .error .notFound
        else follow (if isAbsolute target then [] else here) (segments target ++ rest)
      | some _ => walkWith creating follow (segment :: here) rest

def walk (creating : Bool) : Nat → Location → List (List Char) → Except IoError Location
  | 0 => fs.walkWith creating fun _ _ => .error .tooManyLinks
  | links + 1 => fs.walkWith creating (walk creating links)

def checkNames (path : List (List Char)) : Except IoError Unit :=
  if ∃ segment ∈ path, Char.ofNat 0 ∈ segment then .error .invalidInput else .ok ()

/-- The place of what is at the end of a path, all links resolved. -/
def canonicalize (links : Nat) (path : List (List Char)) : Except IoError Location := do
  checkNames path
  fs.walk false links [] path

/-- A file may be written there: it is one, or a new one in a directory. -/
def Writable : Location → Prop
  | [] => False
  | name :: dir => fs.node dir = some .directory ∧ Proper name ∧
    ∀ node ∈ fs.node (name :: dir), ∃ contents, node = .file contents

/-- The file a path is opened for writing at. The last segment may be new, and its links are
followed. -/
def openWritable (links : Nat) (path : List (List Char)) : Except IoError Location := do
  checkNames path
  let location ← fs.walk true links [] path
  if fs.node location = some .directory then .error .isADirectory else .ok location

/-- The place a path is created at. Nothing may be there yet, not even a link. -/
def openNew (links : Nat) (dir : List (List Char)) (name : List Char) :
    Except IoError Location := do
  checkNames (dir ++ [name])
  let parent ← fs.walk false links [] dir
  if fs.node parent ≠ some .directory then .error .notADirectory
  else if Proper name ∧ fs.node (name :: parent) = none then .ok (name :: parent)
  else .error .alreadyExists

/-- The contents of the file a path leads to. -/
def readFile (links : Nat) (path : List (List Char)) :
    Except IoError (Location × List UInt8) := do
  checkNames path
  let location ← fs.walk false links [] path
  match fs.node location with
  | some (.file contents) => .ok (location, contents)
  | _ => .error .isADirectory

/-- The directory a path leads to. -/
def enter (links : Nat) (path : List (List Char)) : Except IoError Location := do
  checkNames path
  let location ← fs.walk false links [] path
  if fs.node location = some .directory then .ok location else .error .notADirectory

/-- The file system with these contents at a place where a file may be written. -/
def write (location : Location) (contents : List UInt8) (writable : fs.Writable location) :
    FileSystem where
  node other := if other = location then some (.file contents) else fs.node other
  root := by
    cases location with
    | nil => exact writable.elim
    | cons name dir => simpa using fs.root
  nested name dir present := by
    cases location with
    | nil => exact writable.elim
    | cons last parent =>
      obtain ⟨directory, proper, free⟩ := writable
      have apart {other : Location} (found : fs.node other = some .directory) :
          other ≠ last :: parent := by
        rintro rfl
        obtain ⟨contents, same⟩ := free _ found
        cases same
      by_cases here : name :: dir = last :: parent
      · cases here
        exact ⟨by rw [if_neg (apart directory)]; exact directory, proper⟩
      · rw [if_neg here] at present
        obtain ⟨found, proper⟩ := fs.nested name dir present
        exact ⟨by rw [if_neg (apart found)]; exact found, proper⟩

variable {fs}

theorem write_apart {location other : Location} {contents : List UInt8}
    (writable : fs.Writable location) (apart : other ≠ location) :
    (fs.write location contents writable).node other = fs.node other := if_neg apart

/-! What a walk ends at. -/

/-- Something that is no link, or in creation a free name of a directory. -/
def End (fs : FileSystem) (creating : Bool) (location : Location) : Prop :=
  (∃ node, fs.node location = some node ∧ ∀ target, node ≠ .link target) ∨
    creating = true ∧ fs.node location = none ∧
      ∃ name dir, location = name :: dir ∧ fs.node dir = some .directory ∧ Proper name

theorem tail_directory {here : Location} (directory : fs.node here = some .directory) :
    fs.node here.tail = some .directory := by
  cases here with
  | nil => exact fs.root
  | cons name dir => exact (fs.nested name dir (by rw [directory]; exact Option.some_ne_none _)).1

theorem walkWith_end {creating : Bool}
    {follow : Location → List (List Char) → Except IoError Location}
    (follows : ∀ here path location, End fs false here → follow here path = .ok location →
      End fs creating location) {here : Location} {path : List (List Char)} {location : Location}
    (start : End fs false here) (done : fs.walkWith creating follow here path = .ok location) :
    End fs creating location := by
  induction path generalizing here with
  | nil =>
    cases done
    rcases start with found | ⟨absurd, -⟩
    · exact .inl found
    · cases absurd
  | cons segment rest ih =>
    rw [walkWith] at done
    split at done
    · cases done
    rename_i isDirectory
    have directory : fs.node here = some .directory := not_not.mp isDirectory
    split at done
    · exact ih start done
    rename_i named
    split at done
    · exact ih (.inl ⟨_, tail_directory directory, by simp⟩) done
    rename_i notUp
    split at done
    · rename_i free
      split at done
      · rename_i creates
        cases done
        have proper : Proper segment :=
          ⟨fun empty => named (.inl empty), fun dot => named (.inr dot), notUp⟩
        exact .inr ⟨creates.1, free, segment, here, rfl, directory, proper⟩
      · cases done
    · split at done
      · cases done
      · refine follows _ _ _ ?_ done
        split
        · exact .inl ⟨_, fs.root, by simp⟩
        · exact start
    · rename_i node noLink found
      exact ih (.inl ⟨node, found, noLink⟩) done

theorem walk_end {creating : Bool} {links : Nat} {here : Location} {path : List (List Char)}
    {location : Location} (start : End fs false here)
    (done : fs.walk creating links here path = .ok location) : End fs creating location := by
  induction links generalizing here path location with
  | zero => exact walkWith_end (fun _ _ _ _ refused => by cases refused) start done
  | succ links ih => exact walkWith_end (fun _ _ _ begins => ih begins) start done

theorem root_end : End fs false [] := .inl ⟨_, fs.root, by simp⟩

theorem end_exists {location : Location} (ends : End fs false location) :
    ∃ node, fs.node location = some node ∧ ∀ target, node ≠ .link target := by
  rcases ends with found | ⟨absurd, -⟩
  · exact found
  · cases absurd

theorem canonicalize_exists {links : Nat} {path : List (List Char)} {location : Location}
    (done : fs.canonicalize links path = .ok location) :
    ∃ node, fs.node location = some node ∧ ∀ target, node ≠ .link target := by
  unfold canonicalize checkNames at done
  split at done
  · cases done
  · exact end_exists (walk_end root_end done)

/-! A place is its own resolution. -/

theorem walk_name {creating : Bool} {links : Nat} {dir : Location} {name : List Char}
    {rest : List (List Char)} {node : Node} (found : fs.node (name :: dir) = some node)
    (noLink : ∀ target, node ≠ .link target) :
    fs.walk creating links dir (name :: rest) = fs.walk creating links (name :: dir) rest := by
  obtain ⟨directory, unnamed, undotted, notUp⟩ :=
    fs.nested name dir (by rw [found]; exact Option.some_ne_none _)
  have step (follow : Location → List (List Char) → Except IoError Location) :
      fs.walkWith creating follow dir (name :: rest) =
        fs.walkWith creating follow (name :: dir) rest := by
    rw [walkWith, if_neg (not_not.mpr directory), if_neg (not_or.mpr ⟨unnamed, undotted⟩),
      if_neg notUp, found]
    cases node with
    | link target => exact absurd rfl (noLink target)
    | _ => rfl
  cases links <;> exact step _

theorem walk_location {creating : Bool} {links : Nat} {location : Location}
    {rest : List (List Char)} {node : Node} (found : fs.node location = some node)
    (noLink : ∀ target, node ≠ .link target) :
    fs.walk creating links [] (location.reverse ++ rest) =
      fs.walk creating links location rest := by
  induction location generalizing node rest with
  | nil => rfl
  | cons name dir ih =>
    obtain ⟨directory, -⟩ := fs.nested name dir (by rw [found]; exact Option.some_ne_none _)
    rw [List.reverse_cons, List.append_assoc, ih directory (by simp)]
    exact walk_name found noLink

theorem walk_nil {creating : Bool} {links : Nat} {here : Location} :
    fs.walk creating links here [] = .ok here := by
  cases links <;> rfl

theorem walk_self {creating : Bool} {links : Nat} {location : Location} {node : Node}
    (found : fs.node location = some node) (noLink : ∀ target, node ≠ .link target) :
    fs.walk creating links [] location.reverse = .ok location := by
  have walked : fs.walk creating links [] (location.reverse ++ []) =
      fs.walk creating links location [] := walk_location found noLink
  rw [List.append_nil, walk_nil] at walked
  exact walked

theorem enter_self {links : Nat} {location result : Location} {node : Node}
    (found : fs.node location = some node) (noLink : ∀ target, node ≠ .link target)
    (entered : fs.enter links location.reverse = .ok result) : result = location := by
  unfold enter checkNames at entered
  split at entered
  · cases entered
  rw [walk_self found noLink] at entered
  change (if _ then _ else _) = _ at entered
  split at entered
  · cases entered
    rfl
  · cases entered

theorem readFile_self {links : Nat} {location result : Location} {contents : List UInt8}
    {node : Node} (found : fs.node location = some node) (noLink : ∀ target, node ≠ .link target)
    (read : fs.readFile links location.reverse = .ok (result, contents)) : result = location := by
  unfold readFile checkNames at read
  split at read
  · cases read
  rw [walk_self found noLink] at read
  change (match fs.node location with
    | some (.file contents) => Except.ok (location, contents)
    | _ => .error IoError.isADirectory) = _ at read
  split at read
  · cases read
    rfl
  · cases read

/-! What is opened for writing. -/

theorem openWritable_writable {links : Nat} {path : List (List Char)} {location : Location}
    (opened : fs.openWritable links path = .ok location) : fs.Writable location := by
  unfold openWritable checkNames at opened
  split at opened
  · cases opened
  rename_i clean
  change (fs.walk true links [] path >>= _) = _ at opened
  cases walked : fs.walk true links [] path with
  | error refused =>
    rw [walked] at opened
    cases opened
  | ok found =>
    rw [walked] at opened
    change (if _ then _ else _) = _ at opened
    split at opened
    · cases opened
    rename_i noDirectory
    cases opened
    rcases walk_end fs.root_end walked with
      ⟨node, present, noLink⟩ | ⟨-, free, name, dir, rfl, directory, proper⟩
    · cases location with
      | nil => exact absurd fs.root noDirectory
      | cons name dir =>
        obtain ⟨directory, proper⟩ :=
          fs.nested name dir (by rw [present]; exact Option.some_ne_none _)
        refine ⟨directory, proper, fun other known => ?_⟩
        cases present.symm.trans known
        cases node with
        | directory => exact absurd present noDirectory
        | link target => exact absurd rfl (noLink target)
        | file contents => exact ⟨contents, rfl⟩
    · refine ⟨directory, proper, fun other known => ?_⟩
      rw [free] at known
      cases known

theorem openNew_new {links : Nat} {dir : List (List Char)} {name : List Char} {location : Location}
    (opened : fs.openNew links dir name = .ok location) :
    ∃ parent, fs.walk false links [] dir = .ok parent ∧ fs.node parent = some .directory ∧
      location = name :: parent ∧ Proper name ∧ fs.node location = none := by
  unfold openNew checkNames at opened
  split at opened
  · cases opened
  change (fs.walk false links [] dir >>= _) = _ at opened
  cases walked : fs.walk false links [] dir with
  | error refused =>
    rw [walked] at opened
    cases opened
  | ok parent =>
    rw [walked] at opened
    change (if _ then _ else _) = _ at opened
    split at opened
    · cases opened
    rename_i directory
    split at opened
    · rename_i free
      cases opened
      exact ⟨parent, rfl, not_not.mp directory, rfl, free.1, free.2⟩
    · cases opened

/-- What is opened under a place is what is named there, unless that is a link. -/
theorem openWritable_name {links : Nat} {parent location : Location} {name : List Char}
    {node : Node} (found : fs.node parent = some node) (noLink : ∀ target, node ≠ .link target)
    (proper : Proper name) (named : ∀ target, fs.node (name :: parent) ≠ some (.link target))
    (opened : fs.openWritable links (parent.reverse ++ [name]) = .ok location) :
    location = name :: parent := by
  unfold openWritable checkNames at opened
  split at opened
  · cases opened
  rw [walk_location found noLink] at opened
  have step (follow : Location → List (List Char) → Except IoError Location) (result : Location)
      (walked : fs.walkWith true follow parent [name] = .ok result) : result = name :: parent := by
    obtain ⟨unnamed, undotted, notUp⟩ := proper
    simp only [walkWith, unnamed, undotted, notUp, or_self, if_false] at walked
    split at walked
    · cases walked
    split at walked
    · simpa using walked.symm
    · rename_i target link
      exact absurd link (named target)
    · cases walked
      rfl
  change (fs.walk true links parent [name] >>= _) = _ at opened
  cases walked : fs.walk true links parent [name] with
  | error refused =>
    rw [walked] at opened
    cases opened
  | ok result =>
    rw [walked] at opened
    change (if _ then _ else _) = _ at opened
    split at opened
    · cases opened
    · cases opened
      cases links <;> exact step _ _ walked

theorem openNew_writable {links : Nat} {dir : List (List Char)} {name : List Char}
    {location : Location} (opened : fs.openNew links dir name = .ok location) :
    fs.Writable location := by
  obtain ⟨parent, -, directory, rfl, proper, free⟩ := openNew_new opened
  refine ⟨directory, proper, fun other known => ?_⟩
  rw [free] at known
  cases known

end FileSystem
end CarsinOS.Lib
