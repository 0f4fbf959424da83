import CarsinOS.Tools.Sandbox

/-! What the sandbox of the tools keeps out of reach. -/
namespace CarsinOS.Tools
open CarsinOS.Lib

namespace LocalToolRunner
variable {runner : LocalToolRunner} {fs : FileSystem}

theorem ensureAllowedRoot_ok {candidate : Location} {u : Unit} :
    runner.ensureAllowedRoot candidate = .ok u ↔ runner.sandbox.Allows candidate := by
  unfold ensureAllowedRoot
  split <;> simp_all

theorem named_ok {message : String} {result : Except IoError (List Text)} {path : List Text} :
    named message result = .ok path ↔ result = .ok path := by
  cases result <;> simp [named]

theorem resolveReadPath_ok {raw : Text} {path : Location}
    (resolved : runner.resolveReadPath fs raw = .ok path) : runner.sandbox.Allows path ∧
      ∃ node, fs.node path = some node ∧ ∀ target, node ≠ .link target := by
  simp only [resolveReadPath, bind_ok] at resolved
  obtain ⟨candidate, -, resolved⟩ := resolved
  split at resolved
  · cases resolved
  · rename_i canonical found
    simp only [bind_ok, ensureAllowedRoot_ok] at resolved
    obtain ⟨-, allowed, same⟩ := resolved
    cases same
    exact ⟨allowed, FileSystem.canonicalize_exists found⟩

theorem resolveWorkdir_ok {raw : Text} {path : Location}
    (resolved : runner.resolveWorkdir fs raw = .ok path) : runner.sandbox.Allows path ∧
      ∃ node, fs.node path = some node ∧ ∀ target, node ≠ .link target := by
  simp only [resolveWorkdir, bind_ok] at resolved
  obtain ⟨candidate, -, resolved⟩ := resolved
  split at resolved
  · cases resolved
  · rename_i canonical found
    simp only [bind_ok, ensureAllowedRoot_ok] at resolved
    obtain ⟨-, allowed, same⟩ := resolved
    cases same
    exact ⟨allowed, FileSystem.canonicalize_exists found⟩

theorem fileName_proper {path : List Text} {name : Text} (last : fileName path = some name) :
    Proper name := by
  obtain ⟨found, notUp⟩ := Option.filter_eq_some_iff.mp last
  have inside := List.mem_filter.mp (List.mem_of_getLast? found)
  simp only [ne_eq, Bool.decide_and, decide_not, Bool.and_eq_true, Bool.not_eq_true',
    decide_eq_false_iff_not] at inside
  exact ⟨inside.2.1, inside.2.2, of_decide_eq_true notUp⟩

/-- The path names something in a directory under the allowed roots. -/
def Names (runner : LocalToolRunner) (fs : FileSystem) (raw : Text) (dir : Location)
    (name : Text) : Prop :=
  ∃ candidate above, runner.normalizeAbsolutePath raw = .ok candidate ∧
    parent candidate = some above ∧ fs.canonicalize runner.links above = .ok dir ∧
    runner.sandbox.Allows dir ∧ fileName candidate = some name

theorem Names.allowed {raw name : Text} {dir : Location} (named : runner.Names fs raw dir name) :
    runner.sandbox.Allows dir := by
  obtain ⟨_, _, -, -, -, allowed, -⟩ := named
  exact allowed

theorem Names.exists {raw name : Text} {dir : Location} (named : runner.Names fs raw dir name) :
    ∃ node, fs.node dir = some node ∧ ∀ target, node ≠ .link target := by
  obtain ⟨_, _, -, -, found, -⟩ := named
  exact FileSystem.canonicalize_exists found

theorem Names.proper {raw name : Text} {dir : Location} (named : runner.Names fs raw dir name) :
    Proper name := by
  obtain ⟨_, _, -, -, -, -, last⟩ := named
  exact fileName_proper last

theorem resolveWritePath_ok {raw : Text} {path : Location × Text} :
    runner.resolveWritePath fs raw = .ok path ↔ runner.Names fs raw path.1 path.2 := by
  constructor
  · intro resolved
    simp only [resolveWritePath, bind_ok] at resolved
    obtain ⟨candidate, spelled, resolved⟩ := resolved
    split at resolved
    · cases resolved
    rename_i above named
    split at resolved
    · cases resolved
    rename_i canonicalParent found
    simp only [bind_ok, ensureAllowedRoot_ok] at resolved
    obtain ⟨-, allowed, resolved⟩ := resolved
    split at resolved
    · cases resolved
    · rename_i name last
      cases resolved
      exact ⟨candidate, above, named_ok.mp spelled, named, found, allowed, last⟩
  · rintro ⟨candidate, above, spelled, named, found, allowed, last⟩
    unfold resolveWritePath
    rw [named_ok.mpr spelled, ok_bind, named]
    dsimp only
    rw [found]
    change (runner.ensureAllowedRoot path.1 >>= _) = _
    rw [(ensureAllowedRoot_ok (u := ())).mpr allowed, ok_bind, last]

theorem opening_ok {α : Type} {result : Except IoError α} {a : α} :
    opening result = .ok a ↔ result = .ok a := by
  cases result <;> simp [opening]

theorem allows_child {location : Location} (allowed : runner.sandbox.Allows location)
    (name : Text) : runner.sandbox.Allows (name :: location) := by
  obtain ⟨root, member, under⟩ := allowed
  exact ⟨root, member, under.trans (List.suffix_cons name location)⟩

theorem fsWrite_ok {args : FsWriteRequest} {done : Done} : runner.fsWrite fs args = .ok done ↔
    trimChars args.path ≠ [] ∧ ∃ path location, runner.resolveWritePath fs args.path = .ok path ∧
      ∃ opened : runner.openFile fs path args.mode = .ok location, done = ⟨
        .fsWrite (display (path.2 :: path.1)) (utf8Bytes args.content).length, some location,
        fs.write location (kept fs location args.mode ++ utf8Bytes args.content)
          (openFile_writable opened)⟩ := by
  unfold fsWrite
  split
  · rename_i blank
    simp [blank]
  rename_i visible
  split
  · rename_i refused
    simp [refused]
  · rename_i path resolved
    split
    · rename_i error refused
      simp only [reduceCtorEq, false_iff, not_and]
      rintro - ⟨other, location, also, opened, -⟩
      cases resolved.symm.trans also
      rw [refused] at opened
      cases opened
    · rename_i location opened
      constructor
      · intro same
        exact ⟨visible, path, location, resolved, opened, (Except.ok.inj same).symm⟩
      · rintro ⟨-, other, location', also, opened', rfl⟩
        cases resolved.symm.trans also
        cases opened.symm.trans opened'
        rfl

/-! The confinement. -/

/-- A request that is not refused opens and enters nothing outside the allowed roots, and changes
nothing there. -/
def Confined (runner : LocalToolRunner) (fs : FileSystem) (request : ToolRequest) : Prop :=
  ∀ done, runner.run fs request = .ok done →
    (∀ location ∈ done.opened, runner.sandbox.Allows location) ∧
      ∀ location, ¬ runner.sandbox.Allows location → done.after.node location = fs.node location

/-- The request writes over or after a link under the allowed roots that leads to a file, or to a
free name, outside of them. -/
def WritesThroughLink (runner : LocalToolRunner) (fs : FileSystem) (request : ToolRequest) : Prop :=
  ∃ args dir name target location, request = .fsWrite args ∧ trimChars args.path ≠ [] ∧
    args.mode ≠ .create ∧ runner.Names fs args.path dir name ∧
    fs.node (name :: dir) = some (.link target) ∧
    fs.openWritable runner.links (dir.reverse ++ [name]) = .ok location ∧
    ¬ runner.sandbox.Allows location

theorem exec_confined {args : ExecRequest} {done : Done} (ran : runner.exec fs args = .ok done) :
    done.after = fs ∧ ∀ location ∈ done.opened, runner.sandbox.Allows location := by
  unfold exec at ran
  split at ran
  · cases ran
  split at ran
  · cases ran
    exact ⟨rfl, fun location opened => nomatch opened⟩
  · rename_i workdir _
    simp only [bind_ok, opening_ok] at ran
    obtain ⟨path, resolved, entered, enters, same⟩ := ran
    cases same
    obtain ⟨allowed, node, found, noLink⟩ := resolveWorkdir_ok resolved
    refine ⟨rfl, fun location opened => ?_⟩
    cases opened
    exact FileSystem.enter_self found noLink enters ▸ allowed

theorem fsRead_confined {args : FsReadRequest} {done : Done}
    (ran : runner.fsRead fs args = .ok done) :
    done.after = fs ∧ ∀ location ∈ done.opened, runner.sandbox.Allows location := by
  unfold fsRead at ran
  split at ran
  · cases ran
  simp only [bind_ok, opening_ok] at ran
  obtain ⟨path, resolved, ⟨result, bytes⟩, read, same⟩ := ran
  cases same
  obtain ⟨allowed, node, found, noLink⟩ := resolveReadPath_ok resolved
  refine ⟨rfl, fun location opened => ?_⟩
  cases opened
  exact FileSystem.readFile_self found noLink read ▸ allowed

/-- A write under a resolved parent opens what is named there, or what a link there leads to. -/
theorem openFile_allowed {raw : Text} {path : Location × Text} {mode : FsWriteMode}
    {location : Location} (named : runner.Names fs raw path.1 path.2)
    (opened : runner.openFile fs path mode = .ok location) : runner.sandbox.Allows location ∨
      mode ≠ .create ∧ (∃ target, fs.node (path.2 :: path.1) = some (.link target)) ∧
        fs.openWritable runner.links (path.1.reverse ++ [path.2]) = .ok location := by
  obtain ⟨node, found, noLink⟩ := named.exists
  by_cases create : mode = .create
  · rw [create] at opened
    obtain ⟨parent, walked, -, same, -⟩ := FileSystem.openNew_new opened
    rw [FileSystem.walk_self found noLink] at walked
    cases walked
    exact .inl (same ▸ allows_child named.allowed path.2)
  · have follows : fs.openWritable runner.links (path.1.reverse ++ [path.2]) = .ok location := by
      cases mode with
      | create => exact absurd rfl create
      | _ => exact opened
    by_cases link : ∃ target, fs.node (path.2 :: path.1) = some (.link target)
    · exact .inr ⟨create, link, follows⟩
    · have same := FileSystem.openWritable_name found noLink named.proper
        (fun target present => link ⟨target, present⟩) follows
      exact .inl (same ▸ allows_child named.allowed path.2)

/-- The sandbox confines a request exactly when the request does not write over or after a link that
leads out of the allowed roots. -/
theorem confined_iff (request : ToolRequest) :
    runner.Confined fs request ↔ ¬ runner.WritesThroughLink fs request := by
  constructor
  · rintro confined ⟨args, dir, name, target, location, rfl, visible, mode, named, -, follows,
      outside⟩
    have opened : runner.openFile fs (dir, name) args.mode = .ok location := by
      cases known : args.mode with
      | create => exact absurd known mode
      | _ => exact follows
    have done := fsWrite_ok.mpr
      ⟨visible, (dir, name), location, resolveWritePath_ok.mpr named, opened, rfl⟩
    exact outside ((confined _ done).1 location rfl)
  · intro inside done ran
    cases request with
    | exec args =>
      obtain ⟨same, allowed⟩ := exec_confined ran
      exact ⟨allowed, fun location _ => by rw [same]⟩
    | fsRead args =>
      obtain ⟨same, allowed⟩ := fsRead_confined ran
      exact ⟨allowed, fun location _ => by rw [same]⟩
    | fsWrite args =>
      obtain ⟨visible, path, location, resolved, opened, rfl⟩ := fsWrite_ok.mp ran
      have named := resolveWritePath_ok.mp resolved
      have here : runner.sandbox.Allows location := by
        rcases openFile_allowed named opened with here | ⟨mode, ⟨target, link⟩, follows⟩
        · exact here
        · by_contra outside
          exact inside ⟨args, path.1, path.2, target, location, rfl, visible, mode, named, link,
            follows, outside⟩
      refine ⟨fun other same => Option.some.inj same ▸ here, fun other outside => ?_⟩
      apply FileSystem.write_apart (openFile_writable opened)
      rintro rfl
      exact outside here

/-! The sandbox does not confine every request. -/

/-- A directory with a link in it to the file next to the directory. -/
def linkedTree : FileSystem where
  node location :=
    if location = [] ∨ location = [['w']] then some .directory
    else if location = [['s']] then some (.file [])
    else if location = [['x'], ['w']] then some (.link ['/', 's'])
    else none
  root := rfl
  nested name dir present := by
    by_cases top : dir = []
    · rw [top] at present ⊢
      refine ⟨rfl, ?_⟩
      by_contra improper
      apply present
      simp only [Proper, not_and_or, not_not] at improper
      rcases improper with rfl | rfl | rfl <;> rfl
    · have under : name :: dir = [['x'], ['w']] := by
        by_contra other
        exact present (by simp [top, other])
      cases under
      exact ⟨rfl, by decide⟩

def inDirectory : LocalToolRunner where
  maxReadBytes := 65536
  sandbox := ⟨[[['w']]]⟩
  currentDir := .error .notFound
  links := 40

def overLink : FsWriteRequest := ⟨['/', 'w', '/', 'x'], ['a'], .overwrite⟩

theorem link_not_confined : ¬ inDirectory.Confined linkedTree (.fsWrite overLink) := by
  intro confined
  have named : inDirectory.Names linkedTree overLink.path [['w']] ['x'] :=
    ⟨_, _, rfl, rfl, rfl, by decide, rfl⟩
  have opened : inDirectory.openFile linkedTree ([['w']], ['x']) .overwrite = .ok [['s']] := rfl
  have visible : trimChars overLink.path ≠ [] := by decide
  have written := fsWrite_ok.mpr
    ⟨visible, ([['w']], ['x']), _, resolveWritePath_ok.mpr named, opened, rfl⟩
  exact absurd ((confined _ written).1 [['s']] rfl) (by decide)

end LocalToolRunner
end CarsinOS.Tools
