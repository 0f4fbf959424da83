import CarsinOS.Tools.Sandbox

/-! The command line of an execution: how it is split into a binary and its arguments. -/
namespace CarsinOS.Tools

/-- The loop over the characters of a command. -/
structure ExecScan where
  tokens : List Text
  current : Text
  quote : Option Char
  escape : Bool
  deriving DecidableEq

namespace ExecScan

def start : ExecScan := ⟨[], [], none, false⟩

def push (s : ExecScan) (ch : Char) : ExecScan := { s with current := s.current ++ [ch] }

/-- The tokens, with the current one if there is any. -/
def ended (s : ExecScan) : List Text :=
  if s.current ≠ [] then s.tokens ++ [s.current] else s.tokens

def read (s : ExecScan) (ch : Char) : ExecScan :=
  if s.escape then { s.push ch with escape := false }
  else if ch = '\\' then { s with escape := true }
  else
    match s.quote with
    | some active => if ch = active then { s with quote := none } else s.push ch
    | none =>
      if ch = '\'' ∨ ch = '"' then { s with quote := some ch }
      else if ch = ' ' ∨ ch = '\t' then { s with tokens := s.ended, current := [] }
      else s.push ch

end ExecScan

def isShellOperator (ch : Char) : Bool :=
  ch = ';' || ch = '|' || ch = '&' || ch = '>' || ch = '<' || ch = '\n' || ch = '\r' || ch = '`'

def containsUnsafeShellOperator (command : Text) : Bool := command.any isShellOperator

def parseExecCommand (raw : Text) : Except ToolError (Text × List Text) :=
  let command := trimChars raw
  if command = [] then .error (.invalidRequest "exec command cannot be empty".toList)
  else if containsUnsafeShellOperator command then
    .error (.policyDenied "exec command contains disallowed shell operators".toList)
  else
    let s := command.foldl ExecScan.read .start
    if s.quote.isSome then .error (.invalidRequest "exec command has unclosed quotes".toList)
    else if s.escape then .error (.invalidRequest "exec command has trailing escape".toList)
    else
      match s.ended with
      | [] => .error (.invalidRequest "exec command cannot be empty".toList)
      | binary :: args => .ok (binary, args)

/-! Quoting, as a caller writes a command. -/

def escaped (ch : Char) : Text := if ch = '\\' ∨ ch = '"' then ['\\', ch] else [ch]

/-- The argument between double quotes, its backslashes and double quotes behind a backslash. -/
def quoteArgument (argument : Text) : Text := '"' :: argument.flatMap escaped ++ ['"']

def quoteCommand (arguments : List Text) : Text := [' '].intercalate (arguments.map quoteArgument)

theorem quoteCommand_cons (first second : Text) (rest : List Text) :
    quoteCommand (first :: second :: rest) =
      quoteArgument first ++ ' ' :: quoteCommand (second :: rest) := by
  simp [quoteCommand, List.intercalate]

/-- Inside double quotes an escaped argument is taken up as it was. -/
theorem read_escaped (tokens : List Text) (current argument : Text) :
    (argument.flatMap escaped).foldl ExecScan.read ⟨tokens, current, some '"', false⟩ =
      ⟨tokens, current ++ argument, some '"', false⟩ := by
  induction argument generalizing current with
  | nil => simp
  | cons ch argument ih =>
    have taken : (escaped ch).foldl ExecScan.read ⟨tokens, current, some '"', false⟩ =
        ⟨tokens, current ++ [ch], some '"', false⟩ := by
      unfold escaped
      split
      · simp [ExecScan.read, ExecScan.push]
      · rename_i plain
        obtain ⟨backslash, quote⟩ := not_or.mp plain
        simp [ExecScan.read, ExecScan.push, backslash, quote]
    rw [List.flatMap_cons, List.foldl_append, taken, ih, List.append_assoc, List.singleton_append]

theorem read_quoted (tokens : List Text) (argument : Text) :
    (quoteArgument argument).foldl ExecScan.read ⟨tokens, [], none, false⟩ =
      ⟨tokens, argument, none, false⟩ := by
  have opened : ExecScan.read ⟨tokens, [], none, false⟩ '"' = ⟨tokens, [], some '"', false⟩ := by
    simp [ExecScan.read]
  have closed : ExecScan.read ⟨tokens, argument, some '"', false⟩ '"' =
      ⟨tokens, argument, none, false⟩ := by
    simp [ExecScan.read]
  rw [quoteArgument, List.cons_append, List.foldl_cons, opened, List.foldl_append, read_escaped,
    List.nil_append, List.foldl_cons, closed, List.foldl_nil]

/-- A quoted command leaves its arguments that are not empty. -/
theorem read_command (tokens : List Text) (first : Text) (rest : List Text) :
    ∃ s, (quoteCommand (first :: rest)).foldl ExecScan.read ⟨tokens, [], none, false⟩ = s ∧
      s.quote = none ∧ s.escape = false ∧
      s.ended = tokens ++ (first :: rest).filter (· ≠ []) := by
  induction rest generalizing tokens first with
  | nil =>
    refine ⟨_, rfl, ?_⟩
    rw [show quoteCommand [first] = quoteArgument first from List.append_nil _, read_quoted]
    refine ⟨rfl, rfl, ?_⟩
    by_cases empty : first = [] <;> simp [ExecScan.ended, empty]
  | cons second rest ih =>
    rw [quoteCommand_cons, List.foldl_append, read_quoted, List.foldl_cons]
    have next : ExecScan.read ⟨tokens, first, none, false⟩ ' ' =
        ⟨(ExecScan.mk tokens first none false).ended, [], none, false⟩ := by
      simp [ExecScan.read]
    obtain ⟨s, scanned, quote, escape, ended⟩ :=
      ih (ExecScan.mk tokens first none false).ended second
    refine ⟨s, next ▸ scanned, quote, escape, ?_⟩
    rw [ended]
    by_cases empty : first = [] <;> simp [ExecScan.ended, empty]

theorem quoted_plain {argument : Text} (plain : ∀ ch ∈ argument, isShellOperator ch = false) :
    ∀ ch ∈ quoteArgument argument, isShellOperator ch = false := by
  intro ch member
  simp only [quoteArgument, List.cons_append, List.mem_cons, List.mem_append, List.mem_flatMap,
    List.not_mem_nil, or_false] at member
  rcases member with rfl | ⟨original, inside, member⟩ | rfl
  · decide
  · unfold escaped at member
    split at member
    · rcases List.mem_cons.mp member with rfl | member
      · decide
      · rw [List.mem_singleton.mp member]
        exact plain original inside
    · rw [List.mem_singleton.mp member]
      exact plain original inside
  · decide

theorem command_plain {arguments : List Text}
    (plain : ∀ argument ∈ arguments, ∀ ch ∈ argument, isShellOperator ch = false) :
    containsUnsafeShellOperator (quoteCommand arguments) = false := by
  rw [containsUnsafeShellOperator, List.any_eq_false]
  intro ch member
  rw [Bool.not_eq_true]
  induction arguments with
  | nil => cases member
  | cons first rest ih =>
    obtain ⟨here, later⟩ := List.forall_mem_cons.mp plain
    cases rest with
    | nil =>
      rw [show quoteCommand [first] = quoteArgument first from List.append_nil _] at member
      exact quoted_plain here ch member
    | cons second rest =>
      rw [quoteCommand_cons, List.mem_append, List.mem_cons] at member
      rcases member with inside | rfl | inside
      · exact quoted_plain here ch inside
      · decide
      · exact ih later inside

/-- A quoted command starts and ends in a quote. -/
theorem command_quotes (first : Text) (rest : List Text) :
    ∃ between, quoteCommand (first :: rest) = '"' :: between ++ ['"'] := by
  induction rest generalizing first with
  | nil => exact ⟨first.flatMap escaped, List.append_nil _⟩
  | cons second rest ih =>
    obtain ⟨between, same⟩ := ih second
    refine ⟨first.flatMap escaped ++ ['"'] ++ ' ' :: '"' :: between, ?_⟩
    rw [quoteCommand_cons, same]
    simp [quoteArgument]

theorem parse_quoted {binary : Text} {args : List Text} (some : binary ≠ [])
    (plain : ∀ argument ∈ binary :: args, ∀ ch ∈ argument, isShellOperator ch = false) :
    parseExecCommand (quoteCommand (binary :: args)) = .ok (binary, args.filter (· ≠ [])) := by
  obtain ⟨between, quotes⟩ := command_quotes binary args
  have trimmed : trimChars (quoteCommand (binary :: args)) = quoteCommand (binary :: args) := by
    rw [quotes]
    refine trimChars_of_trimmed ⟨?_, ?_⟩
    · intro c first
      cases first
      decide
    · intro c last
      rw [List.getLast?_concat] at last
      cases last
      decide
  have written : quoteCommand (binary :: args) ≠ [] := by
    rw [quotes]
    exact List.cons_ne_nil _ _
  obtain ⟨s, scanned, quote, escape, ended⟩ := read_command [] binary args
  unfold parseExecCommand
  simp only [trimmed, written, command_plain plain, if_false, Bool.false_eq_true]
  rw [ExecScan.start, scanned, quote, escape, ended]
  simp [some]

/-- A quoted command is split into the arguments it was written with exactly when none of those
after the binary is empty. -/
theorem parse_quoted_iff {binary : Text} {args : List Text} (some : binary ≠ [])
    (plain : ∀ argument ∈ binary :: args, ∀ ch ∈ argument, isShellOperator ch = false) :
    parseExecCommand (quoteCommand (binary :: args)) = .ok (binary, args) ↔
      ∀ argument ∈ args, argument ≠ [] := by
  rw [parse_quoted some plain, Except.ok.injEq, Prod.mk.injEq, eq_self, true_and,
    List.filter_eq_self]
  simp

theorem parse_quoted_iff_echo :
    parseExecCommand (quoteCommand [['e'], ['"', ' ', '\\']]) = .ok (['e'], [['"', ' ', '\\']]) :=
  (parse_quoted_iff (by decide) (by simp [isShellOperator])).mpr (by decide)

/-- An empty argument is lost. -/
theorem empty_argument_lost :
    parseExecCommand (quoteCommand [['e'], [], ['x']]) = .ok (['e'], [['x']]) ∧
      parseExecCommand (quoteCommand [['e'], [], ['x']]) ≠ .ok (['e'], [[], ['x']]) := by
  rw [parse_quoted (by decide) (by simp [isShellOperator])]
  decide

end CarsinOS.Tools
