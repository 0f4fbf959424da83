import CarsinOS.Lib.JsonText

/-! The compact text of a tree has no other tree, also where more text follows it. -/
namespace CarsinOS.Lib.Json

/-! Strings: what an escape stands for can be read off it. -/

def unescape : List Char → Option (Char × List Char)
  | '\\' :: 'u' :: _ :: _ :: high :: low :: rest =>
    some (Char.ofNat (hexDigit high * 16 + hexDigit low), rest)
  | '\\' :: e :: rest => (shortEscapes.lookup e).map fun c => (c, rest)
  | c :: rest => some (c, rest)
  | [] => none

theorem unescape_escape (c : Char) (rest : List Char) :
    unescape (escape c ++ rest) = some (c, rest) := by
  unfold escape
  split
  · rename_i same
    subst same
    rfl
  split
  · rename_i same
    subst same
    rfl
  split
  · rename_i code
    rw [show c = Char.ofNat 0x08 by rw [← code, Char.ofNat_toNat]]
    rfl
  split
  · rename_i code
    rw [show c = Char.ofNat 0x0C by rw [← code, Char.ofNat_toNat]]
    rfl
  split
  · rename_i same
    subst same
    rfl
  split
  · rename_i same
    subst same
    rfl
  split
  · rename_i same
    subst same
    rfl
  split
  · rename_i control
    have high := (digitChar_hex (c.toNat / 16) (by omega)).2
    have low := (digitChar_hex (c.toNat % 16) (by omega)).2
    have value : c.toNat / 16 * 16 + c.toNat % 16 = c.toNat := by omega
    simp [unescape, high, low, value, Char.ofNat_toNat]
  · rename_i slash _ _ _ _ _ _
    simp [unescape, slash]

theorem escape_append {c d : Char} {rest more : List Char}
    (same : escape c ++ rest = escape d ++ more) : c = d ∧ rest = more := by
  have read := congrArg unescape same
  rw [unescape_escape, unescape_escape] at read
  exact Prod.mk.inj (Option.some.inj read)

theorem escape_head (c : Char) (rest : List Char) : (escape c ++ rest).head? ≠ some '"' := by
  unfold escape
  split
  · simp
  · rename_i quote
    repeat' split
    all_goals simp [quote]

theorem quote_append {s t rest more : List Char} (same : quote s ++ rest = quote t ++ more) :
    s = t ∧ rest = more := by
  simp only [quote, List.cons_append, List.append_assoc, List.nil_append, List.cons.injEq,
    true_and] at same
  induction s generalizing t with
  | nil =>
    cases t with
    | nil => exact ⟨rfl, List.tail_eq_of_cons_eq same⟩
    | cons d t =>
      have first := congrArg List.head? same
      simp only [List.flatMap_nil, List.flatMap_cons, List.append_assoc] at first
      exact absurd first.symm (escape_head d _)
  | cons c s ih =>
    cases t with
    | nil =>
      have first := congrArg List.head? same
      simp only [List.flatMap_nil, List.flatMap_cons, List.append_assoc] at first
      exact absurd first (escape_head c _)
    | cons d t =>
      simp only [List.flatMap_cons, List.append_assoc] at same
      obtain ⟨rfl, tail⟩ := escape_append same
      obtain ⟨rfl, rest⟩ := ih tail
      exact ⟨rfl, rest⟩

/-! Numbers end where a character follows that no number contains. -/

def isNumberChar (c : Char) : Bool :=
  c.isDigit || c = '-' || c = '+' || c = '.' || c = 'e' || c = 'E'

theorem number_chars {w : List Char} (text : NumberText w) : ∀ c ∈ w, isNumberChar c = true := by
  have digits {v : List Char} (all : Digits v) : ∀ c ∈ v, isNumberChar c = true := by
    intro c member
    simp [isNumberChar, all c member]
  obtain ⟨sign, whole, fraction, exponent⟩ := text
  simp only [List.forall_mem_append]
  refine ⟨?_, ?_, ?_, ?_⟩
  · rcases sign with rfl | rfl <;> simp [isNumberChar]
  · cases whole with
    | zero => simp [isNumberChar]
    | positive digit _ rest =>
      exact List.forall_mem_cons.mpr ⟨by simp [isNumberChar, digit], digits rest⟩
  · cases fraction with
    | none => simp
    | some _ rest => exact List.forall_mem_cons.mpr ⟨by decide, digits rest⟩
  · cases exponent with
    | none => simp
    | some letter sign _ rest =>
      refine List.forall_mem_cons.mpr ⟨?_, List.forall_mem_append.mpr ⟨?_, digits rest⟩⟩
      · rcases letter with rfl | rfl <;> decide
      · rcases sign with rfl | rfl | rfl <;> simp [isNumberChar]

/-- No number goes on in the text. -/
def Ends (rest : List Char) : Prop := ∀ c ∈ rest.head?, isNumberChar c = false

theorem number_takeWhile {w rest : List Char} (text : NumberText w) (ends : Ends rest) :
    (w ++ rest).takeWhile isNumberChar = w := by
  rw [List.takeWhile_append_of_pos (number_chars text)]
  cases rest with
  | nil => simp
  | cons c rest => simp [ends c rfl]

theorem number_append {v w rest more : List Char} (first : NumberText v) (second : NumberText w)
    (ends : Ends rest) (stops : Ends more) (same : v ++ rest = w ++ more) :
    v = w ∧ rest = more := by
  have front := congrArg (List.takeWhile isNumberChar) same
  rw [number_takeWhile first ends, number_takeWhile second stops] at front
  subst front
  exact ⟨rfl, List.append_cancel_left same⟩

/-! Values: the first character tells which kind a value is of. -/

inductive Kind where
  | null
  | yes
  | no
  | num
  | str
  | arr
  | obj
  | close
deriving DecidableEq

def kind : Json → Kind
  | .null => .null
  | .bool true => .yes
  | .bool false => .no
  | .num _ => .num
  | .str _ => .str
  | .arr _ => .arr
  | .obj _ => .obj

def kindOf (c : Char) : Kind :=
  if c = 'n' then .null
  else if c = 't' then .yes
  else if c = 'f' then .no
  else if c = '"' then .str
  else if c = '[' then .arr
  else if c = '{' then .obj
  else if c.isDigit || c = '-' then .num
  else .close

theorem kindOf_digit {c : Char} (digit : c.isDigit = true) : kindOf c = .num := by
  have letters : c ≠ 'n' ∧ c ≠ 't' ∧ c ≠ 'f' ∧ c ≠ '"' ∧ c ≠ '[' ∧ c ≠ '{' := by
    refine ⟨?_, ?_, ?_, ?_, ?_, ?_⟩ <;> rintro rfl <;> exact absurd digit (by decide)
  simp [kindOf, letters, digit]

theorem print_kind {t : Json} (spelled : t.Everywhere Spelled) :
    ∃ c tail, t.print = c :: tail ∧ kindOf c = t.kind := by
  cases t with
  | null => exact ⟨_, _, rfl, rfl⟩
  | bool b => cases b <;> exact ⟨_, _, rfl, rfl⟩
  | str s => exact ⟨_, _, rfl, rfl⟩
  | arr items => exact ⟨_, _, rfl, rfl⟩
  | obj fields => exact ⟨_, _, rfl, rfl⟩
  | num w =>
    obtain ⟨sign, whole, -, -⟩ := (everywhere.mp spelled).1
    rcases sign with rfl | rfl
    · cases whole with
      | zero => exact ⟨'0', _, rfl, rfl⟩
      | positive digit => exact ⟨_, _, rfl, kindOf_digit digit⟩
    · exact ⟨'-', _, rfl, rfl⟩

theorem kind_of_append {t u : Json} {rest more : List Char} (first : t.Everywhere Spelled)
    (second : u.Everywhere Spelled) (same : t.print ++ rest = u.print ++ more) :
    t.kind = u.kind := by
  obtain ⟨c, tail, front, kind⟩ := print_kind first
  obtain ⟨d, _, back, other⟩ := print_kind second
  rw [front, back] at same
  rw [← kind, ← other, (List.cons.inj same).1]

theorem kind_ne_close (t : Json) : t.kind ≠ .close := by
  cases t with
  | bool b => cases b <;> simp [kind]
  | _ => simp [kind]

/-- No value starts with the end of a container. -/
theorem not_close {t : Json} {c : Char} {rest more : List Char} (spelled : t.Everywhere Spelled)
    (close : kindOf c = .close) : t.print ++ rest ≠ c :: more := by
  intro same
  obtain ⟨d, tail, front, kind⟩ := print_kind spelled
  rw [front] at same
  rw [(List.cons.inj same).1, close] at kind
  exact kind_ne_close t kind.symm

theorem ends_cons {c : Char} {rest : List Char} (plain : isNumberChar c = false) :
    Ends (c :: rest) := by
  intro d head
  cases head
  exact plain

/-! Lists: a comma or the end of the container follows each item. -/
section Separated
variable {α : Type*} {text : α → List Char} {good : α → Prop} {close : Char}

/-- The text of an item is read in only one way. -/
def Unique (text : α → List Char) (good : α → Prop) (a : α) : Prop :=
  ∀ b rest more, good b → Ends rest → Ends more → text a ++ rest = text b ++ more →
    a = b ∧ rest = more

theorem separated_ends (plain : isNumberChar close = false) (as : List α) (rest : List Char) :
    Ends (as.flatMap (fun a => ',' :: text a) ++ close :: rest) := by
  cases as with
  | nil => exact ends_cons plain
  | cons a as => exact ends_cons rfl

theorem separated_unique {as bs : List α} {rest more : List Char}
    (plain : isNumberChar close = false) (comma : close ≠ ',')
    (unique : ∀ a ∈ as, Unique text good a) (others : ∀ b ∈ bs, good b)
    (same : as.flatMap (fun a => ',' :: text a) ++ close :: rest =
      bs.flatMap (fun b => ',' :: text b) ++ close :: more) : as = bs ∧ rest = more := by
  induction as generalizing bs with
  | nil =>
    cases bs with
    | nil => exact ⟨rfl, List.tail_eq_of_cons_eq same⟩
    | cons b bs => exact absurd (List.cons.inj same).1 comma
  | cons a as ih =>
    cases bs with
    | nil => exact absurd (List.cons.inj same).1.symm comma
    | cons b bs =>
      obtain ⟨once, unique⟩ := List.forall_mem_cons.mp unique
      obtain ⟨second, remaining⟩ := List.forall_mem_cons.mp others
      simp only [List.flatMap_cons, List.cons_append, List.append_assoc, List.cons.injEq,
        true_and] at same
      obtain ⟨rfl, tail⟩ := once b _ _ second (separated_ends plain as rest)
        (separated_ends plain bs more) same
      obtain ⟨rfl, last⟩ := ih unique remaining tail
      exact ⟨rfl, last⟩

theorem commaSeparated_unique {as bs : List α} {rest more : List Char}
    (plain : isNumberChar close = false) (comma : close ≠ ',')
    (front : ∀ a, a ∈ as ∨ a ∈ bs → ∀ rest more, text a ++ rest ≠ close :: more)
    (unique : ∀ a ∈ as, Unique text good a) (others : ∀ b ∈ bs, good b)
    (same : commaSeparated (as.map text) ++ close :: rest =
      commaSeparated (bs.map text) ++ close :: more) : as = bs ∧ rest = more := by
  cases as with
  | nil =>
    cases bs with
    | nil => exact ⟨rfl, List.tail_eq_of_cons_eq same⟩
    | cons b bs =>
      rw [List.map_cons, commaSeparated_cons, List.append_assoc] at same
      exact absurd same.symm (front b (.inr List.mem_cons_self) _ _)
  | cons a as =>
    cases bs with
    | nil =>
      rw [List.map_cons, commaSeparated_cons, List.append_assoc] at same
      exact absurd same (front a (.inl List.mem_cons_self) _ _)
    | cons b bs =>
      obtain ⟨once, unique⟩ := List.forall_mem_cons.mp unique
      obtain ⟨second, remaining⟩ := List.forall_mem_cons.mp others
      simp only [List.map_cons, commaSeparated_cons, List.append_assoc, List.flatMap_map] at same
      obtain ⟨rfl, tail⟩ := once b _ _ second (separated_ends plain as rest)
        (separated_ends plain bs more) same
      obtain ⟨rfl, last⟩ := separated_unique plain comma unique remaining tail
      exact ⟨rfl, last⟩

end Separated

theorem printField_unique {f : List Char × Json} (once : Unique print (Everywhere Spelled) f.2) :
    Unique printField (fun g => g.2.Everywhere Spelled) f := by
  intro g rest more spelled ends stops same
  simp only [printField, List.append_assoc] at same
  obtain ⟨name, tail⟩ := quote_append same
  obtain ⟨value, last⟩ := once g.2 rest more spelled ends stops (List.tail_eq_of_cons_eq tail)
  exact ⟨Prod.ext name value, last⟩

theorem print_unique {t : Json} (spelled : t.Everywhere Spelled) :
    Unique print (Everywhere Spelled) t := by
  induction t using children_induction with
  | step t ih =>
    obtain ⟨here, inside⟩ := everywhere.mp spelled
    have once : ∀ c ∈ t.children, Unique print (Everywhere Spelled) c := fun c member =>
      ih c member (inside c member)
    intro u rest more other ends stops same
    have kinds := kind_of_append spelled other same
    have below := (everywhere.mp other).2
    cases t with
    | null =>
      cases u with
      | null => exact ⟨rfl, List.append_cancel_left same⟩
      | bool b => cases b <;> cases kinds
      | _ => cases kinds
    | bool b =>
      cases u with
      | bool c =>
        cases b <;> cases c <;> first
          | exact ⟨rfl, List.append_cancel_left same⟩
          | cases kinds
      | _ => cases b <;> cases kinds
    | num w =>
      cases u with
      | num v =>
        obtain ⟨rfl, tail⟩ := number_append here (everywhere.mp other).1 ends stops same
        exact ⟨rfl, tail⟩
      | bool b => cases b <;> cases kinds
      | _ => cases kinds
    | str s =>
      cases u with
      | str r =>
        obtain ⟨rfl, tail⟩ := quote_append same
        exact ⟨rfl, tail⟩
      | bool b => cases b <;> cases kinds
      | _ => cases kinds
    | arr ts =>
      cases u with
      | arr us =>
        simp only [print, printItems_commas, List.cons_append, List.append_assoc,
          List.nil_append, List.cons.injEq, true_and] at same
        have front : ∀ v, v ∈ ts ∨ v ∈ us → ∀ rest more, v.print ++ rest ≠ ']' :: more := by
          intro v member rest more
          have good := member.elim (inside v) (below v)
          exact not_close good rfl
        obtain ⟨rfl, tail⟩ := commaSeparated_unique rfl (by decide) front once below same
        exact ⟨rfl, tail⟩
      | bool b => cases b <;> cases kinds
      | _ => cases kinds
    | obj fs =>
      cases u with
      | obj gs =>
        simp only [print, printFields_commas, List.cons_append, List.append_assoc,
          List.nil_append, List.cons.injEq, true_and] at same
        have fields : ∀ f ∈ fs, Unique printField (fun g => g.2.Everywhere Spelled) f :=
          fun f member => printField_unique (once f.2 (List.mem_map_of_mem member))
        have front : ∀ f, f ∈ fs ∨ f ∈ gs → ∀ rest more, printField f ++ rest ≠ '}' :: more := by
          intro f _ rest more same
          cases same
        have others : ∀ g ∈ gs, g.2.Everywhere Spelled := fun g member =>
          below g.2 (List.mem_map_of_mem member)
        obtain ⟨rfl, tail⟩ := commaSeparated_unique rfl (by decide) front fields others same
        exact ⟨rfl, tail⟩
      | bool b => cases b <;> cases kinds
      | _ => cases kinds

theorem print_injective {t u : Json} (first : t.Everywhere Spelled) (second : u.Everywhere Spelled)
    (same : t.print = u.print) : t = u := by
  have ends : Ends [] := fun c none => by cases none
  have appended : t.print ++ [] = u.print ++ [] := congrArg (· ++ []) same
  exact (print_unique first u [] [] second ends ends appended).1

end CarsinOS.Lib.Json
