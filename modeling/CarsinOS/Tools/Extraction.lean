import CarsinOS.Tools.Search
import Mathlib.Data.List.Nodup

/-! When the extraction of search results ends: as long as every `result__a` stands before the end
of the anchor it is taken for. -/
namespace CarsinOS.Tools
open CarsinOS.Lib

/-! The loop over entities. -/

/-- A turn that goes on has sliced out an entity of more than one character. -/
theorem decodeTurn_ok (output : Text) : decodeTurn output = some none ∨
    ∃ next, decodeTurn output = some (some next) ∧ next.length < output.length := by
  unfold decodeTurn
  cases found : find ['&', '#'] output with
  | none => exact .inl rfl
  | some start =>
    have here := (find_iff.mp found).1
    obtain ⟨stops, searched⟩ := findFrom_ok [';'] here.boundary
    simp only [searched, Option.bind_eq_bind, Option.bind_some]
    cases stops with
    | none => exact .inl rfl
    | some stop =>
      obtain ⟨there, after, -⟩ := (findFrom_some here.boundary).mp searched
      have beyond : start + 2 ≤ stop := at_behind here there (by decide) after
      obtain ⟨token, sliced⟩ := boundary_slice here.ends there.boundary beyond
      have token' : slice output (start + 2) stop = some token := sliced
      simp only [token', Option.bind_some]
      cases (entityNumber token).bind charFromU32 with
      | none => exact .inl rfl
      | some ch =>
        obtain ⟨before, cut⟩ := boundary_sliceTo here.boundary
        obtain ⟨rest, left⟩ := boundary_sliceFrom there.ends
        have left' : sliceFrom output (stop + 1) = some rest := left
        simp only [cut, left', Option.bind_some]
        refine .inr ⟨_, rfl, ?_⟩
        obtain ⟨after, whole, size⟩ := sliceTo_some.mp cut
        obtain ⟨head, again, length⟩ := sliceFrom_some.mp left'
        obtain ⟨entity, rfl⟩ := prefix_of_length (whole ▸ List.prefix_append before after)
          (again ▸ List.prefix_append head rest) (by omega)
        obtain ⟨more, tail, parts, length'⟩ := here
        have opened : before ++ ['&', '#'] <+: before ++ entity := by
          rw [← same_prefix (whole ▸ List.prefix_append before after)
            (parts ▸ List.prefix_append more _) (size.trans length'.symm)] at parts
          have early : before ++ ['&', '#'] <+: output := ⟨tail, by rw [parts, List.append_assoc]⟩
          refine prefix_of_length early (again ▸ List.prefix_append _ rest) ?_
          rw [utf8Length_append, size, length]
          exact beyond.trans (Nat.le_succ stop)
        have long := ((List.prefix_append_right_inj before).mp opened).length_le
        rw [again]
        simp only [List.length_append, List.length_cons, List.length_nil] at long ⊢
        omega

/-- The output at which the loop over entities breaks. -/
def Decodes (output last : Text) : Prop :=
  Relation.ReflTransGen (fun s t => decodeTurn s = some (some t)) output last ∧
    decodeTurn last = some none

theorem decodeTurns_ok (turns : Nat) (output : Text) (enough : output.length ≤ turns) :
    ∃ last, decodeTurns turns output = some last ∧ Decodes output last := by
  induction turns generalizing output with
  | zero =>
    rw [List.length_eq_zero_iff.mp (Nat.le_zero.mp enough)]
    exact ⟨[], rfl, .refl, rfl⟩
  | succ turns ih =>
    rcases decodeTurn_ok output with broke | ⟨next, turned, shorter⟩
    · exact ⟨output, by rw [decodeTurns, broke]; rfl, .refl, broke⟩
    · obtain ⟨last, decoded, run, broke⟩ := ih next (by omega)
      exact ⟨last, by rw [decodeTurns, turned]; exact decoded, .head turned run, broke⟩

theorem decode_ends (input : Text) :
    ∃ last, decodeHtmlEntities input = some last ∧ Decodes (namedEntities input) last :=
  decodeTurns_ok _ _ le_rfl

/-! No slice fails. -/

theorem extractHtmlAttr_ok (tag attr : Text) (quotes : List Char) :
    ∃ found, extractHtmlAttr tag attr quotes = some found := by
  induction quotes with
  | nil => exact ⟨none, rfl⟩
  | cons quote quotes ih =>
    cases found : find (attr ++ ['=', quote]) tag with
    | none =>
      simp only [extractHtmlAttr, found]
      exact ih
    | some start =>
      have here := (find_iff.mp found).1
      obtain ⟨stops, searched⟩ := findFrom_ok [quote] here.ends
      simp only [extractHtmlAttr, found, searched, Option.bind_eq_bind, Option.bind_some]
      cases stops with
      | none => exact ⟨none, rfl⟩
      | some stop =>
        obtain ⟨there, after, -⟩ := (findFrom_some here.ends).mp searched
        obtain ⟨value, sliced⟩ := boundary_slice here.ends there.boundary after
        simp only [sliced]
        exact ⟨some value, rfl⟩

theorem normalizeDuckduckgoHref_ok (href : Text) :
    ∃ url, normalizeDuckduckgoHref href = some url := by
  cases found : find ['u', 'd', 'd', 'g', '='] (trimChars href) with
  | none =>
    simp only [normalizeDuckduckgoHref, found]
    split
    · exact ⟨_, rfl⟩
    · exact ⟨_, rfl⟩
  | some start =>
    have here := (find_iff.mp found).1
    obtain ⟨stops, searched⟩ := findFrom_ok ['&'] here.ends
    have searched' : findFrom ['&'] (trimChars href) (start + 5) = some stops := searched
    simp only [normalizeDuckduckgoHref, found, searched', Option.bind_eq_bind, Option.bind_some]
    have last : Boundary (trimChars href) (stops.getD (utf8Length (trimChars href))) ∧
        start + 5 ≤ stops.getD (utf8Length (trimChars href)) := by
      cases stops with
      | none => exact ⟨boundary_end, here.within⟩
      | some stop =>
        obtain ⟨there, after, -⟩ := (findFrom_some here.ends).mp searched
        exact ⟨there.boundary, after⟩
    obtain ⟨encoded, sliced⟩ := boundary_slice here.ends last.1 last.2
    have sliced' : slice (trimChars href) (start + 5)
        (stops.getD (utf8Length (trimChars href))) = some encoded := sliced
    exact ⟨_, by rw [sliced']; rfl⟩

section Anchors
variable {html : Text} {p : Nat}

theorem anchorSnippet_ok {close : Nat} (inside : Boundary html close) :
    ∃ snippet, anchorSnippet html close = some snippet := by
  unfold anchorSnippet
  obtain ⟨nexts, searched⟩ := findFrom_ok RESULT_CLASS inside
  have last : Boundary html (nexts.getD (utf8Length html)) ∧
      close ≤ nexts.getD (utf8Length html) := by
    cases nexts with
    | none => exact ⟨boundary_end, inside.within⟩
    | some next =>
      obtain ⟨there, after, -⟩ := (findFrom_some inside).mp searched
      exact ⟨there.boundary, after⟩
  obtain ⟨part, sliced⟩ := boundary_slice inside last.1 last.2
  simp only [searched, sliced, Option.bind_eq_bind, Option.bind_some]
  cases found : find SNIPPET_CLASS part with
  | none => exact ⟨[], rfl⟩
  | some rel =>
    have class' := at_slice sliced (find_iff.mp found).1
    obtain ⟨opens, opened⟩ := findFrom_ok ['>'] class'.boundary
    simp only [opened, Option.bind_some]
    cases opens with
    | none => exact ⟨[], rfl⟩
    | some openEnd =>
      have open' := ((findFrom_some class'.boundary).mp opened).here.ends
      obtain ⟨closes, closed⟩ := findFrom_ok ['<', '/'] open'
      have closed' : findFrom ['<', '/'] html (openEnd + 1) = some closes := closed
      simp only [closed', Option.bind_some]
      cases closes with
      | none => exact ⟨[], rfl⟩
      | some stop =>
        obtain ⟨there, after, -⟩ := (findFrom_some open').mp closed
        obtain ⟨text, cut⟩ := boundary_slice open' there.boundary after
        have cut' : slice html (openEnd + 1) stop = some text := cut
        simp only [cut', Option.bind_some]
        obtain ⟨snippet, decoded, -⟩ := decode_ends (stripHtmlTags text)
        exact ⟨snippet, decoded⟩

theorem anchorResult_ok {anchor openEnd close : Nat} (opens : Boundary html anchor)
    (opened : First ['>'] html anchor openEnd)
    (closed : First ANCHOR_CLOSE html (openEnd + 1) close) :
    ∃ result, anchorResult html anchor openEnd close = some result := by
  unfold anchorResult
  obtain ⟨tag, sliced⟩ := boundary_slice opens opened.here.ends
    (Nat.le_add_right_of_le opened.after)
  have sliced' : slice html anchor (openEnd + 1) = some tag := sliced
  obtain ⟨inner, cut⟩ := boundary_slice opened.here.ends closed.here.boundary closed.after
  have cut' : slice html (openEnd + 1) close = some inner := cut
  obtain ⟨title, titled, -⟩ := decode_ends (stripHtmlTags inner)
  obtain ⟨href, found⟩ := extractHtmlAttr_ok tag ['h', 'r', 'e', 'f'] ['"', '\'']
  obtain ⟨snippet, told⟩ := anchorSnippet_ok closed.here.boundary
  simp only [sliced', cut', titled, found, told, Option.bind_eq_bind, Option.bind_some]
  cases href with
  | none => exact ⟨_, rfl⟩
  | some href =>
    obtain ⟨decoded, ended, -⟩ := decode_ends href
    obtain ⟨url, normal⟩ := normalizeDuckduckgoHref_ok decoded
    simp only [ended, normal, Option.bind_some]
    exact ⟨_, rfl⟩

/-- A `result__a` behind the end of the anchor it is taken for: the last one opened before it. -/
structure Behind (html : Text) (p anchor openEnd close : Nat) : Prop where
  anchored : Last ANCHOR_OPEN html p anchor
  opened : First ['>'] html anchor openEnd
  closed : First ANCHOR_CLOSE html (openEnd + 1) close
  behind : close + 4 ≤ p

theorem anchorTurn_ok {anchor : Nat} (opens : Boundary html anchor) :
    anchorTurn html anchor = some .finished ∨
      ∃ openEnd close result, First ['>'] html anchor openEnd ∧
        First ANCHOR_CLOSE html (openEnd + 1) close ∧
        anchorResult html anchor openEnd close = some result ∧
        anchorTurn html anchor = some (.next (close + 4) result) := by
  unfold anchorTurn
  obtain ⟨ends, searched⟩ := findFrom_ok ['>'] opens
  simp only [searched, Option.bind_eq_bind, Option.bind_some]
  cases ends with
  | none => exact .inl rfl
  | some openEnd =>
    have opened := (findFrom_some opens).mp searched
    obtain ⟨closes, searched'⟩ := findFrom_ok ANCHOR_CLOSE opened.here.ends
    have looked : findFrom ANCHOR_CLOSE html (openEnd + 1) = some closes := searched'
    simp only [looked, Option.bind_some]
    cases closes with
    | none => exact .inl rfl
    | some close =>
      have closed := (findFrom_some opened.here.ends).mp searched'
      obtain ⟨result, made⟩ := anchorResult_ok opens opened closed
      simp only [made, Option.bind_some]
      exact .inr ⟨openEnd, close, result, opened, closed, made, rfl⟩

/-- After a `result__a` the loop breaks, or goes on in front of it only from behind its anchor. -/
theorem classTurn_ok (here : At RESULT_CLASS html p) :
    classTurn html p = some .finished ∨
      ∃ cursor result, classTurn html p = some (.next cursor result) ∧ Boundary html cursor ∧
        (cursor ≤ p → ∃ anchor openEnd close, Behind html p anchor openEnd close ∧
          anchorResult html anchor openEnd close = some result ∧ cursor = close + 4) := by
  unfold classTurn
  obtain ⟨opens, searched⟩ := rfindTo_ok ANCHOR_OPEN here.boundary
  simp only [searched, Option.bind_eq_bind, Option.bind_some]
  cases opens with
  | none => exact .inr ⟨p + 9, none, rfl, here.ends, fun back => by omega⟩
  | some anchor =>
    have anchored := (rfindTo_some here.boundary).mp searched
    rcases anchorTurn_ok anchored.here.boundary with
      broke | ⟨openEnd, close, result, opened, closed, made, turned⟩
    · exact .inl broke
    · exact .inr ⟨close + 4, result, turned, closed.here.ends, fun back =>
        ⟨anchor, openEnd, close, ⟨anchored, opened, closed, back⟩, made, rfl⟩⟩

theorem Behind.turn {anchor openEnd close : Nat} (back : Behind html p anchor openEnd close)
    (here : At RESULT_CLASS html p) :
    ∃ result, anchorResult html anchor openEnd close = some result ∧
      classTurn html p = some (.next (close + 4) result) := by
  obtain ⟨result, made⟩ := anchorResult_ok back.anchored.here.boundary back.opened back.closed
  refine ⟨result, made, ?_⟩
  have searched := (rfindTo_some here.boundary).mpr back.anchored
  have opened := (findFrom_some back.anchored.here.boundary).mpr back.opened
  have closed : findFrom ANCHOR_CLOSE html (openEnd + 1) = some (some close) :=
    (findFrom_some back.opened.here.ends).mpr back.closed
  simp only [classTurn, anchorTurn, searched, opened, closed, made, Option.bind_eq_bind,
    Option.bind_some]

/-- The same anchor is taken again for what is found behind it. -/
theorem Behind.again {anchor openEnd close q : Nat} (back : Behind html p anchor openEnd close)
    (after : close + 4 ≤ q) (before : q ≤ p) : Behind html q anchor openEnd close where
  anchored := by
    have first := back.opened.after
    have second := back.closed.after
    refine ⟨back.anchored.here, Nat.le_trans ?_ after, fun j other fits =>
      back.anchored.greatest j other (fits.trans before)⟩
    change anchor + 2 ≤ close + 4
    omega
  opened := back.opened
  closed := back.closed
  behind := after

end Anchors

/-! The loop over the page. -/

section Loop
variable {html : Text} {limit : Nat} {s t : Scan}

theorem step_found {p : Nat} (inside : Boundary html s.cursor)
    (places : s.results.length < limit) (first : First RESULT_CLASS html s.cursor p) :
    s.step html limit = match classTurn html p with
      | none => .panicked
      | some .finished => .ended
      | some (.next cursor accepted) =>
        .on ⟨cursor, s.results ++ accepted.toList.map fun result => (p, result)⟩ := by
  have found := (findFrom_some inside).mpr first
  unfold Scan.step
  rw [if_pos places]
  simp only [found]
  all_goals rfl

theorem step_on (inside : Boundary html s.cursor) : s.step html limit = .on t ↔
    s.results.length < limit ∧ ∃ p cursor result, First RESULT_CLASS html s.cursor p ∧
      classTurn html p = some (.next cursor result) ∧
      t = ⟨cursor, s.results ++ result.toList.map fun x => (p, x)⟩ := by
  constructor
  · intro stepped
    obtain ⟨marks, searched⟩ := findFrom_ok RESULT_CLASS inside
    by_cases places : s.results.length < limit
    swap
    · rw [Scan.step, if_neg places] at stepped
      cases stepped
    cases marks with
    | none =>
      rw [Scan.step, if_pos places, searched] at stepped
      cases stepped
    | some p =>
      have first := (findFrom_some inside).mp searched
      rw [step_found inside places first] at stepped
      split at stepped
      · cases stepped
      · cases stepped
      · rename_i cursor result turned
        exact ⟨places, p, cursor, result, first, turned, (Step.on.inj stepped).symm⟩
  · rintro ⟨places, p, cursor, result, first, turned, rfl⟩
    rw [step_found inside places first, turned]

/-- A turn of the loop ends it or goes on at a character. -/
theorem step_ok (limit : Nat) (inside : Boundary html s.cursor) : s.step html limit = .ended ∨
    ∃ t, s.step html limit = .on t ∧ Boundary html t.cursor := by
  obtain ⟨marks, searched⟩ := findFrom_ok RESULT_CLASS inside
  by_cases places : s.results.length < limit
  swap
  · exact .inl (by rw [Scan.step, if_neg places])
  cases marks with
  | none => exact .inl (by rw [Scan.step, if_pos places, searched])
  | some p =>
    have first := (findFrom_some inside).mp searched
    rcases classTurn_ok first.here with broke | ⟨cursor, result, turned, next, -⟩
    · exact .inl (by rw [step_found inside places first, broke])
    · exact .inr ⟨_, (step_on inside).mpr ⟨places, p, cursor, result, first, turned, rfl⟩, next⟩

theorem step_boundary (inside : Boundary html s.cursor) (stepped : s.step html limit = .on t) :
    Boundary html t.cursor := by
  rcases step_ok limit inside with ended | ⟨u, on, next⟩
  · rw [stepped] at ended
    cases ended
  · rw [stepped] at on
    cases on
    exact next

theorem step_length (inside : Boundary html s.cursor) (stepped : s.step html limit = .on t) :
    t.results.length ≤ limit := by
  obtain ⟨places, p, cursor, result, -, -, rfl⟩ := (step_on inside).mp stepped
  cases result <;> simp <;> omega

/-- Every state the loop reaches slices at a character and has at most the results asked for. -/
theorem reaches_ok (run : Scan.Reaches html limit .start s) :
    Boundary html s.cursor ∧ s.results.length ≤ limit := by
  induction run with
  | refl => exact ⟨⟨[], html, rfl, rfl⟩, Nat.zero_le _⟩
  | tail run stepped ih => exact ⟨step_boundary ih.1 stepped, step_length ih.1 stepped⟩

/-- What the function returns, each result with the place of the `result__a` it was made for. -/
def Returns (html : Text) (limit : Nat) (results : List (Nat × SearchResult)) : Prop :=
  ∃ s, Scan.Reaches html limit .start s ∧ s.step html limit = .ended ∧ s.results = results

/-- No turn goes back, but for one whose result fills the list, alone or with the result of the
earlier `result__a` it goes back to. -/
def Fills (html : Text) (limit : Nat) (s : Scan) : Prop :=
  ∀ p anchor openEnd close, s.results.length < limit → First RESULT_CLASS html s.cursor p →
    Behind html p anchor openEnd close →
    (∃ result, anchorResult html anchor openEnd close = some (some result)) ∧
      (s.results.length + 1 = limit ∨ (s.results.length + 2 = limit ∧
        ∃ q, At RESULT_CLASS html q ∧ close + 4 ≤ q ∧ q < p))

/-- A `result__a` the loop leaves behind. -/
def Straight (html : Text) (p : Nat) : Prop :=
  ∀ cursor result, classTurn html p = some (.next cursor result) → p < cursor

theorem first_exists {pattern : Text} {i p : Nat} (inside : Boundary html i)
    (here : At pattern html p) (after : i ≤ p) : ∃ q, First pattern html i q ∧ q ≤ p := by
  obtain ⟨found, searched⟩ := findFrom_ok pattern inside
  cases found with
  | none => exact absurd ((findFrom_none inside).mp searched p here) (Nat.not_lt.mpr after)
  | some q =>
    have first := (findFrom_some inside).mp searched
    exact ⟨q, first, first.least p here after⟩

/-- Once the loop goes back it takes one anchor for one `result__a` until the list is full. -/
theorem reaches_again {cursor q : Nat} {accepted : Option SearchResult}
    {results : List (Nat × SearchResult)} (inside : Boundary html cursor)
    (first : First RESULT_CLASS html cursor q)
    (turned : classTurn html q = some (.next cursor accepted))
    (run : Scan.Reaches html limit ⟨cursor, results⟩ s) : ∃ n, s = ⟨cursor, results ++
      (List.replicate n (accepted.toList.map fun x => (q, x))).flatten⟩ := by
  induction run with
  | refl => exact ⟨0, by simp⟩
  | tail run stepped ih =>
    obtain ⟨n, rfl⟩ := ih
    obtain ⟨-, p, next, result, found, other, rfl⟩ := (step_on inside).mp stepped
    rw [found.unique first, turned] at other
    cases other
    refine ⟨n + 1, ?_⟩
    rw [found.unique first, List.replicate_succ', List.flatten_append, List.append_assoc]
    simp

/-- The states of the loop follow each other. -/
theorem reaches_ended (run : Scan.Reaches html limit .start s) (more : s.step html limit = .on t)
    {last : Scan} (all : Scan.Reaches html limit .start last)
    (ended : last.step html limit = .ended) : Scan.Reaches html limit t last := by
  have unique : Relator.RightUnique fun s t : Scan => s.step html limit = .on t := by
    intro a b c one two
    exact Step.on.inj (one.symm.trans two)
  rcases Relation.ReflTransGen.total_of_right_unique unique (.tail run more) all with go | back
  · exact go
  · rcases Relation.ReflTransGen.cases_head back with rfl | ⟨u, on, -⟩
    · exact .refl
    · rw [ended] at on
      cases on

theorem full_of_ended {p cursor : Nat} {accepted : Option SearchResult}
    (inside : Boundary html s.cursor) (first : First RESULT_CLASS html s.cursor p)
    (turned : classTurn html p = some (.next cursor accepted))
    (ended : s.step html limit = .ended) : limit ≤ s.results.length := by
  by_contra places
  rw [step_found inside (Nat.lt_of_not_le places) first, turned] at ended
  cases ended

theorem fills_of_returns {results : List (Nat × SearchResult)}
    (returned : Returns html limit results) (once : (results.map Prod.fst).Nodup)
    (run : Scan.Reaches html limit .start s) : Fills html limit s := by
  intro p anchor openEnd close places first back
  obtain ⟨last, all, ended, rfl⟩ := returned
  have inside := (reaches_ok run).1
  obtain ⟨result, made, turned⟩ := back.turn first.here
  have stepped := (step_on inside).mpr ⟨places, p, _, result, first, turned, rfl⟩
  have next := step_boundary inside stepped
  obtain ⟨q, again, before⟩ := first_exists next first.here back.behind
  obtain ⟨other, remade, returned⟩ := (back.again again.after before).turn again.here
  cases made.symm.trans remade
  obtain ⟨n, rfl⟩ := reaches_again next again returned (reaches_ended run stepped all ended)
  have full := full_of_ended (reaches_ok all).1 again returned ended
  have most := (reaches_ok all).2
  cases result with
  | none =>
    have fixed : (List.replicate n ([] : List (Nat × SearchResult))).flatten = [] := by simp
    simp only [Option.toList_none, List.map_nil, List.append_nil, fixed] at full
    omega
  | some result =>
    have copies : (List.replicate n [(q, result)]).flatten = List.replicate n (q, result) := by simp
    simp only [Option.toList_some, List.map_cons, List.map_nil, copies, List.length_append,
      List.length_cons, List.length_nil, List.length_replicate] at full most once
    refine ⟨⟨result, made⟩, ?_⟩
    rw [List.append_assoc, List.map_append, List.map_append, List.map_replicate] at once
    have tail := (List.nodup_append.mp once).2.1
    have single := List.nodup_replicate.mp (List.nodup_append.mp tail).2.1
    by_cases alone : n = 0
    · exact .inl (by omega)
    · refine .inr ⟨by omega, q, again.here, again.after, lt_of_le_of_ne before fun same => ?_⟩
      have apart := (List.nodup_append.mp tail).2.2 p (by simp) q (by simp [alone])
      exact apart same.symm

/-- The results so far are each for a `result__a` of its own that the loop left behind. -/
structure Good (html : Text) (s : Scan) : Prop where
  inside : Boundary html s.cursor
  once : (s.results.map Prod.fst).Nodup
  earlier : ∀ m ∈ s.results.map Prod.fst, m < s.cursor ∧ Straight html m

theorem nodup_snoc {places : List Nat} {p : Nat} (once : places.Nodup) (fresh : p ∉ places) :
    (places ++ [p]).Nodup := by
  rw [← List.concat_eq_append]
  exact List.Nodup.concat fresh once

theorem Good.fresh {p : Nat} (good : Good html s) (first : First RESULT_CLASS html s.cursor p) :
    p ∉ s.results.map Prod.fst := fun used =>
  absurd first.after (Nat.not_le.mpr (good.earlier p used).1)

/-- A turn that leaves its `result__a` behind. -/
theorem Good.forward {p cursor : Nat} {result : Option SearchResult} (good : Good html s)
    (first : First RESULT_CLASS html s.cursor p)
    (turned : classTurn html p = some (.next cursor result)) (next : Boundary html cursor)
    (ahead : p < cursor) :
    Good html ⟨cursor, s.results ++ result.toList.map fun x => (p, x)⟩ where
  inside := next
  once := by
    cases result with
    | none => simpa using good.once
    | some result => simpa using nodup_snoc good.once (good.fresh first)
  earlier := by
    intro m used
    rw [List.map_append, List.mem_append] at used
    rcases used with old | new
    · exact ⟨(good.earlier m old).1.trans (Nat.lt_of_le_of_lt first.after ahead),
        (good.earlier m old).2⟩
    · cases result with
      | none => cases new
      | some result =>
        cases List.mem_singleton.mp new
        refine ⟨ahead, fun cursor' result' other => ?_⟩
        rw [turned] at other
        cases other
        exact ahead

theorem ended_of_full (full : limit ≤ s.results.length) : s.step html limit = .ended := by
  rw [Scan.step, if_neg (Nat.not_lt.mpr full)]

/-- A turn that goes back ends the loop at once or with the next turn. -/
theorem Good.back {p anchor openEnd close : Nat} (good : Good html s) (fills : Fills html limit s)
    (places : s.results.length < limit) (first : First RESULT_CLASS html s.cursor p)
    (back : Behind html p anchor openEnd close) :
    ∃ t, Scan.Reaches html limit s t ∧ t.step html limit = .ended ∧
      (t.results.map Prod.fst).Nodup := by
  obtain ⟨⟨result, made⟩, room⟩ := fills p anchor openEnd close places first back
  obtain ⟨result', made', turned⟩ := back.turn first.here
  cases made.symm.trans made'
  have stepped := (step_on good.inside).mpr ⟨places, p, _, _, first, turned, rfl⟩
  have next := step_boundary good.inside stepped
  have unused := good.fresh first
  rcases room with one | ⟨two, q, there, after, before⟩
  · refine ⟨_, .single stepped, ended_of_full (by simp; omega), ?_⟩
    simpa using nodup_snoc good.once unused
  · obtain ⟨l, again, sooner⟩ := first_exists next there after
    have short : l < p := Nat.lt_of_le_of_lt sooner before
    obtain ⟨other, remade, returned⟩ := (back.again again.after short.le).turn again.here
    cases made.symm.trans remade
    have earlier : l ∉ s.results.map Prod.fst := fun used =>
      absurd ((good.earlier l used).2 _ _ returned) (Nat.not_lt.mpr again.after)
    have more : Scan.step html limit _ = _ := (step_on next).mpr
      ⟨by simp; omega, l, _, _, again, returned, rfl⟩
    refine ⟨_, .tail (.single stepped) more, ended_of_full (by simp; omega), ?_⟩
    have pair := nodup_snoc (nodup_snoc good.once unused) (p := l) fun used =>
      (List.mem_append.mp used).elim earlier fun new => short.ne (List.mem_singleton.mp new)
    simpa using pair

/-- The loop ends: a turn that does not go back comes nearer to the end of the page. -/
theorem Good.ends (good : Good html s)
    (fills : ∀ t, Scan.Reaches html limit s t → Fills html limit t) :
    ∃ t, Scan.Reaches html limit s t ∧ t.step html limit = .ended ∧
      (t.results.map Prod.fst).Nodup := by
  generalize left : utf8Length html - s.cursor = n
  induction n using Nat.strong_induction_on generalizing s with
  | _ n ih =>
    rcases step_ok limit good.inside with ended | ⟨t, stepped, next⟩
    · exact ⟨s, .refl, ended, good.once⟩
    · obtain ⟨places, p, cursor, result, first, turned, rfl⟩ := (step_on good.inside).mp stepped
      rcases classTurn_ok first.here with broke | ⟨cursor', result', other, -, back⟩
      · rw [turned] at broke
        cases broke
      · rw [turned] at other
        cases other
        by_cases ahead : p < cursor
        · have within : cursor + 0 ≤ utf8Length html := next.within
          have from' := first.after
          obtain ⟨last, run, ended, once⟩ := ih (utf8Length html - cursor) (by omega)
            (good.forward first turned next ahead)
            (fun t run => fills t (.head stepped run)) rfl
          exact ⟨last, .head stepped run, ended, once⟩
        · obtain ⟨anchor, openEnd, close, behind, -, -⟩ := back (Nat.le_of_not_lt ahead)
          exact good.back (fills s .refl) places first behind

/-- The loop slices at characters and the entities of every text are decoded; the results are no
more than asked for and each for a `result__a` of its own just where no turn goes back to do
more than fill the list. -/
theorem extraction_ends_iff (html : Text) (limit : Nat) :
    (∀ s, Scan.Reaches html limit .start s → s.step html limit ≠ .panicked) ∧
    (∀ input, ∃ last, decodeHtmlEntities input = some last ∧
      Decodes (namedEntities input) last) ∧
    ((∃ results, Returns html limit results ∧ results.length ≤ limit ∧
        (results.map Prod.fst).Nodup) ↔
      ∀ s, Scan.Reaches html limit .start s → Fills html limit s) := by
  refine ⟨fun s run => ?_, decode_ends, ?_, fun fills => ?_⟩
  · rcases step_ok limit (reaches_ok run).1 with ended | ⟨t, stepped, -⟩
    · simp [ended]
    · simp [stepped]
  · rintro ⟨results, returned, -, once⟩ s run
    exact fills_of_returns returned once run
  · have good : Good html .start := ⟨⟨[], html, rfl, rfl⟩, .nil, fun m used => by cases used⟩
    obtain ⟨last, run, ended, once⟩ := good.ends fills
    exact ⟨last.results, ⟨last, run, ended, rfl⟩, (reaches_ok run).2, once⟩

end Loop

/-- `<a></a>result__a`: the anchor ends in front of the `result__a` it is taken for. -/
def endlessPage : Text :=
  ['<', 'a', '>', '<', '/', 'a', '>', 'r', 'e', 's', 'u', 'l', 't', '_', '_', 'a']

theorem extraction_endless : ¬ ∃ results, Returns endlessPage 1 results ∧ results.length ≤ 1 ∧
    (results.map Prod.fst).Nodup := by
  rintro ⟨results, ⟨last, run, ended, -⟩, -, -⟩
  have again : ∀ s, Scan.Reaches endlessPage 1 .start s → s.step endlessPage 1 = .on ⟨7, []⟩ := by
    intro s run
    induction run with
    | refl => decide
    | tail run stepped ih =>
      cases ih.symm.trans stepped
      decide
  rw [again last run] at ended
  cases ended

/-- One anchor fills the list: `<a href='u'>t</a>result__a`. -/
example : (Scan.mk 17 [(17, ⟨['t'], ['u'], []⟩)]).step
    (['<', 'a', ' ', 'h', 'r', 'e', 'f', '=', '\'', 'u', '\'', '>', 't'] ++ ANCHOR_CLOSE ++
      RESULT_CLASS) 3 = .on ⟨17, [(17, ⟨['t'], ['u'], []⟩), (17, ⟨['t'], ['u'], []⟩)]⟩ := by
  decide

end CarsinOS.Tools
