import CarsinOS.Canonical.Strings

/-! Arrays and objects, over any reader of the values inside them. -/
namespace CarsinOS.Canonical
open CarsinOS.Lib

/-- The reader takes exactly the values of the grammar that fit the levels left. -/
structure ReadsValues (N : Normalization) (levels : Nat)
    (element : List Char → Anyhow (CanonicalValue × List Char)) : Prop where
  sound : ∀ {cs v rest}, element cs = .ok (v, rest) → ∃ t before w, Blank before ∧
    ValueText t w ∧ Fits N levels t ∧ meaning N t = v ∧ mend cs = before ++ (w ++ mend rest)
  complete : ∀ {t before w cs ds}, Blank before → ValueText t w → Fits N levels t →
    Delimited ds → mend cs = before ++ (w ++ ds) →
    ∃ rest, element cs = .ok (meaning N t, rest) ∧ mend rest = ds

/-- The characters that end an item. -/
def Closes (c : Char) : Prop := c = ',' ∨ c = ']' ∨ c = '}'

theorem closes_delimits {c : Char} {before ds : List Char} (closes : Closes c)
    (blank : Blank before) : Delimited (before ++ c :: ds) := by
  cases before with
  | nil => rcases closes with rfl | rfl | rfl <;> exact ⟨rfl, rfl⟩
  | cons b before =>
    have first := blank b List.mem_cons_self
    simp only [isBlank, Bool.or_eq_true, decide_eq_true_eq] at first
    rcases first with ((rfl | rfl) | rfl) | rfl <;> exact ⟨rfl, rfl⟩

theorem closes_stops {c : Char} (closes : Closes c) : isBlank c = false ∧ c ≠ '\\' := by
  rcases closes with rfl | rfl | rfl <;> exact ⟨rfl, by decide⟩

/-- White space in front of a text that starts a value is skipped, and nothing else. -/
theorem whitespace_trims {before w cs ds : List Char} (blank : Blank before) (starts : Starts w)
    (shape : mend cs = before ++ (w ++ ds)) : mend (whitespace cs) = w ++ ds := by
  obtain ⟨c, tail, rfl, stops, -⟩ := starts
  rw [← mend_whitespace, shape, whitespace_blank blank]
  exact whitespace_stops stops

theorem consume_mended {c : Char} {cs w ds : List Char} (other : ∀ tail, w ≠ c :: tail)
    (some : w ≠ []) (shape : mend cs = w ++ ds) : consume c cs = none := by
  have head := congrArg List.head? shape
  rw [mend_head] at head
  cases cs with
  | nil => rfl
  | cons d cs =>
    cases w with
    | nil => exact absurd rfl some
    | cons e w =>
      cases head
      have apart : d ≠ c := by
        rintro rfl
        exact other w rfl
      simp [consume, apart]

theorem insertFresh_ok {k : List Char} {v : CanonicalValue} {message : String}
    {m m' : List (List Char × CanonicalValue)} :
    CanonicalValue.insertFresh k v m message = .ok m' ↔
      k ∉ Entries.keys m ∧ Entries.insert k v m = m' := by
  unfold CanonicalValue.insertFresh
  split <;> simp_all

section Loops
variable {N : Normalization} {n : Nat}
  {element : List Char → Anyhow (CanonicalValue × List Char)} (reads : ReadsValues N n element)
include reads

theorem item_sound {cs after : List Char} {v : CanonicalValue}
    (read : element cs = .ok (v, after)) :
    ∃ t w, ItemText t w ∧ Fits N n t ∧ meaning N t = v ∧
      mend cs = w ++ mend (whitespace after) := by
  obtain ⟨t, before, w, blank, text, fits, same, shape⟩ := reads.sound read
  obtain ⟨between, alsoBlank, split⟩ := whitespace_split after
  refine ⟨t, _, .padded blank text alsoBlank, fits, same, ?_⟩
  rw [shape, split]
  simp

theorem item_complete {t : Json} {w cs ds : List Char} {c : Char} (text : ItemText t w)
    (fits : Fits N n t) (closes : Closes c) (shape : mend cs = w ++ c :: ds) :
    ∃ after rest, element cs = .ok (meaning N t, after) ∧ whitespace after = c :: rest ∧
      mend rest = ds := by
  obtain ⟨blank, inner, alsoBlank⟩ := text
  rw [List.append_assoc, List.append_assoc] at shape
  obtain ⟨after, read, left⟩ :=
    reads.complete blank inner fits (closes_delimits closes alsoBlank) shape
  obtain ⟨stops, plain⟩ := closes_stops closes
  obtain ⟨rest, found, last⟩ := whitespace_reaches alsoBlank stops plain left
  exact ⟨after, rest, read, found, last⟩

/-! Arrays. -/

theorem arrayLoop_sound {room : Nat} {values vs : List CanonicalValue} {cs rest : List Char}
    (read : arrayLoop element room values cs = .ok (vs, rest)) :
    ∃ ts w, ItemsText ts w ∧ ts.length ≤ room ∧ (∀ t ∈ ts, Fits N n t) ∧
      vs = values ++ ts.map (meaning N) ∧ mend cs = w ++ ']' :: mend rest := by
  induction room generalizing values cs with
  | zero => simp [arrayLoop] at read
  | succ room ih =>
    obtain ⟨⟨v, after⟩, found, reading⟩ := bind_ok.mp read
    obtain ⟨t, w, text, fits, rfl, shape⟩ := item_sound reads found
    simp only at reading
    split at reading
    · rename_i closed
      cases reading
      rw [consume_some.mp closed, mend_cons (by decide)] at shape
      exact ⟨[t], w, .one text, by simp, by simpa using fits, by simp, shape⟩
    · obtain ⟨next, comma, reading⟩ := bind_ok.mp reading
      obtain ⟨ts, tail, texts, short, fit, rfl, left⟩ := ih reading
      rw [take_ok.mp comma, mend_cons (by decide), left] at shape
      refine ⟨t :: ts, _, .more text texts, by simpa using short,
        List.forall_mem_cons.mpr ⟨fits, fit⟩, by simp, ?_⟩
      simpa using shape

theorem arrayLoop_complete {room : Nat} {ts : List Json} {values : List CanonicalValue}
    {w cs ds : List Char} (texts : ItemsText ts w) (short : ts.length ≤ room)
    (fit : ∀ t ∈ ts, Fits N n t) (shape : mend cs = w ++ ']' :: ds) :
    ∃ rest, arrayLoop element room values cs = .ok (values ++ ts.map (meaning N), rest) ∧
      mend rest = ds := by
  induction room generalizing ts values cs w with
  | zero => cases texts <;> simp at short
  | succ room ih =>
    cases texts with
    | one text =>
      obtain ⟨after, rest, read, found, last⟩ :=
        item_complete reads text (fit _ List.mem_cons_self) (.inr (.inl rfl)) shape
      refine ⟨rest, ?_, last⟩
      simp [arrayLoop, read, found, consume]
    | @more t ts _ _ text texts =>
      obtain ⟨here, others⟩ := List.forall_mem_cons.mp fit
      rw [List.append_assoc] at shape
      obtain ⟨after, next, read, found, left⟩ :=
        item_complete reads text here (.inl rfl) shape
      obtain ⟨rest, loop, last⟩ := @ih ts (values ++ [meaning N t]) _ next texts
        (Nat.le_of_succ_le_succ short) others left
      refine ⟨rest, ?_, last⟩
      simp [arrayLoop, read, found, consume, take, loop]

theorem array_sound {cs rest : List Char} {vs : List CanonicalValue}
    (read : array element cs = .ok (vs, rest)) :
    ∃ ts w, ValueText (.arr ts) w ∧ Fits N (n + 1) (.arr ts) ∧ vs = ts.map (meaning N) ∧
      mend cs = w ++ mend rest := by
  obtain ⟨inside, opened, reading⟩ := bind_ok.mp read
  obtain ⟨before, blank, shape⟩ := whitespace_split inside
  rw [take_ok.mp opened, mend_cons (by decide), shape]
  simp only at reading
  split at reading
  · rename_i closed
    cases reading
    refine ⟨[], _, .emptyArr blank, fits_iff.mpr ⟨by simp [Admissible], by simp [Json.children]⟩,
      rfl, ?_⟩
    rw [consume_some.mp closed, mend_cons (by decide)]
    simp
  · obtain ⟨ts, w, texts, short, fit, rfl, left⟩ := arrayLoop_sound reads reading
    refine ⟨ts, _, .arr (items_padded blank texts), fits_iff.mpr ⟨short, fit⟩, by simp, ?_⟩
    rw [left]
    simp

theorem array_complete {ts : List Json} {w cs ds : List Char} (text : ValueText (.arr ts) w)
    (fits : Fits N (n + 1) (.arr ts)) (shape : mend cs = w ++ ds) :
    ∃ rest, array element cs = .ok (ts.map (meaning N), rest) ∧ mend rest = ds := by
  obtain ⟨short, fit⟩ := fits_iff.mp fits
  cases text with
  | emptyArr blank =>
    rw [List.cons_append, List.append_assoc] at shape
    obtain ⟨inside, rfl, left⟩ := (mend_eq_cons (by decide)).mp shape
    obtain ⟨rest, found, last⟩ := whitespace_reaches blank rfl (by decide) left
    exact ⟨rest, by simp [array, take, consume, found], last⟩
  | arr texts =>
    rw [List.cons_append, List.append_assoc] at shape
    obtain ⟨inside, rfl, left⟩ := (mend_eq_cons (by decide)).mp shape
    obtain ⟨before, v, blank, rfl, texts, starts⟩ := items_trimmed texts
    rw [List.append_assoc] at left
    have inner := whitespace_trims blank starts left
    have opens : consume ']' (whitespace inside) = none := by
      obtain ⟨c, tail, rfl, -, other, -⟩ := starts
      exact consume_mended (fun _ same => other (List.cons.inj same).1) (by simp) inner
    obtain ⟨rest, loop, last⟩ := @arrayLoop_complete _ _ _ reads _ _ [] _ _ _ texts short fit inner
    refine ⟨rest, ?_, last⟩
    rw [array, take_ok.mpr rfl, ok_bind]
    simpa [opens] using loop

/-! Objects. -/

theorem objectLoop_sound {room : Nat} {values es : List (List Char × CanonicalValue)}
    {cs rest : List Char} (read : objectLoop N element room values cs = .ok (es, rest)) :
    ∃ fs w, FieldsText fs w ∧ fs.length ≤ room ∧ (∀ f ∈ fs, Fits N n f.2) ∧
      (fs.map fun f => N.nfc f.1).Nodup ∧ (∀ f ∈ fs, N.nfc f.1 ∉ Entries.keys values) ∧
      es = Entries.insertAll values (meaningFields N fs) ∧ mend cs = w ++ '}' :: mend rest := by
  induction room generalizing values cs with
  | zero => simp [objectLoop] at read
  | succ room ih =>
    obtain ⟨⟨key, afterName⟩, name, reading⟩ := bind_ok.mp read
    obtain ⟨afterColon, colon, reading⟩ := bind_ok.mp reading
    obtain ⟨⟨v, after⟩, found, reading⟩ := bind_ok.mp reading
    obtain ⟨more, inserted, reading⟩ := bind_ok.mp reading
    obtain ⟨fresh, rfl⟩ := insertFresh_ok.mp inserted
    obtain ⟨before, blank, split⟩ := whitespace_split cs
    obtain ⟨chars, quoted, string, rfl, shape⟩ := string_sound name
    obtain ⟨between, alsoBlank, gap⟩ := whitespace_split afterName
    obtain ⟨t, w, text, fits, rfl, inner⟩ := item_sound reads found
    rw [take_ok.mp colon, mend_cons (by decide), inner] at gap
    have field := FieldText.field blank string alsoBlank text
    simp only at reading
    split at reading
    · rename_i closed
      cases reading
      rw [consume_some.mp closed, mend_cons (by decide)] at gap
      refine ⟨[(chars, t)], _, .one field, by simp, by simpa using fits, by simp,
        by simpa using fresh, rfl, ?_⟩
      rw [split, shape, gap]
      simp
    · obtain ⟨next, comma, reading⟩ := bind_ok.mp reading
      obtain ⟨fs, tail, texts, short, fit, distinct, apart, rfl, left⟩ := ih reading
      rw [take_ok.mp comma, mend_cons (by decide), left] at gap
      have others : ∀ f ∈ fs, N.nfc f.1 ≠ N.nfc chars ∧ N.nfc f.1 ∉ Entries.keys values := by
        intro f member
        have outside := apart f member
        rw [Entries.mem_keys_insert, not_or] at outside
        exact outside
      refine ⟨(chars, t) :: fs, _, .more field texts, by simpa using short,
        List.forall_mem_cons.mpr ⟨fits, fit⟩, ?_,
        List.forall_mem_cons.mpr ⟨fresh, fun f member => (others f member).2⟩, rfl, ?_⟩
      · refine List.nodup_cons.mpr ⟨?_, distinct⟩
        intro member
        obtain ⟨f, inside, same⟩ := List.mem_map.mp member
        exact (others f inside).1 same
      · rw [split, shape, gap]
        simp

/-- One round of the object loop, up to the character that ends the field. -/
theorem objectLoop_round {room : Nat} {values : List (List Char × CanonicalValue)}
    {f : List Char × Json} {w cs ds : List Char} {c : Char} (text : FieldText f w)
    (fits : Fits N n f.2) (fresh : N.nfc f.1 ∉ Entries.keys values) (closes : Closes c)
    (shape : mend cs = w ++ c :: ds) :
    ∃ rest, mend rest = ds ∧ objectLoop N element (room + 1) values cs =
      if c = '}' then .ok (Entries.insert (N.nfc f.1) (meaning N f.2) values, rest)
      else take ',' (c :: rest) >>=
        objectLoop N element room (Entries.insert (N.nfc f.1) (meaning N f.2) values) := by
  cases text with
  | @field k t before name between v blank quoted alsoBlank item =>
    have starts : Starts name := by
      cases quoted
      exact ⟨'"', _, rfl, by decide⟩
    simp only [List.append_assoc, List.cons_append] at shape
    obtain ⟨afterName, read, left⟩ :=
      string_complete (N := N) quoted (whitespace_trims blank starts shape)
    obtain ⟨inside, colon, inner⟩ := whitespace_reaches alsoBlank rfl (by decide) left
    obtain ⟨after, rest, found, stops, last⟩ := item_complete reads item fits closes inner
    have opened : take ':' (':' :: inside) = .ok inside := take_ok.mpr rfl
    have inserted : CanonicalValue.insertFresh (N.nfc k) (meaning N t) values
        "canonical JSON contains a duplicate normalized key" = .ok _ :=
      insertFresh_ok.mpr ⟨fresh, rfl⟩
    refine ⟨rest, last, ?_⟩
    simp only [objectLoop, read, ok_bind, colon, opened, found, inserted, stops, consume]
    by_cases closing : c = '}'
    · simp only [closing, if_true]
    · simp only [closing, if_false]

theorem objectLoop_complete {room : Nat} {fs : List (List Char × Json)}
    {values : List (List Char × CanonicalValue)} {w cs ds : List Char} (texts : FieldsText fs w)
    (short : fs.length ≤ room) (fit : ∀ f ∈ fs, Fits N n f.2)
    (distinct : (fs.map fun f => N.nfc f.1).Nodup)
    (apart : ∀ f ∈ fs, N.nfc f.1 ∉ Entries.keys values) (shape : mend cs = w ++ '}' :: ds) :
    ∃ rest, objectLoop N element room values cs =
      .ok (Entries.insertAll values (meaningFields N fs), rest) ∧ mend rest = ds := by
  induction room generalizing fs values cs w with
  | zero => cases texts <;> simp at short
  | succ room ih =>
    cases texts with
    | @one f _ text =>
      obtain ⟨rest, last, round⟩ := @objectLoop_round _ _ _ reads room _ _ _ _ _ _ text
        (fit f List.mem_cons_self) (apart f List.mem_cons_self) (.inr (.inr rfl)) shape
      exact ⟨rest, round, last⟩
    | @more f fs _ _ text texts =>
      obtain ⟨here, others⟩ := List.forall_mem_cons.mp fit
      obtain ⟨new, distinct⟩ := List.nodup_cons.mp distinct
      rw [List.append_assoc] at shape
      obtain ⟨next, left, round⟩ := @objectLoop_round _ _ _ reads room _ _ _ _ _ _ text here
        (apart f List.mem_cons_self) (.inl rfl) shape
      have later : ∀ g ∈ fs, N.nfc g.1 ∉
          Entries.keys (Entries.insert (N.nfc f.1) (meaning N f.2) values) := by
        intro g member inserted
        rcases Entries.mem_keys_insert.mp inserted with same | old
        · exact new (List.mem_map.mpr ⟨g, member, same⟩)
        · exact apart g (List.mem_cons_of_mem _ member) old
      obtain ⟨rest, loop, last⟩ :=
        ih texts (Nat.le_of_succ_le_succ short) others distinct later left
      exact ⟨rest, round.trans loop, last⟩

theorem object_sound {cs rest : List Char} {es : List (List Char × CanonicalValue)}
    (read : object N element cs = .ok (es, rest)) :
    ∃ fs w, ValueText (.obj fs) w ∧ Fits N (n + 1) (.obj fs) ∧
      es = Entries.insertAll [] (meaningFields N fs) ∧ mend cs = w ++ mend rest := by
  obtain ⟨inside, opened, reading⟩ := bind_ok.mp read
  obtain ⟨before, blank, shape⟩ := whitespace_split inside
  rw [take_ok.mp opened, mend_cons (by decide), shape]
  simp only at reading
  split at reading
  · rename_i closed
    cases reading
    refine ⟨[], _, .emptyObj blank, fits_iff.mpr ⟨by simp [Admissible], by simp [Json.children]⟩,
      rfl, ?_⟩
    rw [consume_some.mp closed, mend_cons (by decide)]
    simp
  · obtain ⟨fs, w, texts, short, fit, distinct, -, rfl, left⟩ := objectLoop_sound reads reading
    refine ⟨fs, _, .obj (fields_padded blank texts),
      fits_iff.mpr ⟨⟨short, distinct⟩, List.forall_mem_map.mpr fit⟩, rfl, ?_⟩
    rw [left]
    simp

theorem object_complete {fs : List (List Char × Json)} {w cs ds : List Char}
    (text : ValueText (.obj fs) w) (fits : Fits N (n + 1) (.obj fs)) (shape : mend cs = w ++ ds) :
    ∃ rest, object N element cs = .ok (Entries.insertAll [] (meaningFields N fs), rest) ∧
      mend rest = ds := by
  obtain ⟨⟨short, distinct⟩, fit⟩ := fits_iff.mp fits
  cases text with
  | emptyObj blank =>
    rw [List.cons_append, List.append_assoc] at shape
    obtain ⟨inside, rfl, left⟩ := (mend_eq_cons (by decide)).mp shape
    obtain ⟨rest, found, last⟩ := whitespace_reaches blank rfl (by decide) left
    refine ⟨rest, ?_, last⟩
    simp [object, take, consume, found, meaningFields, Entries.insertAll]
  | obj texts =>
    rw [List.cons_append, List.append_assoc] at shape
    obtain ⟨inside, rfl, left⟩ := (mend_eq_cons (by decide)).mp shape
    obtain ⟨before, v, blank, rfl, texts, starts⟩ := fields_trimmed texts
    rw [List.append_assoc] at left
    have inner := whitespace_trims blank starts left
    have opens : consume '}' (whitespace inside) = none := by
      obtain ⟨c, tail, rfl, -, -, other, -⟩ := starts
      exact consume_mended (fun _ same => other (List.cons.inj same).1) (by simp) inner
    obtain ⟨rest, loop, last⟩ := @objectLoop_complete _ _ _ reads _ _ [] _ _ _ texts short
      (List.forall_mem_map.mp fit) distinct (by simp) inner
    refine ⟨rest, ?_, last⟩
    rw [object, take_ok.mpr rfl, ok_bind]
    simpa [opens] using loop

end Loops

end CarsinOS.Canonical
