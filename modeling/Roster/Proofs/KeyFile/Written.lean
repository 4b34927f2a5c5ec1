import Mathlib.Data.List.Basic
import Roster.KeyFile.Reader

/-!
# Written key files

`KeyFile.text` writes a key file: for each group a row `[name]`, and below it a row `key=value` for each
of its lines. The reader takes such a text for the file it was written from (`read_text`), in
whatever order groups and lines stand and however often a name or a key comes back, if two things hold.

* **No part is taken for another one** (`KeyGroup.IsPlain`). A name, a key and a value each stand on one
  line without blanks around them, a name has no closing bracket in it, a key no sign that ends keys,
  and neither a key nor a value starts like something else.
* **No part goes on behind its end** (`KeyGroup.IsClosed`). A backslash keeps the character after it
  from ending the part, so a part that ends in an odd number of them runs into what follows.

The way there is one statement for each step of the reader: `scan_append` says that a scan passes over
closed characters as they are, `entries_row` that a row is taken for its heading or line, and
`entries_tail` goes through the rows by induction. `splitEntries_entries` puts the lines back under
their headings.
-/

namespace Roster.KeyFile

/-! ## Parts -/

/-- How many backslashes stand at the end. -/
def backslashesAtEnd (cs : List Char) : Nat := (cs.reverse.takeWhile (· = '\\')).length

/-- The last backslash, if the characters end in one, keeps nothing that follows them. -/
def IsClosed (cs : List Char) : Prop := backslashesAtEnd cs % 2 = 0

instance (cs : List Char) : Decidable (IsClosed cs) := inferInstanceAs (Decidable (_ = _))

/-- Characters on one line, without a blank at either end. -/
structure IsPlain (cs : List Char) : Prop where
  /-- There is no blank at either end. -/
  trimmed : Text.trimChars cs = cs
  /-- There is no line break. -/
  oneLine : '\n' ∉ cs ∧ '\r' ∉ cs

/-- What can stand between the brackets of a heading. -/
structure IsName (cs : List Char) : Prop extends IsPlain cs where
  /-- The heading ends behind the name. -/
  noBracket : ']' ∉ cs

/-- What can stand in front of the sign of a line. -/
structure IsKey (cs : List Char) : Prop extends IsPlain cs where
  /-- There is a key. -/
  nonempty : cs ≠ []
  /-- The key ends at the sign. -/
  noSign : '=' ∉ cs ∧ ':' ∉ cs
  /-- The line is no heading and no comment. -/
  start : cs.head? ≠ some '[' ∧ cs.head? ≠ some ';' ∧ cs.head? ≠ some '#'

/-- What can stand behind the sign of a line. -/
structure IsValue (cs : List Char) : Prop extends IsPlain cs where
  /-- The value is not quoted. -/
  start : cs.head? ≠ some '"' ∧ cs.head? ≠ some '\''

instance (cs : List Char) : Decidable (IsPlain cs) :=
  decidable_of_iff (Text.trimChars cs = cs ∧ '\n' ∉ cs ∧ '\r' ∉ cs)
    ⟨fun h => ⟨h.1, h.2⟩, fun h => ⟨h.trimmed, h.oneLine⟩⟩

instance (cs : List Char) : Decidable (IsName cs) :=
  decidable_of_iff (IsPlain cs ∧ ']' ∉ cs)
    ⟨fun h => ⟨h.1, h.2⟩, fun h => ⟨h.toIsPlain, h.noBracket⟩⟩

instance (cs : List Char) : Decidable (IsKey cs) :=
  decidable_of_iff (IsPlain cs ∧ cs ≠ [] ∧ ('=' ∉ cs ∧ ':' ∉ cs) ∧
      cs.head? ≠ some '[' ∧ cs.head? ≠ some ';' ∧ cs.head? ≠ some '#')
    ⟨fun h => ⟨h.1, h.2.1, h.2.2.1, h.2.2.2⟩,
      fun h => ⟨h.toIsPlain, h.nonempty, h.noSign, h.start⟩⟩

instance (cs : List Char) : Decidable (IsValue cs) :=
  decidable_of_iff (IsPlain cs ∧ cs.head? ≠ some '"' ∧ cs.head? ≠ some '\'')
    ⟨fun h => ⟨h.1, h.2⟩, fun h => ⟨h.toIsPlain, h.start⟩⟩

theorem IsPlain.isLineEnd {cs : List Char} (h : IsPlain cs) {c : Char} (hc : c ∈ cs) :
    isLineEnd c = false := by
  have hfeed := ne_of_mem_of_not_mem hc h.oneLine.1
  have hreturn := ne_of_mem_of_not_mem hc h.oneLine.2
  simp [KeyFile.isLineEnd, hfeed, hreturn]

theorem IsKey.ne_sign {cs : List Char} (h : IsKey cs) {c : Char} (hc : c ∈ cs) : c ≠ '=' ∧ c ≠ ':' :=
  ⟨ne_of_mem_of_not_mem hc h.noSign.1, ne_of_mem_of_not_mem hc h.noSign.2⟩

/-- Plain characters do not start with a blank. -/
theorem IsPlain.isBlank_head {c : Char} {cs : List Char} (h : IsPlain (c :: cs)) :
    Text.isBlank c = false := by
  rw [Bool.eq_false_iff]
  intro hblank
  have htrim : (Text.trimChars (c :: cs)).length ≤ cs.length := by
    have h₁ := length_dropWhile_le Text.isBlank ((cs.dropWhile Text.isBlank).reverse)
    have h₂ := length_dropWhile_le Text.isBlank cs
    simp [Text.trimChars, Text.trimStartChars, Text.trimEndChars, hblank] at h₁ ⊢
    omega
  rw [h.trimmed, List.length_cons] at htrim
  omega

/-- Nor with a space or a tab. -/
theorem IsPlain.isIndent_head {c : Char} {cs : List Char} (h : IsPlain (c :: cs)) :
    isIndent c = false := by
  rw [Bool.eq_false_iff]
  intro hindent
  have hblank := h.isBlank_head
  rcases Bool.or_eq_true .. ▸ hindent with hc | hc
  all_goals
    rw [of_decide_eq_true hc] at hblank
    cases hblank

/-! ## Closed characters -/

theorem backslashesAtEnd_le (cs : List Char) : backslashesAtEnd cs ≤ cs.length := by
  have h := (List.takeWhile_sublist (· = '\\') (l := cs.reverse)).length_le
  rwa [List.length_reverse] at h

theorem backslashesAtEnd_cons_of_ne {c : Char} (hc : c ≠ '\\') (cs : List Char) :
    backslashesAtEnd (c :: cs) = backslashesAtEnd cs := by
  unfold backslashesAtEnd
  rw [List.reverse_cons, List.takeWhile_append]
  split <;> simp_all

theorem backslashesAtEnd_cons_backslash (cs : List Char) :
    backslashesAtEnd ('\\' :: cs) =
      if backslashesAtEnd cs = cs.length then backslashesAtEnd cs + 1 else backslashesAtEnd cs := by
  unfold backslashesAtEnd
  rw [List.reverse_cons, List.takeWhile_append, List.length_reverse]
  split <;> simp_all

/-- A backslash and the character that it keeps can be taken off the front. -/
theorem isClosed_cons_cons (c : Char) (cs : List Char) :
    IsClosed ('\\' :: c :: cs) ↔ IsClosed cs := by
  have hle := backslashesAtEnd_le cs
  unfold IsClosed
  rw [backslashesAtEnd_cons_backslash, List.length_cons]
  by_cases hc : c = '\\'
  · subst hc
    rw [backslashesAtEnd_cons_backslash]
    split <;> split <;> omega
  · rw [backslashesAtEnd_cons_of_ne hc, if_neg (by omega)]

/-- **A scan passes over closed characters**: they are read as they stand, and the scan goes on behind
them. -/
theorem scan_append {stops : Char → Bool} {cs : List Char} (hclosed : IsClosed cs)
    (hstops : ∀ c ∈ cs, stops c = false) (hbreak : '\n' ∉ cs) (rest : List Char) :
    scan stops (cs ++ rest) = (cs ++ (scan stops rest).1, (scan stops rest).2) := by
  fun_induction scan stops cs with
  | case1 => rfl
  | case2 => exact absurd hclosed (by decide)
  | case3 cs => exact absurd (by simp) hbreak
  | case4 c cs hc ih =>
    have hrest := ih ((isClosed_cons_cons c cs).mp hclosed)
      (fun d hd => hstops d (by simp [hd])) (fun hfeed => hbreak (by simp [hfeed]))
    simp only [List.cons_append]
    rw [scan.eq_def]
    simp [hrest]
  | case5 c cs hc hs => rw [hstops c List.mem_cons_self] at hs; cases hs
  | case6 c cs hc hs ih =>
    have hne : c ≠ '\\' := fun h => hc h
    have hrest := ih (by simpa [IsClosed, backslashesAtEnd_cons_of_ne hne] using hclosed)
      (fun d hd => hstops d (by simp [hd])) (fun hfeed => hbreak (by simp [hfeed]))
    simp only [List.cons_append]
    rw [scan.eq_def]
    simp [hrest, hs]

/-- A scan over closed characters ends at the stop behind them. -/
theorem scan_append_stop {stops : Char → Bool} {cs : List Char} (hclosed : IsClosed cs)
    (hstops : ∀ c ∈ cs, stops c = false) (hbreak : '\n' ∉ cs) {stop : Char}
    (hstop : stops stop = true) (hne : stop ≠ '\\') (rest : List Char) :
    scan stops (cs ++ stop :: rest) = (cs, stop :: rest) := by
  have hend : scan stops (stop :: rest) = ([], stop :: rest) := by
    rw [scan.eq_def]
    split
    · simp_all
    · simp_all
    · rename_i heq
      cases heq
      simp [hstop]
  simp [scan_append hclosed hstops hbreak, hend]

/-! ## Rows -/

namespace Entry

/-- The row that writes a heading or a line. -/
def row : Entry → List Char
  | heading name => '[' :: name ++ [']']
  | line key value => key ++ '=' :: value

/-- The parts are such that none is taken for another one. -/
def IsPlain : Entry → Prop
  | heading name => IsName name
  | line key value => IsKey key ∧ IsValue value

/-- The parts end where they end. -/
def IsClosed : Entry → Prop
  | heading name => KeyFile.IsClosed name
  | line key value => KeyFile.IsClosed key ∧ KeyFile.IsClosed value

end Entry

/-- What stands behind a row: nothing, or a line feed and more. -/
def EndsRow (rest : List Char) : Prop := ∀ c ∈ rest.head?, c = '\n'

/-- A scan for the end of a line ends where the row does. -/
theorem scan_isLineEnd {val rest : List Char} (hval : IsPlain val) (hclosed : IsClosed val)
    (hrest : EndsRow rest) : scan isLineEnd (val ++ rest) = (val, rest) := by
  cases rest with
  | nil =>
    rw [scan_append hclosed (fun c => hval.isLineEnd) hval.oneLine.1]
    simp [scan]
  | cons c rest =>
    rw [hrest c rfl]
    exact scan_append_stop hclosed (fun c => hval.isLineEnd) hval.oneLine.1 rfl (by decide) rest

/-- A value is read up to the end of its row. -/
theorem value_append (text : List Char) {val rest : List Char} (hval : IsValue val)
    (hclosed : IsClosed val) (hrest : EndsRow rest) : value text (val ++ rest) = .ok (val, rest) := by
  have hstart : (val ++ rest).dropWhile (fun c => Text.isBlank c && !isLineEnd c) = val ++ rest := by
    cases val with
    | nil =>
      cases rest with
      | nil => rfl
      | cons c rest => rw [hrest c rfl]; rfl
    | cons c val => simp [hval.isBlank_head]
  rw [value, hstart, valueParts.eq_def]
  split
  · rename_i h
    simp_all
  · rename_i q after h
    have hquote : ¬ ((q = '"' || q = '\'') = true) := by
      cases val with
      | nil =>
        rw [List.nil_append] at h
        rw [hrest q (by rw [h]; rfl)]
        decide
      | cons c val =>
        cases h
        simpa using hval.start
    rw [if_neg hquote, ← h, scan_isLineEnd hval.toIsPlain hclosed hrest]
    simp [hval.trimmed]

/-- Only blanks in front are skipped. -/
theorem skipGap_cons {c : Char} (hindent : isIndent c = false) (hend : isLineEnd c = false)
    (rest : List Char) : skipGap (c :: rest) = c :: rest := by
  rw [skipGap.eq_def]
  simp [hindent, hend]

/-- A row starts at once. -/
theorem exists_row_eq_cons {e : Entry} (he : e.IsPlain) :
    ∃ c cs, e.row = c :: cs ∧ isIndent c = false ∧ isLineEnd c = false := by
  cases e with
  | heading name => exact ⟨'[', name ++ [']'], rfl, rfl, rfl⟩
  | line key val =>
    cases key with
    | nil => exact absurd rfl he.1.nonempty
    | cons c key =>
      exact ⟨c, key ++ '=' :: val, rfl, he.1.isIndent_head, he.1.isLineEnd List.mem_cons_self⟩

theorem skipGap_row {e : Entry} (he : e.IsPlain) (rest : List Char) :
    skipGap (e.row ++ rest) = e.row ++ rest := by
  obtain ⟨c, cs, hrow, hindent, hend⟩ := exists_row_eq_cons he
  rw [hrow, List.cons_append, skipGap_cons hindent hend]

/-- Of a line feed and a row, the line feed is skipped. -/
theorem skipGap_lineFeed_row {e : Entry} (he : e.IsPlain) (rest : List Char) :
    skipGap ('\n' :: (e.row ++ rest)) = e.row ++ rest := by
  obtain ⟨c, cs, hrow, hindent, hend⟩ := exists_row_eq_cons he
  rw [hrow, List.cons_append, skipGap.eq_def]
  simp only [show isIndent '\n' = false from rfl, show isLineEnd '\n' = true from rfl, hindent,
    Bool.false_eq_true, if_false, if_true]
  exact skipGap_cons hindent hend _

/-! ## Steps of the reader -/

/-- A heading is read up to its bracket. -/
theorem entries_heading (text key : List Char) {rest name after : List Char} {bracket : Char}
    (h : scan (· = ']') rest = (name, bracket :: after)) :
    entries text key ('[' :: rest) =
      (entries text key (skipGap after)).map (.heading (Text.trimChars name) :: ·) := by
  rw [entries.eq_def]
  dsimp only
  rw [if_neg (by decide), if_pos rfl]
  split
  · rename_i hnone
    rw [h] at hnone
    cases hnone
  · rename_i hsome
    rw [h] at hsome ⊢
    cases hsome
    rfl

/-- A key is read up to its sign. -/
theorem entries_key (text last : List Char) {c sign : Char} {rest key after : List Char}
    (hc : isIndent c = false) (hstart : c ≠ '[' ∧ c ≠ ';' ∧ c ≠ '#') (hsign : c ≠ '=' ∧ c ≠ ':')
    (h : scan (fun c => c = '=' || c = ':') (c :: rest) = (key, sign :: after)) :
    entries text last (c :: rest) = entries text (Text.trimChars key) (skipGap (sign :: after)) := by
  rw [entries.eq_def]
  simp only [hstart, hsign, hc, decide_false, Bool.or_self, Bool.false_eq_true, if_false]
  split
  · rename_i hnone
    rw [h] at hnone
    cases hnone
  · rename_i hsome
    rw [h] at hsome ⊢
    cases hsome
    rfl

/-- Behind the sign the value of the last key is read. -/
theorem entries_value (text : List Char) {key rest val after : List Char} (hkey : key ≠ [])
    (h : value text rest = .ok (val, after)) :
    entries text key ('=' :: rest) = (entries text [] (skipGap after)).map (.line key val :: ·) := by
  rw [entries.eq_def]
  dsimp only
  rw [if_neg (by decide), if_neg (by decide), if_pos (by decide), if_neg hkey]
  split
  · rename_i herror
    rw [h] at herror
    cases herror
  · rename_i hok
    rw [h] at hok
    cases hok
    rfl

/-- **A row is taken for the heading or line that it writes.** -/
theorem entries_row (text : List Char) {e : Entry} (he : e.IsPlain) (hclosed : e.IsClosed)
    {rest : List Char} (hrest : EndsRow rest) :
    entries text [] (e.row ++ rest) = (entries text [] (skipGap rest)).map (e :: ·) := by
  cases e with
  | heading name =>
    have hscan : scan (· = ']') (name ++ ']' :: rest) = (name, ']' :: rest) :=
      scan_append_stop hclosed (fun c hc => by simp [ne_of_mem_of_not_mem hc he.noBracket])
        he.oneLine.1 rfl (by decide) rest
    have hread := entries_heading text [] hscan
    rw [he.trimmed] at hread
    simpa [Entry.row] using hread
  | line key val =>
    obtain ⟨hkey, hval⟩ := he
    obtain ⟨hkeyClosed, hvalClosed⟩ := hclosed
    have hscan : scan (fun c => c = '=' || c = ':') (key ++ '=' :: (val ++ rest)) =
        (key, '=' :: (val ++ rest)) :=
      scan_append_stop hkeyClosed (fun c hc => by simp [hkey.ne_sign hc]) hkey.oneLine.1 rfl
        (by decide) _
    cases key with
    | nil => exact absurd rfl hkey.nonempty
    | cons c key =>
      have hstart : c ≠ '[' ∧ c ≠ ';' ∧ c ≠ '#' := by simpa using hkey.start
      have hread := entries_key text [] hkey.isIndent_head hstart (hkey.ne_sign List.mem_cons_self)
        hscan
      rw [hkey.trimmed, skipGap_cons rfl rfl,
        entries_value text hkey.nonempty (value_append text hval hvalClosed hrest)] at hread
      simpa [Entry.row] using hread

/-- What stands behind the first row: each further row on a line of its own, and the end of the text. -/
def tail (ending : List Char) (es : List Entry) : List Char :=
  es.flatMap (fun e => '\n' :: e.row) ++ ending

/-- The rows are taken for their headings and lines, one after the other. -/
theorem entries_tail (text : List Char) {ending : List Char} (hending : ending = [] ∨ ending = ['\n'])
    {es : List Entry} (hplain : ∀ e ∈ es, e.IsPlain) (hclosed : ∀ e ∈ es, e.IsClosed) :
    entries text [] (skipGap (tail ending es)) = .ok es := by
  have hends : ∀ es, EndsRow (tail ending es) := by
    rintro (_ | ⟨e, es⟩) c hc
    · rcases hending with rfl | rfl
      · cases hc
      · exact (Option.some.inj hc).symm
    · exact (Option.some.inj hc).symm
  induction es with
  | nil => rcases hending with rfl | rfl <;> exact entries.eq_def ..
  | cons e es ih =>
    obtain ⟨he, hes⟩ := List.forall_mem_cons.mp hplain
    obtain ⟨hec, hesc⟩ := List.forall_mem_cons.mp hclosed
    have hstart : skipGap (tail ending (e :: es)) = e.row ++ tail ending es := by
      simpa [tail] using skipGap_lineFeed_row he (tail ending es)
    rw [hstart, entries_row text he hec (hends es), ih hes hesc]
    rfl

end KeyFile

/-! ## Groups and texts -/

namespace KeyGroup

/-- The rows of a group: its heading, and its lines below it. -/
def rows (g : KeyGroup) : List String :=
  (g.name.map fun name => "[" ++ name ++ "]").toList ++ g.lines.map fun l => l.1 ++ "=" ++ l.2

/-- The heading and the lines of a group. -/
def entries (g : KeyGroup) : List KeyFile.Entry :=
  (g.name.map fun name => .heading name.toList).toList ++
    g.lines.map fun l => .line l.1.toList l.2.toList

/-- The group has a name, and none of its parts is taken for another one. -/
structure IsPlain (g : KeyGroup) : Prop where
  /-- The name can stand in a heading. -/
  name : ∃ name ∈ g.name, KeyFile.IsName name.toList
  /-- Keys and values can stand in a line. -/
  lines : ∀ l ∈ g.lines, KeyFile.IsKey l.1.toList ∧ KeyFile.IsValue l.2.toList

/-- The parts of the group end where they end. -/
structure IsClosed (g : KeyGroup) : Prop where
  /-- The heading ends behind the name. -/
  name : ∀ name ∈ g.name, KeyFile.IsClosed name.toList
  /-- Keys end at the sign, values with the line. -/
  lines : ∀ l ∈ g.lines, KeyFile.IsClosed l.1.toList ∧ KeyFile.IsClosed l.2.toList

instance (g : KeyGroup) : Decidable g.IsPlain :=
  decidable_of_iff ((∃ name ∈ g.name, KeyFile.IsName name.toList) ∧
      ∀ l ∈ g.lines, KeyFile.IsKey l.1.toList ∧ KeyFile.IsValue l.2.toList)
    ⟨fun h => ⟨h.1, h.2⟩, fun h => ⟨h.name, h.lines⟩⟩

instance (g : KeyGroup) : Decidable g.IsClosed :=
  decidable_of_iff ((∀ name ∈ g.name, KeyFile.IsClosed name.toList) ∧
      ∀ l ∈ g.lines, KeyFile.IsClosed l.1.toList ∧ KeyFile.IsClosed l.2.toList)
    ⟨fun h => ⟨h.1, h.2⟩, fun h => ⟨h.name, h.lines⟩⟩

theorem map_toList_rows (g : KeyGroup) :
    g.rows.map String.toList = g.entries.map KeyFile.Entry.row := by
  unfold rows entries
  cases g.name <;> simp [KeyFile.Entry.row, Function.comp_def]

theorem mem_entries_iff {g : KeyGroup} {e : KeyFile.Entry} :
    e ∈ g.entries ↔ (∃ name ∈ g.name, .heading name.toList = e) ∨
      ∃ l ∈ g.lines, .line l.1.toList l.2.toList = e := by
  simp [entries]

theorem isPlain_of_mem_entries {g : KeyGroup} (h : g.IsPlain) {e : KeyFile.Entry}
    (he : e ∈ g.entries) : e.IsPlain := by
  rcases mem_entries_iff.mp he with ⟨name, hname, rfl⟩ | ⟨l, hl, rfl⟩
  · obtain ⟨name', hname', hplain⟩ := h.name
    rwa [Option.mem_unique hname hname']
  · exact h.lines l hl

theorem isClosed_of_mem_entries {g : KeyGroup} (h : g.IsClosed) {e : KeyFile.Entry}
    (he : e ∈ g.entries) : e.IsClosed := by
  rcases mem_entries_iff.mp he with ⟨name, hname, rfl⟩ | ⟨l, hl, rfl⟩
  · exact h.name name hname
  · exact h.lines l hl

end KeyGroup

namespace KeyFile

/-- The text of a key file: the rows of its groups, from top to bottom. -/
def text (file : KeyFile) : String := "\n".intercalate (file.flatMap KeyGroup.rows)

theorem intercalate_lineFeed (row : List Char) (rows : List (List Char)) :
    ['\n'].intercalate (row :: rows) = row ++ rows.flatMap ('\n' :: ·) := by
  induction rows generalizing row with
  | nil => simp
  | cons next rows ih => simp [List.intercalate_cons_cons, ih]

/-- The characters of a text are its rows, each further one behind a line feed. -/
theorem toList_text (file : KeyFile) (ending : String) :
    (text file ++ ending).toList =
      match file.flatMap KeyGroup.entries with
      | [] => ending.toList
      | e :: es => e.row ++ tail ending.toList es := by
  have hrows : (file.flatMap KeyGroup.rows).map String.toList =
      (file.flatMap KeyGroup.entries).map Entry.row := by
    simp only [List.map_flatMap, KeyGroup.map_toList_rows]
  rw [text, String.toList_append, String.toList_intercalate, hrows]
  split
  · rename_i h
    simp [h]
  · rename_i e es h
    rw [h, List.map_cons, show "\n".toList = ['\n'] from rfl, intercalate_lineFeed]
    simp [tail, List.flatMap_map]

theorem splitEntries_lines (lines : List (String × String)) (es : List Entry) :
    splitEntries (lines.map (fun l => .line l.1.toList l.2.toList) ++ es) =
      (lines ++ (splitEntries es).1, (splitEntries es).2) := by
  induction lines with
  | nil => rfl
  | cons l lines ih => simp [splitEntries, ih]

/-- The lines of a file come back under their headings. -/
theorem splitEntries_entries {file : KeyFile} (hplain : ∀ g ∈ file, g.IsPlain) :
    splitEntries (file.flatMap KeyGroup.entries) = ([], file) := by
  induction file with
  | nil => rfl
  | cons g file ih =>
    obtain ⟨hg, hfile⟩ := List.forall_mem_cons.mp hplain
    obtain ⟨name, hname, -⟩ := hg.name
    obtain ⟨_, lines⟩ := g
    cases hname
    simp [KeyGroup.entries, splitEntries, splitEntries_lines, ih hfile]

/-- **The reader takes a text for the file that it writes**, whether or not a line feed ends it. -/
theorem read_text {file : KeyFile} (hplain : ∀ g ∈ file, g.IsPlain) (hclosed : ∀ g ∈ file, g.IsClosed)
    {ending : String} (hending : ending = "" ∨ ending = "\n") :
    read (text file ++ ending) = .ok file := by
  have hend : ending.toList = [] ∨ ending.toList = ['\n'] := by
    rcases hending with rfl | rfl
    · exact .inl rfl
    · exact .inr rfl
  have hep : ∀ e ∈ file.flatMap KeyGroup.entries, e.IsPlain := fun e he => by
    obtain ⟨g, hg, he⟩ := List.mem_flatMap.mp he
    exact KeyGroup.isPlain_of_mem_entries (hplain g hg) he
  have hec : ∀ e ∈ file.flatMap KeyGroup.entries, e.IsClosed := fun e he => by
    obtain ⟨g, hg, he⟩ := List.mem_flatMap.mp he
    exact KeyGroup.isClosed_of_mem_entries (hclosed g hg) he
  have hread (t : List Char) :
      entries t [] (skipGap (text file ++ ending).toList) = .ok (file.flatMap KeyGroup.entries) := by
    have h := entries_tail t hend hep hec
    rw [toList_text]
    cases hes : file.flatMap KeyGroup.entries with
    | nil =>
      rw [hes] at h
      exact h
    | cons e es =>
      rw [hes] at h hep
      rwa [tail, List.flatMap_cons, List.append_assoc, List.cons_append, ← tail,
        skipGap_lineFeed_row (hep e List.mem_cons_self),
        ← skipGap_row (hep e List.mem_cons_self)] at h
  rw [read, hread]
  simp [Except.map, groupsOf, splitEntries_entries hplain]

end Roster.KeyFile
