import Roster.KeyFile.Basic
import Roster.Text.Blank
import Roster.Text.Quoted

/-!
# Reading key files

The reader works in two steps. `entries` cuts the text into headings and lines, in the order of the
text; `groupsOf` puts each line under the heading above it.

* **Headings** stand between brackets and may run over lines. **Keys** end at the first `=` or `:`.
  **Values** end with their line, and one or more quoted parts may stand at their beginning.
* **Blanks.** Names, keys and values are trimmed. Between entries only spaces, tabs and line ends are
  skipped. A line that starts with blanks holds nothing, a heading or a key. A comment fills its
  line from the first column; a sign of a comment further on is refused.
* **Backslashes.** A backslash keeps the next character from ending what is being read, and both stay
  in the text; in front of a line feed the two vanish.
* **Faults** are given with the place of the character at which reading stopped: the line feeds up to
  and including it, and the characters after the last of them.
-/

namespace Roster.KeyFile

/-- What is wrong with the text of a key file. -/
inductive FaultCause where
  /-- A comment does not start in the first column. -/
  | inlineComment
  /-- A value has no key. -/
  | missingKey
  /-- The text ends where one of the given characters has to follow. -/
  | unclosed (expected : List Char)
  deriving DecidableEq, Repr

/-- What is wrong with the text of a key file, and where. -/
structure Fault where
  /-- The line, counted from one. -/
  line : Nat
  /-- The column, counted from two in every line but from one at a line feed. -/
  column : Nat
  /-- What is wrong. -/
  cause : FaultCause
  deriving DecidableEq, Repr

/-- A character between single quotes, as an error message shows it. -/
def shownChar (c : Char) : String :=
  if c = '\'' then "Some('\\'')" else "Some('" ++ String.singleton c ++ "')"

/-- The cause in words. -/
def FaultCause.message : FaultCause → String
  | inlineComment => "doesn't support inline comment"
  | missingKey => "missing key"
  | unclosed expected =>
    "expecting \"[" ++ ", ".intercalate (expected.map shownChar) ++ "]\" but found EOF."

/-- The fault in words, with its place. -/
def Fault.message (f : Fault) : String :=
  toString f.line ++ ":" ++ toString f.column ++ " " ++ f.cause.message

/-! ## Places -/

/-- The line and column after the given characters: one more than the line feeds, and one more than
the characters since the last of them. -/
def placeAfter (cs : List Char) : Nat × Nat :=
  (cs.count '\n' + 1, (cs.reverse.takeWhile (· ≠ '\n')).length + 1)

/-- The fault at the character with which the last `remaining` characters of a text begin; at the end
of the text that is its last character. -/
def faultAt (text : List Char) (remaining : Nat) (cause : FaultCause) : Fault :=
  let place := placeAfter (text.take (text.length - remaining + 1))
  ⟨place.1, place.2, cause⟩

/-- Whether the character with which the last `remaining` characters of a text begin is the first of
its line. -/
def startsLine (text : List Char) (remaining : Nat) : Bool :=
  (placeAfter (text.take (text.length - remaining + 1))).2 ≤ 2

/-! ## Parts -/

/-- The characters up to the first one that stops, and the rest from there on. A character after a
backslash does not stop; a backslash in front of a line feed vanishes with it. -/
def scan (stops : Char → Bool) : List Char → List Char × List Char
  | [] => ([], [])
  | '\\' :: rest =>
    match rest with
    | [] => (['\\'], [])
    | '\n' :: rest => scan stops rest
    | c :: rest => ('\\' :: c :: (scan stops rest).1, (scan stops rest).2)
  | c :: rest =>
    if stops c then ([], c :: rest) else (c :: (scan stops rest).1, (scan stops rest).2)

theorem length_scan_le (stops : Char → Bool) (cs : List Char) :
    (scan stops cs).2.length ≤ cs.length := by
  fun_induction scan stops cs with
  | case1 => simp
  | case2 => simp
  | case3 rest ih => simp at ih ⊢; omega
  | case4 c rest hc ih => simp at ih ⊢; omega
  | case5 c rest hc hs => simp
  | case6 c rest hc hs ih => simp at ih ⊢; omega

theorem length_scan_cons_le (stops : Char → Bool) {c : Char} (h : stops c = false)
    (rest : List Char) : (scan stops (c :: rest)).2.length ≤ rest.length := by
  rw [scan.eq_def]
  split
  · simp
  · rename_i heq
    injection heq with _ heq
    subst heq
    split
    · simp
    · have := length_scan_le stops
      simp_all
      exact Nat.le_succ_of_le (this _)
    · have := length_scan_le stops
      simp_all
      exact Nat.le_succ_of_le (this _)
  · rename_i heq
    injection heq with hc heq
    subst hc heq
    simp [h, length_scan_le]

/-- A space or a tab. -/
def isIndent (c : Char) : Bool := c = ' ' || c = '\t'

/-- A carriage return or a line feed. -/
def isLineEnd (c : Char) : Bool := c = '\r' || c = '\n'

/-- Skips spaces, tabs and line ends, up to a line that starts with a blank. -/
def skipGap : List Char → List Char
  | [] => []
  | c :: rest =>
    if isIndent c then skipGap rest
    else if isLineEnd c then
      match rest with
      | [] => []
      | d :: _ => if isIndent d then rest else skipGap rest
    else c :: rest

theorem length_skipGap_le (cs : List Char) : (skipGap cs).length ≤ cs.length := by
  fun_induction skipGap cs <;> simp_all <;> omega

theorem length_dropWhile_le (p : Char → Bool) (cs : List Char) :
    (cs.dropWhile p).length ≤ cs.length :=
  (List.dropWhile_sublist p).length_le

/-- Without the first line. -/
def dropLine (cs : List Char) : List Char := (cs.dropWhile (· ≠ '\n')).drop 1

theorem length_dropLine_le (cs : List Char) : (dropLine cs).length ≤ cs.length := by
  have := length_dropWhile_le (· ≠ '\n') cs
  rw [dropLine, List.length_drop]
  omega

/-- The rest of a value: quoted parts, and then what stands on the line without the blanks around it,
or, after a quoted part, without those at its end. -/
def valueParts (text : List Char) (first : Bool) (cs : List Char) :
    Except Fault (List Char × List Char) :=
  match cs with
  | [] => .ok ([], [])
  | q :: rest =>
    if q = '"' || q = '\'' then
      match _h : (scan (· = q) rest).2 with
      | [] => .error (faultAt text 0 (.unclosed [q]))
      | _ :: after =>
        (valueParts text false after).map fun v => ((scan (· = q) rest).1 ++ v.1, v.2)
    else
      let part := (scan isLineEnd (q :: rest)).1
      .ok (if first then Text.trimChars part else Text.trimEndChars part,
        (scan isLineEnd (q :: rest)).2)
termination_by cs.length
decreasing_by
  have := length_scan_le (· = q) rest
  rw [_h] at this
  simp at this ⊢
  omega

/-- The value after the `=` or `:`, and the rest from the end of its line on. -/
def value (text cs : List Char) : Except Fault (List Char × List Char) :=
  valueParts text true (cs.dropWhile fun c => Text.isBlank c && !isLineEnd c)

theorem length_valueParts_le {text : List Char} {first : Bool} {cs : List Char}
    {v : List Char × List Char} (h : valueParts text first cs = .ok v) :
    v.2.length ≤ cs.length := by
  fun_induction valueParts text first cs generalizing v with
  | case1 => cases h; simp
  | case2 => cases h
  | case3 first q rest hq head after hs ih =>
    have hle := length_scan_le (· = q) rest
    rw [hs] at hle
    cases hv : valueParts text false after with
    | error f => simp [hv, Except.map] at h
    | ok w =>
      have := ih hv
      simp only [hv, Except.map, Except.ok.injEq] at h
      subst h
      simp at hle ⊢
      omega
  | case4 first q rest hq =>
    cases h
    exact length_scan_le isLineEnd (q :: rest)

theorem length_value_le {text cs : List Char} {v : List Char × List Char}
    (h : value text cs = .ok v) : v.2.length ≤ cs.length :=
  Nat.le_trans (length_valueParts_le h) (length_dropWhile_le _ cs)

/-! ## Entries -/

/-- A heading or a line of a key file. -/
inductive Entry where
  /-- The heading of a group. -/
  | heading (name : List Char)
  /-- A line. -/
  | line (key value : List Char)
  deriving DecidableEq, Repr

/-- The headings and lines of the rest of a text, where `key` is the key that was read last and has
no value yet. A key at the very end of an indented line that ends the text is ignored. -/
def entries (text key cs : List Char) : Except Fault (List Entry) :=
  match cs with
  | [] => .ok []
  | c :: rest =>
    if c = ';' || c = '#' then
      if startsLine text (rest.length + 1) then entries text key (skipGap (dropLine rest))
      else .error (faultAt text (rest.length + 1) .inlineComment)
    else if c = '[' then
      match _h : (scan (· = ']') rest).2 with
      | [] => .error (faultAt text 0 (.unclosed [']']))
      | _ :: after =>
        (entries text key (skipGap after)).map fun es =>
          .heading (Text.trimChars (scan (· = ']') rest).1) :: es
    else if c = '=' || c = ':' then
      if key = [] then .error (faultAt text (rest.length + 1) .missingKey)
      else
        match _h : value text rest with
        | .error f => .error f
        | .ok v => (entries text [] (skipGap v.2)).map fun es => .line key v.1 :: es
    else if isIndent c then
      match _h : rest.dropWhile isIndent with
      | [] => .ok []
      | d :: after =>
        if isLineEnd d || d = '[' then entries text key (skipGap (d :: after))
        else
          match _h' : (scan (fun c => c = '=' || c = ':') (d :: after)).2 with
          | [] => .ok []
          | e :: after' =>
            entries text (Text.trimChars (scan (fun c => c = '=' || c = ':') (d :: after)).1)
              (skipGap (e :: after'))
    else
      match _h : (scan (fun c => c = '=' || c = ':') (c :: rest)).2 with
      | [] => .error (faultAt text 0 (.unclosed ['=', ':']))
      | d :: after =>
        entries text
          (Text.trimChars (scan (fun c => c = '=' || c = ':') (c :: rest)).1) (skipGap (d :: after))
termination_by cs.length
decreasing_by
  · have h₁ := length_skipGap_le (dropLine rest)
    have h₂ := length_dropLine_le rest
    simp
    omega
  · have h₁ := length_skipGap_le after
    have h₂ := length_scan_le (· = ']') rest
    rw [_h] at h₂
    simp at h₂ ⊢
    omega
  · have h₁ := length_skipGap_le v.2
    have h₂ := length_value_le _h
    simp
    omega
  · have h₁ := length_skipGap_le (d :: after)
    have h₂ := length_dropWhile_le isIndent rest
    rw [_h] at h₂
    simp at h₁ h₂ ⊢
    omega
  · have h₁ := length_skipGap_le (e :: after')
    have h₂ := length_dropWhile_le isIndent rest
    have h₃ := length_scan_le (fun c => c = '=' || c = ':') (d :: after)
    rw [_h] at h₂
    rw [_h'] at h₃
    simp at h₁ h₂ h₃ ⊢
    omega
  · have h₁ := length_skipGap_le (d :: after)
    rename_i hc _
    have h₂ := length_scan_cons_le (fun c => c = '=' || c = ':') (Bool.eq_false_iff.2 hc) rest
    rw [_h] at h₂
    simp at h₁ h₂ ⊢
    omega

/-! ## Groups -/

/-- The lines in front of the first heading, and the groups that follow. -/
def splitEntries : List Entry → List (String × String) × List KeyGroup
  | [] => ([], [])
  | .line key value :: rest =>
    ((String.ofList key, String.ofList value) :: (splitEntries rest).1, (splitEntries rest).2)
  | .heading name :: rest =>
    ([], ⟨some (String.ofList name), (splitEntries rest).1⟩ :: (splitEntries rest).2)

/-- The groups of a list of headings and lines. -/
def groupsOf (es : List Entry) : KeyFile :=
  match splitEntries es with
  | ([], groups) => groups
  | (lines, groups) => ⟨none, lines⟩ :: groups

/-- The key file that a text writes. -/
def read (text : String) : Except Fault KeyFile :=
  (entries text.toList [] (skipGap text.toList)).map groupsOf

end Roster.KeyFile
