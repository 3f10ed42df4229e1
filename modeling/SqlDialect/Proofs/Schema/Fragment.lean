import SqlDialect.Proofs.Schema.Script
import SqlDialect.Proofs.Text.Part
import SqlDialect.Proofs.Text.Position

/-! What the lines of a script leave.

A line is told by itself: its comment and the white space at its ends are dropped, whatever ends it
and whatever stands on the other lines. So a script is taken apart at its line feeds, and what is
left of it at its semicolons, and both may be done piece by piece.
-/

set_option autoImplicit false

namespace SqlDialect

namespace Text

variable {s w : Text}

theorem cut?_hyphens (absent : ¬"--".toList <:+: s) (apart : ∀ c ∈ s.getLast?, c ≠ '-') (t : Text) :
    cut? "--" (s ++ '-' :: '-' :: t) = some (s, '-' :: '-' :: t) := by
  induction s with
  | nil => simp [cut?]
  | cons c s ih =>
    have notHere : ¬"--".toList <+: c :: (s ++ '-' :: '-' :: t) := by
      intro here
      obtain ⟨rfl, next⟩ := List.cons_prefix_cons.1 here
      cases s with
      | nil => exact apart '-' rfl rfl
      | cons d s =>
        obtain ⟨rfl, -⟩ := List.cons_prefix_cons.1 next
        exact absent (List.prefix_append "--".toList s).isInfix
    have absent : ¬"--".toList <:+: s := fun inside => absent (List.infix_cons inside)
    have apart : ∀ c ∈ s.getLast?, c ≠ '-' := by
      intro d last
      cases s with
      | nil => cases last
      | cons e s => exact apart d (by rwa [List.getLast?_cons_cons])
    rw [List.cons_append, cut?, if_neg (mt List.isPrefixOf_iff_prefix.1 notHere), ih absent apart]
    rfl

theorem not_infix_append_blank (absent : ¬"--".toList <:+: s) (blank : Blank w) :
    ¬"--".toList <:+: s ++ w := by
  cases w with
  | nil => rwa [List.append_nil]
  | cons c w =>
    have noHyphen : '-' ∉ c :: w := blank.not_mem (by decide)
    have other : c ∉ "--".toList := by
      intro mem
      have hyphen : c = '-' := by simpa using mem
      exact noHyphen (hyphen ▸ List.mem_cons_self)
    rw [infix_append_cons_iff other (by decide), not_or]
    exact ⟨absent, fun inside => noHyphen (List.mem_cons_of_mem _ (inside.mem (by decide)))⟩

end Text

/-! ## Comments and white space of a line -/

variable {s t w line comment : Text}

theorem withoutComment_append_hyphens (apart : ∀ c ∈ s.getLast?, c ≠ '-') (t : Text) :
    withoutComment (s ++ '-' :: '-' :: t) = withoutComment s := by
  unfold withoutComment
  cases cut : Text.cut? "--" s with
  | none => rw [Text.cut?_hyphens (Text.cut?_eq_none_iff.1 cut) apart]
  | some parts => rw [Text.cut?_append_right cut]

theorem withoutComment_append_blank (s : Text) (blank : w.Blank) :
    withoutComment (s ++ w) = withoutComment s := by
  unfold withoutComment
  cases cut : Text.cut? "--" s with
  | none =>
    have absent := Text.not_infix_append_blank (Text.cut?_eq_none_iff.1 cut) blank
    rw [Text.cut?_eq_none_iff.2 absent]
    exact Text.trim_append_blank s blank
  | some parts => rw [Text.cut?_append_right cut]

theorem withoutComment_append_comment (s comment : Text) :
    withoutComment (s ++ (" --".toList ++ comment)) = withoutComment s := by
  have spaced : s ++ (" --".toList ++ comment) = (s ++ [' ']) ++ '-' :: '-' :: comment := by simp
  have space : Text.Blank [' '] := by decide
  rw [spaced, withoutComment_append_hyphens, withoutComment_append_blank s space]
  rw [List.getLast?_concat]
  rintro _ ⟨⟩
  decide

/-- A line of white space, or of a comment with white space before it. -/
inductive IsIdle : Text → Prop where
  | blank {w : Text} : w.Blank → '\n' ∉ w → IsIdle w
  | comment {w comment : Text} : w.Blank → '\n' ∉ w → '\n' ∉ comment →
      IsIdle (w ++ '-' :: '-' :: comment)

theorem withoutComment_of_blank (blank : w.Blank) : withoutComment w = [] :=
  withoutComment_append_blank [] blank

theorem IsIdle.withoutComment_eq (idle : IsIdle line) : withoutComment line = [] := by
  cases idle with
  | blank blank _ => exact withoutComment_of_blank blank
  | comment blank _ _ =>
    rw [withoutComment_append_hyphens, withoutComment_of_blank blank]
    rintro c last rfl
    exact blank.not_mem (by decide) (List.mem_of_mem_getLast? last)

theorem IsIdle.not_mem (idle : IsIdle line) : '\n' ∉ line := by
  cases idle with
  | blank _ absent => exact absent
  | comment _ before after => simp [before, after]

/-! ## Lines -/

def fragments (script : Text) : List Text := script.kept '\n' withoutComment

theorem withoutComment_ending (line : Text) :
    withoutComment (if line.getLast? = some '\r' then line.dropLast else line) =
      withoutComment line := by
  split
  next carriage =>
    obtain ⟨lead, rfl⟩ := List.getLast?_eq_some_iff.1 carriage
    rw [List.dropLast_concat, withoutComment_append_blank lead (by decide)]
  next => rfl

-- Neither the carriage return that ends a line nor an empty last line leaves anything.
theorem fragments_eq (script : Text) :
    fragments script = (script.lines.map withoutComment).filter (· ≠ []) := by
  have nonempty : script.fields '\n' ≠ [] := by
    rw [Text.fields_eq_splitOn]
    exact List.splitOn_ne_nil '\n' script
  unfold fragments Text.kept Text.lines
  generalize script.fields '\n' = pieces at nonempty
  obtain ⟨closed, last, rfl⟩ := (List.eq_nil_or_concat' pieces).resolve_left nonempty
  have nothing : withoutComment [] = [] := withoutComment_of_blank Text.blank_nil
  have endings : (closed.map fun line =>
      if line.getLast? = some '\r' then line.dropLast else line).map withoutComment =
        closed.map withoutComment := by
    rw [List.map_map]
    exact List.map_congr_left fun line _ => withoutComment_ending line
  simp only [List.getLast?_concat, List.dropLast_concat, Option.getD_some]
  split
  next empty => simp [endings, empty, nothing]
  next => rw [List.map_append, List.map_append, endings]

theorem fragments_append_cons (a b : Text) :
    fragments (a ++ '\n' :: b) = fragments a ++ fragments b := Text.kept_append_cons a b

theorem fragments_append_blank (s : Text) (blank : w.Blank) (noLineFeed : '\n' ∉ w) :
    fragments (s ++ w) = fragments s :=
  Text.kept_append noLineFeed (fun line => withoutComment_append_blank line blank) s

theorem fragments_append_comment (s : Text) (noLineFeed : '\n' ∉ comment) :
    fragments (s ++ (" --".toList ++ comment)) = fragments s :=
  Text.kept_append (by simp [noLineFeed]) (fun line => withoutComment_append_comment line comment) s

theorem IsIdle.fragments_eq (idle : IsIdle line) : fragments line = [] := by
  rw [fragments, Text.kept_of_not_mem idle.not_mem, idle.withoutComment_eq]
  rfl

theorem fragments_idle_append {lines : List Text} (idle : ∀ line ∈ lines, IsIdle line)
    (script : Text) : fragments (lines.flatMap (· ++ ['\n']) ++ script) = fragments script := by
  induction lines with
  | nil => rfl
  | cons line lines ih =>
    obtain ⟨here, later⟩ := List.forall_mem_cons.1 idle
    rw [List.flatMap_cons, List.append_assoc, List.append_assoc, List.singleton_append,
      fragments_append_cons, here.fragments_eq, List.nil_append, ih later]

theorem fragments_carriage_returns (script : Text) :
    fragments (Text.replaceChar '\n' "\r\n".toList script) = fragments script := by
  by_cases several : '\n' ∈ script
  · obtain ⟨line, rest, rfl⟩ := List.append_of_mem several
    have ended : Text.replaceChar '\n' "\r\n".toList (line ++ '\n' :: rest) =
        (Text.replaceChar '\n' "\r\n".toList line ++ ['\r']) ++
          '\n' :: Text.replaceChar '\n' "\r\n".toList rest := by
      simp [Text.replaceChar]
    rw [ended, fragments_append_cons, fragments_append_cons,
      fragments_append_blank _ (by decide) (by decide), fragments_carriage_returns line,
      fragments_carriage_returns rest]
  · have whole : Text.replaceChar '\n' "\r\n".toList script = script := by
      refine (List.flatMap_congr fun c inside => if_neg ?_).trans (List.flatMap_singleton' script)
      rintro rfl
      exact several inside
    rw [whole]
termination_by script.length

/-! ## Statements -/

def statementsOf (joined : Text) : List Text :=
  ((joined.fields ';').map Text.trim).filter (· ≠ [])

theorem splitStatements_eq (script : Text) :
    splitStatements script = statementsOf (List.intercalate [' '] (fragments script)) := by
  rw [fragments_eq]
  rfl

theorem statementsOf_append_cons (s t : Text) :
    statementsOf (s ++ ';' :: t) = statementsOf s ++ statementsOf t := Text.kept_append_cons s t

theorem statementsOf_append_blank (s : Text) (blank : w.Blank) :
    statementsOf (s ++ w) = statementsOf s :=
  Text.kept_append (blank.not_mem (by decide)) (fun part => Text.trim_append_blank part blank) s

theorem statementsOf_blank_append (blank : w.Blank) (s : Text) :
    statementsOf (w ++ s) = statementsOf s := by
  refine Text.kept_prepend (blank.not_mem (by decide)) (fun part => ?_) s
  rw [Text.trim, Text.dropBlank_blank_append blank, Text.trim]

theorem exists_blank_intercalate_cons (s : Text) (rest : List Text) :
    ∃ w : Text, w.Blank ∧
      List.intercalate [' '] (s :: rest) = s ++ (w ++ List.intercalate [' '] rest) := by
  cases rest with
  | nil => exact ⟨[], Text.blank_nil, by simp⟩
  | cons t rest =>
    refine ⟨[' '], by decide, ?_⟩
    rw [List.intercalate_cons_cons, List.append_assoc]

theorem exists_blank_intercalate_append (a b : List Text) :
    ∃ w : Text, w.Blank ∧ List.intercalate [' '] (a ++ b) =
      List.intercalate [' '] a ++ (w ++ List.intercalate [' '] b) := by
  induction a with
  | nil => exact ⟨[], Text.blank_nil, rfl⟩
  | cons s a ih =>
    rcases eq_or_ne a [] with rfl | more
    · rw [List.intercalate_singleton]
      exact exists_blank_intercalate_cons s b
    · obtain ⟨w, blank, whole⟩ := ih
      refine ⟨w, blank, ?_⟩
      rw [List.cons_append, List.intercalate_cons_of_ne_nil (by simp [more]), whole,
        List.intercalate_cons_of_ne_nil more]
      simp only [List.append_assoc]

theorem statementsOf_intercalate_semicolon (a b : List Text) :
    statementsOf (List.intercalate [' '] (a ++ ";".toList :: b)) =
      statementsOf (List.intercalate [' '] a) ++ statementsOf (List.intercalate [' '] b) := by
  obtain ⟨w, blank, before⟩ := exists_blank_intercalate_append a (";".toList :: b)
  obtain ⟨w', blank', after⟩ := exists_blank_intercalate_cons ";".toList b
  have parted : List.intercalate [' '] (a ++ ";".toList :: b) =
      (List.intercalate [' '] a ++ w) ++ ';' :: (w' ++ List.intercalate [' '] b) := by
    rw [before, after, List.append_assoc]
    rfl
  rw [parted, statementsOf_append_cons, statementsOf_append_blank _ blank,
    statementsOf_blank_append blank']

theorem splitStatements_append (a b : Text) :
    splitStatements (a ++ ("\n;\n".toList ++ b)) = splitStatements a ++ splitStatements b := by
  have parted : a ++ ("\n;\n".toList ++ b) = a ++ '\n' :: (";".toList ++ '\n' :: b) := by simp
  have alone : fragments ";".toList = [";".toList] := by decide
  rw [splitStatements_eq, parted, fragments_append_cons, fragments_append_cons, alone,
    List.singleton_append, statementsOf_intercalate_semicolon, splitStatements_eq,
    splitStatements_eq]

/-! ## Files -/

/-- The scripts of files, with a semicolon on a line of its own between one and the next. -/
def joinScripts (scripts : List Text) : Text := List.intercalate "\n;\n".toList scripts

theorem splitStatements_joinScripts (scripts : List Text) :
    splitStatements (joinScripts scripts) = scripts.flatMap splitStatements := by
  induction scripts with
  | nil => rfl
  | cons script scripts ih =>
    rw [List.flatMap_cons, ← ih]
    cases scripts with
    | nil =>
      have nothing : splitStatements (joinScripts []) = [] := by decide
      rw [nothing, List.append_nil, joinScripts, List.intercalate_singleton]
    | cons other scripts =>
      rw [joinScripts, List.intercalate_cons_cons, List.append_assoc, splitStatements_append,
        joinScripts]

theorem loadStatements_of_read {files : List FileContent} {scripts : List Text}
    (read : files.map FileContent.read = scripts.map Except.ok) :
    loadStatements files = .ok (scripts.flatMap splitStatements) := by
  induction files generalizing scripts with
  | nil =>
    obtain rfl := List.map_eq_nil_iff.1 read.symm
    rfl
  | cons file files ih =>
    cases scripts with
    | nil => cases read
    | cons script scripts =>
      obtain ⟨here, later⟩ := List.cons.inj read
      rw [loadStatements, here, ih later]
      rfl

theorem FileContent.read_eq_ok_or_error (file : FileContent) :
    (∃ script, file.read = .ok script) ∨ ∃ reason, file.read = .error (.inputOutput reason) := by
  cases file with
  | missing => exact .inr ⟨_, rfl⟩
  | directory => exact .inr ⟨_, rfl⟩
  | bytes b =>
    rw [FileContent.read]
    split
    next script _ => exact .inl ⟨script, rfl⟩
    next => exact .inr ⟨_, rfl⟩

-- The first file that cannot be read decides, so those after it may be anything.
theorem loadStatements_of_unread {files : List FileContent} {file : FileContent}
    (listed : file ∈ files) (unread : ∀ script, file.read ≠ .ok script) :
    ∃ reason, loadStatements files = .error (.inputOutput reason) := by
  induction files with
  | nil => cases listed
  | cons first files ih =>
    rcases first.read_eq_ok_or_error with ⟨script, read⟩ | ⟨reason, refused⟩
    · rcases List.mem_cons.1 listed with rfl | later
      · exact absurd read (unread script)
      · obtain ⟨reason, failed⟩ := ih later
        exact ⟨reason, by rw [loadStatements, read, failed]; rfl⟩
    · exact ⟨reason, by rw [loadStatements, refused]; rfl⟩

/-! ## Scripts that are split alike -/

/-- What begins with the end of a line. -/
def EndsLine (after : Text) : Prop :=
  after = [] ∨ "\n".toList <+: after ∨ "\r\n".toList <+: after

def BeginsLine (before : Text) : Prop := before = [] ∨ "\n".toList <:+ before

theorem EndsLine.fragments_insert_comment {after : Text} (ends : EndsLine after)
    (noLineFeed : '\n' ∉ comment) (before : Text) :
    fragments (before ++ (" --".toList ++ comment) ++ after) = fragments (before ++ after) := by
  rcases ends with rfl | ⟨rest, rfl⟩ | ⟨rest, rfl⟩
  · rw [List.append_nil, List.append_nil, fragments_append_comment before noLineFeed]
  · change fragments (_ ++ '\n' :: rest) = fragments (before ++ '\n' :: rest)
    rw [fragments_append_cons, fragments_append_cons, fragments_append_comment before noLineFeed]
  · -- the comment takes the carriage return with it
    have longer : before ++ (" --".toList ++ comment) ++ ("\r\n".toList ++ rest) =
        (before ++ (" --".toList ++ (comment ++ ['\r']))) ++ '\n' :: rest := by simp
    have shorter : before ++ ("\r\n".toList ++ rest) = (before ++ ['\r']) ++ '\n' :: rest := by
      simp
    rw [longer, shorter, fragments_append_cons, fragments_append_cons,
      fragments_append_comment before (by simp [noLineFeed]),
      fragments_append_blank before (by decide) (by decide)]

theorem BeginsLine.fragments_insert_idle {before : Text} (begins : BeginsLine before)
    {lines : List Text} (idle : ∀ line ∈ lines, IsIdle line) (after : Text) :
    fragments (before ++ lines.flatMap (· ++ ['\n']) ++ after) = fragments (before ++ after) := by
  rcases begins with rfl | ⟨lead, rfl⟩
  · exact fragments_idle_append idle after
  · have apart (rest : Text) : fragments (lead ++ "\n".toList ++ rest) =
        fragments lead ++ fragments rest := by
      rw [List.append_assoc]
      exact fragments_append_cons lead rest
    rw [List.append_assoc, apart, apart, fragments_idle_append idle]

/-- Scripts are split one by one, files as their scripts are, and comments, idle lines and carriage
returns do not matter to the statements. -/
theorem splitStatements_by_line :
    (∀ a b : Text,
      splitStatements (a ++ ("\n;\n".toList ++ b)) = splitStatements a ++ splitStatements b) ∧
    (∀ (files : List FileContent) (scripts : List Text),
      files.map FileContent.read = scripts.map Except.ok →
        loadStatements files = .ok (splitStatements (joinScripts scripts))) ∧
    (∀ files : List FileContent, (∃ file ∈ files, ∀ script, file.read ≠ .ok script) →
      ∃ reason, loadStatements files = .error (.inputOutput reason)) ∧
    (∀ before after comment : Text, EndsLine after → '\n' ∉ comment →
      splitStatements (before ++ (" --".toList ++ comment) ++ after) =
        splitStatements (before ++ after)) ∧
    (∀ (before after : Text) (lines : List Text), BeginsLine before →
      (∀ line ∈ lines, IsIdle line) →
        splitStatements (before ++ lines.flatMap (· ++ ['\n']) ++ after) =
          splitStatements (before ++ after)) ∧
    ∀ script : Text,
      splitStatements (Text.replaceChar '\n' "\r\n".toList script) = splitStatements script := by
  -- what the lines leave is all that the statements are made of
  have same {s t : Text} (left : fragments s = fragments t) :
      splitStatements s = splitStatements t := by
    rw [splitStatements_eq, left, splitStatements_eq]
  refine ⟨splitStatements_append, ?_, ?_, ?_, ?_, ?_⟩
  · intro files scripts read
    rw [loadStatements_of_read read, splitStatements_joinScripts]
  · rintro files ⟨file, listed, unread⟩
    exact loadStatements_of_unread listed unread
  · exact fun before _ _ ends noLineFeed => same (ends.fragments_insert_comment noLineFeed before)
  · exact fun _ after _ begins idle => same (begins.fragments_insert_idle idle after)
  · exact fun script => same (fragments_carriage_returns script)

/-- A comment after a hyphen, with a line after it that begins with one. -/
theorem splitStatements_by_line_hyphens :
    EndsLine "\n- 1".toList ∧ '\n' ∉ "; old".toList ∧
    splitStatements ("x -".toList ++ (" --".toList ++ "; old".toList) ++ "\n- 1".toList) =
      ["x - - 1".toList] := by
  have ends : EndsLine "\n- 1".toList := .inr (.inl (by decide))
  have noLineFeed : '\n' ∉ "; old".toList := by decide
  refine ⟨ends, noLineFeed, ?_⟩
  rw [splitStatements_by_line.2.2.2.1 "x -".toList "\n- 1".toList "; old".toList ends noLineFeed]
  decide

end SqlDialect
