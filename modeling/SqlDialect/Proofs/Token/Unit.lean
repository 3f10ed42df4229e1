import Mathlib.Data.Nat.Find
import SqlDialect.Proofs.Token.Join

/-! Lexical units: the pieces of a text as the database reads them.

At every place the longest unit is read. Units that hold white space are the quoted ones and
comments, so a space after anything else ends the unit before it.
-/

set_option autoImplicit false

namespace SqlDialect

/-- Text after an opening mark, up to and with the mark that closes it. A doubled mark closes
nothing. -/
def closes (mark : Char) : Text → Bool
  | [] => false
  | [c] => c == mark
  | c :: d :: r => if c = mark then d == mark && closes mark r else closes mark (d :: r)

def isQuoted (mark : Char) : Text → Bool
  | [] => false
  | c :: r => c == mark && closes mark r

/-- A letter or an underscore, and letters, digits and underscores. -/
def isWord : Text → Bool
  | [] => false
  | c :: r => (c.isAlpha || c == '_') && r.all isNameChar

def isDigits (t : Text) : Bool := !t.isEmpty && t.all Char.isDigit

def isExponent : Text → Bool
  | [] => true
  | e :: r =>
    (e == 'e' || e == 'E') &&
      (isDigits r || ((r.head? == some '+' || r.head? == some '-') && isDigits r.tail))

def isFractionExponent (r : Text) : Bool :=
  isExponent r || (r.head? == some '.' && isExponent (r.tail.dropWhile Char.isDigit))

/-- Digits, with a fraction or none, with an exponent or none. -/
def isNumber : Text → Bool
  | [] => false
  | c :: r => c.isDigit && isFractionExponent (r.dropWhile Char.isDigit)

def operators : List Text := ["||", "->", "->>", "<<", ">>", "=="]

/-- Two hyphens and all that follows them in their line. -/
def isComment : Text → Bool
  | '-' :: '-' :: r => !r.contains '\n'
  | _ => false

def isSingle : Text → Bool
  | [c] => !isBlank c
  | _ => false

/-- A string or a name in quotation marks, a word, a number, an operator, a comment or any other
character that is no white space. -/
def IsUnit (t : Text) : Prop :=
  isQuoted '\'' t = true ∨ isQuoted '"' t = true ∨ isWord t = true ∨ isNumber t = true ∨
    t ∈ operators ∨ t ∈ comparisons ∨ isComment t = true ∨ isSingle t = true

instance (t : Text) : Decidable (IsUnit t) :=
  inferInstanceAs (Decidable (_ ∨ _ ∨ _ ∨ _ ∨ _ ∨ _ ∨ _ ∨ _))

/-- The length of the longest unit at the head of a text. -/
def unitLength (s : Text) : Nat := Nat.findGreatest (fun n => IsUnit (s.take n)) s.length

/-- The units of a text, comments among them. -/
def pieces (s : Text) : List Text :=
  match _h : s.dropBlank with
  | [] => []
  | c :: r => (c :: r).take (unitLength (c :: r)) :: pieces (r.drop (unitLength (c :: r) - 1))
termination_by s.length
decreasing_by
  have := s.length_dropBlank_le
  rw [_h, List.length_cons] at this
  rw [List.length_drop]
  omega

/-- The lexical units of a text. Comments say nothing to the database. -/
def units (s : Text) : List Text := (pieces s).filter (!isComment ·)

example : units "SELECT 1.5e+3||'it''s' -- a\nFROM t1" =
    ["SELECT", "1.5e+3", "||", "'it''s'", "FROM", "t1"].map String.toList := by decide +kernel

/-! ## Quoted units -/

variable {mark : Char} {t u r s : Text}

theorem isQuoted_iff :
    isQuoted mark t = true ↔ ∃ body, t = mark :: body ∧ closes mark body = true := by
  cases t with
  | nil => simp [isQuoted]
  | cons c r => simp [isQuoted]

theorem getLast?_of_closes (closed : closes mark t = true) : t.getLast? = some mark := by
  fun_induction closes mark t with
  | case1 => cases closed
  | case2 c => rw [beq_iff_eq.1 closed]; rfl
  | case3 d r ih =>
    rw [Bool.and_eq_true] at closed
    rw [List.getLast?_cons_cons, List.getLast?_cons, ih closed.2]
    rfl
  | case4 c d r other ih => rw [List.getLast?_cons_cons, ih closed]

-- Where one closing mark is not followed by another, no text closes later.
theorem length_le_of_closes {v after : Text} (closed : closes mark t = true)
    (single : r.head? ≠ some mark) (closed' : closes mark v = true)
    (same : t ++ r = v ++ after) : v.length ≤ t.length := by
  fun_induction closes mark t generalizing v with
  | case1 => cases closed
  | case2 c =>
    obtain rfl : c = mark := beq_iff_eq.1 closed
    match v with
    | [] => cases closed'
    | [_] => exact Nat.le_refl _
    | _ :: d :: v =>
      obtain ⟨rfl, rfl⟩ := List.cons.inj same
      rw [closes, if_pos rfl, Bool.and_eq_true, beq_iff_eq] at closed'
      rw [closed'.1] at single
      exact absurd rfl single
  | case3 d t ih =>
    rw [Bool.and_eq_true] at closed
    match v with
    | [] => cases closed'
    | [_] => exact Nat.succ_le_succ (Nat.zero_le _)
    | _ :: _ :: v =>
      obtain ⟨rfl, later⟩ := List.cons.inj same
      obtain ⟨-, later⟩ := List.cons.inj later
      rw [closes, if_pos rfl, Bool.and_eq_true] at closed'
      exact Nat.succ_le_succ (Nat.succ_le_succ (ih closed.2 closed'.2 later))
  | case4 c d t other ih =>
    match v with
    | [] => cases closed'
    | [_] =>
      obtain ⟨rfl, -⟩ := List.cons.inj same
      exact absurd (beq_iff_eq.1 closed') other
    | _ :: _ :: v =>
      obtain ⟨rfl, later⟩ := List.cons.inj same
      rw [closes, if_neg other] at closed'
      exact Nat.succ_le_succ (ih closed closed' later)

/-! ## The longest unit -/

/-- `Leads u r` says that `u` is the longest unit at the head of the text `u ++ r`. -/
structure Leads (u r : Text) : Prop where
  unit : IsUnit u
  longest : ∀ v after, IsUnit v → u ++ r = v ++ after → v.length ≤ u.length

theorem isNameChar_of_isDigit {c : Char} (digit : c.isDigit = true) : isNameChar c = true := by
  simp [isNameChar, Char.isAlphanum, digit]

theorem isWord_iff :
    isWord t = true ↔ ∃ c body, t = c :: body ∧ (c.isAlpha = true ∨ c = '_') ∧
      ∀ d ∈ body, isNameChar d = true := by
  cases t with
  | nil => simp [isWord]
  | cons c body => simp [isWord]

theorem isNumber_iff :
    isNumber t = true ↔ ∃ c body, t = c :: body ∧ c.isDigit = true ∧
      isFractionExponent (body.dropWhile Char.isDigit) = true := by
  cases t with
  | nil => simp [isNumber]
  | cons c body => simp [isNumber]

theorem isComment_iff : isComment t = true ↔ ∃ line, t = '-' :: '-' :: line ∧ '\n' ∉ line := by
  unfold isComment
  split
  next line => simp
  next other =>
    refine ⟨nofun, ?_⟩
    rintro ⟨line, rfl, -⟩
    exact absurd rfl (other line)

theorem isSingle_iff : isSingle t = true ↔ ∃ c, t = [c] ∧ isBlank c = false := by
  unfold isSingle
  split
  next c => simp
  next other =>
    refine ⟨nofun, ?_⟩
    rintro ⟨c, rfl, -⟩
    exact absurd rfl (other c)

theorem isNameChar_of_isWord (word : isWord t = true) : ∀ c ∈ t, isNameChar c = true := by
  obtain ⟨c, body, rfl, letter, named⟩ := isWord_iff.1 word
  refine List.forall_mem_cons.2 ⟨?_, named⟩
  rcases letter with letter | rfl
  · simp [isNameChar, Char.isAlphanum, letter]
  · decide

theorem IsUnit.exists_cons (unit : IsUnit t) : ∃ c body, t = c :: body ∧ isBlank c = false := by
  rcases unit with quoted | quoted | word | number | operator | comparison | comment | single
  · obtain ⟨body, rfl, -⟩ := isQuoted_iff.1 quoted
    exact ⟨_, body, rfl, by decide⟩
  · obtain ⟨body, rfl, -⟩ := isQuoted_iff.1 quoted
    exact ⟨_, body, rfl, by decide⟩
  · have named := isNameChar_of_isWord word
    obtain ⟨c, body, rfl, -⟩ := isWord_iff.1 word
    exact ⟨c, body, rfl, isBlank_of_isNameChar (named c List.mem_cons_self)⟩
  · obtain ⟨c, body, rfl, digit, -⟩ := isNumber_iff.1 number
    exact ⟨c, body, rfl, isBlank_of_isNameChar (isNameChar_of_isDigit digit)⟩
  · have visible : ∀ t ∈ operators, ∃ c body, t = c :: body ∧ isBlank c = false := by
      simp only [operators, List.forall_mem_cons]
      refine ⟨⟨_, _, rfl, by decide⟩, ⟨_, _, rfl, by decide⟩, ⟨_, _, rfl, by decide⟩,
        ⟨_, _, rfl, by decide⟩, ⟨_, _, rfl, by decide⟩, ⟨_, _, rfl, by decide⟩, by simp⟩
    exact visible t operator
  · obtain ⟨_, -, rfl, visible, -⟩ := (Begins.comparison (r := []) comparison).read
    exact ⟨_, _, rfl, visible⟩
  · obtain ⟨line, rfl, -⟩ := isComment_iff.1 comment
    exact ⟨'-', _, rfl, by decide⟩
  · obtain ⟨c, rfl, visible⟩ := isSingle_iff.1 single
    exact ⟨c, [], rfl, visible⟩

theorem IsUnit.single {c : Char} (visible : isBlank c = false) : IsUnit [c] := by
  simp [IsUnit, isSingle, visible]

theorem Leads.of_append (leads : Leads u (r ++ s)) : Leads u r :=
  ⟨leads.unit, fun v after unit same =>
    leads.longest v (after ++ s) unit (by rw [← List.append_assoc, same, List.append_assoc])⟩

theorem unitLength_append (leads : Leads u r) : unitLength (u ++ r) = u.length := by
  rw [unitLength, Nat.findGreatest_eq_iff]
  refine ⟨by simp, fun _ => by simpa using leads.unit, fun n longer within unit => ?_⟩
  have short := leads.longest _ _ unit (List.take_append_drop n (u ++ r)).symm
  rw [List.length_take, Nat.min_eq_left within] at short
  omega

theorem leads_take {c : Char} (r : Text) (visible : isBlank c = false) :
    0 < unitLength (c :: r) ∧
      Leads ((c :: r).take (unitLength (c :: r))) ((c :: r).drop (unitLength (c :: r))) := by
  have one : 1 ≤ (c :: r).length := by simp
  have first : IsUnit ((c :: r).take 1) := IsUnit.single visible
  have positive : 0 < unitLength (c :: r) := Nat.le_findGreatest one first
  have unit : IsUnit ((c :: r).take (unitLength (c :: r))) :=
    @Nat.findGreatest_spec 1 (fun n => IsUnit ((c :: r).take n)) _ _ one first
  refine ⟨positive, unit, ?_⟩
  intro v after unit' same
  rw [List.take_append_drop] at same
  have within : v.length ≤ (c :: r).length := by simp [same]
  have atLength : IsUnit ((c :: r).take v.length) := by rwa [same, List.take_left]
  rw [List.length_take]
  exact Nat.le_min.2 ⟨Nat.le_findGreatest within atLength, within⟩

theorem exists_leads {c : Char} (r : Text) (visible : isBlank c = false) :
    ∃ u rest, c :: r = u ++ rest ∧ Leads u rest :=
  ⟨_, _, (List.take_append_drop _ _).symm, (leads_take r visible).2⟩

/-- A text cut into white space and longest units. -/
inductive Pieces : Text → List Text → Prop where
  | last {s : Text} : s.Blank → Pieces s []
  | unit {s gap u r : Text} {us : List Text} : s = gap ++ (u ++ r) → gap.Blank → Leads u r →
      Pieces r us → Pieces s (u :: us)

theorem pieces_of_blank (blank : s.Blank) : pieces s = [] := by
  have none : s.dropBlank = [] := List.dropWhile_eq_nil_iff.2 blank
  rw [pieces]
  split
  · rfl
  · next some => cases none.symm.trans some

theorem pieces_of_leads {gap : Text} (blank : gap.Blank) (leads : Leads u r) :
    pieces (gap ++ (u ++ r)) = u :: pieces r := by
  obtain ⟨c, body, rfl, visible⟩ := leads.unit.exists_cons
  have first : (gap ++ (c :: body ++ r)).dropBlank = c :: (body ++ r) :=
    Text.dropBlank_eq_cons_iff.2 ⟨visible, gap, blank, rfl⟩
  have length := unitLength_append leads
  rw [List.cons_append] at length
  rw [pieces]
  split
  · next none => cases first.symm.trans none
  · next some =>
    cases first.symm.trans some
    rw [length]
    simp

theorem Leads.read (leads : Leads u r) : pieces (u ++ r) = u :: pieces r :=
  pieces_of_leads Text.blank_nil leads

theorem cut_pieces (s : Text) : Pieces s (pieces s) := by
  fun_induction pieces s with
  | case1 s none => exact .last (List.dropWhile_eq_nil_iff.1 none)
  | case2 s c r first ih =>
    obtain ⟨visible, gap, blank, rfl⟩ := Text.dropBlank_eq_cons_iff.1 first
    obtain ⟨positive, leads⟩ := leads_take r visible
    obtain ⟨n, length⟩ := Nat.exists_eq_succ_of_ne_zero positive.ne'
    rw [length] at ih leads ⊢
    exact .unit (by rw [List.take_append_drop]) blank leads ih

theorem Pieces.eq_pieces {us : List Text} (cut : Pieces s us) : us = pieces s := by
  induction cut with
  | last blank => exact (pieces_of_blank blank).symm
  | unit whole blank leads _ ih => rw [whole, pieces_of_leads blank leads, ih]

theorem pieces_blank_append {gap : Text} (s : Text) (blank : gap.Blank) :
    pieces (gap ++ s) = pieces s := by
  generalize same : pieces s = us
  have cut := cut_pieces s
  rw [same] at cut
  cases cut with
  | last blank' => exact pieces_of_blank (List.forall_mem_append.2 ⟨blank, blank'⟩)
  | unit whole blank' leads rest =>
    rw [whole, ← List.append_assoc, rest.eq_pieces]
    exact pieces_of_leads (List.forall_mem_append.2 ⟨blank, blank'⟩) leads

def visible (s : Text) : Text := s.filter (!isBlank ·)

namespace Pieces

variable {us : List Text}

theorem flatMap_visible (cut : Pieces s us) : us.flatMap visible = visible s := by
  induction cut with
  | last blank => exact blank.filter_visible.symm
  | unit whole blank _ _ ih =>
    rw [whole, visible, List.filter_append, List.filter_append, blank.filter_visible,
      List.nil_append, List.flatMap_cons, ih]
    rfl

theorem infix_of_mem (cut : Pieces s us) (mem : u ∈ us) : u <:+: s := by
  induction cut with
  | last => cases mem
  | @unit s gap v r us whole _ _ _ ih =>
    rcases List.mem_cons.1 mem with rfl | mem
    · exact ⟨gap, r, by rw [whole, List.append_assoc]⟩
    · refine (ih mem).trans ⟨gap ++ v, [], ?_⟩
      rw [whole]
      simp

end Pieces

/-! ## A space after a unit -/

theorem isBlank_of_isNumber (number : isNumber t = true) : ∀ c ∈ t, isBlank c = false := by
  have digit {c : Char} (digit : c.isDigit = true) : isBlank c = false :=
    isBlank_of_isNameChar (isNameChar_of_isDigit digit)
  have run {s : Text} (rest : ∀ c ∈ s.dropWhile Char.isDigit, isBlank c = false) :
      ∀ c ∈ s, isBlank c = false := by
    intro c mem
    rw [← List.takeWhile_append_dropWhile (p := Char.isDigit) (l := s), List.mem_append] at mem
    exact mem.elim (fun mem => digit (List.mem_takeWhile_imp mem)) (rest c)
  have digits {s : Text} (all : isDigits s = true) : ∀ c ∈ s, isBlank c = false := by
    simp only [isDigits, Bool.and_eq_true, List.all_eq_true] at all
    exact fun c mem => digit (all.2 c mem)
  have signed {s : Text} {sign : Char} (first : s.head? = some sign)
      (visible : isBlank sign = false) (rest : ∀ c ∈ s.tail, isBlank c = false) : ∀ c ∈ s, isBlank c = false := by
    obtain ⟨r, rfl⟩ := List.head?_eq_some_iff.1 first
    exact List.forall_mem_cons.2 ⟨visible, rest⟩
  have exponent {s : Text} (read : isExponent s = true) : ∀ c ∈ s, isBlank c = false := by
    cases s with
    | nil => exact nofun
    | cons e r =>
      simp only [isExponent, Bool.and_eq_true, Bool.or_eq_true, beq_iff_eq] at read
      obtain ⟨letter, all | ⟨sign | sign, all⟩⟩ := read
      all_goals refine List.forall_mem_cons.2 ⟨by rcases letter with rfl | rfl <;> decide, ?_⟩
      · exact digits all
      · exact signed sign (by decide) (digits all)
      · exact signed sign (by decide) (digits all)
  obtain ⟨c, body, rfl, first, read⟩ := isNumber_iff.1 number
  refine List.forall_mem_cons.2 ⟨digit first, run ?_⟩
  simp only [isFractionExponent, Bool.and_eq_true, Bool.or_eq_true, beq_iff_eq] at read
  rcases read with plain | ⟨point, read⟩
  · exact exponent plain
  · exact signed point (by decide) (run (exponent read))

-- Only quotation marks and comments go on over white space.
theorem IsUnit.not_blank (unit : IsUnit t) (noMark : t.head? ≠ some '\'')
    (noDoubleMark : t.head? ≠ some '"') (noComment : ¬['-', '-'] <+: t) :
    ∀ c ∈ t, isBlank c = false := by
  rcases unit with quoted | quoted | word | number | operator | comparison | comment | single
  · obtain ⟨body, rfl, -⟩ := isQuoted_iff.1 quoted
    exact absurd rfl noMark
  · obtain ⟨body, rfl, -⟩ := isQuoted_iff.1 quoted
    exact absurd rfl noDoubleMark
  · exact fun c mem => isBlank_of_isNameChar (isNameChar_of_isWord word c mem)
  · exact isBlank_of_isNumber number
  · have all : operators.all (·.all (!isBlank ·)) = true := by decide
    exact fun _ => Text.isBlank_eq_false_of_all (List.all_eq_true.1 all t operator)
  · have all : comparisons.all (·.all (!isBlank ·)) = true := by decide
    exact fun _ => Text.isBlank_eq_false_of_all (List.all_eq_true.1 all t comparison)
  · obtain ⟨line, rfl, -⟩ := isComment_iff.1 comment
    exact absurd ⟨line, rfl⟩ noComment
  · obtain ⟨c, rfl, visible⟩ := isSingle_iff.1 single
    exact List.forall_mem_singleton.2 visible

structure Unquoted (s : Text) : Prop where
  noMark : '\'' ∉ s
  noDoubleMark : '"' ∉ s
  noComment : ¬['-', '-'] <:+: s

theorem Unquoted.of_append (unquoted : Unquoted (r ++ s)) : Unquoted s := by
  have inside : s <:+: r ++ s := (List.suffix_append r s).isInfix
  exact ⟨fun mem => unquoted.noMark (inside.subset mem),
    fun mem => unquoted.noDoubleMark (inside.subset mem),
    fun found => unquoted.noComment (found.trans inside)⟩

theorem Unquoted.not_isUnit (unquoted : Unquoted s) (nonempty : s ≠ []) (r : Text) :
    ¬IsUnit (s ++ ' ' :: r) := by
  intro unit
  obtain ⟨c, s, rfl⟩ := List.exists_cons_of_ne_nil nonempty
  have noComment : ¬['-', '-'] <+: c :: s ++ ' ' :: r := by
    rintro ⟨line, same⟩
    obtain ⟨rfl, later⟩ := List.cons.inj same
    cases s with
    | nil => exact absurd (List.cons.inj later).1 (by decide)
    | cons d s =>
      obtain ⟨rfl, -⟩ := List.cons.inj later
      exact unquoted.noComment ⟨[], s, rfl⟩
  have visible := unit.not_blank
    (fun mark => unquoted.noMark (Option.some.inj mark ▸ List.mem_cons_self))
    (fun mark => unquoted.noDoubleMark (Option.some.inj mark ▸ List.mem_cons_self)) noComment
  exact absurd (visible ' ' (by simp)) (by decide)

theorem Leads.before_space (leads : Leads u r) (unquoted : Unquoted (u ++ r)) (s : Text) :
    Leads u (r ++ ' ' :: s) := by
  refine ⟨leads.unit, fun v after unit same => ?_⟩
  rw [← List.append_assoc] at same
  rcases List.append_eq_append_iff.1 same with ⟨beyond, rfl, rest⟩ | ⟨inside, within, -⟩
  · cases beyond with
    | nil => exact leads.longest _ [] unit (by simp)
    | cons d beyond =>
      obtain ⟨rfl, -⟩ := List.cons.inj rest
      obtain ⟨c, body, rfl, -⟩ := leads.unit.exists_cons
      exact absurd unit (unquoted.not_isUnit (List.cons_ne_nil _ _) beyond)
  · exact leads.longest v inside unit within

theorem pieces_append_space (unquoted : Unquoted s) (r : Text) :
    pieces (s ++ ' ' :: r) = pieces s ++ pieces r := by
  have cut := cut_pieces s
  generalize pieces s = us at cut
  induction cut with
  | @last s blank =>
    rw [← List.singleton_append, ← List.append_assoc]
    exact pieces_blank_append r (List.forall_mem_append.2 ⟨blank, blank_space⟩)
  | @unit s gap u r' us whole blank leads _ ih =>
    subst whole
    have here : Unquoted (u ++ r') := unquoted.of_append
    have later : Unquoted r' := here.of_append
    rw [List.append_assoc, List.append_assoc, pieces_of_leads blank (leads.before_space here r),
      ih later, List.cons_append]

end SqlDialect
