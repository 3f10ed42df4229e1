import SqlDialect.Proofs.Query.Ending

/-! Hints as a grammar: two words in any case, with white space before each.

A hint that is read in a text is read there whatever is put at the end of the text, unless the text
ends within the hint. What can be put there without a change to what is read begins with white
space and does not go on with the second word.
-/

set_option autoImplicit false

namespace SqlDialect

namespace Phrase

open Text (Blank)

variable {word first second hint s t u gap a r : Text} {small c : Char}

/-! ## Letters and words -/

/-- The characters that a small letter is read in. -/
def spellings (small : Char) : Text :=
  [small, small.toUpper] ++ if small = 's' then ['\u017f'] else []

theorem agreesWith_iff : agreesWith small c = true ↔ c ∈ spellings small := by
  by_cases isS : small = 's' <;> simp [agreesWith, spellings, isS, or_assoc]

/-- A word in any case. -/
def Spelled (word a : Text) : Prop := List.Forall₂ (fun small c => c ∈ spellings small) word a

instance (word a : Text) : Decidable (Spelled word a) :=
  inferInstanceAs (Decidable (List.Forall₂ _ _ _))

/-- A word that is given in small letters and has no white space in it. -/
def IsWord (word : Text) : Prop :=
  word ≠ [] ∧ ∀ small ∈ word, ∀ c ∈ spellings small, isBlank c = false

instance (word : Text) : Decidable (IsWord word) :=
  @instDecidableAnd _ _ inferInstance (@List.decidableBAll _ _
    (fun small => List.decidableBAll (fun c => isBlank c = false) (spellings small)) word)

/-- None of the characters is one in which a letter of the word is read. -/
def Unread (chars word : Text) : Prop := ∀ c ∈ chars, ∀ small ∈ word, c ∉ spellings small

instance (chars word : Text) : Decidable (Unread chars word) :=
  @List.decidableBAll _ _ (fun c => List.decidableBAll (fun small => c ∉ spellings small) word)
    chars

/-- Two words with white space before each. -/
inductive TwoWords (first second : Text) : Text → Prop where
  | intro {gap a gap' b : Text} : gap ≠ [] → Blank gap → Spelled first a → gap' ≠ [] →
      Blank gap' → Spelled second b → TwoWords first second (gap ++ (a ++ (gap' ++ b)))

theorem Spelled.mem (spelled : Spelled word a) (inside : c ∈ a) :
    ∃ small ∈ word, c ∈ spellings small := by
  induction spelled with
  | nil => cases inside
  | @cons small d word a here _ ih =>
    rcases List.mem_cons.1 inside with rfl | later
    · exact ⟨small, List.mem_cons_self, here⟩
    · obtain ⟨small', listed, own⟩ := ih later
      exact ⟨small', List.mem_cons_of_mem small listed, own⟩

theorem Spelled.exists_mem (spelled : Spelled word a) (letter : small ∈ word) :
    ∃ c ∈ a, c ∈ spellings small := by
  induction spelled with
  | nil => cases letter
  | @cons small' d word a here _ ih =>
    rcases List.mem_cons.1 letter with rfl | later
    · exact ⟨d, List.mem_cons_self, here⟩
    · obtain ⟨c, inside, own⟩ := ih later
      exact ⟨c, List.mem_cons_of_mem d inside, own⟩

theorem Spelled.exists_cons (spelled : Spelled word a) (isWord : IsWord word) :
    ∃ c rest, a = c :: rest ∧ isBlank c = false := by
  obtain ⟨nonempty, visible⟩ := isWord
  cases spelled with
  | nil => exact absurd rfl nonempty
  | cons here _ => exact ⟨_, _, rfl, visible _ List.mem_cons_self _ here⟩

theorem TwoWords.mem (two : TwoWords first second hint) (inside : c ∈ hint) :
    isBlank c = true ∨ ∃ small ∈ first ++ second, c ∈ spellings small := by
  cases two with
  | intro _ blank spelled _ blank' spelled' =>
    simp only [List.mem_append] at inside ⊢
    rcases inside with white | here | white | here
    · exact .inl (blank c white)
    · obtain ⟨small, listed, own⟩ := spelled.mem here
      exact .inr ⟨small, .inl listed, own⟩
    · exact .inl (blank' c white)
    · obtain ⟨small, listed, own⟩ := spelled'.mem here
      exact .inr ⟨small, .inr listed, own⟩

theorem TwoWords.not_mem {chars : Text} (two : TwoWords first second hint)
    (foreign : Unread chars (first ++ second)) (visible : isBlank c = false) (mem : c ∈ chars) :
    c ∉ hint := by
  intro inside
  rcases two.mem inside with white | ⟨small, listed, own⟩
  · rw [visible] at white
    cases white
  · exact foreign c mem small listed own

theorem TwoWords.absent (two : TwoWords first second hint) {w : Text} (blank : Blank w)
    (visible : ∀ c ∈ spellings small, isBlank c = false)
    (foreign : Unread (spellings small) (first ++ second)) :
    ∀ c ∈ hint ++ w, c ∉ spellings small := by
  intro c mem own
  rcases List.mem_append.1 mem with inside | white
  · exact two.not_mem foreign (visible c own) own inside
  · exact blank.not_mem (visible c own) white

theorem TwoWords.blank_append (two : TwoWords first second hint) (blank : Blank gap) :
    TwoWords first second (gap ++ hint) := by
  cases two with
  | intro some blank' spelled some' between spelled' =>
    rw [← List.append_assoc]
    exact .intro (List.append_ne_nil_of_right_ne_nil gap some)
      (List.forall_mem_append.2 ⟨blank, blank'⟩) spelled some' between spelled'

theorem TwoWords.not_blank (two : TwoWords first second hint) (isWord : IsWord first) :
    ¬Blank hint := by
  cases two with
  | intro _ _ spelled _ _ _ =>
    obtain ⟨c, rest, rfl, visible⟩ := spelled.exists_cons isWord
    intro blank
    have white := blank c (by simp)
    rw [visible] at white
    cases white

/-! ## Reading -/

def spacedWord? (word s : Text) : Option Text := (blanks? s).bind (word? word)

def twoWords? (first second s : Text) : Option Text :=
  (spacedWord? first s).bind (spacedWord? second)

theorem word?_eq_some_iff : word? word s = some r ↔ ∃ a, Spelled word a ∧ s = a ++ r := by
  induction word generalizing s with
  | nil =>
    constructor
    · intro read
      cases read
      exact ⟨[], .nil, rfl⟩
    · rintro ⟨_, ⟨⟩, rfl⟩
      rfl
  | cons small word ih =>
    rw [word?_cons_eq_some_iff]
    constructor
    · rintro ⟨c, t, agrees, read, rfl⟩
      obtain ⟨a, spelled, rfl⟩ := ih.1 read
      exact ⟨c :: a, .cons (agreesWith_iff.1 agrees) spelled, rfl⟩
    · rintro ⟨_, _ | ⟨here, spelled⟩, rfl⟩
      exact ⟨_, _, agreesWith_iff.2 here, ih.2 ⟨_, spelled, rfl⟩, rfl⟩

theorem blanks?_eq (s : Text) :
    blanks? s = if s.head?.any isBlank = true then some s.dropBlank else none := by
  cases s with
  | nil => rfl
  | cons c s =>
    by_cases blank : isBlank c = true
    · simp [blanks?, blank, Text.dropBlank]
    · simp [blanks?, blank]

theorem spacedWord?_of_spelled (isWord : IsWord word) (nonempty : gap ≠ []) (blank : Blank gap)
    (spelled : Spelled word a) (r : Text) : spacedWord? word (gap ++ (a ++ r)) = some r := by
  obtain ⟨c, rest, rfl, visible⟩ := spelled.exists_cons isWord
  obtain ⟨white, gap, rfl⟩ := List.exists_cons_of_ne_nil nonempty
  have dropped : Text.dropBlank (white :: gap ++ (c :: rest ++ r)) = c :: rest ++ r :=
    Text.dropBlank_eq_cons_iff.2 ⟨visible, white :: gap, blank, rfl⟩
  have first : (white :: gap ++ (c :: rest ++ r)).head?.any isBlank = true :=
    blank white List.mem_cons_self
  rw [spacedWord?, blanks?_eq, if_pos first, dropped]
  exact word?_eq_some_iff.2 ⟨c :: rest, spelled, rfl⟩

theorem twoWords?_of_twoWords (isWord : IsWord first) (isWord' : IsWord second)
    (two : TwoWords first second hint) (r : Text) :
    twoWords? first second (hint ++ r) = some r := by
  cases two with
  | @intro gap a gap' b nonempty blank spelled nonempty' blank' spelled' =>
    have regroup : gap ++ (a ++ (gap' ++ b)) ++ r = gap ++ (a ++ (gap' ++ (b ++ r))) := by simp
    rw [twoWords?, regroup, spacedWord?_of_spelled isWord nonempty blank spelled]
    exact spacedWord?_of_spelled isWord' nonempty' blank' spelled' r

theorem twoWords?_eq_none (letter : small ∈ first ++ second)
    (absent : ∀ c ∈ s, c ∉ spellings small) : twoWords? first second s = none := by
  rw [Option.eq_none_iff_forall_ne_some]
  intro r read
  have own {word s r : Text} (read : spacedWord? word s = some r) :
      (small ∈ word → ∃ c ∈ s, c ∈ spellings small) ∧ r ⊆ s := by
    obtain ⟨t, blanks, word⟩ := Option.bind_eq_some_iff.1 read
    obtain ⟨c, t, -, rfl, rfl⟩ := exists_of_blanks? blanks
    obtain ⟨a, spelled, dropped⟩ := word?_eq_some_iff.1 word
    have inside : a ++ r ⊆ c :: t := by
      rw [← dropped]
      exact List.Subset.trans (List.dropWhile_sublist _).subset (List.subset_cons_self c t)
    refine ⟨fun letter => ?_, fun d mem => inside (List.mem_append_right a mem)⟩
    obtain ⟨d, mem, own⟩ := spelled.exists_mem letter
    exact ⟨d, inside (List.mem_append_left r mem), own⟩
  obtain ⟨t, firstRead, secondRead⟩ := Option.bind_eq_some_iff.1 read
  rcases List.mem_append.1 letter with here | there
  · obtain ⟨c, mem, spelt⟩ := (own firstRead).1 here
    exact absent c mem spelt
  · obtain ⟨c, mem, spelt⟩ := (own secondRead).1 there
    exact absent c ((own firstRead).2 mem) spelt

/-! ## Text at the end -/

/-- A text that begins with white space and does not go on with a word. -/
structure Inert (word t : Text) : Prop where
  blank : ∀ c ∈ t.head?, isBlank c = true
  other : word? word t.dropBlank = none

theorem word?_nil (isWord : IsWord word) : word? word [] = none := by
  cases word with
  | nil => exact absurd rfl isWord.1
  | cons => rfl

theorem inert_of_blank (isWord : IsWord word) (blank : Blank gap) : Inert word gap := by
  refine ⟨fun c first => blank c (List.mem_of_mem_head? first), ?_⟩
  rw [Text.dropBlank_eq_nil_iff.2 blank, word?_nil isWord]

/-- Two words can stand after the beginning of two others unless they begin as these go on. -/
theorem TwoWords.inert (two : TwoWords first second hint) (isWord : IsWord first)
    (apart : Unread ((word.take 1).flatMap spellings) (first.take 1)) (nonempty : word ≠ [])
    (r : Text) : Inert word (hint ++ r) := by
  cases two with
  | @intro gap a gap' b some blank spelled _ _ _ =>
    obtain ⟨c, rest, rfl, visible⟩ := spelled.exists_cons isWord
    obtain ⟨white, gap, rfl⟩ := List.exists_cons_of_ne_nil some
    have dropped : Text.dropBlank (white :: gap ++ (c :: rest ++ (gap' ++ b)) ++ r) =
        c :: (rest ++ (gap' ++ b) ++ r) :=
      Text.dropBlank_eq_cons_iff.2 ⟨visible, white :: gap, blank, by simp⟩
    refine ⟨by rintro _ ⟨⟩; exact blank white List.mem_cons_self, ?_⟩
    obtain ⟨small, word, rfl⟩ := List.exists_cons_of_ne_nil nonempty
    rw [dropped, Option.eq_none_iff_forall_ne_some]
    intro left read
    obtain ⟨d, t, agrees, -, same⟩ := word?_cons_eq_some_iff.1 read
    cases same
    cases spelled with
    | cons here _ =>
      have own : c ∈ ((small :: word).take 1).flatMap spellings := by
        simpa using agreesWith_iff.1 agrees
      exact apart c own _ List.mem_cons_self here

theorem word?_append (isWord : ∀ small ∈ word, ∀ c ∈ spellings small, isBlank c = false)
    (blank : ∀ c ∈ t.head?, isBlank c = true) :
    word? word (u ++ t) = (word? word u).map (· ++ t) := by
  induction word generalizing u with
  | nil => rfl
  | cons small word ih =>
    obtain ⟨here, later⟩ := List.forall_mem_cons.1 isWord
    cases u with
    | nil =>
      have missing : word? (small :: word) t = none := by
        rw [Option.eq_none_iff_forall_ne_some]
        intro r read
        obtain ⟨c, t, agrees, -, rfl⟩ := word?_cons_eq_some_iff.1 read
        have white := blank c rfl
        rw [here c (agreesWith_iff.1 agrees)] at white
        cases white
      rw [List.nil_append, missing]
      rfl
    | cons c u =>
      rw [List.cons_append, word?, word?]
      split
      next => exact ih later
      next => rfl

theorem spacedWord?_append_of_visible (isWord : IsWord word)
    (blank : ∀ c ∈ t.head?, isBlank c = true) (visible : ¬Blank u) :
    spacedWord? word (u ++ t) = (spacedWord? word u).map (· ++ t) := by
  have nonempty : u ≠ [] := by
    rintro rfl
    exact visible Text.blank_nil
  have first : (u ++ t).head? = u.head? := List.head?_append_of_ne_nil u nonempty
  rw [spacedWord?, spacedWord?, blanks?_eq, blanks?_eq, first,
    Text.dropBlank_append_of_visible visible]
  split
  next => exact word?_append isWord.2 blank
  next => rfl

theorem spacedWord?_eq_none (other : word? word s.dropBlank = none) :
    spacedWord? word s = none := by
  rw [spacedWord?, blanks?_eq]
  split
  next => exact other
  next => rfl

theorem spacedWord?_of_blank (isWord : IsWord word) (blank : Blank gap) :
    spacedWord? word gap = none :=
  spacedWord?_eq_none (inert_of_blank isWord blank).other

theorem spacedWord?_append (isWord : IsWord word) (inert : Inert word t) (u : Text) :
    spacedWord? word (u ++ t) = (spacedWord? word u).map (· ++ t) := by
  by_cases blank : Blank u
  · rw [spacedWord?_of_blank isWord blank, spacedWord?_eq_none]
    · rfl
    · rw [Text.dropBlank_blank_append blank, inert.other]
  · exact spacedWord?_append_of_visible isWord inert.blank blank

theorem twoWords?_append_of_visible (isWord : IsWord first) (isWord' : IsWord second)
    (inert : Inert second t) (visible : ¬Blank u) :
    twoWords? first second (u ++ t) = (twoWords? first second u).map (· ++ t) := by
  rw [twoWords?, spacedWord?_append_of_visible isWord inert.blank visible, twoWords?]
  cases spacedWord? first u with
  | none => rfl
  | some r => exact spacedWord?_append isWord' inert r

theorem twoWords?_of_blank (isWord : IsWord first) (blank : Blank gap) :
    twoWords? first second gap = none := by
  rw [twoWords?, spacedWord?_of_blank isWord blank]
  rfl

end Phrase

end SqlDialect
