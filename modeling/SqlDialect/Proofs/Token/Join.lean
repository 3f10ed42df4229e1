import SqlDialect.Proofs.Token.Segmentation

/-! Tokens written out with single spaces between them, and cut again.

A token that ends where its kind ends stands by itself before a space. Only a quotation mark that
nothing closes depends on all that follows it, and spaces between tokens never part a pair of
marks.
-/

set_option autoImplicit false

namespace SqlDialect

namespace Token

/-- A quotation mark that opens nothing. -/
def IsLone (t : Token) : Prop := t.text = ['\''] ∨ t.text = ['"']

instance (t : Token) : Decidable t.IsLone := inferInstanceAs (Decidable (_ ∨ _))

/-- Tokens with a space before each. -/
def spaced (tokens : List Token) : Text := tokens.flatMap fun t => ' ' :: t.text

@[simp] theorem spaced_nil : spaced [] = [] := rfl

theorem spaced_cons (t : Token) (tokens : List Token) :
    spaced (t :: tokens) = [' '] ++ (t.text ++ spaced tokens) := rfl

theorem head?_spaced (tokens : List Token) : ∀ c ∈ (spaced tokens).head?, c = ' ' := by
  cases tokens with
  | nil => exact nofun
  | cons => rintro c ⟨⟩; rfl

theorem join_cons (t : Token) (tokens : List Token) :
    join (t :: tokens) = t.text ++ spaced tokens := by
  induction tokens generalizing t with
  | nil => simp [join]
  | cons u tokens ih =>
    unfold join at ih ⊢
    rw [List.map_cons, List.map_cons, List.intercalate_cons_cons, ← List.map_cons, ih, spaced_cons,
      List.append_assoc]

end Token

open Token (spaced)

theorem blank_space : Text.Blank [' '] := by
  rintro c mem
  rw [List.mem_singleton.1 mem]
  decide

/-! ## Tokens that stand by themselves -/

namespace Begins

variable {t r r' : Text}

-- White space ends every run and closes nothing. Only a mark that opens nothing depends on more
-- than the character after it.
theorem of_rest (begins : Begins t r) (first : ∀ c ∈ r'.head?, isBlank c = true ∨ c ∈ r.head?)
    (literal : t = ['\''] → Paired r → Paired r') (name : t = ['"'] → '"' ∉ r → '"' ∉ r') :
    Begins t r' := by
  have stop {P : Char → Prop} (here : ∀ c ∈ r.head?, P c) (blank : ∀ c, isBlank c = true → P c) :
      ∀ c ∈ r'.head?, P c := fun c mem => (first c mem).elim (blank c) (here c)
  have unnamed (c : Char) (blank : isBlank c = true) : isNameChar c = false := by
    refine Bool.eq_false_iff.2 fun named => ?_
    rw [isBlank_of_isNameChar named] at blank
    cases blank
  have noDigit (c : Char) (blank : isBlank c = true) : c.isDigit = false := by
    have := unnamed c blank
    simp_all [isNameChar, Char.isAlphanum]
  cases begins with
  | wildcard some all here => exact .wildcard some all (stop here noDigit)
  | comparison listed => exact .comparison listed
  | literal paired single =>
    have noMark : ∀ c ∈ r'.head?, c ≠ '\'' := by
      refine stop (fun c here same => single (same ▸ here)) fun c blank same => ?_
      rw [same] at blank
      cases blank
    exact .literal paired fun mark => noMark _ mark rfl
  | openLiteral endless =>
    exact .openLiteral (endless_iff.2 (literal rfl (endless_iff.1 endless)))
  | name unmarked => exact .name unmarked
  | openName unmarked => exact .openName (name rfl unmarked)
  | word nonempty named here => exact .word nonempty named (stop here unnamed)
  | @single d _ visible noMark noDoubleMark unnamedHere dollar unlisted =>
    refine .single visible noMark noDoubleMark unnamedHere
      (fun isDollar => stop (dollar isDollar) noDigit) (stop unlisted fun c blank listed => ?_)
    simp only [comparisons, List.mem_cons, List.not_mem_nil, or_false] at listed
    rcases listed with ⟨-, rfl⟩ | ⟨-, rfl⟩ | ⟨-, rfl⟩ | ⟨-, rfl⟩ <;> cases blank

theorem of_spaced (begins : Begins t r) (tokens : List Token)
    (literal : t = ['\''] → Paired r → Paired (spaced tokens))
    (name : t = ['"'] → '"' ∉ r → '"' ∉ spaced tokens) : Begins t (spaced tokens) := by
  refine begins.of_rest (fun c first => .inl ?_) literal name
  rw [Token.head?_spaced tokens c first]
  decide

theorem of_closed (begins : Begins t r) (closed : ¬(⟨t⟩ : Token).IsLone) (tokens : List Token) :
    Begins t (spaced tokens) :=
  begins.of_spaced tokens (fun lone => absurd (Or.inl lone) closed)
    (fun lone => absurd (Or.inr lone) closed)

theorem alone (begins : Begins t r) : Begins t [] :=
  begins.of_spaced [] (fun _ _ => .nil) (fun _ _ => List.not_mem_nil)

theorem head?_append_cases {w : Text} (blank : ∀ c ∈ w.head?, isBlank c = true) :
    ∀ c ∈ (r ++ w).head?, isBlank c = true ∨ c ∈ r.head? := by
  cases r with
  | nil => exact fun c first => .inl (blank c first)
  | cons d r => exact fun c first => .inr first

theorem append_space (begins : Begins t r) (closed : ¬(⟨t⟩ : Token).IsLone) (s : Text) :
    Begins t (r ++ ' ' :: s) := by
  refine begins.of_rest (head?_append_cases ?_) (fun lone => absurd (.inl lone) closed)
    fun lone => absurd (.inr lone) closed
  rintro _ ⟨⟩
  decide

theorem append_blank {w : Text} (begins : Begins t r) (blank : w.Blank) : Begins t (r ++ w) := by
  have unmarked := blank.not_mem (show isBlank '\'' = false by decide)
  refine begins.of_rest (head?_append_cases fun c first => blank c (List.mem_of_mem_head? first))
    (fun _ paired => paired.append (.of_not_mem unmarked)) fun _ plain => ?_
  rw [List.mem_append, not_or]
  exact ⟨plain, blank.not_mem (by decide)⟩

end Begins

theorem tokenize_text_iff {t : Token} : tokenize t.text = [t] ↔ Begins t.text [] := by
  constructor
  · intro single
    obtain ⟨pieces, last, cut⟩ := exists_segmentation t.text
    have listed := cut.tokens.trans single
    cases cut with
    | last => cases listed
    | @token _ gap u r _ _ whole _ begins _ =>
      obtain ⟨rfl, -⟩ := List.cons.inj listed
      -- the token is the whole text, so nothing stands before or after it
      have length := congrArg List.length whole
      simp only [List.length_append] at length
      have empty : r = [] := List.eq_nil_of_length_eq_zero (by omega)
      rw [empty] at begins
      exact begins
  · intro begins
    have read := tokenize_of_begins Text.blank_nil begins
    rw [List.nil_append, List.append_nil] at read
    rw [read, tokenize_of_blank Text.blank_nil]

theorem tokenize_spaced_cons {t : Token} {tokens : List Token}
    (begins : Begins t.text (spaced tokens)) :
    tokenize (spaced (t :: tokens)) = t :: tokenize (spaced tokens) := by
  rw [Token.spaced_cons, tokenize_of_begins blank_space begins]

theorem tokenize_blank_append {gap : Text} (s : Text) (blank : gap.Blank) :
    tokenize (gap ++ s) = tokenize s := by
  obtain ⟨pieces, last, cut⟩ := exists_segmentation s
  rw [← cut.tokens]
  cases cut with
  | last blank' => exact tokenize_of_blank (List.forall_mem_append.2 ⟨blank, blank'⟩)
  | token whole blank' begins rest =>
    rw [whole, ← List.append_assoc,
      tokenize_of_begins (List.forall_mem_append.2 ⟨blank, blank'⟩) begins, ← rest.tokens,
      List.map_cons]

theorem tokenize_append_blank {w : Text} (s : Text) (blank : w.Blank) :
    tokenize (s ++ w) = tokenize s := by
  obtain ⟨pieces, last, cut⟩ := exists_segmentation s
  induction cut with
  | last blank' =>
    rw [tokenize_of_blank (List.forall_mem_append.2 ⟨blank', blank⟩), tokenize_of_blank blank']
  | token whole blank' begins _ ih =>
    rw [whole, List.append_assoc, List.append_assoc,
      tokenize_of_begins blank' (begins.append_blank blank), ih, tokenize_of_begins blank' begins]

theorem tokenize_append_space {s : Text} (closed : ∀ t ∈ tokenize s, ¬t.IsLone) (r : Text) :
    tokenize (s ++ ' ' :: r) = tokenize s ++ tokenize r := by
  obtain ⟨pieces, last, cut⟩ := exists_segmentation s
  rw [← cut.tokens] at closed ⊢
  induction cut with
  | @last s blank =>
    rw [← List.singleton_append, tokenize_blank_append _ blank,
      tokenize_blank_append _ blank_space]
    rfl
  | token whole blank begins _ ih =>
    obtain ⟨here, closed⟩ := List.forall_mem_cons.1 closed
    rw [whole, List.append_assoc, List.append_assoc,
      tokenize_of_begins blank (begins.append_space here r), ih closed]
    rfl

theorem tokenize_join (tokens : List Token) :
    tokenize (Token.join tokens) = tokenize (spaced tokens) := by
  cases tokens with
  | nil => rfl
  | cons t tokens =>
    rw [Token.spaced_cons, Token.join_cons, tokenize_blank_append _ blank_space]

/-- A token that is cut from its own text, and from that text between spaces too. -/
def Token.Stands (t : Token) : Prop := tokenize t.text = [t] ∧ ¬t.IsLone

instance (t : Token) : Decidable t.Stands := inferInstanceAs (Decidable (_ ∧ _))

theorem tokenize_join_of_stands {tokens : List Token} (stands : ∀ t ∈ tokens, t.Stands) :
    tokenize (Token.join tokens) = tokens := by
  rw [tokenize_join]
  induction tokens with
  | nil => exact tokenize_of_blank Text.blank_nil
  | cons t tokens ih =>
    obtain ⟨⟨single, closed⟩, stands⟩ := List.forall_mem_cons.1 stands
    have begins := (tokenize_text_iff.1 single).of_closed closed tokens
    rw [tokenize_spaced_cons begins, ih stands]

/-! ## Tokens of a text -/

theorem Segmentation.begins {s last : Text} {pieces : List (Text × Token)} {t : Token}
    (cut : Segmentation s pieces last) (mem : t ∈ pieces.map Prod.snd) : ∃ r, Begins t.text r := by
  induction cut with
  | last => cases mem
  | token _ _ begins _ ih =>
    rcases List.mem_cons.1 mem with rfl | mem
    · exact ⟨_, begins⟩
    · exact ih mem

theorem begins_of_mem_tokenize {s : Text} {t : Token} (mem : t ∈ tokenize s) :
    ∃ r, Begins t.text r := by
  obtain ⟨pieces, last, cut⟩ := exists_segmentation s
  rw [← cut.tokens] at mem
  exact cut.begins mem

/-- Every token of a text is cut from its own text alone. -/
theorem tokenize_text_of_mem {s : Text} {t : Token} (mem : t ∈ tokenize s) :
    tokenize t.text = [t] := by
  obtain ⟨r, begins⟩ := begins_of_mem_tokenize mem
  exact tokenize_text_iff.2 begins.alone

theorem stands_of_mem_tokenize {s : Text} (closed : ∀ t ∈ tokenize s, ¬t.IsLone) :
    ∀ t ∈ tokenize s, t.Stands :=
  fun t mem => ⟨tokenize_text_of_mem mem, closed t mem⟩

theorem mem_of_mem_tokenize {s : Text} {t : Token} {c : Char} (mem : t ∈ tokenize s)
    (inside : c ∈ t.text) : c ∈ s := by
  obtain ⟨pieces, last, cut⟩ := exists_segmentation s
  rw [← cut.tokens] at mem
  obtain ⟨piece, listed, rfl⟩ := List.mem_map.1 mem
  rw [cut.whole]
  refine List.mem_append_left _ (List.mem_flatMap.2 ⟨piece, listed, ?_⟩)
  exact List.mem_append_right _ inside

/-! ## Marks that nothing closes -/

-- Where all marks of a text pair up, no pair lies across the end of a token.
theorem Begins.paired {t r : Text} (begins : Begins t r) (paired : Paired (t ++ r)) :
    Paired t ∧ Paired r := by
  rcases begins.marks with ⟨body, inner, rfl, -⟩ | ⟨inner, rfl⟩ | ⟨body, -, rfl⟩ | ⟨-, rfl⟩ |
    ⟨unmarked, -⟩
  · rw [List.append_assoc, List.singleton_append] at paired
    exact Paired.of_literal inner paired
  · exact absurd paired inner.not_cons
  · rw [List.append_assoc, List.singleton_append] at paired
    obtain ⟨opened, after⟩ := paired.of_append_cons (by decide)
    exact ⟨opened.append (.of_not_mem (by decide)), after⟩
  · exact ⟨.of_not_mem (by decide), paired.of_append (by decide)⟩
  · exact ⟨.of_not_mem unmarked, paired.of_append unmarked⟩

theorem Segmentation.paired_spaced {s last : Text} {pieces : List (Text × Token)}
    (cut : Segmentation s pieces last) (paired : Paired s) :
    Paired (spaced (pieces.map Prod.snd)) := by
  induction cut with
  | last => exact .nil
  | token whole blank begins _ ih =>
    rw [whole] at paired
    obtain ⟨here, after⟩ := begins.paired (paired.of_append (blank.not_mem (by decide)))
    rw [List.map_cons, Token.spaced_cons]
    exact (Paired.of_not_mem (by decide)).append (here.append (ih after))

theorem Paired.spaced_tokenize {s : Text} (paired : Paired s) : Paired (spaced (tokenize s)) := by
  obtain ⟨pieces, last, cut⟩ := exists_segmentation s
  rw [← cut.tokens]
  exact cut.paired_spaced paired

theorem not_mem_spaced_tokenize {s : Text} {c : Char} (visible : isBlank c = false)
    (absent : c ∉ s) : c ∉ spaced (tokenize s) := by
  intro mem
  obtain ⟨t, listed, mem⟩ := List.mem_flatMap.1 mem
  rcases List.mem_cons.1 mem with rfl | mem
  · contradiction
  · exact absent (mem_of_mem_tokenize listed mem)

theorem Begins.respaced {t r : Text} (begins : Begins t r) : Begins t (spaced (tokenize r)) :=
  begins.of_spaced _ (fun _ paired => paired.spaced_tokenize)
    (fun _ unmarked => not_mem_spaced_tokenize (by decide) unmarked)

theorem Segmentation.tokenize_spaced {s last : Text} {pieces : List (Text × Token)}
    (cut : Segmentation s pieces last) :
    tokenize (spaced (pieces.map Prod.snd)) = pieces.map Prod.snd := by
  induction cut with
  | last => exact tokenize_of_blank Text.blank_nil
  | token _ _ begins rest ih =>
    have begins := begins.respaced
    rw [← rest.tokens] at begins
    rw [List.map_cons, tokenize_spaced_cons begins, ih]

/-- Cutting, writing out and cutting again gives the tokens of the first cut. -/
theorem tokenize_join_tokenize (s : Text) : tokenize (Token.join (tokenize s)) = tokenize s := by
  obtain ⟨pieces, last, cut⟩ := exists_segmentation s
  rw [tokenize_join, ← cut.tokens]
  exact cut.tokenize_spaced

end SqlDialect
