import SqlDialect.Proofs.Text.Position
import SqlDialect.Settings.Certificate

/-! The blocks of a file of certificates.

A text falls apart in one way into blocks, each with the text between it and the block before it,
and a rest that has no block. A block begins at the first begin mark behind the block before it and
ends with the first end mark from there on; the two may share hyphens. The blocks are found by a
loop that searches what is left of the text for one mark, what follows for the other, and takes the
block and the new rest by numbers of bytes. No such number lies behind the end or within a
character, and every turn leaves less of the text.
-/

set_option autoImplicit false

namespace SqlDialect.Certificate

open Text (StandsAt FirstAt)

/-! ## Marks -/

theorem length_beginMark_le {s : Text} {i : Nat} (begins : beginMark <+: s)
    (stands : StandsAt endMark s i) : beginMark.length ≤ i + endMark.length := by
  obtain ⟨t, rfl⟩ := begins
  by_contra short
  have within : StandsAt endMark beginMark i :=
    (Text.standsAt_append_iff (Nat.le_of_not_le short)).1 stands
  have nowhere : ∀ j < 2, ¬StandsAt endMark beginMark j := by decide
  have lengths : beginMark.length = 27 ∧ endMark.length = 25 := by decide
  exact nowhere i (by omega) within

/-! ## Blocks and what stands between them -/

structure IsBlock (gap block later : Text) : Prop where
  begins : beginMark <+: block
  /-- The end mark stands at the end of the block and nowhere else in it. -/
  ends : ∀ i, StandsAt endMark block i ↔ i + endMark.length = block.length
  first : FirstAt beginMark (gap ++ (block ++ later)) gap.length

/-- The text of blocks, each behind the text before it, and of a rest. -/
def joinPieces (pieces : List (Text × Text)) (rest : Text) : Text :=
  pieces.foldr (fun (gap, block) later => gap ++ (block ++ later)) rest

/-- A text divided at all of its blocks. -/
structure Division (s : Text) (pieces : List (Text × Text)) (rest : Text) : Prop where
  whole : s = joinPieces pieces rest
  blocks : ∀ before gap block after, pieces = before ++ (gap, block) :: after →
    IsBlock gap block (joinPieces after rest)
  /-- No end mark stands at the first begin mark of the rest or behind it. -/
  rest : ∀ i j, StandsAt beginMark rest i → StandsAt endMark rest j → j < i

@[simp] theorem joinPieces_cons (gap block : Text) (pieces : List (Text × Text)) (rest : Text) :
    joinPieces ((gap, block) :: pieces) rest = gap ++ (block ++ joinPieces pieces rest) := rfl

theorem firstAt_endMark_iff {body later : Text} :
    FirstAt endMark (body ++ endMark ++ later) body.length ↔
      ∀ i, StandsAt endMark (body ++ endMark) i ↔
        i + endMark.length = (body ++ endMark).length := by
  rw [List.length_append]
  have atEnd : StandsAt endMark (body ++ endMark) body.length :=
    Text.standsAt_length_append.2 List.prefix_rfl
  constructor
  · intro first i
    constructor
    · intro stands
      have inside := stands.length_le (by decide)
      rw [List.length_append] at inside
      have notBefore : ¬i < body.length := fun less =>
        first.none_before i less (stands.append later)
      omega
    · intro last
      rwa [Nat.add_right_cancel last]
  · intro only
    refine ⟨atEnd.append later, fun i less stands => ?_⟩
    have inside : i + endMark.length ≤ (body ++ endMark).length := by
      rw [List.length_append]
      omega
    have last := (only i).1 ((Text.standsAt_append_iff inside).1 stands)
    omega

/-- A block is what is cut at the first begin mark and behind the first end mark from there on. -/
theorem isBlock_iff_cut {gap block later : Text} :
    IsBlock gap block later ↔
      Text.cut? beginMark (gap ++ (block ++ later)) = some (gap, block ++ later) ∧
      ∃ body, Text.cut? endMark (block ++ later) = some (body, endMark ++ later) ∧
        block = body ++ endMark := by
  constructor
  · intro isBlock
    refine ⟨Text.cut?_eq_some_iff.2 ⟨rfl, isBlock.first⟩, ?_⟩
    have long : endMark.length ≤ block.length :=
      Nat.le_trans (by decide) isBlock.begins.length_le
    obtain ⟨body, rfl⟩ : endMark <:+ block := by
      have stands : endMark <+: block.drop (block.length - endMark.length) :=
        (isBlock.ends _).2 (Nat.sub_add_cancel long)
      rw [stands.eq_of_length (by rw [List.length_drop]; omega)]
      exact List.drop_suffix _ _
    have first : FirstAt endMark (body ++ endMark ++ later) body.length :=
      firstAt_endMark_iff.2 isBlock.ends
    exact ⟨body, Text.cut?_eq_some_iff.2 ⟨List.append_assoc _ _ _, first⟩, rfl⟩
  · rintro ⟨begun, body, ended, rfl⟩
    have first := (Text.cut?_eq_some_iff.1 begun).2
    have last := (Text.cut?_eq_some_iff.1 ended).2
    have begins : beginMark <+: body ++ endMark ++ later :=
      Text.standsAt_length_append.1 first.stands
    have long : beginMark.length ≤ (body ++ endMark).length := by
      rw [List.length_append]
      exact length_beginMark_le begins last.stands
    exact ⟨List.prefix_of_prefix_length_le begins (List.prefix_append _ _) long,
      firstAt_endMark_iff.1 last, first⟩

theorem IsBlock.length_lt {gap block later : Text} (isBlock : IsBlock gap block later) :
    later.length < (gap ++ (block ++ later)).length := by
  have long : 0 < block.length := Nat.lt_of_lt_of_le (by decide) isBlock.begins.length_le
  simp only [List.length_append]
  omega

/-! ## Divisions -/

namespace Division

variable {s gap block rest : Text} {pieces : List (Text × Text)}

theorem nil_iff :
    Division s [] rest ↔
      s = rest ∧ ∀ i j, StandsAt beginMark rest i → StandsAt endMark rest j → j < i :=
  ⟨fun division => ⟨division.whole, division.rest⟩, fun ⟨whole, apart⟩ => ⟨whole, by simp, apart⟩⟩

-- What follows the first block is divided in the same way.
theorem cons_iff :
    Division s ((gap, block) :: pieces) rest ↔
      s = gap ++ (block ++ joinPieces pieces rest) ∧ IsBlock gap block (joinPieces pieces rest) ∧
      Division (joinPieces pieces rest) pieces rest := by
  constructor
  · intro ⟨whole, blocks, apart⟩
    refine ⟨whole, blocks [] gap block pieces rfl, rfl, ?_, apart⟩
    rintro before gap' block' after rfl
    exact blocks ((gap, block) :: before) gap' block' after rfl
  · intro ⟨whole, isBlock, later⟩
    refine ⟨whole, fun before gap' block' after same => ?_, later.rest⟩
    cases before with
    | nil =>
      cases same
      exact isBlock
    | cons piece before =>
      cases same
      exact later.blocks before gap' block' after rfl

/-- Every begin mark that an end mark follows starts within a block, if only in the hyphens at its
end. -/
theorem exists_block (division : Division s pieces rest) {i j : Nat}
    (begins : StandsAt beginMark s i) (ends : StandsAt endMark s j) (behind : i ≤ j) :
    ∃ before gap block after, pieces = before ++ (gap, block) :: after ∧
      (joinPieces before gap).length ≤ i ∧ i < (joinPieces before gap).length + block.length := by
  induction pieces generalizing s i j with
  | nil =>
    obtain ⟨rfl, apart⟩ := nil_iff.1 division
    exact absurd (apart i j begins ends) (Nat.not_lt.2 behind)
  | cons piece pieces ih =>
    obtain ⟨gap, block⟩ := piece
    obtain ⟨rfl, isBlock, later⟩ := cons_iff.1 division
    have started : gap.length ≤ i :=
      Nat.le_of_not_lt fun less => isBlock.first.none_before i less begins
    by_cases inside : i < gap.length + block.length
    · exact ⟨[], gap, block, pieces, rfl, started, inside⟩
    · rw [← List.append_assoc] at begins ends
      have passed : (gap ++ block).length ≤ i := by
        rw [List.length_append]
        omega
      obtain ⟨i, rfl⟩ := Nat.exists_eq_add_of_le passed
      obtain ⟨j, rfl⟩ := Nat.exists_eq_add_of_le (Nat.le_trans passed behind)
      obtain ⟨before, gap', block', after, rfl, low, high⟩ :=
        ih later (Text.standsAt_length_add_append.1 begins)
          (Text.standsAt_length_add_append.1 ends) (Nat.le_of_add_le_add_left behind)
      refine ⟨(gap, block) :: before, gap', block', after, rfl, ?_, ?_⟩ <;>
        simp only [joinPieces_cons, List.length_append] <;> omega

end Division

/-! ## Blocks found -/

theorem blocks_eq_nil_iff {s : Text} :
    blocks s = [] ↔ ∀ i j, StandsAt beginMark s i → StandsAt endMark s j → j < i := by
  rw [blocks]
  split
  next missing =>
    have nowhere := Text.cut?_eq_none_iff_forall.1 missing
    exact iff_of_true rfl fun i _ begins => absurd begins (nowhere i)
  next gap found begun =>
    obtain ⟨rfl, first⟩ := Text.cut?_eq_some_iff.1 begun
    split
    next missing =>
      refine iff_of_true rfl fun i j begins ends => ?_
      by_contra behind
      have started : gap.length ≤ i :=
        Nat.le_of_not_lt fun less => first.none_before i less begins
      obtain ⟨k, rfl⟩ := Nat.exists_eq_add_of_le (Nat.le_trans started (Nat.le_of_not_lt behind))
      exact Text.cut?_eq_none_iff_forall.1 missing k (Text.standsAt_length_add_append.1 ends)
    next body left ended =>
      refine iff_of_false (List.cons_ne_nil _ _) fun apart => ?_
      have last := (Text.cut?_eq_some_iff.1 ended).2.stands
      have before := apart _ _ first.stands (Text.standsAt_length_add_append.2 last)
      omega

theorem blocks_of_isBlock {gap block later : Text} (isBlock : IsBlock gap block later) :
    blocks (gap ++ (block ++ later)) = block :: blocks later := by
  obtain ⟨begun, body, ended, rfl⟩ := isBlock_iff_cut.1 isBlock
  rw [blocks]
  split
  next missing =>
    rw [begun] at missing
    cases missing
  next cut =>
    rw [begun] at cut
    cases cut
    split
    next missing =>
      rw [ended] at missing
      cases missing
    next cut =>
      rw [ended] at cut
      cases cut
      rw [List.drop_left]

theorem exists_isBlock {s : Text} (found : blocks s ≠ []) :
    ∃ gap block later, s = gap ++ (block ++ later) ∧ IsBlock gap block later := by
  rw [blocks] at found
  split at found
  · exact absurd rfl found
  next gap behind begun =>
    split at found
    · exact absurd rfl found
    next body left ended =>
      obtain rfl := Text.cut?_append begun
      obtain rfl := Text.cut?_append ended
      obtain ⟨later, rfl⟩ : endMark <+: left :=
        Text.standsAt_length_append.1 (Text.cut?_eq_some_iff.1 ended).2.stands
      rw [← List.append_assoc body] at begun ended
      exact ⟨gap, body ++ endMark, later, by rw [List.append_assoc body],
        isBlock_iff_cut.2 ⟨begun, body, ended, rfl⟩⟩

/-- What holds of a text without blocks, and of a block and its surroundings whenever it holds of
what follows, holds of every text. -/
theorem block_induction {motive : Text → Prop} (rest : ∀ s, blocks s = [] → motive s)
    (step : ∀ gap block later, IsBlock gap block later → motive later →
      motive (gap ++ (block ++ later))) (s : Text) : motive s := by
  by_cases empty : blocks s = []
  · exact rest s empty
  · obtain ⟨gap, block, later, whole, isBlock⟩ := exists_isBlock empty
    have shorter : later.length < s.length := by
      rw [whole]
      exact isBlock.length_lt
    rw [whole]
    exact step gap block later isBlock (block_induction rest step later)
termination_by s.length

theorem exists_division (s : Text) :
    ∃ pieces rest, Division s pieces rest ∧ blocks s = pieces.map Prod.snd := by
  induction s using block_induction with
  | rest s empty => exact ⟨[], s, Division.nil_iff.2 ⟨rfl, blocks_eq_nil_iff.1 empty⟩, empty⟩
  | step gap block later isBlock ih =>
    obtain ⟨pieces, rest, division, found⟩ := ih
    obtain rfl := division.whole
    exact ⟨(gap, block) :: pieces, rest, Division.cons_iff.2 ⟨rfl, isBlock, division⟩,
      by rw [blocks_of_isBlock isBlock, found, List.map_cons]⟩

theorem Division.blocks_eq {s rest : Text} {pieces : List (Text × Text)}
    (division : Division s pieces rest) : Certificate.blocks s = pieces.map Prod.snd := by
  induction pieces generalizing s with
  | nil =>
    obtain ⟨rfl, apart⟩ := nil_iff.1 division
    exact blocks_eq_nil_iff.2 apart
  | cons piece pieces ih =>
    obtain ⟨rfl, isBlock, later⟩ := cons_iff.1 division
    rw [blocks_of_isBlock isBlock, ih later, List.map_cons]

/-! ## The loop -/

inductive Turn where
  | done
  /-- A number of bytes lay behind the end or within a character. -/
  | overrun
  | next (block rest : Text)

/-- One turn: the bytes before the begin mark, and those between the two marks, are counted by the
searches, and the block and the rest are taken by these numbers. -/
def turn (s : Text) : Turn :=
  match Text.find? beginMark s with
  | none => .done
  | some start =>
    match Text.splitAt? start s with
    | none => .overrun
    | some (_, found) =>
      match Text.find? endMark found with
      | none => .done
      | some length =>
        let stop := start + length + Text.byteLength endMark
        match Text.slice? s start stop, Text.splitAt? stop s with
        | some block, some (_, rest) => .next block rest
        | _, _ => .overrun

inductive Turns : Text → List Text → Prop where
  | done {s : Text} : turn s = .done → Turns s []
  | next {s block rest : Text} {found : List Text} : turn s = .next block rest →
      Turns rest found → Turns s (block :: found)

theorem turn_of_isBlock {gap block later : Text} (isBlock : IsBlock gap block later) :
    turn (gap ++ (block ++ later)) = .next block later := by
  obtain ⟨begun, body, ended, rfl⟩ := isBlock_iff_cut.1 isBlock
  have stop : Text.byteLength gap + Text.byteLength body + Text.byteLength endMark =
      Text.byteLength (gap ++ (body ++ endMark)) := by
    rw [Text.byteLength_append, Text.byteLength_append, Nat.add_assoc]
  have parted := Text.splitAt?_append (gap ++ (body ++ endMark)) later
  have taken := Text.slice?_append gap (body ++ endMark) later
  rw [List.append_assoc] at parted taken
  simp only [turn, Text.find?_of_cut? begun, Text.find?_of_cut? ended, Text.splitAt?_append, stop,
    parted, taken]

theorem turn_of_blocks_eq_nil {s : Text} (empty : blocks s = []) : turn s = .done := by
  rw [blocks] at empty
  split at empty
  next missing => rw [turn, Text.find?_eq_none_iff.2 missing]
  next gap behind begun =>
    split at empty
    next missing =>
      obtain rfl := Text.cut?_append begun
      simp only [turn, Text.find?_of_cut? begun, Text.splitAt?_append,
        Text.find?_eq_none_iff.2 missing]
    next => cases empty

theorem turn_ne_overrun (s : Text) : turn s ≠ .overrun := by
  induction s using block_induction with
  | rest s empty =>
    rw [turn_of_blocks_eq_nil empty]
    exact nofun
  | step gap block later isBlock =>
    rw [turn_of_isBlock isBlock]
    exact nofun

theorem length_lt_of_turn {s block rest : Text} (turned : turn s = .next block rest) :
    rest.length < s.length := by
  induction s using block_induction with
  | rest s empty =>
    rw [turn_of_blocks_eq_nil empty] at turned
    cases turned
  | step gap found later isBlock =>
    rw [turn_of_isBlock isBlock] at turned
    cases turned
    exact isBlock.length_lt

theorem turns_blocks (s : Text) : Turns s (blocks s) := by
  induction s using block_induction with
  | rest s empty =>
    rw [empty]
    exact .done (turn_of_blocks_eq_nil empty)
  | step gap block later isBlock ih =>
    rw [blocks_of_isBlock isBlock]
    exact .next (turn_of_isBlock isBlock) ih

/-- The loop comes to an end on every text, and what it finds are the blocks of the one division of
the text: they come out whole and in order, and none is passed over. -/
theorem blocks_divide (s : Text) :
    (∀ t, turn t ≠ .overrun) ∧
    (∀ t block rest, turn t = .next block rest → rest.length < t.length) ∧
    Turns s (blocks s) ∧
    (∃ pieces rest, Division s pieces rest ∧ blocks s = pieces.map Prod.snd ∧
      ∀ i j, StandsAt beginMark s i → StandsAt endMark s j → i ≤ j →
        ∃ before gap block after, pieces = before ++ (gap, block) :: after ∧
          (joinPieces before gap).length ≤ i ∧
          i < (joinPieces before gap).length + block.length) ∧
    ∀ pieces rest, Division s pieces rest → pieces.map Prod.snd = blocks s := by
  obtain ⟨pieces, rest, division, found⟩ := exists_division s
  refine ⟨turn_ne_overrun, fun _ _ _ => length_lt_of_turn, turns_blocks s, ?_,
    fun _ _ other => other.blocks_eq.symm⟩
  exact ⟨pieces, rest, division, found, fun _ _ => division.exists_block⟩

end SqlDialect.Certificate
