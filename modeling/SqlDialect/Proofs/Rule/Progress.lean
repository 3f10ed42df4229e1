import SqlDialect.Proofs.Rule.Rewriting

/-! A rule at work in one list of tokens, with a cursor in it.

A replacement may be longer than the window that it takes the place of, and may have the old pattern
in it again, so the length of the list says nothing about the end of the work. What lies behind the
cursor is fewer tokens after every turn. Windows are taken by position here, and a slice may run
over the end of the list; none does.
-/

set_option autoImplicit false

namespace SqlDialect

/-- The tokens from a position up to another, if the list goes that far. -/
def slice? (tokens : List Token) (start stop : Nat) : Option (List Token) :=
  if start ≤ stop ∧ stop ≤ tokens.length then some ((tokens.take stop).drop start) else none

/-- Other tokens in the place of those from a position up to another, if the list goes that far. -/
def splice? (tokens : List Token) (start stop : Nat) (inserted : List Token) :
    Option (List Token) :=
  if start ≤ stop ∧ stop ≤ tokens.length then
    some (tokens.take start ++ inserted ++ tokens.drop stop)
  else none

theorem slice?_append (settled pending : List Token) {start length : Nat}
    (inside : start + length ≤ pending.length) :
    slice? (settled ++ pending) (settled.length + start) (settled.length + start + length) =
      some ((pending.drop start).take length) := by
  have within : settled.length + start ≤ settled.length + start + length ∧
      settled.length + start + length ≤ (settled ++ pending).length := by
    rw [List.length_append]
    omega
  rw [slice?, if_pos within, Nat.add_assoc, List.take_length_add_append, List.drop_length_add_append,
    List.drop_take, Nat.add_sub_cancel_left]

theorem splice?_append (settled pending inserted : List Token) {start length : Nat}
    (inside : start + length ≤ pending.length) :
    splice? (settled ++ pending) (settled.length + start) (settled.length + start + length)
        inserted =
      some (settled ++ pending.take start ++ inserted ++ pending.drop (start + length)) := by
  have within : settled.length + start ≤ settled.length + start + length ∧
      settled.length + start + length ≤ (settled ++ pending).length := by
    rw [List.length_append]
    omega
  rw [splice?, if_pos within, Nat.add_assoc, List.take_length_add_append,
    List.drop_length_add_append]

namespace Rule

/-- The tokens with the cursor up to which they are settled, and the number of replacements. -/
structure Pass where
  tokens : List Token
  cursor : Nat
  replaced : Nat

def Pass.remaining (p : Pass) : Nat := p.tokens.length - p.cursor

inductive Turn where
  | done
  | overrun
  | next (pass : Pass)

-- A look at the window that begins at a position. One that does not match is passed by one token,
-- and one that overhangs the end is the last.
def turnAt (r : Rule) (p : Pass) (start : Nat) : Turn :=
  let stop := start + r.old.length
  if p.tokens.length < stop then .done
  else
    match slice? p.tokens start stop with
    | none => .overrun
    | some window =>
      match bind? r.old window with
      | none => .next ⟨p.tokens, start + 1, p.replaced⟩
      | some bindings =>
        let inserted := r.substitute bindings
        match splice? p.tokens start stop inserted with
        | none => .overrun
        | some tokens => .next ⟨tokens, start + inserted.length, p.replaced + 1⟩

/-- One turn: a look at the window around the next place of the anchor. -/
def turn (r : Rule) (p : Pass) : Turn :=
  let searchFrom := p.cursor + r.anchor
  match (p.tokens.drop searchFrom).findIdx? (·.agrees r.anchorToken) with
  | none => .done
  | some found => r.turnAt p (searchFrom + found - r.anchor)

/-- So many turns lead from one state to another, at which there is nothing left to do. -/
inductive Turns (r : Rule) : Nat → Pass → Pass → Prop where
  | done {p : Pass} : r.turn p = .done → Turns r 0 p p
  | next {n : Nat} {p q last : Pass} : r.turn p = .next q → Turns r n q last →
      Turns r (n + 1) p last

/-! ## The list in one and the list in two -/

def Scan.pass (s : Scan) : Pass := ⟨s.settled ++ s.pending, s.settled.length, s.replaced⟩

theorem Scan.remaining_pass (s : Scan) : s.pass.remaining = s.pending.length := by
  simp [Scan.pass, Pass.remaining]

def Turn.ofStep : Option Scan → Turn
  | none => .done
  | some s => .next s.pass

theorem turn_pass (r : Rule) (s : Scan) : r.turn s.pass = .ofStep (r.step s) := by
  have searched : (s.settled ++ s.pending).drop (s.settled.length + r.anchor) =
      s.pending.drop r.anchor := List.drop_length_add_append _
  unfold turn step
  simp only [Scan.pass, searched]
  cases (s.pending.drop r.anchor).findIdx? (·.agrees r.anchorToken) with
  | none => rfl
  | some found =>
    have start : s.settled.length + r.anchor + found - r.anchor = s.settled.length + found := by
      omega
    simp only [start, turnAt, List.length_append]
    by_cases overhang : s.pending.length < found + r.old.length
    · rw [if_pos overhang, if_pos (by omega)]
      rfl
    · have inside : found + r.old.length ≤ s.pending.length := Nat.le_of_not_lt overhang
      rw [if_neg overhang, if_neg (by omega), slice?_append _ _ inside]
      cases bound : bind? r.old ((s.pending.drop found).take r.old.length) with
      | none =>
        have length : (s.pending.take (found + 1)).length = found + 1 :=
          List.length_take_of_le (by have := r.anchor_lt; omega)
        simp [bound, Turn.ofStep, Scan.pass, length, Nat.add_assoc]
      | some bindings =>
        have length : (s.pending.take found).length = found :=
          List.length_take_of_le (Nat.le_of_add_right_le inside)
        simp only [bound, splice?_append _ _ _ inside]
        simp [Turn.ofStep, Scan.pass, length, Nat.add_assoc]

theorem turn_cases (r : Rule) (p : Pass) : r.turn p = .done ∨ ∃ s : Scan, s.pass = p := by
  by_cases inside : p.cursor ≤ p.tokens.length
  · right
    refine ⟨⟨p.tokens.take p.cursor, p.tokens.drop p.cursor, p.replaced⟩, ?_⟩
    simp [Scan.pass, inside]
  · left
    have none : p.tokens.drop (p.cursor + r.anchor) = [] := List.drop_eq_nil_of_le (by omega)
    rw [turn, none]
    rfl

theorem turn_ne_overrun (r : Rule) (p : Pass) : r.turn p ≠ .overrun := by
  rcases r.turn_cases p with done | ⟨s, rfl⟩
  · rw [done]
    exact nofun
  · rw [turn_pass]
    cases r.step s <;> exact nofun

theorem remaining_lt_of_turn {r : Rule} {p q : Pass} (turned : r.turn p = .next q) :
    q.remaining < p.remaining := by
  rcases r.turn_cases p with done | ⟨s, rfl⟩
  · rw [done] at turned
    cases turned
  · rw [turn_pass] at turned
    cases look : r.step s with
    | none =>
      rw [look] at turned
      cases turned
    | some t =>
      rw [look] at turned
      cases turned
      rw [Scan.remaining_pass, Scan.remaining_pass]
      exact length_pending_step_lt look

theorem exists_turns (r : Rule) (s : Scan) :
    ∃ n ≤ s.pending.length, Turns r n s.pass (r.run s).pass := by
  fun_induction run r s with
  | case1 s done => exact ⟨0, Nat.zero_le _, .done (by rw [turn_pass, done]; rfl)⟩
  | case2 s t look ih =>
    obtain ⟨n, bounded, turns⟩ := ih
    have fewer := length_pending_step_lt look
    exact ⟨n + 1, by omega, .next (by rw [turn_pass, look]; rfl) turns⟩

/-! ## Lengths -/

/-- Each replacement took as many tokens from those given as the old pattern has, and put in as many
as the new one has. -/
structure Scan.Counted (r : Rule) (total : Nat) (s : Scan) : Prop where
  used : s.replaced * r.old.length + s.pending.length ≤ total
  made : s.settled.length + s.pending.length + s.replaced * r.old.length =
    total + s.replaced * r.new.length

theorem Scan.Counted.step {r : Rule} {total : Nat} {s t : Scan} (counted : s.Counted r total)
    (look : r.step s = some t) : t.Counted r total := by
  obtain ⟨used, made⟩ := counted
  unfold Rule.step at look
  split at look
  · cases look
  split at look
  · cases look
  split at look <;> cases look
  · constructor <;>
      simp only [List.length_append, List.length_take, List.length_drop] <;> omega
  · constructor <;>
      simp only [List.length_append, List.length_take, List.length_drop, substitute,
        List.length_map, Nat.add_mul, Nat.one_mul] <;> omega

theorem Scan.Counted.run {r : Rule} {total : Nat} {s : Scan} (counted : s.Counted r total) :
    (r.run s).Counted r total := by
  fun_induction Rule.run r s with
  | case1 s done => exact counted
  | case2 s t look ih => exact ih (counted.step look)

theorem counted_apply (r : Rule) (tokens : List Token) :
    (r.apply tokens).2 * r.old.length ≤ tokens.length ∧
      (r.apply tokens).1.length + (r.apply tokens).2 * r.old.length =
        tokens.length + (r.apply tokens).2 * r.new.length := by
  have counted : Scan.Counted r tokens.length (r.run ⟨[], tokens, 0⟩) :=
    Scan.Counted.run ⟨by simp, by simp⟩
  refine ⟨Nat.le_of_add_right_le counted.used, ?_⟩
  rw [apply, List.length_append]
  exact counted.made

/-- A rule comes to an end whatever it puts in: no slice runs over the end, every turn leaves fewer
tokens behind the cursor, and each replacement changes the number of tokens by the difference of the
two patterns. -/
theorem apply_terminates (r : Rule) (tokens : List Token) :
    (∀ p, r.turn p ≠ .overrun) ∧
    (∀ p q, r.turn p = .next q → q.remaining < p.remaining) ∧
    (∃ n last, n ≤ tokens.length ∧ Turns r n ⟨tokens, 0, 0⟩ last ∧
      r.apply tokens = (last.tokens, last.replaced)) ∧
    (r.apply tokens).2 * r.old.length ≤ tokens.length ∧
    (r.apply tokens).1.length + (r.apply tokens).2 * r.old.length =
      tokens.length + (r.apply tokens).2 * r.new.length := by
  refine ⟨r.turn_ne_overrun, fun _ _ => remaining_lt_of_turn, ?_, r.counted_apply tokens⟩
  obtain ⟨n, bounded, turns⟩ := r.exists_turns ⟨[], tokens, 0⟩
  exact ⟨n, _, bounded, turns, rfl⟩

end Rule

end SqlDialect
