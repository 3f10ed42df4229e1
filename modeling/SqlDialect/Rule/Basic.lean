import SqlDialect.Fault
import SqlDialect.Token.Scan

/-! Rewrite rules on token sequences.

A pattern is a token sequence. Its wildcards `$0`, `$1`, … each stand for any one token; the
other tokens stand for themselves in any case. A rule replaces the places where its old
pattern matches by its new pattern, with the wildcards that the old pattern bound filled in.
-/

set_option autoImplicit false

namespace SqlDialect

structure Rule where
  old : List Token
  new : List Token
  /-- The search for a match looks for a token that is no wildcard. -/
  anchored : ∃ t ∈ old, t.isWildcard = false
  /-- Every wildcard is bound once. -/
  distinct : (old.filter Token.isWildcard).Nodup

namespace Rule

inductive Defect where
  | empty
  | noLiteral
  | repeatedWildcard (wildcard : Token)
  deriving DecidableEq

def Defect.message : Defect → Text
  | .empty => "old pattern is empty"
  | .noLiteral => "old pattern has no literal token to anchor on"
  | .repeatedWildcard wildcard => "wildcard " ++ wildcard.text ++ " appears more than once"

def Defect.toFault (old : List Token) (defect : Defect) : Fault :=
  .invalidRule (Token.join old) defect.message

def firstRepeat? : List Token → List Token → Option Token
  | _, [] => none
  | seen, t :: r => if t ∈ seen then some t else firstRepeat? (t :: seen) r

theorem nodup_of_firstRepeat? {seen r : List Token} (h : firstRepeat? seen r = none) :
    r.Nodup ∧ ∀ t ∈ r, t ∉ seen := by
  induction r generalizing seen with
  | nil => simp
  | cons t r ih =>
    simp only [firstRepeat?] at h
    split at h
    · cases h
    · rename_i fresh
      obtain ⟨nodup, apart⟩ := ih h
      refine ⟨List.nodup_cons.2 ⟨fun mem => apart t mem (by simp), nodup⟩, ?_⟩
      intro u mem
      rcases List.mem_cons.1 mem with rfl | mem
      · exact fresh
      · exact fun inSeen => apart u mem (by simp [inSeen])

def ofTokens? (old new : List Token) : Except Defect Rule :=
  if anchored : ∃ t ∈ old, t.isWildcard = false then
    match h : firstRepeat? [] (old.filter Token.isWildcard) with
    | some wildcard => .error (.repeatedWildcard wildcard)
    | none => .ok ⟨old, new, anchored, (nodup_of_firstRepeat? h).1⟩
  else if old = [] then .error .empty
  else .error .noLiteral

def ofText? (old new : Text) : Except Fault Rule :=
  (ofTokens? (tokenize old) (tokenize new)).mapError (Defect.toFault (tokenize old))

def anchor (r : Rule) : Nat := r.old.findIdx (!·.isWildcard)

theorem anchor_lt (r : Rule) : r.anchor < r.old.length := by
  obtain ⟨t, mem, literal⟩ := r.anchored
  exact List.findIdx_lt_length_of_exists ⟨t, mem, by simp [literal]⟩

def anchorToken (r : Rule) : Token := r.old.get ⟨r.anchor, r.anchor_lt⟩

/-- What the wildcards of a pattern stand for in a window of the same length, if the window
matches. -/
def bind? : List Token → List Token → Option (List (Token × Token))
  | [], [] => some []
  | p :: pattern, t :: window =>
    if p.isWildcard then (bind? pattern window).map ((p, t) :: ·)
    else if p.agrees t then bind? pattern window
    else none
  | _, _ => none

def substitute (r : Rule) (bindings : List (Token × Token)) : List Token :=
  r.new.map fun t => (bindings.lookup t).getD t

structure Scan where
  settled : List Token
  pending : List Token
  replaced : Nat

-- One look at the next place where the anchor stands: a window that matches is replaced, one that
-- does not is passed by one token. Nothing is left to do once no window fits.
def step (r : Rule) (s : Scan) : Option Scan :=
  match (s.pending.drop r.anchor).findIdx? (·.agrees r.anchorToken) with
  | none => none
  | some start =>
    if s.pending.length < start + r.old.length then none
    else
      match bind? r.old ((s.pending.drop start).take r.old.length) with
      | none =>
        some ⟨s.settled ++ s.pending.take (start + 1), s.pending.drop (start + 1), s.replaced⟩
      | some bindings =>
        some ⟨s.settled ++ s.pending.take start ++ r.substitute bindings,
          s.pending.drop (start + r.old.length), s.replaced + 1⟩

theorem length_pending_step_lt {r : Rule} {s t : Scan} (h : r.step s = some t) :
    t.pending.length < s.pending.length := by
  have positive := Nat.zero_lt_of_lt r.anchor_lt
  unfold step at h
  split at h
  · cases h
  split at h
  · cases h
  split at h <;> cases h <;> simp only [List.length_drop] <;> omega

def run (r : Rule) (s : Scan) : Scan :=
  match _h : r.step s with
  | none => s
  | some t => run r t
termination_by s.pending.length
decreasing_by exact length_pending_step_lt _h

-- The tokens rewritten, and the number of replacements. Matches are found from left to right and
-- do not overlap; what a replacement puts in is not looked at again.
def apply (r : Rule) (tokens : List Token) : List Token × Nat :=
  let s := r.run ⟨[], tokens, 0⟩
  (s.settled ++ s.pending, s.replaced)

/-- The rule of every item runs once, on what the rules before it have made, and its replacements
are counted with theirs. -/
def applyEach {α : Type} (rule : α → Rule) (items : List α) (made : List Token × Nat) :
    List Token × Nat :=
  items.foldl (fun (tokens, count) item =>
    let (after, replaced) := (rule item).apply tokens
    (after, count + replaced)) made

section

variable {α : Type} (rule : α → Rule)

@[simp] theorem applyEach_nil (made : List Token × Nat) : applyEach rule [] made = made := rfl

theorem applyEach_cons (item : α) (items : List α) (tokens : List Token) (count : Nat) :
    applyEach rule (item :: items) (tokens, count) =
      applyEach rule items
        (((rule item).apply tokens).1, count + ((rule item).apply tokens).2) := rfl

theorem applyEach_append (first second : List α) (made : List Token × Nat) :
    applyEach rule (first ++ second) made = applyEach rule second (applyEach rule first made) :=
  List.foldl_append

end

end Rule

end SqlDialect
