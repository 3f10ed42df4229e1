import SqlDialect.Proofs.Schema.Declaration
import SqlDialect.Proofs.Schema.ImportRun
import SqlDialect.Proofs.Token.Spelling

/-! Statements in other letters.

Every stage of a translation looks at tokens up to the case of their letters and hands on what a
wildcard stands for as it is. So two statements that differ in case alone are taken for the same
kind, match the same rules at the same places, and come out different in case alone.
-/

set_option autoImplicit false

namespace SqlDialect

namespace Token

theorem agrees_fold_right (p t : Token) : p.agrees t.fold = p.agrees t :=
  (agrees_congr t.agrees_fold p).symm

theorem agrees_fold_left (t p : Token) : t.fold.agrees p = t.agrees p :=
  (agrees_congr_left t.agrees_fold p).symm

theorem isWildcard_fold (t : Token) : t.fold.isWildcard = t.isWildcard := by
  rcases t with ⟨_ | ⟨c, digits⟩⟩
  · rfl
  by_cases dollar : c = '$'
  · subst dollar
    simp [isWildcard, fold, Text.fold, Function.comp_def, List.all_map]
  · have other : c.toLower ≠ '$' := mt (toLower_eq_iff (by decide)).1 dollar
    simp [isWildcard, fold, Text.fold, dollar, other]

/-- Two token sequences that differ in the case of letters alone. -/
def Alike (a b : List Token) : Prop := a.map fold = b.map fold

theorem Alike.tokenize {a b : Text} (same : a.agrees b = true) :
    Alike (SqlDialect.tokenize a) (SqlDialect.tokenize b) := by
  unfold Alike
  rw [← tokenize_fold, ← tokenize_fold, Text.agrees_iff.1 same]

theorem Alike.join {a b : List Token} (alike : Alike a b) :
    (Token.join a).agrees (Token.join b) = true := by
  rw [Text.agrees_iff, fold_join, fold_join, alike]

end Token

open Token (Alike)

/-! ## Rules -/

namespace Rule

theorem fits_map_fold {pattern window : List Token} :
    Fits pattern (window.map Token.fold) ↔ Fits pattern window := by
  simp only [Fits, List.forall₂_map_right_iff, Token.agrees_fold_right]

theorem fold_fill (old window : List Token) (t : Token) :
    (fill old (window.map Token.fold) t).fold = (fill old window t).fold := by
  unfold fill
  split
  · rw [List.getD_eq_getElem?_getD, List.getD_eq_getElem?_getD, List.getElem?_map]
    cases window[old.idxOf t]? with
    | none => rfl
    | some u => exact u.fold_fold
  · rfl

/-- The windows that fit are the same in lower case, and so are their places. -/
theorem rewrite_map_fold (old new tokens : List Token) :
    Alike (rewrite old new (tokens.map Token.fold)).1 (rewrite old new tokens).1 ∧
      (rewrite old new (tokens.map Token.fold)).2 = (rewrite old new tokens).2 := by
  have window (t : Token) (rest : List Token) :
      (t.fold :: rest.map Token.fold).take old.length =
        ((t :: rest).take old.length).map Token.fold := by
    rw [List.map_take, List.map_cons]
  fun_induction rewrite old new tokens with
  | case1 =>
    rw [List.map_nil, rewrite]
    exact ⟨rfl, rfl⟩
  | case2 t rest fits after count read ih =>
    rw [read] at ih
    obtain ⟨alike, counts⟩ := ih
    rw [List.map_cons, rewrite, window, if_pos (fits_map_fold.2 fits), ← List.map_drop]
    refine ⟨?_, congrArg (· + 1) counts⟩
    have filled (window : List Token) :
        (new.map (fill old (window.map Token.fold))).map Token.fold =
          (new.map (fill old window)).map Token.fold := by
      rw [List.map_map, List.map_map]
      exact List.map_congr_left fun p _ => fold_fill old window p
    simp only [Alike, List.map_append, filled]
    rw [alike]
  | case3 t rest differs after count read ih =>
    rw [read] at ih
    obtain ⟨alike, counts⟩ := ih
    rw [List.map_cons, rewrite, window, if_neg (mt fits_map_fold.1 differs)]
    refine ⟨?_, counts⟩
    simp only [Alike, List.map_cons, t.fold_fold]
    rw [alike]

theorem alike_apply (r : Rule) {a b : List Token} (alike : Alike a b) :
    Alike (r.apply a).1 (r.apply b).1 ∧ (r.apply a).2 = (r.apply b).2 := by
  simp only [apply_eq_rewrite]
  obtain ⟨first, count⟩ := rewrite_map_fold r.old r.new a
  obtain ⟨second, count'⟩ := rewrite_map_fold r.old r.new b
  rw [alike] at first count
  exact ⟨first.symm.trans second, count.symm.trans count'⟩

theorem alike_applyEach {α : Type} (rule : α → Rule) (items : List α) {a b : List Token}
    (alike : Alike a b) (n : Nat) :
    let run (tokens : List Token) :=
      applyEach rule items (tokens, n)
    Alike (run a).1 (run b).1 ∧ (run a).2 = (run b).2 := by
  induction items generalizing a b n with
  | nil => exact ⟨alike, rfl⟩
  | cons item items ih =>
    obtain ⟨here, count⟩ := (rule item).alike_apply alike
    simp only [applyEach_cons, count]
    exact ih here _

end Rule

theorem RuleTable.alike_apply (table : RuleTable) {a b : List Token} (alike : Alike a b) :
    Alike (table.apply a).1 (table.apply b).1 ∧ (table.apply a).2 = (table.apply b).2 :=
  Rule.alike_applyEach Prod.snd table.entries alike 0

theorem EnumRegistry.alike_apply (registry : EnumRegistry) {a b : List Token}
    (alike : Alike a b) :
    Alike (registry.apply a).1 (registry.apply b).1 ∧
      (registry.apply a).2 = (registry.apply b).2 :=
  Rule.alike_applyEach EnumType.rule registry.types alike 0

/-! ## Kinds and declarations -/

namespace StatementKind

theorem ofIndex_map_fold (tokens : List Token) :
    ofIndex (tokens.map Token.fold) = ofIndex tokens := by
  have filtered : (tokens.map Token.fold).any (·.agrees "WHERE") =
      tokens.any (·.agrees "WHERE") := by
    simp only [List.any_map, Function.comp_def, Token.agrees_fold_left]
  unfold ofIndex
  rw [filtered]
  cases tokens with
  | nil => rfl
  | cons name _ =>
    have special : isSpecialIndex name.fold.text = isSpecialIndex name.text := by
      unfold isSpecialIndex Token.fold
      rw [Text.fold_fold]
    rw [List.map_cons]
    simp only [special]

theorem ofTokens_map_fold (tokens : List Token) :
    ofTokens (tokens.map Token.fold) = ofTokens tokens := by
  have word (i : Nat) (keyword : Token) :
      ((tokens.map Token.fold)[i]?).any (·.agrees keyword) =
        (tokens[i]?).any (·.agrees keyword) := by
    rw [List.getElem?_map]
    cases tokens[i]? with
    | none => rfl
    | some t => exact t.agrees_fold_left keyword
  simp only [ofTokens, word, ← List.map_drop, ofIndex_map_fold]

theorem ofText_congr {a b : Text} (same : a.agrees b = true) : ofText a = ofText b := by
  rw [ofText, ← ofTokens_map_fold, Alike.tokenize same, ofTokens_map_fold, ofText]

end StatementKind

namespace EnumType

theorem findIdx?_map_fold (tokens : List Token) {c : Char} (sign : c.isAlpha = false) :
    (tokens.map Token.fold).findIdx? (· == ⟨[c]⟩) = tokens.findIdx? (· == ⟨[c]⟩) := by
  have whole (t : Token) : t.fold = ⟨[c]⟩ ↔ t = ⟨[c]⟩ := by
    rcases t with ⟨_ | ⟨d, s⟩⟩
    · simp [Token.fold, Text.fold]
    · simp [Token.fold, Text.fold, toLower_eq_iff sign]
  rw [List.findIdx?_map]
  congr 1
  funext t
  rw [Function.comp_apply, Bool.eq_iff_iff, beq_iff_eq, beq_iff_eq, whole]

theorem declarable_map_fold (tokens : List Token) :
    Declarable (tokens.map Token.fold) ↔ Declarable tokens := by
  have opening : (tokens.map Token.fold).findIdx? (· == ("(" : Token)) =
      tokens.findIdx? (· == ("(" : Token)) :=
    findIdx?_map_fold tokens (by decide)
  have closing : (tokens.map Token.fold).findIdx? (· == (")" : Token)) =
      tokens.findIdx? (· == (")" : Token)) :=
    findIdx?_map_fold tokens (by decide)
  unfold Declarable
  rw [opening, closing, List.getElem?_map]
  simp only [Option.map_eq_some_iff, exists_exists_and_eq_and, Token.isWildcard_fold]

theorem exists_parse_congr {a b : Text} (same : a.agrees b = true) :
    (∃ type, parse a = .ok type) ↔ ∃ type, parse b = .ok type := by
  rw [exists_parse_iff, exists_parse_iff, ← declarable_map_fold, Alike.tokenize same,
    declarable_map_fold]

end EnumType

/-! ## Statements -/

theorem translateSchema_congr (enums : EnumRegistry) {a b : Text} (same : a.agrees b = true) :
    (translateSchema enums a).agrees (translateSchema enums b) = true := by
  obtain ⟨ruled, -⟩ := schemaRules.alike_apply (Alike.tokenize same)
  exact (enums.alike_apply ruled).1.join

theorem command?_congr (enums : EnumRegistry) {a b : Text} (same : a.agrees b = true) :
    (command? enums a).map Text.fold = (command? enums b).map Text.fold := by
  unfold command?
  rw [StatementKind.ofText_congr same]
  split
  · exact congrArg some (Text.agrees_iff.1 (translateSchema_congr enums same))
  · exact congrArg some (Text.agrees_iff.1 same)
  · rfl

/-- The case of letters decides neither what a statement is, nor whether it is sent, passed over or
registered, nor how often any rules replace. -/
theorem statement_caseless {a b : Text} (same : a.agrees b = true) :
    StatementKind.ofText a = StatementKind.ofText b ∧
      ((∃ type, EnumType.parse a = .ok type) ↔ ∃ type, EnumType.parse b = .ok type) ∧
      (∀ table : RuleTable, (table.apply (tokenize a)).2 = (table.apply (tokenize b)).2) ∧
      ∀ enums : EnumRegistry,
        (translateSchema enums a).agrees (translateSchema enums b) = true ∧
        (command? enums a).map Text.fold = (command? enums b).map Text.fold ∧
        ∀ table : RuleTable, (enums.apply (table.apply (tokenize a)).1).2 =
          (enums.apply (table.apply (tokenize b)).1).2 := by
  have alike := Alike.tokenize same
  refine ⟨StatementKind.ofText_congr same, EnumType.exists_parse_congr same,
    fun table => (table.alike_apply alike).2, fun enums => ⟨translateSchema_congr enums same,
      command?_congr enums same, fun table => ?_⟩⟩
  exact (enums.alike_apply (table.alike_apply alike).1).2

/-- A name with a special meaning, a column of a declared type and a default. -/
theorem statement_caseless_columns :
    let a : Text := "Create table T (Commit Mood Default True)"
    let b : Text := "CREATE TABLE t (commit mood default true)"
    let enums : EnumRegistry :=
      ⟨(EnumType.parse "CREATE TYPE MOOD AS ENUM ('ok')").toOption.toList⟩
    a.agrees b = true ∧ a ≠ b ∧ StatementKind.ofText a = .translatable ∧
      StatementKind.ofText a = StatementKind.ofText b ∧
      translateSchema enums a =
        "Create table T ( \"commit\" text check ( \"commit\" in ( 'ok' ) ) Default 1 )" ∧
      (translateSchema enums a).agrees (translateSchema enums b) = true ∧
      (schemaRules.apply (tokenize a)).2 = 2 ∧
      (schemaRules.apply (tokenize a)).2 = (schemaRules.apply (tokenize b)).2 := by
  intro a b enums
  have same : a.agrees b = true := by decide
  obtain ⟨kind, -, count, written⟩ := statement_caseless same
  exact ⟨same, by decide, by decide +kernel, kind, by decide +kernel, (written enums).1,
    by decide +kernel, count schemaRules⟩

end SqlDialect
