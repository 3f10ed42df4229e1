import Mathlib.Data.List.Infix
import SqlDialect.Proofs.Text.Blank

/-! Texts within texts.

A text with none of the characters at which another is joined, parted or doubled is found in the
whole just if it is found in a part. A text is taken apart at a separator piece by piece.
-/

set_option autoImplicit false

namespace SqlDialect.Text

/-! ## Parts between separators -/

theorem fields_eq_splitOn (separator : Char) (s : Text) :
    s.fields separator = s.splitOn separator := by
  induction s with
  | nil => rfl
  | cons c r ih =>
    rw [fields, List.splitOn_cons_eq_if_modifyHead, ih]
    simp only [beq_iff_eq]
    split
    · rfl
    · obtain ⟨first, rest, parts⟩ := List.exists_cons_of_ne_nil (List.splitOn_ne_nil separator r)
      rw [parts]
      rfl

variable {needle a b : Text} {c : Char}

theorem infix_append_cons_iff (absent : c ∉ needle) (nonempty : needle ≠ []) :
    needle <:+: a ++ c :: b ↔ needle <:+: a ∨ needle <:+: b := by
  have notAt {t : Text} (nonempty : t ≠ []) (absent : c ∉ t) : ¬t <+: c :: b := by
    intro at?
    obtain ⟨d, r, rfl⟩ := List.exists_cons_of_ne_nil nonempty
    obtain ⟨rfl, -⟩ := List.cons_prefix_cons.1 at?
    exact absent List.mem_cons_self
  rw [List.infix_append_iff_ne_nil, List.infix_cons_iff]
  constructor
  · rintro (before | (at? | after) | ⟨l₁, l₂, -, nonempty', rfl, -, at?⟩)
    · exact .inl before
    · exact absurd at? (notAt nonempty absent)
    · exact .inr after
    · exact absurd at? (notAt nonempty' fun mem => absent (List.mem_append_right _ mem))
  · rintro (before | after)
    · exact .inl before
    · exact .inr (.inl (.inr after))

theorem infix_cons_iff_of_not_mem (absent : c ∉ needle) (nonempty : needle ≠ []) :
    needle <:+: c :: b ↔ needle <:+: b := by
  have apart := infix_append_cons_iff (a := []) (b := b) absent nonempty
  rw [List.nil_append, List.infix_nil] at apart
  rw [apart, or_iff_right nonempty]

theorem infix_intercalate_iff (absent : c ∉ needle) (nonempty : needle ≠ []) {parts : List Text} :
    needle <:+: List.intercalate [c] parts ↔ ∃ part ∈ parts, needle <:+: part := by
  induction parts with
  | nil => simpa [List.infix_nil] using nonempty
  | cons part parts ih =>
    cases parts with
    | nil => simp
    | cons other parts =>
      rw [List.intercalate_cons_cons, List.append_assoc, List.singleton_append,
        infix_append_cons_iff absent nonempty, ih, List.exists_mem_cons_iff,
        List.exists_mem_cons_iff, List.exists_mem_cons_iff]

theorem infix_of_mem_fields {separator : Char} {s part : Text} (mem : part ∈ s.fields separator) :
    part <:+: s := by
  rw [fields_eq_splitOn] at mem
  have found : part <:+: List.intercalate [separator] (s.splitOn separator) := by
    generalize s.splitOn separator = parts at mem
    induction parts with
    | nil => cases mem
    | cons first parts ih =>
      rcases List.mem_cons.1 mem with rfl | later
      · exact List.infix_of_mem_flatten (by cases parts <;> simp [List.intersperse])
      · rw [List.intercalate_cons_of_ne_nil (List.ne_nil_of_mem later)]
        exact List.infix_append_of_infix_right (ih later)
  rwa [List.intercalate_splitOn] at found

theorem trim_infix (s : Text) : s.trim <:+: s := by
  obtain ⟨w, -, ends⟩ := exists_trimEnd_append s.dropBlank
  refine ⟨s.takeBlank, w, ?_⟩
  rw [trim, List.append_assoc, ← ends, takeBlank_append_dropBlank]

/-! ## Fields that something is left of -/

section

variable {separator : Char} {clean : Text → Text} {s t : Text}

def kept (separator : Char) (clean : Text → Text) (s : Text) : List Text :=
  ((s.fields separator).map clean).filter (· ≠ [])

theorem kept_append_cons (a b : Text) :
    kept separator clean (a ++ separator :: b) =
      kept separator clean a ++ kept separator clean b := by
  simp only [kept, fields_eq_splitOn, List.splitOn_append_cons_self, List.map_append,
    List.filter_append]

theorem kept_of_not_mem (single : separator ∉ s) :
    kept separator clean s = [clean s].filter (· ≠ []) := by
  rw [kept, fields_eq_splitOn, List.splitOn_eq_singleton single, List.map_singleton]

theorem kept_append (absent : separator ∉ t) (same : ∀ s, clean (s ++ t) = clean s) (s : Text) :
    kept separator clean (s ++ t) = kept separator clean s := by
  by_cases parted : separator ∈ s
  · obtain ⟨first, rest, rfl⟩ := List.append_of_mem parted
    rw [List.append_assoc, List.cons_append, kept_append_cons, kept_append_cons,
      kept_append absent same rest]
  · have single : separator ∉ s ++ t := by simp [parted, absent]
    rw [kept_of_not_mem parted, kept_of_not_mem single, same]
termination_by s.length

theorem kept_prepend (absent : separator ∉ t) (same : ∀ s, clean (t ++ s) = clean s) (s : Text) :
    kept separator clean (t ++ s) = kept separator clean s := by
  by_cases parted : separator ∈ s
  · obtain ⟨first, rest, rfl⟩ := List.append_of_mem parted
    rw [← List.append_assoc, kept_append_cons, kept_append_cons, kept_prepend absent same first]
  · have single : separator ∉ t ++ s := by simp [parted, absent]
    rw [kept_of_not_mem parted, kept_of_not_mem single, same]
termination_by s.length

end

/-! ## Texts that are doubled -/

theorem replaceChar_cons (old : Char) (new : Text) (d : Char) (r : Text) :
    replaceChar old new (d :: r) = (if d = old then new else [d]) ++ replaceChar old new r :=
  List.flatMap_cons

theorem prefix_doubled_iff {s : Text} (absent : c ∉ needle) :
    needle <+: replaceChar c [c, c] s ↔ needle <+: s := by
  induction s generalizing needle with
  | nil => rfl
  | cons d r ih =>
    cases needle with
    | nil => simp
    | cons e needle =>
      obtain ⟨differs, absent⟩ := List.ne_and_not_mem_of_not_mem_cons absent
      rw [replaceChar_cons]
      split
      next same => simp [List.cons_prefix_cons, same, Ne.symm differs]
      next => rw [List.singleton_append, List.cons_prefix_cons, List.cons_prefix_cons, ih absent]

theorem infix_doubled_iff {s : Text} (absent : c ∉ needle) (nonempty : needle ≠ []) :
    needle <:+: replaceChar c [c, c] s ↔ needle <:+: s := by
  induction s with
  | nil => rfl
  | cons d r ih =>
    have atHead := prefix_doubled_iff (s := d :: r) absent
    rw [replaceChar_cons] at atHead ⊢
    split
    next same =>
      rw [same, List.cons_append, List.cons_append, List.nil_append,
        infix_cons_iff_of_not_mem absent nonempty, infix_cons_iff_of_not_mem absent nonempty,
        infix_cons_iff_of_not_mem absent nonempty, ih]
    next differs =>
      rw [if_neg differs] at atHead
      exact List.infix_cons_iff.trans ((or_congr atHead ih).trans List.infix_cons_iff.symm)

end SqlDialect.Text
