import SqlDialect.Schema.Script

/-! The statements of a script. -/

set_option autoImplicit false

namespace SqlDialect

def FileContent.ofText (s : Text) : FileContent := .bytes s.toUtf8

namespace Text

theorem not_mem_of_mem_fields {separator : Char} {s part : Text}
    (mem : part ∈ s.fields separator) : separator ∉ part := by
  induction s generalizing part with
  | nil =>
    rw [List.mem_singleton.1 mem]
    exact List.not_mem_nil
  | cons c r ih =>
    unfold fields at mem
    split at mem
    · rcases List.mem_cons.1 mem with rfl | later
      · exact List.not_mem_nil
      · exact ih later
    · next differs =>
      split at mem
      · rw [List.mem_singleton.1 mem, List.mem_singleton]
        exact Ne.symm differs
      · next first rest fields =>
        rw [fields] at ih
        rcases List.mem_cons.1 mem with rfl | later
        · rw [List.mem_cons, not_or]
          exact ⟨Ne.symm differs, ih List.mem_cons_self⟩
        · exact ih (List.mem_cons_of_mem _ later)

theorem mem_of_mem_trim {s : Text} {c : Char} (mem : c ∈ s.trim) : c ∈ s := by
  unfold trim trimEnd at mem
  have reversed := (List.dropWhile_sublist _).subset (List.mem_reverse.1 mem)
  exact (List.dropWhile_sublist _).subset (List.mem_reverse.1 reversed)

end Text

theorem semicolon_not_mem_splitStatements {script statement : Text}
    (mem : statement ∈ splitStatements script) : ';' ∉ statement := by
  obtain ⟨trimmed, -⟩ := List.mem_filter.1 mem
  obtain ⟨part, field, rfl⟩ := List.mem_map.1 trimmed
  exact fun inside => Text.not_mem_of_mem_fields field (Text.mem_of_mem_trim inside)

theorem semicolon_not_mem_loadStatements {files : List FileContent} {statements : List Text}
    (loaded : loadStatements files = .ok statements) :
    ∀ statement ∈ statements, ';' ∉ statement := by
  induction files generalizing statements with
  | nil =>
    cases loaded
    exact fun _ mem => absurd mem List.not_mem_nil
  | cons file files ih =>
    unfold loadStatements at loaded
    rcases read : file.read with fault | script <;> rw [read] at loaded
    · cases loaded
    rcases rest : loadStatements files with fault | later <;>
      simp only [bind, Except.bind, rest] at loaded <;> cases loaded
    rw [List.forall_mem_append]
    exact ⟨fun _ => semicolon_not_mem_splitStatements, ih rest⟩

end SqlDialect
