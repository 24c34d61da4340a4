import Mathlib.Data.List.Forall2
import PcodePanel.Fault

/-!
# Results

A computation that may be refused succeeds if its steps do.
-/

namespace PcodePanel

variable {α β : Type}

theorem bind_eq_ok_iff {first : Except Fault α} {next : α → Except Fault β} {result : β} :
    (first >>= next) = .ok result ↔ ∃ a, first = .ok a ∧ next a = .ok result := by
  cases first with
  | error fault => simp [bind, Except.bind]
  | ok a => simp [bind, Except.bind]

theorem bind_eq_error_iff {first : Except Fault α} {next : α → Except Fault β} {fault : Fault} :
    (first >>= next) = .error fault
      ↔ first = .error fault ∨ ∃ a, first = .ok a ∧ next a = .error fault := by
  cases first with
  | error fault => simp [bind, Except.bind]
  | ok a => simp [bind, Except.bind]

/-- What is only made use of, without a further refusal, is refused if the first step is. -/
theorem bind_pure_eq_error_iff {first : Except Fault α} {next : α → β} {fault : Fault} :
    (first >>= fun a => pure (next a)) = .error fault ↔ first = .error fault := by
  cases first with
  | error fault => simp [bind, Except.bind]
  | ok a => simp [bind, Except.bind, pure, Except.pure]

/-- Computations in a row give their results one by one. -/
theorem mapM_eq_ok_iff {f : α → Except Fault β} {list : List α} {results : List β} :
    list.mapM f = .ok results ↔ List.Forall₂ (fun a b => f a = .ok b) list results := by
  induction list generalizing results with
  | nil => cases results <;> simp [pure, Except.pure]
  | cons a list ih =>
      rw [List.mapM_cons]
      constructor
      · intro h
        obtain ⟨b, first, h⟩ := bind_eq_ok_iff.mp h
        obtain ⟨rest, others, h⟩ := bind_eq_ok_iff.mp h
        cases h
        exact .cons first (ih.mp others)
      · intro h
        cases h with
        | cons first others =>
            exact bind_eq_ok_iff.mpr ⟨_, first, bind_eq_ok_iff.mpr ⟨_, ih.mpr others, rfl⟩⟩

theorem exists_of_mapM_eq_ok {f : α → Except Fault β} {list : List α} {results : List β}
    (done : list.mapM f = .ok results) : ∀ a ∈ list, ∃ b ∈ results, f a = .ok b := by
  have each := mapM_eq_ok_iff.mp done
  clear done
  induction each with
  | nil => simp
  | cons first _ ih =>
      refine List.forall_mem_cons.mpr ⟨⟨_, List.mem_cons_self, first⟩, fun a member => ?_⟩
      obtain ⟨b, known, done⟩ := ih a member
      exact ⟨b, List.mem_cons_of_mem _ known, done⟩

/-- Computations in a row are refused if one of them is. -/
theorem mapM_eq_error {f : α → Except Fault β} {list : List α} {fault : Fault}
    (h : list.mapM f = .error fault) : ∃ a ∈ list, f a = .error fault := by
  induction list with
  | nil => cases h
  | cons a list ih =>
      rw [List.mapM_cons] at h
      rcases bind_eq_error_iff.mp h with first | ⟨b, _, h⟩
      · exact ⟨a, List.mem_cons_self, first⟩
      · rcases bind_eq_error_iff.mp h with later | ⟨_, _, h⟩
        · obtain ⟨a, member, failed⟩ := ih later
          exact ⟨a, List.mem_cons_of_mem _ member, failed⟩
        · cases h

/-- Computations in a row are refused at the first one that is. -/
theorem exists_first_of_mapM_eq_error {f : α → Except Fault β} {list : List α} {fault : Fault}
    (h : list.mapM f = .error fault) : ∃ before a after, list = before ++ a :: after
      ∧ (∀ x ∈ before, ∃ b, f x = .ok b) ∧ f a = .error fault := by
  induction list with
  | nil => cases h
  | cons a list ih =>
      rw [List.mapM_cons] at h
      rcases bind_eq_error_iff.mp h with refused | ⟨b, first, h⟩
      · exact ⟨[], a, list, rfl, by simp, refused⟩
      · rcases bind_eq_error_iff.mp h with later | ⟨_, _, h⟩
        · obtain ⟨before, x, after, rfl, done, refused⟩ := ih later
          exact ⟨a :: before, x, after, rfl, List.forall_mem_cons.mpr ⟨⟨b, first⟩, done⟩, refused⟩
        · cases h

/-- The first computation that is refused says why. -/
theorem mapM_append_eq_error {f : α → Except Fault β} {before after : List α} {a : α}
    {fault : Fault} (done : ∀ x ∈ before, ∃ b, f x = .ok b) (refused : f a = .error fault) :
    (before ++ a :: after).mapM f = .error fault := by
  induction before with
  | nil =>
      rw [List.nil_append, List.mapM_cons, refused]
      rfl
  | cons first before ih =>
      obtain ⟨⟨b, here⟩, later⟩ := List.forall_mem_cons.mp done
      rw [List.cons_append, List.mapM_cons, here]
      exact bind_eq_error_iff.mpr (.inr ⟨b, rfl, bind_eq_error_iff.mpr (.inl (ih later))⟩)

theorem toOption_eq_some_iff {result : Except Fault α} {a : α} :
    result.toOption = some a ↔ result = .ok a := by
  cases result <;> simp [Except.toOption]

end PcodePanel
