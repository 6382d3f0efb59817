import Mathlib.Data.List.Infix

/-! What a trace says about the past. Entries are added at the end, so every notion
comes with the lemma that extends a trace by one entry. -/

namespace Dionysus.History

universe u
variable {ω : Type u}

/-- An entry happened and nothing after it cancels it. -/
def Since (happened cancels : ω → Prop) (trace : List ω) : Prop :=
  ∃ before entry after, trace = before ++ entry :: after ∧ happened entry ∧ ∀ later ∈ after, ¬cancels later

/-- An entry happened after a past with the given property. -/
def Sometime (happened : ω → Prop) (past : List ω → Prop) (trace : List ω) : Prop :=
  ∃ before entry after, trace = before ++ entry :: after ∧ happened entry ∧ past before

/-- Every such entry happened after a past with the given property. -/
def Whenever (happened : ω → Prop) (past : List ω → Prop) (trace : List ω) : Prop :=
  ∀ before entry after, trace = before ++ entry :: after → happened entry → past before

variable {happened cancels : ω → Prop} {past : List ω → Prop} {trace : List ω} {entry : ω}

theorem snoc_split {before after : List ω} {found : ω} (split : trace ++ [entry] = before ++ found :: after) :
    (before = trace ∧ found = entry ∧ after = []) ∨
      ∃ earlier, trace = before ++ found :: earlier ∧ after = earlier ++ [entry] := by
  rcases List.eq_nil_or_concat after with rfl | ⟨earlier, final, rfl⟩
  · obtain ⟨same, last⟩ := List.append_inj' split rfl
    exact Or.inl ⟨same.symm, (List.head_eq_of_cons_eq last).symm, rfl⟩
  · rw [List.concat_eq_append, ← List.cons_append, ← List.append_assoc] at split
    obtain ⟨same, last⟩ := List.append_inj' split rfl
    obtain rfl := List.head_eq_of_cons_eq last
    exact Or.inr ⟨earlier, same, List.concat_eq_append⟩

@[simp] theorem not_since_nil : ¬Since happened cancels ([] : List ω) := by
  intro ⟨before, entry, after, split, _⟩
  simp at split

theorem since_cons :
    Since happened cancels (entry :: trace) ↔
      (happened entry ∧ ∀ later ∈ trace, ¬cancels later) ∨ Since happened cancels trace := by
  constructor
  · intro ⟨before, found, after, split, holds, quiet⟩
    cases before with
    | nil =>
      obtain ⟨rfl, rfl⟩ := List.cons_eq_cons.mp split
      exact Or.inl ⟨holds, quiet⟩
    | cons first rest =>
      obtain ⟨-, rfl⟩ := List.cons_eq_cons.mp split
      exact Or.inr ⟨rest, found, after, rfl, holds, quiet⟩
  · intro either
    rcases either with ⟨holds, quiet⟩ | ⟨before, found, after, rfl, holds, quiet⟩
    · exact ⟨[], entry, trace, rfl, holds, quiet⟩
    · exact ⟨entry :: before, found, after, rfl, holds, quiet⟩

instance decidableSince [DecidablePred happened] [DecidablePred cancels] :
    (trace : List ω) → Decidable (Since happened cancels trace)
  | [] => isFalse not_since_nil
  | _ :: rest =>
    have := decidableSince rest
    decidable_of_iff _ since_cons.symm

theorem since_snoc :
    Since happened cancels (trace ++ [entry]) ↔ happened entry ∨ Since happened cancels trace ∧ ¬cancels entry := by
  constructor
  · intro ⟨before, found, after, split, holds, quiet⟩
    rcases snoc_split split with ⟨rfl, rfl, rfl⟩ | ⟨earlier, rfl, rfl⟩
    · exact Or.inl holds
    · refine Or.inr ⟨⟨before, found, earlier, rfl, holds, ?_⟩, quiet entry (by simp)⟩
      intro later member
      exact quiet later (by simp [member])
  · intro either
    rcases either with holds | ⟨⟨before, found, after, rfl, holds, quiet⟩, kept⟩
    · exact ⟨trace, entry, [], rfl, holds, by simp⟩
    · refine ⟨before, found, after ++ [entry], by simp, holds, ?_⟩
      intro later member
      rcases List.mem_append.mp member with old | new
      · exact quiet later old
      · rw [List.mem_singleton.mp new]
        exact kept

theorem Since.append (since : Since happened cancels trace) {more : List ω} (quiet : ∀ entry ∈ more, ¬cancels entry) :
    Since happened cancels (trace ++ more) := by
  obtain ⟨before, entry, after, rfl, holds, none⟩ := since
  refine ⟨before, entry, after ++ more, by simp, holds, ?_⟩
  intro later member
  exact (List.mem_append.mp member).elim (none later) (quiet later)

theorem Since.of_append {more : List ω} (since : Since happened cancels (trace ++ more))
    (silent : ∀ entry ∈ more, ¬happened entry) : Since happened cancels trace := by
  induction more generalizing trace with
  | nil => simpa using since
  | cons entry rest ih =>
    have next : Since happened cancels (trace ++ [entry]) :=
      ih (by simpa using since) fun later member => silent later (by simp [member])
    rcases since_snoc.mp next with holds | ⟨old, -⟩
    · exact absurd holds (silent entry (by simp))
    · exact old

@[simp] theorem not_sometime_nil : ¬Sometime happened past ([] : List ω) := by
  intro ⟨before, entry, after, split, _⟩
  simp at split

theorem sometime_snoc :
    Sometime happened past (trace ++ [entry]) ↔ Sometime happened past trace ∨ happened entry ∧ past trace := by
  constructor
  · intro ⟨before, found, after, split, holds, before'⟩
    rcases snoc_split split with ⟨rfl, rfl, rfl⟩ | ⟨earlier, rfl, rfl⟩
    · exact Or.inr ⟨holds, before'⟩
    · exact Or.inl ⟨before, found, earlier, rfl, holds, before'⟩
  · intro either
    rcases either with ⟨before, found, after, rfl, holds, before'⟩ | ⟨holds, now⟩
    · exact ⟨before, found, after ++ [entry], by simp, holds, before'⟩
    · exact ⟨trace, entry, [], rfl, holds, now⟩

theorem Sometime.of_append {more : List ω} (sometime : Sometime happened past (trace ++ more))
    (silent : ∀ entry ∈ more, ¬happened entry) : Sometime happened past trace := by
  induction more generalizing trace with
  | nil => simpa using sometime
  | cons entry rest ih =>
    have next : Sometime happened past (trace ++ [entry]) :=
      ih (by simpa using sometime) fun later member => silent later (by simp [member])
    rcases sometime_snoc.mp next with old | ⟨holds, -⟩
    · exact old
    · exact absurd holds (silent entry (by simp))

@[simp] theorem whenever_nil : Whenever happened past ([] : List ω) := by
  intro before entry after split
  simp at split

theorem whenever_snoc :
    Whenever happened past (trace ++ [entry]) ↔ Whenever happened past trace ∧ (happened entry → past trace) := by
  constructor
  · intro always
    refine ⟨?_, always trace entry [] rfl⟩
    intro before found after split
    exact always before found (after ++ [entry]) (by simp [split])
  · intro ⟨always, now⟩ before found after split holds
    rcases snoc_split split with ⟨rfl, rfl, rfl⟩ | ⟨earlier, rfl, rfl⟩
    · exact now holds
    · exact always before found earlier rfl holds

theorem Whenever.append (always : Whenever happened past trace) {more : List ω}
    (quiet : ∀ entry ∈ more, ¬happened entry) : Whenever happened past (trace ++ more) := by
  induction more generalizing trace with
  | nil => simpa using always
  | cons entry rest ih =>
    have next : Whenever happened past (trace ++ [entry]) := by
      refine whenever_snoc.mpr ⟨always, ?_⟩
      intro holds
      exact absurd holds (quiet entry (by simp))
    simpa using ih next fun later member => quiet later (by simp [member])

end Dionysus.History
