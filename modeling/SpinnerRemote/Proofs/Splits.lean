import Mathlib.Data.List.Induction

/-!
Lists cut at one of their items. A history is cut at what happened at some time; these lemmas take a cut of
a history to one of the history that is longer by an item.
-/
namespace SpinnerRemote

variable {α : Type} {items : List α} {item : α}

/-- A list that is longer by an item is cut at that item, or where the list itself is cut. -/
theorem split_snoc_iff {earlier : List α} {other : α} {later : List α} :
    items ++ [item] = earlier ++ other :: later ↔
      items = earlier ∧ item = other ∧ later = [] ∨
        ∃ rest, items = earlier ++ other :: rest ∧ later = rest ++ [item] := by
  constructor
  · intro split
    rcases List.eq_nil_or_concat later with rfl | ⟨rest, final, rfl⟩
    · obtain ⟨rfl, same⟩ := List.append_inj' split rfl
      cases same
      exact .inl ⟨rfl, rfl, rfl⟩
    · have front : items ++ [item] = (earlier ++ other :: rest) ++ [final] := by simpa using split
      obtain ⟨rfl, same⟩ := List.append_inj' front rfl
      cases same
      exact .inr ⟨rest, rfl, List.concat_eq_append⟩
  · rintro (⟨rfl, rfl, rfl⟩ | ⟨rest, rfl, rfl⟩)
    · rfl
    · simp

theorem forall_split_snoc {holds : List α → α → Prop}
    (all : ∀ earlier other later, items = earlier ++ other :: later → holds earlier other)
    (last : holds items item) (earlier : List α) (other : α) (later : List α)
    (split : items ++ [item] = earlier ++ other :: later) : holds earlier other := by
  rcases split_snoc_iff.mp split with ⟨rfl, rfl, -⟩ | ⟨rest, split, -⟩
  · exact last
  · exact all earlier other rest split

/-- Something has started and only what keeps it has come since: with one more item at the end of the list,
this item starts it or keeps it. -/
theorem exists_split_snoc_iff {starts keeps : α → Prop} :
    (∃ earlier start later, items ++ [item] = earlier ++ start :: later ∧ starts start ∧
        ∀ other ∈ later, keeps other) ↔
      starts item ∨
        (∃ earlier start later, items = earlier ++ start :: later ∧ starts start ∧
          ∀ other ∈ later, keeps other) ∧ keeps item := by
  constructor
  · rintro ⟨earlier, start, later, split, begun, kept⟩
    rcases split_snoc_iff.mp split with ⟨rfl, rfl, rfl⟩ | ⟨rest, rfl, rfl⟩
    · exact .inl begun
    · obtain ⟨before, last⟩ := List.forall_mem_append.mp kept
      exact .inr ⟨⟨earlier, start, rest, rfl, begun, before⟩, List.forall_mem_singleton.mp last⟩
  · rintro (begun | ⟨⟨earlier, start, later, rfl, begun, kept⟩, last⟩)
    · exact ⟨items, item, [], rfl, begun, by simp⟩
    · refine ⟨earlier, start, later ++ [item], by simp, begun, ?_⟩
      exact List.forall_mem_append.mpr ⟨kept, List.forall_mem_singleton.mpr last⟩

end SpinnerRemote
