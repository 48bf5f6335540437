import Mathlib.Data.List.Basic
/-!
# Lists of entries

A table is a list of entries, each a value under its key; the first entry of a key counts. Here is
what is found under a key: any entry of it where no key is repeated (`lookup_of_mem`), and the same
as before where the entries of other keys are taken away (`lookup_filter_of_ne`).
-/

namespace ApiBindings

variable {α β : Type} [BEq α] [LawfulBEq α]

/-- If no key is repeated, each entry is found under its key. -/
theorem lookup_of_mem {es : List (α × β)} (h : (es.map Prod.fst).Nodup) {e : α × β}
    (he : e ∈ es) : es.lookup e.1 = some e.2 := by
  obtain ⟨before, after, rfl⟩ := List.append_of_mem he
  -- the search passes over `before`, for its keys are others
  rw [List.lookup_eq_some_iff]
  refine ⟨before, after, rfl, ?_⟩
  intro p hp
  rw [List.map_append, List.map_cons, List.nodup_append] at h
  have hne := h.2.2 p.1 (List.mem_map_of_mem hp) e.1 (by simp)
  simpa using Ne.symm hne

/-- Entries of other keys are not missed where those of one key are taken away. -/
theorem lookup_filter_of_ne {key name : α} (h : name ≠ key) (es : List (α × β)) :
    (es.filter (·.1 != key)).lookup name = es.lookup name := by
  induction es with
  | nil => rfl
  | cons e es ih =>
    obtain ⟨key', value⟩ := e
    by_cases hkey : key' = key
    · have hother : (name == key') = false := by
        rw [hkey]
        exact beq_eq_false_iff_ne.2 h
      rw [List.filter_cons_of_neg (by simp [hkey]), ih, List.lookup_cons, hother]
    · rw [List.filter_cons_of_pos (by simpa using hkey), List.lookup_cons, List.lookup_cons, ih]

/-- What is found under a key, or stands in for it, is the fallback or a value of the table. -/
theorem lookup_getD (es : List (α × β)) (key : α) (fallback : β) :
    (es.lookup key).getD fallback = fallback ∨
      (es.lookup key).getD fallback ∈ es.map Prod.snd := by
  cases h : es.lookup key with
  | none => exact Or.inl rfl
  | some value =>
    obtain ⟨before, after, rfl, -⟩ := List.lookup_eq_some_iff.1 h
    exact Or.inr (by simp)

end ApiBindings
