import ApiBindings.Proofs.Reference.Passage
/-!
# What a section hears outside of its rows

The marks of a section that stand outside of its rows give it a note and a list of cases. Main
statements: the first paragraph makes the note (`note_hearAll`), the last list makes the cases
(`cases_hearAll`), and nothing else changes (`hearAll_frame`).
-/

namespace ApiBindings.Reference

/-! ## What stands outside of the rows -/

/-- A section after several marks outside of its rows. -/
def Section.hearAll (o : Options) (sec : Section) (ms : List Mark) : Except Error Section :=
  ms.foldlM (Section.hear o) sec

theorem hearAll_cons (o : Options) (sec : Section) (m : Mark) (ms : List Mark) :
    sec.hearAll o (m :: ms) = (sec.hear o m >>= fun t => t.hearAll o ms) := rfl

/-- The rows of a section have no say in what its other marks mean. -/
theorem hear_addRows (o : Options) (rows : List Field) (sec : Section) (m : Mark) :
    (sec.addRows rows).hear o m = (sec.hear o m).map (·.addRows rows) := by
  obtain ⟨title, note, fields, cases⟩ := sec
  obtain ⟨kind, line⟩ := m
  cases kind with
  | paragraph =>
    cases note with
    | some note => rfl
    | none =>
      show (Markup.linkedText o.base line).map _ = ((Markup.linkedText o.base line).map _).map _
      cases Markup.linkedText o.base line <;> rfl
  | listItem =>
    cases cases with
    | none => rfl
    | some cases =>
      show (Markup.bareText line).map _ = ((Markup.bareText line).map _).map _
      cases Markup.bareText line with
      | error e => rfl
      | ok label =>
        show Except.ok (Section.addCase _ _) = Except.ok ((Section.addCase _ _).addRows _)
        unfold Section.addCase Section.addRows
        dsimp only
        split <;> rfl
  | _ => rfl

theorem hearAll_addRows (o : Options) (rows : List Field) (sec : Section) (ms : List Mark) :
    (sec.addRows rows).hearAll o ms = (sec.hearAll o ms).map (·.addRows rows) := by
  induction ms generalizing sec with
  | nil => rfl
  | cons m ms ih =>
    rw [hearAll_cons, hearAll_cons, hear_addRows]
    cases sec.hear o m with
    | error e => rfl
    | ok t => exact ih t

/-- Only the note and the cases are heard of. -/
theorem hear_frame {o : Options} {sec t : Section} {m : Mark} (h : sec.hear o m = .ok t) :
    t.title = sec.title ∧ t.fields = sec.fields := by
  unfold Section.hear at h
  split at h
  · split at h
    · cases h
      exact ⟨rfl, rfl⟩
    · obtain ⟨note, _, rfl⟩ := map_eq_ok_iff.1 h
      exact ⟨rfl, rfl⟩
  · cases h
    exact ⟨rfl, rfl⟩
  · split at h
    · cases h
      exact ⟨rfl, rfl⟩
    · obtain ⟨label, _, rfl⟩ := map_eq_ok_iff.1 h
      unfold Section.addCase
      split
      · exact ⟨rfl, rfl⟩
      · split <;> exact ⟨rfl, rfl⟩
  · cases h
    exact ⟨rfl, rfl⟩

theorem hearAll_frame {o : Options} {sec t : Section} {ms : List Mark}
    (h : sec.hearAll o ms = .ok t) : t.title = sec.title ∧ t.fields = sec.fields := by
  induction ms generalizing sec with
  | nil =>
    cases h
    exact ⟨rfl, rfl⟩
  | cons m ms ih =>
    obtain ⟨u, hu, h⟩ := bind_eq_ok_iff.1 h
    obtain ⟨ht, hf⟩ := ih h
    obtain ⟨ht', hf'⟩ := hear_frame hu
    exact ⟨ht.trans ht', hf.trans hf'⟩

theorem linesOf_cons_of_is {k : LineKind} {m : Mark} (h : m.kind = k) (ms : List Mark) :
    linesOf k (m :: ms) = m.line :: linesOf k ms := by
  simp [linesOf, Mark.is, h]

theorem linesOf_cons_of_ne {k : LineKind} {m : Mark} (h : m.kind ≠ k) (ms : List Mark) :
    linesOf k (m :: ms) = linesOf k ms := by
  simp [linesOf, Mark.is, h]

/-! ## Notes -/

/-- No other line than a paragraph changes the note. -/
theorem note_hear_of_ne {o : Options} {sec t : Section} {m : Mark} (hm : m.kind ≠ .paragraph)
    (h : sec.hear o m = .ok t) : t.note = sec.note := by
  obtain ⟨kind, line⟩ := m
  unfold Section.hear at h
  cases kind with
  | paragraph => exact absurd rfl hm
  | listItem =>
    dsimp only at h
    split at h
    · cases h
      rfl
    · obtain ⟨label, _, rfl⟩ := map_eq_ok_iff.1 h
      unfold Section.addCase
      split
      · rfl
      · split <;> rfl
  | _ =>
    cases h
    rfl

/-- A note stays what it is. -/
theorem note_hearAll_of_some {o : Options} {sec t : Section} {ms : List Mark} {note : String}
    (hnote : sec.note = some note) (h : sec.hearAll o ms = .ok t) : t.note = some note := by
  induction ms generalizing sec with
  | nil =>
    cases h
    exact hnote
  | cons m ms ih =>
    obtain ⟨u, hu, h⟩ := bind_eq_ok_iff.1 h
    refine ih ?_ h
    by_cases hm : m.kind = .paragraph
    · unfold Section.hear at hu
      rw [hm] at hu
      simp only [hnote, Option.isSome_some, if_true] at hu
      cases hu
      exact hnote
    · rw [note_hear_of_ne hm hu, hnote]

/-- **The first paragraph makes the note.** -/
theorem note_hearAll {o : Options} {sec t : Section} {ms : List Mark}
    (hnote : sec.note = none) (h : sec.hearAll o ms = .ok t) :
    (linesOf .paragraph ms).head?.mapM (Markup.linkedText o.base) = .ok t.note := by
  induction ms generalizing sec with
  | nil =>
    cases h
    rw [hnote]
    rfl
  | cons m ms ih =>
    obtain ⟨u, hu, h⟩ := bind_eq_ok_iff.1 h
    by_cases hm : m.kind = .paragraph
    · -- the first paragraph: its text is the note from here on
      unfold Section.hear at hu
      rw [hm] at hu
      simp only [hnote, Option.isSome_none, Bool.false_eq_true, if_false] at hu
      obtain ⟨note, hn, rfl⟩ := map_eq_ok_iff.1 hu
      rw [linesOf_cons_of_is hm, List.head?_cons, mapM_some_eq_map, hn,
        note_hearAll_of_some rfl h]
      rfl
    · rw [linesOf_cons_of_ne hm]
      exact ih ((note_hear_of_ne hm hu).trans hnote) h

/-! ## Cases -/

/-- The longest end of a list that has `p` throughout, where an element stands before it. -/
theorem rtakeWhile_cons {α : Type} (p : α → Bool) (a : α) (l : List α) :
    (a :: l).rtakeWhile p = if l.all p then (if p a then a :: l else l) else l.rtakeWhile p := by
  unfold List.rtakeWhile
  rw [List.reverse_cons, List.takeWhile_append]
  by_cases hl : l.all p = true
  · have hall : l.reverse.takeWhile p = l.reverse := by
      rw [List.takeWhile_eq_self_iff]
      intro x hx
      exact List.all_eq_true.1 hl x (List.mem_reverse.1 hx)
    rw [if_pos (by rw [hall]), if_pos hl]
    by_cases ha : p a = true
    · simp [ha]
    · simp [ha]
  · have hnot : ¬ (l.reverse.takeWhile p).length = l.reverse.length := by
      intro hlen
      apply hl
      have hself := (List.takeWhile_sublist p).eq_of_length hlen
      rw [List.takeWhile_eq_self_iff] at hself
      exact List.all_eq_true.2 fun x hx => hself x (List.mem_reverse.2 hx)
    rw [if_neg hnot, if_neg hl]

/-- A line in front counts only if it opens the last list. -/
theorem itemsOf_cons (m : Mark) (ms : List Mark) :
    itemsOf (m :: ms) =
      (itemsOf ms).or (if m.is .listOpen then some (linesOf .listItem ms) else none) := by
  unfold itemsOf
  rw [List.any_cons, rtakeWhile_cons]
  have hall : ms.all (!·.is .listOpen) = !ms.any (·.is .listOpen) := by
    rw [List.not_any_eq_all_not]
  rw [hall]
  by_cases ha : ms.any (·.is .listOpen) = true
  · simp [ha]
  · have hf : ms.any (·.is .listOpen) = false := by simpa using ha
    by_cases hm : m.is .listOpen = true
    · simp [hf, hm]
    · have hmf : m.is .listOpen = false := by simpa using hm
      simp [hf, hmf]

/-- The cases after several marks where `known` are the cases before them: a new list begins
anew, and without one the items go to the list that is there. -/
def casesAfter (known : Option (List String)) (ms : List Mark) :
    Except Error (Option (List String)) :=
  match itemsOf ms with
  | some items => (labelsOf items).map some
  | none => known.mapM fun cases => (labelsOf (linesOf .listItem ms)).map (cases ++ ·)

/-- The label of an item is one more case if it is an identifier. -/
theorem labelsOf_cons {item label : String} (h : Markup.bareText item = .ok label)
    (items : List String) :
    labelsOf (item :: items) = (labelsOf items).map fun labels =>
      if Naming.isIdentifier label then label :: labels else labels := by
  unfold labelsOf
  rw [List.mapM_cons, h]
  show ((items.mapM Markup.bareText >>= _) : Except Error (List String)).map _ = _
  cases items.mapM Markup.bareText with
  | error e => rfl
  | ok labels =>
    exact congrArg Except.ok List.filter_cons

theorem casesAfter_of_itemsOf {ms : List Mark} {items : List String}
    (h : itemsOf ms = some items) (known : Option (List String)) :
    casesAfter known ms = (labelsOf items).map some := by
  rw [casesAfter, h]

theorem casesAfter_none {ms : List Mark} (h : itemsOf ms = none) :
    casesAfter none ms = .ok none := by
  rw [casesAfter, h]
  rfl

theorem casesAfter_some {ms : List Mark} (h : itemsOf ms = none) (known : List String) :
    casesAfter (some known) ms =
      (labelsOf (linesOf .listItem ms)).map fun labels => some (known ++ labels) := by
  rw [casesAfter, h]
  dsimp only
  rw [mapM_some_eq_map]
  cases labelsOf (linesOf .listItem ms) <;> rfl

/-- A new list takes the place of the one before it. -/
theorem casesAfter_cons_of_listOpen {m : Mark} (h : m.kind = .listOpen)
    (known : Option (List String)) (ms : List Mark) :
    casesAfter known (m :: ms) = casesAfter (some []) ms := by
  have hm : m.is .listOpen = true := by simp [Mark.is, h]
  have hcons := itemsOf_cons m ms
  rw [if_pos hm] at hcons
  cases hi : itemsOf ms with
  | some items =>
    -- a later list takes the place of this one too
    rw [hi, Option.some_or] at hcons
    rw [casesAfter_of_itemsOf hcons, casesAfter_of_itemsOf hi]
  | none =>
    rw [hi, Option.none_or] at hcons
    rw [casesAfter_of_itemsOf hcons, casesAfter_some hi]
    rfl

/-- Where no list is opened, only the items count. -/
theorem itemsOf_cons_of_ne {m : Mark} (h : m.kind ≠ .listOpen) (ms : List Mark) :
    itemsOf (m :: ms) = itemsOf ms := by
  have hm : m.is .listOpen = false := by simp [Mark.is, h]
  rw [itemsOf_cons, hm, if_neg (by decide), Option.or_none]

theorem casesAfter_cons_of_ne {m : Mark} (hopen : m.kind ≠ .listOpen) (hitem : m.kind ≠ .listItem)
    (known : Option (List String)) (ms : List Mark) :
    casesAfter known (m :: ms) = casesAfter known ms := by
  unfold casesAfter
  rw [itemsOf_cons_of_ne hopen, linesOf_cons_of_ne hitem]

/-- An item is nothing without a list. -/
theorem casesAfter_none_cons {m : Mark} (h : m.kind = .listItem) (ms : List Mark) :
    casesAfter none (m :: ms) = casesAfter none ms := by
  have hcons : itemsOf (m :: ms) = itemsOf ms := itemsOf_cons_of_ne (by rw [h]; decide) ms
  cases hi : itemsOf ms with
  | some items => rw [casesAfter_of_itemsOf hi, casesAfter_of_itemsOf (hcons.trans hi)]
  | none => rw [casesAfter_none hi, casesAfter_none (hcons.trans hi)]

/-- An item of a list is one more case if its label is an identifier. -/
theorem casesAfter_some_cons {m : Mark} (h : m.kind = .listItem) {label : String}
    (hl : Markup.bareText m.line = .ok label) (known : List String) (ms : List Mark) :
    casesAfter (some known) (m :: ms) =
      casesAfter (some (if Naming.isIdentifier label then known ++ [label] else known)) ms := by
  have hcons : itemsOf (m :: ms) = itemsOf ms := itemsOf_cons_of_ne (by rw [h]; decide) ms
  cases hi : itemsOf ms with
  | some items => rw [casesAfter_of_itemsOf hi, casesAfter_of_itemsOf (hcons.trans hi)]
  | none =>
    rw [casesAfter_some hi, casesAfter_some (hcons.trans hi), linesOf_cons_of_is h,
      labelsOf_cons hl]
    cases labelsOf (linesOf .listItem ms) with
    | error e => rfl
    | ok labels =>
      refine congrArg (fun cases => Except.ok (some cases)) ?_
      dsimp only
      by_cases hid : Naming.isIdentifier label = true
      · rw [if_pos hid, if_pos hid, List.append_assoc, List.singleton_append]
      · rw [if_neg hid, if_neg hid]

/-- What a mark does to the cases is what it does to those that are to come. -/
theorem casesAfter_hear {o : Options} {sec t : Section} {m : Mark} (h : sec.hear o m = .ok t)
    (ms : List Mark) : casesAfter sec.cases (m :: ms) = casesAfter t.cases ms := by
  obtain ⟨kind, line⟩ := m
  unfold Section.hear at h
  cases kind with
  | listOpen =>
    cases h
    exact casesAfter_cons_of_listOpen rfl _ ms
  | listItem =>
    cases hc : sec.cases with
    | none =>
      simp only [hc, Option.isNone_none, if_true] at h
      cases h
      rw [hc]
      exact casesAfter_none_cons rfl ms
    | some known =>
      simp only [hc, Option.isNone_some, Bool.false_eq_true, if_false] at h
      obtain ⟨label, hl, rfl⟩ := map_eq_ok_iff.1 h
      rw [casesAfter_some_cons (m := ⟨.listItem, line⟩) rfl hl]
      unfold Section.addCase
      rw [hc]
      dsimp only
      split
      · rfl
      · rw [hc]
  | paragraph =>
    have ht : t.cases = sec.cases := by
      dsimp only at h
      split at h
      · cases h
        rfl
      · obtain ⟨note, _, rfl⟩ := map_eq_ok_iff.1 h
        rfl
    rw [ht]
    exact casesAfter_cons_of_ne (by simp) (by simp) _ ms
  | _ =>
    cases h
    exact casesAfter_cons_of_ne (by simp) (by simp) _ ms

theorem casesAfter_hearAll {o : Options} {sec t : Section} {ms : List Mark}
    (h : sec.hearAll o ms = .ok t) : casesAfter sec.cases ms = .ok t.cases := by
  -- the cases that the section comes to are the same before and after each mark
  induction ms generalizing sec with
  | nil =>
    cases h
    cases hc : t.cases with
    | none => rfl
    | some known =>
      rw [casesAfter_some rfl]
      exact congrArg (fun cases => Except.ok (some cases)) (List.append_nil known)
  | cons m ms ih =>
    obtain ⟨u, hu, h⟩ := bind_eq_ok_iff.1 h
    rw [casesAfter_hear hu]
    exact ih h

/-- **The last list makes the cases.** -/
theorem cases_hearAll {o : Options} {sec t : Section} {ms : List Mark} (hcases : sec.cases = none)
    (h : sec.hearAll o ms = .ok t) : (itemsOf ms).mapM labelsOf = .ok t.cases := by
  have hafter := casesAfter_hearAll h
  rw [hcases] at hafter
  cases hi : itemsOf ms with
  | some items => rwa [casesAfter_of_itemsOf hi, ← mapM_some_eq_map] at hafter
  | none => rwa [casesAfter_none hi] at hafter

end ApiBindings.Reference
