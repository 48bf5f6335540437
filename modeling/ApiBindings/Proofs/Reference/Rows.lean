import ApiBindings.Proofs.Reference.Passage
import ApiBindings.Proofs.TypeExpr.Levels
/-!
# Filling a row

A row takes its cells one by one and keeps what they say in four places. Main statement: cells fill
a new row as the outline reads them together (`fillAll_new`).
-/

namespace ApiBindings.Reference

/-! ## Rows of the outline -/

/-- What the outline reads of a row, where all of it can be read. -/
theorem of_ofCells {o : Options} {cells : List String} {f : Field}
    (h : Field.ofCells o cells = .ok f) :
    cells[0]?.mapM Markup.bareText = .ok f.name ∧ cells[1]?.mapM Markup.bareText = .ok f.phrase ∧
      f.phrase.mapM (TypeExpr.read o.depth o.aliases) = .ok f.type ∧
      (descriptionCell (cells.drop 2)).mapM (Markup.linkedText o.base) = .ok f.description ∧
      f.requirement = Requirement.ofCells (cells.drop 2) := by
  obtain ⟨name, hname, h⟩ := bind_eq_ok_iff.1 h
  obtain ⟨phrase, hphrase, h⟩ := bind_eq_ok_iff.1 h
  obtain ⟨type, htype, h⟩ := bind_eq_ok_iff.1 h
  obtain ⟨description, hdescription, h⟩ := bind_eq_ok_iff.1 h
  cases h
  exact ⟨hname, hphrase, htype, hdescription, rfl⟩

/-- The type of a field is the one that its phrase names. -/
theorem type_of_ofCells {o : Options} {cells : List String} {f : Field}
    (h : Field.ofCells o cells = .ok f) : f.type = f.phrase.map (TypeExpr.ofPhrase o.aliases) := by
  obtain ⟨-, -, htype, -, -⟩ := of_ofCells h
  cases hphrase : f.phrase with
  | none =>
    rw [hphrase] at htype
    exact (Except.ok.inj htype).symm
  | some phrase =>
    rw [hphrase, mapM_some_eq_map] at htype
    obtain ⟨type, hread, htype⟩ := map_eq_ok_iff.1 htype
    rw [← htype, TypeExpr.eq_of_read hread]
    rfl

/-! ## Rows that are filled -/

/-- The cell behind the name of a row is read, and then the type is read from it. -/
theorem outcome_fill_of_named (o : Options) {f : Field} {name : String} (hname : f.name = some name)
    (hphrase : f.phrase = none) (cell : String) :
    outcome (f.fill o cell) = (Markup.bareText cell >>= fun phrase =>
      (TypeExpr.read o.depth o.aliases phrase).map fun type =>
        { f with phrase := some phrase, type := some type }) := by
  obtain ⟨name', phrase, type, description, requirement⟩ := f
  cases hname
  cases hphrase
  unfold Field.fill
  dsimp only
  cases Markup.bareText cell with
  | error e => rfl
  | ok phrase => exact outcome_receive _ _ _

/-- A row after several cells, unless one of them ended in an error. -/
def Field.fillAll (o : Options) (f : Field) (cells : List String) : Except Error Field :=
  cells.foldlM (fun f cell => outcome (f.fill o cell)) f

theorem fillAll_cons (o : Options) (f : Field) (cell : String) (cells : List String) :
    f.fillAll o (cell :: cells) = (outcome (f.fill o cell) >>= fun g => g.fillAll o cells) := rfl

/-! ## Rows that are described -/

/-- A row with a description takes no more cells. -/
theorem fillAll_of_described (o : Options) {f : Field} (hname : f.name.isSome)
    (hphrase : f.phrase.isSome) (hdescription : f.description.isSome) (cells : List String) :
    f.fillAll o cells = .ok f := by
  induction cells with
  | nil => rfl
  | cons cell cells ih =>
    obtain ⟨name, hn⟩ := Option.isSome_iff_exists.1 hname
    obtain ⟨phrase, hp⟩ := Option.isSome_iff_exists.1 hphrase
    obtain ⟨description, hd⟩ := Option.isSome_iff_exists.1 hdescription
    have hfill : outcome (f.fill o cell) = .ok f := by
      unfold Field.fill
      rw [hn, hp, hd]
      rfl
    rw [fillAll_cons, hfill]
    exact ih

/-- What the signals before a description say, where `r` has been said before them. -/
def Requirement.update (r : Requirement) (cells : List String) : Requirement :=
  ((cells.takeWhile isSignal).getLast?.map Requirement.ofSignal).getD r

theorem update_cons_of_signal (r : Requirement) {cell : String} (h : isSignal cell = true)
    (cells : List String) :
    r.update (cell :: cells) = (Requirement.ofSignal cell).update cells := by
  unfold Requirement.update
  rw [List.takeWhile_cons_of_pos h, List.getLast?_cons]
  cases (cells.takeWhile isSignal).getLast? <;> rfl

/-- A signal is kept until the next one; it leaves the place of the description open. -/
theorem fill_of_signal (o : Options) {f : Field} {name phrase cell : String}
    (hname : f.name = some name) (hphrase : f.phrase = some phrase) (hopen : f.description = none)
    (h : isSignal cell = true) :
    outcome (f.fill o cell) = .ok { f with requirement := Requirement.ofSignal cell } := by
  unfold Field.fill Requirement.ofSignal
  rw [hname, hphrase, hopen]
  by_cases hr : cell = requiredCell
  · simp [hr, outcome]
  · have ho : cell = optionalCell := by simpa [isSignal, hr] using h
    rw [if_neg hr, if_neg hr, if_pos ho]
    rfl

/-- The cells behind name and type: signals, then the description, and nothing after it. -/
theorem fillAll_of_typed (o : Options) {f : Field} {name phrase : String}
    (hname : f.name = some name) (hphrase : f.phrase = some phrase) (hopen : f.description = none)
    (cells : List String) :
    f.fillAll o cells =
      ((descriptionCell cells).mapM (Markup.linkedText o.base)).map fun description =>
        { f with description, requirement := f.requirement.update cells } := by
  induction cells generalizing f with
  | nil =>
    obtain ⟨name', phrase', type, description, requirement⟩ := f
    cases hopen
    rfl
  | cons cell cells ih =>
    rw [fillAll_cons]
    by_cases hs : isSignal cell = true
    · rw [fill_of_signal o hname hphrase hopen hs, update_cons_of_signal _ hs]
      have hd : descriptionCell (cell :: cells) = descriptionCell cells := by
        simp [descriptionCell, hs]
      rw [hd]
      exact ih (f := { f with requirement := Requirement.ofSignal cell }) hname hphrase hopen
    · have hd : descriptionCell (cell :: cells) = some cell := by
        simp [descriptionCell, hs]
      have hu : f.requirement.update (cell :: cells) = f.requirement := by
        simp [Requirement.update, hs]
      have hfill : outcome (f.fill o cell) = (Markup.linkedText o.base cell).map fun text =>
          { f with description := some text } := by
        obtain ⟨hr, ho⟩ : ¬ cell = requiredCell ∧ ¬ cell = optionalCell := by
          simpa [isSignal] using hs
        unfold Field.fill
        rw [hname, hphrase, hopen]
        simp only [if_neg hr, if_neg ho]
        exact outcome_receive _ _ _
      rw [hfill, hd, hu, mapM_some_eq_map]
      cases Markup.linkedText o.base cell with
      | error e => rfl
      | ok text =>
        have hn : f.name.isSome := by rw [hname]; rfl
        have hp : f.phrase.isSome := by rw [hphrase]; rfl
        exact fillAll_of_described o (f := { f with description := some text }) hn hp rfl cells

/-- **Cells fill a new row as the outline reads them**, also where one of them cannot be read. -/
theorem fillAll_new (o : Options) (cells : List String) :
    Field.fillAll o {} cells = Field.ofCells o cells := by
  cases cells with
  | nil => rfl
  | cons first cells =>
    rw [fillAll_cons, Field.ofCells, List.getElem?_cons_zero, mapM_some_eq_map]
    have hfirst : outcome (Field.fill o first {}) =
        (Markup.bareText first).map fun name => { name := some name } := outcome_receive _ _ _
    rw [hfirst]
    cases Markup.bareText first with
    | error e => rfl
    | ok name =>
      cases cells with
      | nil => rfl
      | cons second cells =>
        rw [List.getElem?_cons_succ, List.getElem?_cons_zero, mapM_some_eq_map]
        show (outcome (Field.fill o second { name := some name }) >>= _) = _
        rw [outcome_fill_of_named o rfl rfl]
        cases Markup.bareText second with
        | error e => rfl
        | ok phrase =>
          show ((TypeExpr.read o.depth o.aliases phrase).map _ >>= _) =
            ((some phrase).mapM (TypeExpr.read o.depth o.aliases) >>= _)
          rw [mapM_some_eq_map]
          cases TypeExpr.read o.depth o.aliases phrase with
          | error e => rfl
          | ok type =>
            refine (fillAll_of_typed o rfl rfl rfl cells).trans ?_
            rw [List.drop_succ_cons, List.drop_succ_cons, List.drop_zero]
            show _ = ((descriptionCell cells).mapM (Markup.linkedText o.base) >>= _)
            cases (descriptionCell cells).mapM (Markup.linkedText o.base) <;> rfl

end ApiBindings.Reference
