import ApiBindings.Error
import Mathlib.Data.List.Forall2
/-!
# Readings that return

What it says that a reading made of several readings returns: all of them return, and its result is
made of theirs. What is made of readings returns exactly if they do, and else ends in the error of
one of them (`MadeOf`).
-/

namespace ApiBindings

/-- A chain of two readings returns exactly if both do. -/
theorem bind_eq_ok_iff {ε α β : Type} {x : Except ε α} {f : α → Except ε β} {b : β} :
    x >>= f = .ok b ↔ ∃ a, x = .ok a ∧ f a = .ok b := by
  cases x with
  | error e =>
    constructor
    · intro h
      cases h
    · rintro ⟨a, h, _⟩
      cases h
  | ok a =>
    constructor
    · intro h
      exact ⟨a, rfl, h⟩
    · rintro ⟨a', h, hf⟩
      cases h
      exact hf

/-- A chain ends in the error of its first step, or else in that of its second one. -/
theorem bind_eq_error_iff {ε α β : Type} {x : Except ε α} {f : α → Except ε β} {e : ε} :
    x >>= f = .error e ↔ x = .error e ∨ ∃ a, x = .ok a ∧ f a = .error e := by
  cases x with
  | error e' =>
    constructor
    · intro h
      cases h
      exact Or.inl rfl
    · rintro (h | ⟨a, h, -⟩)
      · cases h
        rfl
      · cases h
  | ok a =>
    constructor
    · intro h
      exact Or.inr ⟨a, rfl, h⟩
    · rintro (h | ⟨a', h, hf⟩)
      · cases h
      · cases h
        exact hf

/-- What is made of a reading is there exactly if the reading returns. -/
theorem map_eq_ok_iff {ε α β : Type} {x : Except ε α} {f : α → β} {b : β} :
    x.map f = .ok b ↔ ∃ a, x = .ok a ∧ f a = b := by
  cases x with
  | error e =>
    constructor
    · intro h
      cases h
    · rintro ⟨a, h, _⟩
      cases h
  | ok a =>
    constructor
    · intro h
      cases h
      exact ⟨a, rfl, rfl⟩
    · rintro ⟨a', h, rfl⟩
      cases h
      rfl

/-- What is made of a reading ends in the error of the reading. -/
theorem map_eq_error_iff {ε α β : Type} {x : Except ε α} {f : α → β} {e : ε} :
    x.map f = .error e ↔ x = .error e := by
  cases x with
  | error e' =>
    constructor <;>
    · intro h
      cases h
      rfl
  | ok a => constructor <;> intro h <;> cases h

/-- What is made of a reading in two steps. -/
theorem map_map_except {ε α β γ : Type} (x : Except ε α) (f : α → β) (g : β → γ) :
    (x.map f).map g = x.map fun a => g (f a) := by
  cases x <;> rfl

/-- What is made of a reading that returns by a test. -/
theorem map_ite_except {ε α β : Type} {c : Prop} [Decidable c] (a : α) (e : ε) (f : α → β) :
    Except.map f (if c then .ok a else .error e) = if c then .ok (f a) else .error e := by
  split <;> rfl

/-! ## Steps that may end in an error -/

/-- What is there after a step, unless that ended in an error. -/
def outcome {σ : Type} : σ × Option Error → Except Error σ
  | (s, none) => .ok s
  | (_, some e) => .error e

/-- A step that receives a reading is done exactly if the reading returns. -/
theorem outcome_receive {σ α : Type} (s : σ) (read : Except Error α) (put : α → σ) :
    outcome (receive s read put) = read.map put := by
  cases read <;> rfl

theorem outcome_receive_eq_ok_iff {σ α : Type} {s t : σ} {read : Except Error α} {put : α → σ} :
    outcome (receive s read put) = .ok t ↔ ∃ a, read = .ok a ∧ put a = t := by
  rw [outcome_receive, map_eq_ok_iff]

/-! ## Readings of what may be missing, and of lists -/

/-- Reading what is there. -/
theorem mapM_some_eq_map {ε α β : Type} (f : α → Except ε β) (a : α) :
    (some a).mapM f = (f a).map some := by
  rw [Option.mapM_some]
  rfl

/-- Readings of a list return exactly if those of its head and of its tail do. -/
theorem mapM_cons_eq_ok_iff {ε α β : Type} {f : α → Except ε β} {a : α} {as : List α}
    {bs : List β} :
    (a :: as).mapM f = .ok bs ↔
      ∃ b bs', f a = .ok b ∧ as.mapM f = .ok bs' ∧ bs = b :: bs' := by
  rw [List.mapM_cons, bind_eq_ok_iff]
  constructor
  · rintro ⟨b, hb, h⟩
    obtain ⟨bs', hbs, h⟩ := bind_eq_ok_iff.1 h
    cases h
    exact ⟨b, bs', hb, hbs, rfl⟩
  · rintro ⟨b, bs', hb, hbs, rfl⟩
    exact ⟨b, hb, by rw [hbs]; rfl⟩

/-- Readings of a list that return relate its members to what is read from them. -/
theorem forall₂_of_mapM {ε α β : Type} {f : α → Except ε β} {as : List α} {bs : List β}
    (h : as.mapM f = .ok bs) : List.Forall₂ (fun a b => f a = .ok b) as bs := by
  induction as generalizing bs with
  | nil =>
    cases h
    exact List.Forall₂.nil
  | cons a as ih =>
    obtain ⟨b, bs', hb, hbs, rfl⟩ := mapM_cons_eq_ok_iff.1 h
    exact List.Forall₂.cons hb (ih hbs)

/-- Each result of readings of a list is read from one of its members. -/
theorem exists_of_mem_mapM {ε α β : Type} {f : α → Except ε β} {as : List α} {bs : List β}
    (h : as.mapM f = .ok bs) {b : β} (hb : b ∈ bs) : ∃ a ∈ as, f a = .ok b := by
  have hread := forall₂_of_mapM h
  obtain ⟨i, hi, rfl⟩ := List.mem_iff_getElem.1 hb
  have hi' : i < as.length := hread.length_eq ▸ hi
  exact ⟨as[i], List.getElem_mem hi', hread.get hi' hi⟩

/-- Readings of a list that fail in one way return exactly if each of them does. -/
theorem mapM_eq_ite {ε α β : Type} {f : α → Except ε β} {fits : α → Prop} [DecidablePred fits]
    {g : α → β} {e : ε} {as : List α}
    (h : ∀ a ∈ as, f a = if fits a then .ok (g a) else .error e) :
    as.mapM f = if ∀ a ∈ as, fits a then .ok (as.map g) else .error e := by
  induction as with
  | nil => rfl
  | cons a as ih =>
    rw [List.mapM_cons, h a List.mem_cons_self, ih fun b hb => h b (List.mem_cons_of_mem _ hb)]
    by_cases ha : fits a
    · by_cases has : ∀ b ∈ as, fits b
      · rw [if_pos ha, if_pos has, if_pos (List.forall_mem_cons.2 ⟨ha, has⟩)]
        rfl
      · rw [if_pos ha, if_neg has, if_neg fun hall => has (List.forall_mem_cons.1 hall).2]
        rfl
    · rw [if_neg ha, if_neg fun hall => ha (List.forall_mem_cons.1 hall).1]
      rfl

/-! ## Errors of readings -/

/-- The error that a reading ends in, if it does. -/
def errorOf? {ε α : Type} : Except ε α → Option ε
  | .ok _ => none
  | .error e => some e

@[simp] theorem errorOf?_map {ε α β : Type} (x : Except ε α) (f : α → β) :
    errorOf? (x.map f) = errorOf? x := by
  cases x <;> rfl

/-- The error of a chain is that of its first step, or else that of its second one. -/
theorem errorOf?_bind {ε α β : Type} {x : Except ε α} {f : α → Except ε β} {e? : Option ε}
    (hf : ∀ a, x = .ok a → errorOf? (f a) = e?) : errorOf? (x >>= f) = (errorOf? x).or e? := by
  cases x with
  | ok a => exact hf a rfl
  | error e => rfl

/-- A second step that always returns adds no error. -/
theorem errorOf?_bind_of_returns {ε α β : Type} {x : Except ε α} {f : α → Except ε β}
    (hf : ∀ a, x = .ok a → errorOf? (f a) = none) : errorOf? (x >>= f) = errorOf? x := by
  rw [errorOf?_bind hf, Option.or_none]

/-- A choice between readings that end in one error, or in none. -/
theorem errorOf?_ite {ε α : Type} {c : Prop} [Decidable c] {x y : Except ε α} {e? : Option ε}
    (hx : errorOf? x = e?) (hy : errorOf? y = e?) : errorOf? (if c then x else y) = e? := by
  split
  · exact hx
  · exact hy

theorem errorOf?_eq_none_iff {ε α : Type} {x : Except ε α} :
    errorOf? x = none ↔ ∃ a, x = .ok a := by
  cases x <;> simp [errorOf?]

theorem errorOf?_eq_some_iff {ε α : Type} {x : Except ε α} {e : ε} :
    errorOf? x = some e ↔ x = .error e := by
  cases x <;> simp [errorOf?]

/-! ## What is made of readings -/

/-- The outcome `x` is made by reading some things: it is there only if all of them can be read, and
where it is an error it is that of one of them. -/
structure MadeOf {ε ι α β : Type} (read : ι → Except ε β) (is : List ι) (x : Except ε α) :
    Prop where
  of_ok : ∀ a, x = .ok a → ∀ i ∈ is, ∃ b, read i = .ok b
  of_error : ∀ e, x = .error e → ∃ i ∈ is, read i = .error e

namespace MadeOf

variable {ε ι κ α β γ : Type} {read : ι → Except ε β} {is js : List ι} {x : Except ε α}

/-- What is made by reading some things is there exactly if all of them can be read. -/
theorem exists_ok_iff (h : MadeOf read is x) :
    (∃ a, x = .ok a) ↔ ∀ i ∈ is, ∃ b, read i = .ok b := by
  constructor
  · rintro ⟨a, ha⟩
    exact h.of_ok a ha
  · intro hall
    cases hx : x with
    | ok a => exact ⟨a, rfl⟩
    | error e =>
      obtain ⟨i, hi, herror⟩ := h.of_error e hx
      obtain ⟨b, hok⟩ := hall i hi
      cases herror.symm.trans hok

/-- Nothing is read for what is there. -/
theorem nil (a : α) : MadeOf read [] (.ok a) where
  of_ok := by simp
  of_error := by simp

/-- One thing is read. -/
theorem one (i : ι) (f : β → α) : MadeOf read [i] ((read i).map f) where
  of_ok a ha j hj := by
    obtain ⟨b, hb, -⟩ := map_eq_ok_iff.1 ha
    obtain rfl := List.mem_singleton.1 hj
    exact ⟨b, hb⟩
  of_error e he := ⟨i, List.mem_singleton_self i, map_eq_error_iff.1 he⟩

/-- A thing that may be missing is read. -/
theorem option (c : Option κ) (f : κ → ι) :
    MadeOf read (c.toList.map f) (c.mapM fun a => read (f a)) := by
  cases c with
  | none => exact nil _
  | some a =>
    rw [mapM_some_eq_map]
    exact one _ _

/-- Nothing more is read for what is made of the outcome. -/
theorem map (h : MadeOf read is x) (f : α → γ) : MadeOf read is (x.map f) where
  of_ok c hc := by
    obtain ⟨a, ha, -⟩ := map_eq_ok_iff.1 hc
    exact h.of_ok a ha
  of_error e he := h.of_error e (map_eq_error_iff.1 he)

/-- For a chain the things of both its steps are read. -/
theorem bind {f : α → Except ε γ} (h : MadeOf read is x)
    (hf : ∀ a, x = .ok a → MadeOf read js (f a)) : MadeOf read (is ++ js) (x >>= f) where
  of_ok c hc i hi := by
    obtain ⟨a, ha, hc⟩ := bind_eq_ok_iff.1 hc
    rcases List.mem_append.1 hi with hi | hi
    · exact h.of_ok a ha i hi
    · exact (hf a ha).of_ok c hc i hi
  of_error e he := by
    rcases bind_eq_error_iff.1 he with hx | ⟨a, hx, he⟩
    · obtain ⟨i, hi, herror⟩ := h.of_error e hx
      exact ⟨i, List.mem_append_left _ hi, herror⟩
    · obtain ⟨j, hj, herror⟩ := (hf a hx).of_error e he
      exact ⟨j, List.mem_append_right _ hj, herror⟩

/-- The things of a list are read one after the other. -/
theorem list (is : List ι) : MadeOf read is (is.mapM read) := by
  induction is with
  | nil => exact nil []
  | cons i is ih =>
    have hfirst : MadeOf read [i] (read i) := by
      have hone : MadeOf read [i] ((read i).map id) := one i id
      cases hi : read i <;> rwa [hi] at hone
    rw [List.mapM_cons]
    refine bind hfirst fun b _ => ?_
    cases hrest : is.mapM read with
    | ok bs =>
      rw [hrest] at ih
      exact ih.map (b :: ·)
    | error e =>
      rw [hrest] at ih
      exact ih.map (b :: ·)

/-- Things that can be read may be added. -/
theorem add (h : MadeOf read is x) (hjs : ∀ j ∈ js, ∃ b, read j = .ok b) :
    MadeOf read (js ++ is) x where
  of_ok a ha i hi := by
    rcases List.mem_append.1 hi with hi | hi
    · exact hjs i hi
    · exact h.of_ok a ha i hi
  of_error e he := by
    obtain ⟨i, hi, herror⟩ := h.of_error e he
    exact ⟨i, List.mem_append_right _ hi, herror⟩

/-- An error stays that of one of the things read if more of them are named. -/
theorem error_mono {e : ε} (h : MadeOf read is (.error e : Except ε α)) (hsubset : is ⊆ js) :
    MadeOf read js (.error e : Except ε γ) where
  of_ok c hc := by cases hc
  of_error e' he' := by
    cases he'
    obtain ⟨i, hi, herror⟩ := h.of_error e rfl
    exact ⟨i, hsubset hi, herror⟩

/-- The order in which things are read does not matter. -/
theorem perm (h : MadeOf read is x) (hperm : is.Perm js) : MadeOf read js x where
  of_ok a ha j hj := h.of_ok a ha j (hperm.mem_iff.2 hj)
  of_error e he := by
    obtain ⟨i, hi, herror⟩ := h.of_error e he
    exact ⟨i, hperm.mem_iff.1 hi, herror⟩

end MadeOf

end ApiBindings
