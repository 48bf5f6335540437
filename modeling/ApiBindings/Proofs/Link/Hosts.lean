import ApiBindings.Link.Join
import ApiBindings.Proofs.Outcome
/-!
# Joining and hosts

Two targets can be joined unless the host of one of them is refused. Main statement: the error of
joining is why the host of the page is refused, or else why that of the target is
(`errorOf?_join`).
-/

namespace ApiBindings.Link

/-- The host that a target names. -/
def hostOf (s : List Char) : List Char :=
  (splitHost (((splitScheme? (cleaned s)).map Prod.snd).getD (cleaned s))).1

/-- Why `href` cannot be joined with the page at `base`, if it cannot: there is nothing to join if
one of them is empty. -/
def joinError? (base href : List Char) : Option Error :=
  if base.isEmpty || href.isEmpty then none
  else (hostError? (hostOf base)).or (hostError? (hostOf href))

/-- A target is refused for its host and for nothing else. -/
theorem errorOf?_parse (default s : List Char) :
    errorOf? (Url.parse default s) = hostError? (hostOf s) := by
  have hhost :
      (splitHost ((splitScheme? (cleaned s)).getD (default, cleaned s)).2).1 = hostOf s := by
    unfold hostOf
    cases splitScheme? (cleaned s) <;> rfl
  unfold Url.parse
  dsimp only
  rw [hhost]
  cases hostError? (hostOf s) <;> rfl

/-- **Why two targets cannot be joined.** -/
theorem errorOf?_join (base href : List Char) :
    errorOf? (join base href) = joinError? base href := by
  unfold join joinError?
  by_cases hbase : base.isEmpty = true
  · simp [hbase, errorOf?]
  · by_cases hhref : href.isEmpty = true
    · simp [hbase, hhref, errorOf?]
    · rw [if_neg hbase, if_neg hhref, if_neg (by simp [hbase, hhref]), ← errorOf?_parse [] base]
      refine errorOf?_bind fun page _ => ?_
      rw [← errorOf?_parse page.scheme href]
      -- once both have their parts, every way of joining them gives a target
      refine errorOf?_bind_of_returns fun target _ => ?_
      exact errorOf?_ite rfl (errorOf?_ite rfl (errorOf?_ite rfl rfl))

end ApiBindings.Link
