import Mathlib.Logic.Relation
import ApiBindings.Proofs.Naming.CamelCase
/-!
# Underscores in a name

Camel case sees nothing of a name but its segments. So underscores that divide nothing, at the ends
of a name or beside each other, do not count, and a name in plain snake case, which has none of
them, can be read back. Main statements: an underscore divides the segments of a name
(`segments_append_cons`), one that divides nothing adds no segment (`segments_of_pads`), and what
camel case keeps of a name and what it passes over (`uncamel_camelCase`).
-/

namespace ApiBindings.Naming

open Text

/-! ## Segments -/

/-- An underscore divides the segments of a name. -/
theorem segments_append_cons (before after : List Char) :
    segments (before ++ '_' :: after) = segments before ++ segments after := by
  unfold segments
  rw [pieces_append_cons (by decide), List.filter_append]

/-- An underscore in front of a name divides nothing. -/
theorem segments_cons (name : List Char) : segments ('_' :: name) = segments name :=
  segments_append_cons [] name

/-- An underscore at the end of a name divides nothing. -/
theorem segments_concat (name : List Char) : segments (name ++ ['_']) = segments name := by
  rw [segments_append_cons]
  exact List.append_nil _

/-! ## Underscores that divide nothing -/

/-- The second name is the first with one more underscore, at an end or beside another one. -/
inductive Pads : String → String → Prop
  | front (name : String) : Pads name ("_" ++ name)
  | back (name : String) : Pads name (name ++ "_")
  | beside (before after : String) : Pads (before ++ "_" ++ after) (before ++ "__" ++ after)

/-- Such an underscore adds no segment. -/
theorem segments_of_pads {a b : String} (h : Pads a b) :
    segments a.toList = segments b.toList := by
  cases h with
  | front =>
    rw [String.toList_append]
    exact (segments_cons a.toList).symm
  | back =>
    rw [String.toList_append]
    exact (segments_concat a.toList).symm
  | beside before after =>
    have hone : (before ++ "_" ++ after).toList = before.toList ++ '_' :: after.toList := by simp
    have htwo : (before ++ "__" ++ after).toList =
        before.toList ++ '_' :: ('_' :: after.toList) := by simp
    rw [hone, htwo, segments_append_cons, segments_append_cons, segments_cons]

/-- Names that arise from each other by adding and removing such underscores have the same
segments. -/
theorem segments_of_eqvGen {a b : String} (h : Relation.EqvGen Pads a b) :
    segments a.toList = segments b.toList := by
  induction h with
  | rel a b hpads => exact segments_of_pads hpads
  | refl a => rfl
  | symm a b _ ih => exact ih.symm
  | trans a b c _ _ first second => exact first.trans second

/-! ## What is kept of a name -/

/-- **What camel case keeps of a name.** A name in plain snake case is what comes out when each
capital ASCII letter of its camel case is put in lower case behind an underscore. No camel case has
an underscore, and underscores at the ends of a name or beside each other make no difference to
it. -/
theorem uncamel_camelCase (name : String) :
    (isSnakeName name = true → uncamel (camelCase name).toList = name.toList) ∧
    '_' ∉ (camelCase name).toList ∧
    ∀ other, Relation.EqvGen Pads name other → camelCase other = camelCase name := by
  refine ⟨?_, underscore_not_mem_camelCase name, ?_⟩
  · intro h
    rw [camelCase, String.toList_ofList]
    exact uncamel_camelJoin_segments h
  · intro other h
    rw [camelCase, camelCase, segments_of_eqvGen h]

/-- Digits have no capital form, and three underscores that divide nothing are passed over. -/
theorem uncamel_camelCase_chatId :
    isSnakeName "reply_to_chat_id2" = true ∧
    Relation.EqvGen Pads "reply_to_chat_id2" "_reply_to__chat_id2_" ∧
    uncamel "replyToChatId2".toList = "reply_to_chat_id2".toList ∧
    camelCase "_reply_to__chat_id2_" = "replyToChatId2" := by
  have hsnake : isSnakeName "reply_to_chat_id2" = true := by decide +kernel
  have hcamel : camelCase "reply_to_chat_id2" = "replyToChatId2" := by decide +kernel
  have hbeside : Pads "reply_to_chat_id2" "reply_to__chat_id2" := Pads.beside "reply_to" "chat_id2"
  have hpads : Relation.EqvGen Pads "reply_to_chat_id2" "_reply_to__chat_id2_" :=
    .trans _ _ _ (.rel _ _ hbeside)
      (.trans _ _ _ (.rel _ _ (Pads.front _)) (.rel _ _ (Pads.back _)))
  obtain ⟨hback, -, hsame⟩ := uncamel_camelCase "reply_to_chat_id2"
  rw [← hcamel]
  exact ⟨hsnake, hpads, hback hsnake, hsame _ hpads⟩

end ApiBindings.Naming
