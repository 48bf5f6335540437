import ApiBindings.Markup.Fragment
import ApiBindings.Proofs.Link.Hosts
/-!
# Lines that cannot be read

A line cannot be read if a number in it is too long, and if it is read with its links then also if
the target of one of them cannot be joined with the page. Main statements: why the target of a link
is not told (`errorOf?_target?`), and why a line has no text, without its links
(`errorOf?_bareText`) and with them (`errorOf?_linkedText`).
-/

namespace ApiBindings.Markup

/-! ## Targets -/

/-- Why the target of a link's `href` is not told on the page at `base`, if it is not: a relative
one is joined with the base. A base or an `href` that is missing is as good as empty. -/
def targetError? (base : Option String) (href : Option (List Char)) : Option Error :=
  let href := Text.trimmed (href.getD [])
  if absoluteStarts.any (·.isPrefixOf href) then none
  else Link.joinError? (base.getD "").toList href

/-- **Why the target of a link is not told.** -/
theorem errorOf?_target? (base : Option String) (href : Option (List Char)) :
    errorOf? (target? base href) = targetError? base href := by
  unfold target? targetError?
  rcases href with _ | _ | ⟨c, cs⟩
  · simp [Text.trimmed, Link.joinError?, errorOf?]
  · simp [Text.trimmed, Link.joinError?, errorOf?]
  · dsimp only [Option.getD_some]
    by_cases habsolute : absoluteStarts.any (·.isPrefixOf (Text.trimmed (c :: cs))) = true
    · rw [if_pos habsolute, if_pos habsolute]
      rfl
    · rw [if_neg habsolute, if_neg habsolute]
      cases base with
      | none => simp [Link.joinError?, errorOf?]
      | some base =>
        dsimp only [Option.getD_some]
        by_cases hempty : base.isEmpty = true
        · have hnothing : base.toList.isEmpty = true := by simpa using hempty
          rw [if_pos hempty, Link.joinError?, hnothing]
          rfl
        · rw [if_neg hempty, errorOf?_map, Link.errorOf?_join]

/-! ## Links -/

mutual

/-- The attributes of each link of a node, also of those inside of other links, in their order. -/
def Node.links : Node → List (List Attribute)
  | .text _ _ => []
  | .element name attributes children =>
    (if name == linkName then [attributes] else []) ++ links children

/-- The attributes of each link of several nodes. -/
def links : List Node → List (List Attribute)
  | [] => []
  | n :: ns => n.links ++ links ns

end

/-- Why the target of the first link for which there is a reason is not told. -/
def linkError? (base : Option String) (as : List (List Attribute)) : Option Error :=
  as.findSome? fun attributes => targetError? base (attributeValue? "href" attributes)

mutual

/-- The targets of all links of a node have to be told. -/
theorem errorOf?_withLinks (base : Option String) : (n : Node) →
    errorOf? (n.withLinks base) = linkError? base n.links
  | .text shown chars => by
    rw [Node.withLinks]
    rfl
  | .element name attributes children => by
    rw [Node.withLinks, Node.links, linkError?, List.findSome?_append]
    by_cases hname : (name == linkName) = true
    · rw [if_pos hname, if_pos hname, List.findSome?_singleton, ← errorOf?_target?]
      refine errorOf?_bind fun target _ => ?_
      rw [errorOf?_bind_of_returns fun inner _ => rfl]
      exact errorOf?_allWithLinks base children
    · rw [if_neg hname, if_neg hname]
      rw [errorOf?_bind_of_returns fun inner _ => rfl]
      exact errorOf?_allWithLinks base children

/-- The targets of all links of several nodes have to be told. -/
theorem errorOf?_allWithLinks (base : Option String) : (ns : List Node) →
    errorOf? (allWithLinks base ns) = linkError? base (links ns)
  | [] => by
    rw [allWithLinks]
    rfl
  | n :: ns => by
    rw [allWithLinks, links, linkError?, List.findSome?_append]
    refine (errorOf?_bind fun first _ => ?_).trans
      (congrArg (Option.or · _) (errorOf?_withLinks base n))
    rw [errorOf?_bind_of_returns fun rest _ => rfl]
    exact errorOf?_allWithLinks base ns

end

/-! ## Lines -/

/-- Why the numbers of a fragment cannot be read, if one of them is too long. -/
def numberError? (fragment : String) : Option Error :=
  match tree fragment with
  | .error (.longNumber digits) => some (.longNumber digits)
  | _ => none

/-- The attributes of each link of a fragment; one that is no markup has none. -/
def fragmentLinks (fragment : String) : List (List Attribute) :=
  match tree fragment with
  | .ok nodes => links nodes
  | .error _ => []

/-- **Why a line has no text without its links.** -/
theorem errorOf?_bareText (fragment : String) :
    errorOf? (bareText fragment) = numberError? fragment := by
  unfold bareText textBy numberError?
  cases tree fragment with
  | ok nodes => rfl
  | error why => cases why <;> rfl

/-- **Why a line has no text with its links.** -/
theorem errorOf?_linkedText (base : Option String) (fragment : String) :
    errorOf? (linkedText base fragment) =
      (numberError? fragment).or (linkError? base (fragmentLinks fragment)) := by
  unfold linkedText textBy numberError? fragmentLinks
  cases tree fragment with
  | ok nodes =>
    dsimp only
    rw [errorOf?_map, errorOf?_map, errorOf?_allWithLinks, Option.none_or]
  | error why => cases why <;> rfl

end ApiBindings.Markup
