import ApiBindings.Proofs.Markup.LongNumbers
import ApiBindings.Proofs.Markup.Refusals
/-!
# Links that lead nowhere

A link that leads nowhere is replaced by its text, wherever it stands. So a fragment whose links all
lead nowhere reads the same with its links as without them, also where links stand inside of links
or in a place that is not shown. Main statement: both texts are the same, and there is one unless
the fragment holds a number of too many digits (`linkedText_eq_bareText`).
-/

namespace ApiBindings.Markup

/-! ## Targets -/

/-- A link with this `href` leads nowhere from the page at `base`: it has none or an empty one, or
there is no base and the `href` does not begin as an absolute target does. -/
def LeadsNowhere (base : Option String) (href : Option (List Char)) : Prop :=
  href.getD [] = [] ∨
    base.getD "" = "" ∧ ∀ start ∈ absoluteStarts, ¬ start <+: Text.trimmed (href.getD [])

instance (base : Option String) (href : Option (List Char)) : Decidable (LeadsNowhere base href) :=
  inferInstanceAs (Decidable (_ ∨ _ ∧ _))

/-- Such a link has no target, and none is refused. -/
theorem target?_of_leadsNowhere {base : Option String} {href : Option (List Char)}
    (h : LeadsNowhere base href) : target? base href = .ok none := by
  unfold target?
  rcases href with _ | _ | ⟨c, cs⟩
  · rfl
  · rfl
  · obtain hempty | ⟨hbase, hstarts⟩ := h
    · cases hempty
    · have habsolute :
          ¬ absoluteStarts.any (·.isPrefixOf (Text.trimmed (c :: cs))) = true := by
        rw [List.any_eq_true]
        rintro ⟨start, hmem, hbegins⟩
        exact hstarts start hmem (List.isPrefixOf_iff_prefix.1 hbegins)
      dsimp only
      rw [if_neg habsolute]
      cases base with
      | none => rfl
      | some base => exact if_pos (String.isEmpty_iff.2 hbase)

/-! ## Trees -/

mutual

/-- A node whose links lead nowhere shows the same with its links. -/
theorem exists_withLinks {base : Option String} : (n : Node) →
    (∀ attributes ∈ n.links, LeadsNowhere base (attributeValue? "href" attributes)) →
    ∃ m, n.withLinks base = .ok m ∧ m.shownText = n.shownText
  | .text shown chars, _ => by
    rw [Node.withLinks]
    exact ⟨_, rfl, rfl⟩
  | .element name attributes children, h => by
    rw [Node.links, List.forall_mem_append] at h
    obtain ⟨inner, hinner, hshown⟩ := exists_allWithLinks children h.2
    rw [Node.withLinks, hinner]
    by_cases hname : (name == linkName) = true
    · rw [if_pos hname] at h ⊢
      rw [target?_of_leadsNowhere (h.1 attributes (List.mem_singleton.2 rfl))]
      -- the link becomes the text of its own children, not that of what they have become
      exact ⟨_, rfl, by rw [Node.shownText, Node.shownText]; rfl⟩
    · rw [if_neg hname]
      exact ⟨_, rfl, by rw [Node.shownText, Node.shownText, hshown]⟩

/-- Nodes whose links lead nowhere show the same with their links. -/
theorem exists_allWithLinks {base : Option String} : (ns : List Node) →
    (∀ attributes ∈ links ns, LeadsNowhere base (attributeValue? "href" attributes)) →
    ∃ ms, allWithLinks base ns = .ok ms ∧ shownTexts ms = shownTexts ns
  | [], _ => by
    rw [allWithLinks]
    exact ⟨_, rfl, rfl⟩
  | n :: ns, h => by
    rw [links, List.forall_mem_append] at h
    obtain ⟨first, hfirst, hn⟩ := exists_withLinks n h.1
    obtain ⟨rest, hrest, hns⟩ := exists_allWithLinks ns h.2
    rw [allWithLinks, hfirst, hrest]
    exact ⟨_, rfl, by rw [shownTexts, shownTexts, hn, hns]⟩

end

/-! ## Fragments -/

/-- A fragment has a text without its links unless a number in it is too long. -/
theorem exists_bareText_iff (fragment : String) :
    (∃ text, bareText fragment = .ok text) ↔
      ∀ digits, tree fragment ≠ .error (.longNumber digits) := by
  unfold bareText textBy
  cases tree fragment with
  | ok nodes => simp [Except.map]
  | error why => cases why <;> simp

/-- **A fragment whose links lead nowhere reads the same with its links as without them**, whatever
its tree and also if it has none. It has a text unless the reader of its markup gives up on a number,
which happens only where the fragment holds a decimal number of too many digits. -/
theorem linkedText_eq_bareText {base : Option String} {fragment : String}
    (h : ∀ attributes ∈ fragmentLinks fragment,
      LeadsNowhere base (attributeValue? "href" attributes)) :
    linkedText base fragment = bareText fragment ∧
    ((∃ text, linkedText base fragment = .ok text) ↔
      ∀ digits, tree fragment ≠ .error (.longNumber digits)) ∧
    (hasLongNumber fragment.toList = false → ∃ text, linkedText base fragment = .ok text) := by
  have hsame : linkedText base fragment = bareText fragment := by
    unfold fragmentLinks at h
    unfold linkedText bareText textBy
    cases htree : tree fragment with
    | error why => cases why <;> rfl -- without a tree there are no links to look at
    | ok nodes =>
      rw [htree] at h
      obtain ⟨ms, hms, hshown⟩ := exists_allWithLinks nodes h
      dsimp only
      rw [hms, ← hshown]
      rfl
  rw [hsame]
  refine ⟨rfl, exists_bareText_iff fragment, ?_⟩
  intro hshort
  rw [exists_bareText_iff]
  intro digits hlong
  rw [hasLongNumber_of_tree hlong] at hshort
  cases hshort

/-- A link with no `href` around a relative one that is not closed. -/
def deadLinks : String := "<p>See <a name=\"top\">the <a href=\"#docs\">docs</a>.</p>"

/-- Without a base the links are read as their texts. -/
theorem linkedText_eq_bareText_deadLinks :
    (∀ attributes ∈ fragmentLinks deadLinks,
        LeadsNowhere none (attributeValue? "href" attributes)) ∧
      (fragmentLinks deadLinks).length = 2 ∧
      hasLongNumber deadLinks.toList = false ∧
      bareText deadLinks = .ok "See the docs." ∧
      linkedText none deadLinks = .ok "See the docs." ∧
      ∀ digits, tree deadLinks ≠ .error (.longNumber digits) := by
  have hnowhere : ∀ attributes ∈ fragmentLinks deadLinks,
      LeadsNowhere none (attributeValue? "href" attributes) := by decide +kernel
  have hshort : hasLongNumber deadLinks.toList = false := by decide +kernel
  have hbare : bareText deadLinks = .ok "See the docs." := by decide +kernel
  obtain ⟨hsame, hiff, htext⟩ := linkedText_eq_bareText hnowhere
  exact ⟨hnowhere, by decide +kernel, hshort, hbare, hsame.trans hbare, hiff.1 (htext hshort)⟩

end ApiBindings.Markup
