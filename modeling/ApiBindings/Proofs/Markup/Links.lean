import ApiBindings.Markup.Fragment
import ApiBindings.Proofs.Outcome
import ApiBindings.Proofs.Text.Trimming
/-!
# Links in a fragment

The text of a fragment with its links is written piece by piece: what is no link stays, and an
outermost link is written with its target if it leads anywhere. So the beginning of the text, up to
the first link that leads somewhere, is what a reader sees of it without links. Main statements:
the pieces make up the text (`shownTexts_allWithLinks`), and a word begins the text exactly if it
begins what stands before that link (`startsWith_of_linkedText`).
-/

namespace ApiBindings.Markup

/-! ## Pieces -/

/-- What the text of a fragment is made of: characters outside of every link, or an outermost link
with its attributes and the characters that are shown of it. -/
inductive Piece where
  | plain (chars : List Char)
  | link (attributes : List Attribute) (chars : List Char)

mutual

/-- The pieces of a node. -/
def Node.linkPieces : Node → List Piece
  | .text shown chars => [.plain (if shown then chars else [])]
  | .element name attributes children =>
    if name == linkName then [.link attributes (shownTexts children)] else linkPieces children

/-- The pieces of several nodes, in their order. -/
def linkPieces : List Node → List Piece
  | [] => []
  | n :: ns => n.linkPieces ++ linkPieces ns

end

/-- Where a link leads from the page at `base`, if it leads anywhere. -/
def leadsTo (base : Option String) (attributes : List Attribute) : Option (List Char) :=
  match target? base (attributeValue? "href" attributes) with
  | .ok target => target
  | .error _ => none

/-- The characters of a piece without its link. -/
def Piece.chars : Piece → List Char
  | .plain chars => chars
  | .link _ chars => chars

/-- The characters of a piece with its link. -/
def Piece.written (base : Option String) : Piece → List Char
  | .plain chars => chars
  | .link attributes chars => linkText chars (leadsTo base attributes)

/-- The piece is a link that leads somewhere. -/
def Piece.isFollowed (base : Option String) : Piece → Bool
  | .plain _ => false
  | .link attributes _ => (leadsTo base attributes).isSome

mutual

/-- A node with its links is written piece by piece. -/
theorem shownText_withLinks {base : Option String} : (n : Node) → {m : Node} →
    n.withLinks base = .ok m → m.shownText = n.linkPieces.flatMap (Piece.written base)
  | .text shown chars, m, h => by
    rw [Node.withLinks] at h
    cases h
    simp [Node.shownText, Node.linkPieces, Piece.written]
  | .element name attributes children, m, h => by
    rw [Node.withLinks] at h
    rw [Node.linkPieces]
    by_cases hname : (name == linkName) = true
    · rw [if_pos hname] at h ⊢
      obtain ⟨target, htarget, h⟩ := bind_eq_ok_iff.1 h
      obtain ⟨inner, -, h⟩ := bind_eq_ok_iff.1 h
      cases h
      simp [Node.shownText, Piece.written, leadsTo, htarget]
    · rw [if_neg hname] at h ⊢
      obtain ⟨children', hchildren, h⟩ := bind_eq_ok_iff.1 h
      cases h
      exact shownTexts_allWithLinks children hchildren

/-- **A text with its links is written piece by piece.** -/
theorem shownTexts_allWithLinks {base : Option String} : (ns : List Node) → {ms : List Node} →
    allWithLinks base ns = .ok ms → shownTexts ms = (linkPieces ns).flatMap (Piece.written base)
  | [], ms, h => by
    rw [allWithLinks] at h
    cases h
    rfl
  | n :: ns, ms, h => by
    rw [allWithLinks] at h
    obtain ⟨first, hfirst, h⟩ := bind_eq_ok_iff.1 h
    obtain ⟨rest, hrest, h⟩ := bind_eq_ok_iff.1 h
    cases h
    rw [shownTexts, linkPieces, List.flatMap_append, shownText_withLinks n hfirst,
      shownTexts_allWithLinks ns hrest]

end

/-! ## Up to the first link -/

/-- The characters before the first piece that leads somewhere. -/
def lead (base : Option String) (ps : List Piece) : List Char :=
  (ps.takeWhile (!·.isFollowed base)).flatMap Piece.chars

/-- A text with its links begins as without them; where it goes on in another way, the bracket of a
link stands. -/
theorem exists_written_eq (base : Option String) (ps : List Piece) :
    ∃ tail, ps.flatMap (Piece.written base) = lead base ps ++ tail ∧
      (tail = [] ∨ ∃ rest, tail = '[' :: rest) := by
  induction ps with
  | nil => exact ⟨[], rfl, Or.inl rfl⟩
  | cons p ps ih =>
    obtain ⟨tail, htail, hcases⟩ := ih
    unfold lead at htail ⊢
    rw [List.flatMap_cons]
    cases p with
    | plain chars =>
      refine ⟨tail, ?_, hcases⟩
      rw [List.takeWhile_cons_of_pos rfl, htail, List.flatMap_cons, List.append_assoc]
      rfl
    | link attributes chars =>
      cases hleads : leadsTo base attributes with
      | none =>
        refine ⟨tail, ?_, hcases⟩
        rw [List.takeWhile_cons_of_pos (by simp [Piece.isFollowed, hleads]), htail,
          List.flatMap_cons, List.append_assoc, Piece.written, hleads]
        rfl
      | some target =>
        -- the piece begins with its bracket
        refine ⟨linkText chars (some target) ++ ps.flatMap (Piece.written base), ?_,
          Or.inr ⟨_, rfl⟩⟩
        rw [List.takeWhile_cons_of_neg (by simp [Piece.isFollowed, hleads]), Piece.written, hleads]
        rfl

/-- A target that needs no base is the same on every page. -/
theorem target?_of_none {href : Option (List Char)} {target : List Char}
    (h : target? none href = .ok (some target)) (base : Option String) :
    target? base href = .ok (some target) := by
  cases href with
  | none => cases h
  | some href =>
    cases href with
    | nil => cases h
    | cons c cs =>
      unfold target? at h ⊢
      dsimp only at h ⊢
      by_cases habsolute : absoluteStarts.any (·.isPrefixOf (Text.trimmed (c :: cs))) = true
      · rw [if_pos habsolute] at h ⊢
        exact h
      · rw [if_neg habsolute] at h
        cases h

/-- A link that leads somewhere without a base leads somewhere on every page. -/
theorem isFollowed_of_none {p : Piece} (h : p.isFollowed none = true) (base : Option String) :
    p.isFollowed base = true := by
  cases p with
  | plain chars => cases h
  | link attributes chars =>
    unfold Piece.isFollowed leadsTo at h ⊢
    dsimp only at h ⊢
    cases htarget : target? none (attributeValue? "href" attributes) with
    | error e =>
      rw [htarget] at h
      cases h
    | ok target =>
      rw [htarget] at h
      obtain ⟨target, rfl⟩ := Option.isSome_iff_exists.1 h
      rw [target?_of_none htarget base]
      rfl

/-- Without a base the text goes on for longer before the first link that leads somewhere. -/
theorem lead_isPrefix (base : Option String) (ps : List Piece) : lead base ps <+: lead none ps := by
  induction ps with
  | nil => exact List.prefix_rfl
  | cons p ps ih =>
    unfold lead at ih ⊢
    cases hp : p.isFollowed base with
    | true =>
      rw [List.takeWhile_cons_of_neg (by simp [hp])]
      exact List.nil_prefix
    | false =>
      have hnone : p.isFollowed none = false := by
        by_contra hn
        rw [isFollowed_of_none (by simpa using hn) base] at hp
        exact absurd hp (by decide)
      rw [List.takeWhile_cons_of_pos (by simp [hp]), List.takeWhile_cons_of_pos (by simp [hnone]),
        List.flatMap_cons, List.flatMap_cons]
      exact (List.prefix_append_right_inj _).2 ih

/-! ## What the text of a fragment begins with -/

/-- The text of a fragment up to the first link that leads somewhere from the page at `base`. -/
def openingText (base : Option String) (fragment : String) : List Char :=
  match tree fragment with
  | .ok nodes => lead base (linkPieces nodes)
  | .error _ => stripTags fragment.toList

/-- The fragment shows the word first, before any link that leads somewhere. -/
def opensWith (word : String) (base : Option String) (fragment : String) : Bool :=
  word.toList.isPrefixOf ((openingText base fragment).dropWhile Text.isBlank)

/-- **What the text of a fragment with its links begins with**: a word without blanks and brackets
begins it exactly if it stands before any link that leads somewhere. -/
theorem startsWith_of_linkedText {word fragment text : String} {base : Option String}
    (hword : ∀ c ∈ word.toList, Text.isBlank c = false) (hbracket : '[' ∉ word.toList)
    (h : linkedText base fragment = .ok text) :
    Text.startsWith text word = opensWith word base fragment := by
  have hbegins : ∀ s tail : List Char, (tail = [] ∨ ∃ rest, tail = '[' :: rest) →
      Text.startsWith (Text.trim (String.ofList (s ++ tail))) word =
        word.toList.isPrefixOf (s.dropWhile Text.isBlank) := by
    intro s tail htail
    rw [Bool.eq_iff_iff, Text.startsWith, Text.trim, String.toList_ofList, String.toList_ofList,
      List.isPrefixOf_iff_prefix, List.isPrefixOf_iff_prefix]
    exact Text.isPrefix_trimmed_append_iff hword hbracket (by decide) htail
  unfold linkedText textBy at h
  unfold opensWith openingText
  cases htree : tree fragment with
  | ok nodes =>
    rw [htree] at h
    obtain ⟨chars, hchars, rfl⟩ := map_eq_ok_iff.1 h
    obtain ⟨nodes', hnodes, rfl⟩ := map_eq_ok_iff.1 hchars
    obtain ⟨tail, htail, hcases⟩ := exists_written_eq base (linkPieces nodes)
    rw [shownTexts_allWithLinks nodes hnodes, htail]
    exact hbegins _ _ hcases
  | error why =>
    rw [htree] at h
    cases why with
    | longNumber digits => cases h
    | rejected why =>
      cases h
      have hstripped := hbegins (stripTags fragment.toList) [] (Or.inl rfl)
      rwa [List.append_nil] at hstripped

/-- What a fragment shows first with its links, it shows first without a base. -/
theorem opensWith_none {word fragment : String} {base : Option String}
    (h : opensWith word base fragment = true) : opensWith word none fragment = true := by
  unfold opensWith openingText at h ⊢
  rw [List.isPrefixOf_iff_prefix] at h ⊢
  cases htree : tree fragment with
  | error why =>
    rw [htree] at h
    exact h
  | ok nodes =>
    rw [htree] at h
    exact Text.isPrefix_dropWhile_of_isPrefix (lead_isPrefix base (linkPieces nodes)) h

end ApiBindings.Markup
