import ApiBindings.Proofs.Markup.Links
import ApiBindings.Proofs.Markup.Refusals
import Mathlib.Algebra.GroupWithZero.Nat
/-!
# Which links are kept

A link is kept with its target unless another link stands around it. Then the outermost link is kept
in its place, with the text that is shown of all that stands inside of it, and nothing is left of
the targets of the links there; this also holds if the link around it leads nowhere, or only
stands around it because it was never closed. Main statements: what is written of a forest with a
link at a given place (`writtenTexts_of_free`, `writtenTexts_of_enclosed`), no target is lost exactly
if no link that leads somewhere stands inside of another (`writtenTexts_eq_fullTexts_iff`), and both
for the text of a fragment (`links_of_linkedText`).
-/

namespace ApiBindings.Markup

/-! ## Texts of several nodes -/

theorem shownTexts_append (ns ms : List Node) :
    shownTexts (ns ++ ms) = shownTexts ns ++ shownTexts ms := by
  induction ns with
  | nil => rfl
  | cons n ns ih => rw [List.cons_append, shownTexts, shownTexts, ih, List.append_assoc]

theorem shownTexts_cons_element (name : List Char) (attributes : List Attribute)
    (children ns : List Node) :
    shownTexts (.element name attributes children :: ns) = shownTexts children ++ shownTexts ns := by
  rw [shownTexts, Node.shownText]

theorem linkPieces_append (ns ms : List Node) :
    linkPieces (ns ++ ms) = linkPieces ns ++ linkPieces ms := by
  induction ns with
  | nil => rfl
  | cons n ns ih => rw [List.cons_append, linkPieces, linkPieces, ih, List.append_assoc]

/-- The characters that are written of several nodes with their links. -/
def writtenTexts (base : Option String) (ns : List Node) : List Char :=
  (linkPieces ns).flatMap (Piece.written base)

section Written

variable (base : Option String) (attributes : List Attribute) (children ns ms : List Node)

theorem writtenTexts_append :
    writtenTexts base (ns ++ ms) = writtenTexts base ns ++ writtenTexts base ms := by
  unfold writtenTexts
  rw [linkPieces_append, List.flatMap_append]

/-- A link is written with its target. -/
theorem writtenTexts_cons_link :
    writtenTexts base (.element linkName attributes children :: ns) =
      linkText (shownTexts children) (leadsTo base attributes) ++ writtenTexts base ns := by
  unfold writtenTexts
  rw [linkPieces, Node.linkPieces, if_pos (by decide)]
  rfl

/-- An element that is no link is written as its children are. -/
theorem writtenTexts_cons_element {name : List Char} (hname : name ≠ linkName) :
    writtenTexts base (.element name attributes children :: ns) =
      writtenTexts base children ++ writtenTexts base ns := by
  unfold writtenTexts
  rw [linkPieces, Node.linkPieces, if_neg (by simpa using hname), List.flatMap_append]

end Written

/-! ## Places -/

/-- An element around a place in a forest, and what stands beside it. -/
structure Frame where
  before : List Node
  name : List Char
  attributes : List Attribute
  behind : List Node

/-- Nodes inside of frames, the first of which is the outermost. -/
def within (fs : List Frame) (inner : List Node) : List Node :=
  fs.foldr (fun f ns => f.before ++ .element f.name f.attributes ns :: f.behind) inner

/-- The text beside frames that stands before what is inside of them. -/
def textBefore (text : List Node → List Char) (fs : List Frame) : List Char :=
  fs.flatMap fun f => text f.before

/-- The text beside frames that stands behind what is inside of them. -/
def textBehind (text : List Node → List Char) (fs : List Frame) : List Char :=
  fs.reverse.flatMap fun f => text f.behind

/-- Where elements have the text of their children, a text stands between those beside its frames. -/
theorem text_within {text : List Node → List Char} {fs : List Frame}
    (append : ∀ ns ms, text (ns ++ ms) = text ns ++ text ms)
    (element : ∀ f ∈ fs, ∀ ns ms,
      text (.element f.name f.attributes ns :: ms) = text ns ++ text ms) (inner : List Node) :
    text (within fs inner) = textBefore text fs ++ text inner ++ textBehind text fs := by
  induction fs with
  | nil => simp [within, textBefore, textBehind]
  | cons f fs ih =>
    rw [List.forall_mem_cons] at element
    have hwithin : within (f :: fs) inner =
        f.before ++ .element f.name f.attributes (within fs inner) :: f.behind := rfl
    rw [hwithin, append, element.1, ih element.2]
    simp [textBefore, textBehind]

/-- A link in a forest: the elements around it, the outermost first, and what stands beside it. -/
structure LinkPlace where
  around : List Frame
  before : List Node
  attributes : List Attribute
  children : List Node
  behind : List Node

namespace LinkPlace

variable (l : LinkPlace)

/-- The forest that the link stands in. -/
def forest : List Node :=
  within l.around (l.before ++ .element linkName l.attributes l.children :: l.behind)

/-- The text of the forest before the link. -/
def textBefore (text : List Node → List Char) : List Char :=
  Markup.textBefore text l.around ++ text l.before

/-- The text of the forest behind the link. -/
def textBehind (text : List Node → List Char) : List Char :=
  text l.behind ++ Markup.textBehind text l.around

/-- No other link stands around the link. -/
def IsFree : Prop := ∀ f ∈ l.around, f.name ≠ linkName

instance : Decidable l.IsFree := inferInstanceAs (Decidable (∀ f ∈ l.around, f.name ≠ linkName))

end LinkPlace

/-- What is shown of a forest with a link is shown of it in its place. -/
theorem shownTexts_forest (l : LinkPlace) :
    shownTexts l.forest =
      l.textBefore shownTexts ++ shownTexts l.children ++ l.textBehind shownTexts := by
  unfold LinkPlace.forest LinkPlace.textBefore LinkPlace.textBehind
  rw [text_within shownTexts_append fun f _ ns ms => shownTexts_cons_element _ _ ns ms,
    shownTexts_append, shownTexts_cons_element]
  simp only [List.append_assoc]

/-- **A link that stands in no other link is written in its place, with its target.** -/
theorem writtenTexts_of_free {l : LinkPlace} (hfree : l.IsFree) (base : Option String) :
    writtenTexts base l.forest = l.textBefore (writtenTexts base) ++
      linkText (shownTexts l.children) (leadsTo base l.attributes) ++
        l.textBehind (writtenTexts base) := by
  unfold LinkPlace.forest LinkPlace.textBefore LinkPlace.textBehind
  rw [text_within (writtenTexts_append base)
      fun f hf ns ms => writtenTexts_cons_element base _ ns ms (hfree f hf),
    writtenTexts_append, writtenTexts_cons_link]
  simp only [List.append_assoc]

/-- The outermost link around a link: the frame `f` of its place, with all that stands inside. -/
def LinkPlace.outermost (l : LinkPlace) (outer : List Frame) (f : Frame) (inner : List Frame) :
    LinkPlace :=
  ⟨outer, f.before, f.attributes, { l with around := inner }.forest, f.behind⟩

/-- **Of a link inside of others only its text is written**, as a part of what is shown of the
outermost one. -/
theorem writtenTexts_of_enclosed {l : LinkPlace} {outer inner : List Frame} {f : Frame}
    (haround : l.around = outer ++ f :: inner) (hlink : f.name = linkName)
    (houter : ∀ g ∈ outer, g.name ≠ linkName) (base : Option String) :
    writtenTexts base l.forest = (l.outermost outer f inner).textBefore (writtenTexts base) ++
      linkText ({ l with around := inner }.textBefore shownTexts ++ shownTexts l.children ++
        { l with around := inner }.textBehind shownTexts) (leadsTo base f.attributes) ++
          (l.outermost outer f inner).textBehind (writtenTexts base) := by
  -- to the outermost link all that stands inside of it is text
  have hforest : l.forest = (l.outermost outer f inner).forest := by
    unfold LinkPlace.forest LinkPlace.outermost
    rw [haround, within, List.foldr_append, List.foldr_cons, hlink]
    rfl
  have hfree : (l.outermost outer f inner).IsFree := houter
  rw [hforest, writtenTexts_of_free hfree, ← shownTexts_forest { l with around := inner }]
  rfl

/-- A link that is not free has an outermost link around it. -/
theorem exists_outermost {l : LinkPlace} (h : ¬ l.IsFree) :
    ∃ outer f inner, l.around = outer ++ f :: inner ∧ f.name = linkName ∧
      ∀ g ∈ outer, g.name ≠ linkName := by
  unfold LinkPlace.IsFree at h
  push Not at h
  obtain ⟨f, hf, hlink⟩ := h
  -- the frames stand from the outside in, so the first link found has none around it
  have hsome : (l.around.find? (·.name == linkName)).isSome = true :=
    List.find?_isSome.2 ⟨f, hf, by simpa using hlink⟩
  obtain ⟨g, hg⟩ := Option.isSome_iff_exists.1 hsome
  obtain ⟨hname, outer, inner, haround, houter⟩ := List.find?_eq_some_iff_append.1 hg
  exact ⟨outer, g, inner, haround, by simpa using hname, by simpa using houter⟩

/-! ## Every link with its target -/

mutual

/-- The characters of a node with every link written, also inside of other links. -/
def Node.fullText (base : Option String) : Node → List Char
  | .text shown chars => if shown then chars else []
  | .element name attributes children =>
    if name == linkName then linkText (fullTexts base children) (leadsTo base attributes)
    else fullTexts base children

/-- The characters of several nodes with every link written. -/
def fullTexts (base : Option String) : List Node → List Char
  | [] => []
  | n :: ns => n.fullText base ++ fullTexts base ns

end

mutual

/-- The attributes of each link of a node that stands inside of another one. -/
def Node.enclosedLinks : Node → List (List Attribute)
  | .text _ _ => []
  | .element name _ children => if name == linkName then links children else enclosedLinks children

/-- The attributes of each link of several nodes that stands inside of another one. -/
def enclosedLinks : List Node → List (List Attribute)
  | [] => []
  | n :: ns => n.enclosedLinks ++ enclosedLinks ns

end

/-- How many characters a target adds to a text. -/
def markLength : Option (List Char) → Nat
  | none => 0
  | some target => target.length + 4

/-- How many characters the targets of links add to a text. -/
def marksLength (base : Option String) (as : List (List Attribute)) : Nat :=
  (as.map fun attributes => markLength (leadsTo base attributes)).sum

theorem linkText_some (chars target : List Char) :
    linkText chars (some target) = '[' :: (chars ++ (']' :: '(' :: (target ++ [')']))) := by
  simp [linkText]

theorem length_linkText (chars : List Char) (target : Option (List Char)) :
    (linkText chars target).length = chars.length + markLength target := by
  cases target with
  | none => rfl
  | some target =>
    rw [linkText_some]
    simp [markLength]
    omega

theorem marksLength_append (base : Option String) (as bs : List (List Attribute)) :
    marksLength base (as ++ bs) = marksLength base as + marksLength base bs := by
  simp [marksLength]

/-- Links add nothing exactly if none of them leads anywhere. -/
theorem marksLength_eq_zero_iff {base : Option String} {as : List (List Attribute)} :
    marksLength base as = 0 ↔ ∀ attributes ∈ as, leadsTo base attributes = none := by
  unfold marksLength
  induction as with
  | nil => simp
  | cons a as ih =>
    rw [List.map_cons, List.sum_cons, Nat.add_eq_zero_iff, ih, List.forall_mem_cons]
    cases leadsTo base a <;> simp [markLength]

/-- The text of a link is a part of what is written of it. -/
theorem sublist_linkText (chars : List Char) (target : Option (List Char)) :
    chars.Sublist (linkText chars target) := by
  cases target with
  | none => exact List.Sublist.refl _
  | some target =>
    rw [linkText_some]
    exact (List.sublist_append_left chars _).cons '['

/-- A text inside of a longer one stays inside when both become the text of a link. -/
theorem linkText_sublist {s t : List Char} (h : s.Sublist t) (target : Option (List Char)) :
    (linkText s target).Sublist (linkText t target) := by
  cases target with
  | none => exact h
  | some target =>
    rw [linkText_some, linkText_some]
    exact (h.append_right _).cons_cons '['

mutual

/-- Every link written adds its target to what is shown of a node. -/
theorem shownText_fullText (base : Option String) : (n : Node) →
    n.shownText.Sublist (n.fullText base) ∧
      (n.fullText base).length = n.shownText.length + marksLength base n.links
  | .text shown chars => by
    rw [Node.shownText, Node.fullText, Node.links]
    exact ⟨List.Sublist.refl _, rfl⟩
  | .element name attributes children => by
    obtain ⟨hsub, hlength⟩ := shownTexts_fullTexts base children
    rw [Node.shownText, Node.fullText, Node.links, marksLength_append]
    by_cases hname : (name == linkName) = true
    · rw [if_pos hname, if_pos hname, length_linkText, hlength]
      refine ⟨hsub.trans (sublist_linkText _ _), ?_⟩
      simp [marksLength]
      omega
    · rw [if_neg hname, if_neg hname, hlength]
      exact ⟨hsub, by simp [marksLength]⟩

/-- Every link written adds its target to what is shown of several nodes. -/
theorem shownTexts_fullTexts (base : Option String) : (ns : List Node) →
    (shownTexts ns).Sublist (fullTexts base ns) ∧
      (fullTexts base ns).length = (shownTexts ns).length + marksLength base (links ns)
  | [] => by
    rw [shownTexts, fullTexts, links]
    exact ⟨List.Sublist.refl _, rfl⟩
  | n :: ns => by
    obtain ⟨hfirst, hn⟩ := shownText_fullText base n
    obtain ⟨hrest, hns⟩ := shownTexts_fullTexts base ns
    rw [shownTexts, fullTexts, links, marksLength_append, List.length_append, List.length_append,
      hn, hns]
    exact ⟨hfirst.append hrest, by omega⟩

end

mutual

/-- What is written of a node lacks the targets of the links inside of others. -/
theorem writtenText_fullText (base : Option String) : (n : Node) →
    (n.linkPieces.flatMap (Piece.written base)).Sublist (n.fullText base) ∧
      (n.fullText base).length = (n.linkPieces.flatMap (Piece.written base)).length +
        marksLength base n.enclosedLinks
  | .text shown chars => by
    rw [Node.linkPieces, Node.fullText, Node.enclosedLinks, List.flatMap_singleton]
    exact ⟨List.Sublist.refl _, rfl⟩
  | .element name attributes children => by
    rw [Node.linkPieces, Node.fullText, Node.enclosedLinks]
    by_cases hname : (name == linkName) = true
    · -- inside of a link only what is shown is written, so the targets of all links there are lost
      obtain ⟨hsub, hlength⟩ := shownTexts_fullTexts base children
      rw [if_pos hname, if_pos hname, if_pos hname, List.flatMap_singleton, Piece.written,
        length_linkText, length_linkText, hlength]
      exact ⟨linkText_sublist hsub _, by omega⟩
    · rw [if_neg hname, if_neg hname, if_neg hname]
      exact writtenTexts_fullTexts base children

/-- What is written of several nodes lacks the targets of the links inside of others. -/
theorem writtenTexts_fullTexts (base : Option String) : (ns : List Node) →
    (writtenTexts base ns).Sublist (fullTexts base ns) ∧
      (fullTexts base ns).length = (writtenTexts base ns).length +
        marksLength base (enclosedLinks ns)
  | [] => by
    rw [writtenTexts, linkPieces, fullTexts, enclosedLinks]
    exact ⟨List.Sublist.refl _, rfl⟩
  | n :: ns => by
    obtain ⟨hfirst, hn⟩ := writtenText_fullText base n
    obtain ⟨hrest, hns⟩ := writtenTexts_fullTexts base ns
    have hwritten : writtenTexts base (n :: ns) =
        n.linkPieces.flatMap (Piece.written base) ++ writtenTexts base ns := by
      rw [writtenTexts, linkPieces, List.flatMap_append]
      rfl
    rw [hwritten, fullTexts, enclosedLinks, marksLength_append, List.length_append,
      List.length_append, hn, hns]
    exact ⟨hfirst.append hrest, by omega⟩

end

/-- **No target is lost exactly if no link that leads somewhere stands inside of another.** -/
theorem writtenTexts_eq_fullTexts_iff (base : Option String) (ns : List Node) :
    writtenTexts base ns = fullTexts base ns ↔
      ∀ attributes ∈ enclosedLinks ns, leadsTo base attributes = none := by
  obtain ⟨hsub, hlength⟩ := writtenTexts_fullTexts base ns
  rw [← marksLength_eq_zero_iff]
  constructor
  · intro h
    rw [h] at hlength
    omega
  · intro h
    rw [h] at hlength
    exact hsub.eq_of_length hlength.symm

/-! ## Fragments -/

/-- **Which links of a fragment are kept.** Let a fragment with the tree `nodes` have a text with its
links. Before its ends are trimmed, a link that stands in no other link is written in its place,
between what is written of the tree before it and behind it. Of a link inside of others only its text
is left, in the text of the outermost one, which is written in its place, and nothing of its target.
So no target is lost exactly if no link that leads somewhere stands inside of another. -/
theorem links_of_linkedText {base : Option String} {fragment text : String} {nodes : List Node}
    (htree : tree fragment = .ok nodes) (h : linkedText base fragment = .ok text) :
    ∃ chars, (allWithLinks base nodes).map shownTexts = .ok chars ∧
      text = Text.trim (String.ofList chars) ∧
      (∀ l : LinkPlace, l.forest = nodes →
        (l.IsFree → chars = l.textBefore (writtenTexts base) ++
          linkText (shownTexts l.children) (leadsTo base l.attributes) ++
            l.textBehind (writtenTexts base)) ∧
        (¬ l.IsFree → ∃ outer f inner, l.around = outer ++ f :: inner ∧ f.name = linkName ∧
          (∀ g ∈ outer, g.name ≠ linkName) ∧
          chars = (l.outermost outer f inner).textBefore (writtenTexts base) ++
            linkText ({ l with around := inner }.textBefore shownTexts ++ shownTexts l.children ++
              { l with around := inner }.textBehind shownTexts) (leadsTo base f.attributes) ++
                (l.outermost outer f inner).textBehind (writtenTexts base))) ∧
      (chars = fullTexts base nodes ↔
        ∀ attributes ∈ enclosedLinks nodes, leadsTo base attributes = none) := by
  unfold linkedText textBy at h
  rw [htree] at h
  obtain ⟨chars, hchars, rfl⟩ := map_eq_ok_iff.1 h
  obtain ⟨nodes', hnodes, rfl⟩ := map_eq_ok_iff.1 hchars
  have hwritten : shownTexts nodes' = writtenTexts base nodes :=
    shownTexts_allWithLinks nodes hnodes
  refine ⟨_, hchars, rfl, ?_, ?_⟩
  · rintro l rfl
    rw [hwritten]
    refine ⟨fun hfree => writtenTexts_of_free hfree base, fun hfree => ?_⟩
    obtain ⟨outer, f, inner, haround, hlink, houter⟩ := exists_outermost hfree
    exact ⟨outer, f, inner, haround, hlink, houter,
      writtenTexts_of_enclosed haround hlink houter base⟩
  · rw [hwritten]
    exact writtenTexts_eq_fullTexts_iff base nodes

/-- A link, and behind it another one inside of a link that is never closed and leads nowhere. -/
def openAnchor : String :=
  "<p><a href=\"http://a.org\">See</a> <a>the <a href=\"http://b.org\">docs</a></p>"

/-- The link that stands free. -/
def seeLink : LinkPlace where
  around := [⟨[], ['p'], [], []⟩]
  before := []
  attributes := [⟨"href".toList, "http://a.org".toList⟩]
  children := [.text true "See".toList]
  behind := [.text true [' '], .element linkName [] [.text true "the ".toList,
    .element linkName [⟨"href".toList, "http://b.org".toList⟩] [.text true "docs".toList]]]

/-- The link that stands inside of the open one. -/
def docsLink : LinkPlace where
  around := [⟨[], ['p'], [], []⟩,
    ⟨[.element linkName seeLink.attributes seeLink.children, .text true [' ']], linkName, [], []⟩]
  before := [.text true "the ".toList]
  attributes := [⟨"href".toList, "http://b.org".toList⟩]
  children := [.text true "docs".toList]
  behind := []

/-- The free link is kept, and the target of the other one is lost. -/
theorem links_of_linkedText_openAnchor :
    tree openAnchor = .ok docsLink.forest ∧
    linkedText none openAnchor = .ok "[See](http://a.org) the docs" ∧
    seeLink.forest = docsLink.forest ∧ seeLink.IsFree ∧ ¬ docsLink.IsFree ∧
    ∃ chars, (allWithLinks none docsLink.forest).map shownTexts = .ok chars ∧
      chars = seeLink.textBefore (writtenTexts none) ++
        linkText (shownTexts seeLink.children) (leadsTo none seeLink.attributes) ++
          seeLink.textBehind (writtenTexts none) ∧
      (∃ outer f inner, docsLink.around = outer ++ f :: inner ∧ f.name = linkName ∧
        chars = (docsLink.outermost outer f inner).textBefore (writtenTexts none) ++
          linkText ({ docsLink with around := inner }.textBefore shownTexts ++
            shownTexts docsLink.children ++ { docsLink with around := inner }.textBehind shownTexts)
            (leadsTo none f.attributes) ++
              (docsLink.outermost outer f inner).textBehind (writtenTexts none)) ∧
      chars ≠ fullTexts none docsLink.forest := by
  have htree : tree openAnchor = .ok docsLink.forest := by with_unfolding_all rfl
  have htext : linkedText none openAnchor = .ok "[See](http://a.org) the docs" := by
    unfold linkedText textBy
    rw [htree]
    decide +kernel
  have hplace : seeLink.forest = docsLink.forest := rfl
  have hfree : seeLink.IsFree := by decide
  have henclosed : ¬ docsLink.IsFree := by decide
  have hlost : ¬ ∀ attributes ∈ enclosedLinks docsLink.forest,
      leadsTo none attributes = none := by decide +kernel
  obtain ⟨chars, hchars, -, hplaces, hfull⟩ := links_of_linkedText htree htext
  obtain ⟨outer, f, inner, haround, hlink, -, hwritten⟩ := (hplaces docsLink rfl).2 henclosed
  exact ⟨htree, htext, hplace, hfree, henclosed, chars, hchars, (hplaces seeLink hplace).1 hfree,
    ⟨outer, f, inner, haround, hlink, hwritten⟩, mt hfull.1 hlost⟩

end ApiBindings.Markup
