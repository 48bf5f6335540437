import ApiBindings.Proofs.Charset.Search
/-!
# Which declaration counts

The charset of a page, read off the places at which its words stand. Main statements: the first
pattern finds the last usable `charset=` of the first `meta` tag that has one
(`firstMeta_eq_some_iff`), no pattern finds a name where no tag is followed by `charset=`
(`exists_mention_of_declaredName?`), and what the charset of a page is (`declared_reading`).
-/

namespace ApiBindings.Charset

/-! ## The first pattern -/

/-- At place `k` of the segment of a tag, at least one character behind its name, stands a
`charset=` that gives the name. -/
def Usable (behind : List Char) (k : Nat) (name : List Char) : Prop :=
  ∃ before after, StandsIn "charset=".toList (segment behind) before after ∧ before.length = k ∧
    0 < k ∧ NameBehind after name

/-- Behind a tag's name that is at once followed by `>`, or by nothing, there is no place. -/
theorem not_usable_of_segment_eq_nil {behind name : List Char} {k : Nat}
    (h : segment behind = []) : ¬ Usable behind k name := by
  rintro ⟨before, after, ⟨w, -, hs⟩, rfl, hk, -⟩
  rw [h, List.append_assoc] at hs
  obtain ⟨rfl, -⟩ := List.append_eq_nil_iff.1 hs.symm
  exact Nat.lt_irrefl 0 hk

/-- The places behind the first character of the segment. -/
theorem usable_cons_iff {d : Char} (hd : d ≠ '>') {rest name : List Char} {k : Nat} :
    Usable (d :: rest) k name ↔ ∃ before after, segment rest = before ++ after ∧
      charsetName? after = some name ∧ k = before.length + 1 := by
  have hsegment : segment (d :: rest) = d :: segment rest :=
    List.takeWhile_cons_of_pos (by simpa using hd)
  unfold Usable
  simp only [hsegment, charsetName?_eq_some_iff]
  constructor
  · rintro ⟨before, after, ⟨w, hw, hs⟩, rfl, hk, hname⟩
    obtain ⟨e, before, rfl⟩ := List.exists_cons_of_length_pos hk
    refine ⟨before, w ++ after, ?_, ⟨after, ⟨w, hw, rfl⟩, hname⟩, rfl⟩
    rw [← List.append_assoc]
    exact (List.cons_eq_cons.1 hs).2
  · rintro ⟨before, _, hs, ⟨after, ⟨w, hw, rfl⟩, hname⟩, rfl⟩
    refine ⟨d :: before, after, ⟨w, hw, ?_⟩, rfl, Nat.succ_pos _, hname⟩
    rw [hs]
    simp

/-- In a tag the first pattern finds the last usable place. -/
theorem exists_of_foundInMeta {s name : List Char} (h : foundInMeta charsetName? s = some name) :
    ∃ behind k, StandsIn "<meta".toList s [] behind ∧ Usable behind k name ∧
      ∀ k' name', Usable behind k' name' → k' ≤ k := by
  unfold foundInMeta at h
  split at h
  · rename_i d rest hword
    split at h
    · cases h
    · rename_i hd
      have hd : d ≠ '>' := by simpa using hd
      rw [lastFound_eq_lastAnywhere charsetName?_append_stop] at h
      obtain ⟨before, after, hs, hfind, hlast⟩ := exists_of_lastAnywhere rfl h
      refine ⟨d :: rest, before.length + 1, dropWord?_eq_some_iff.1 hword,
        (usable_cons_iff hd).2 ⟨before, after, hs, hfind, rfl⟩, fun k' name' husable => ?_⟩
      obtain ⟨before', after', hs', hfind', rfl⟩ := (usable_cons_iff hd).1 husable
      by_contra hlater
      rw [hlast before' after' hs' (by omega)] at hfind'
      cases hfind'
  · cases h

/-- Where the first pattern finds nothing in a tag, no place is usable. -/
theorem not_usable_of_foundInMeta {s behind name : List Char} {k : Nat}
    (h : foundInMeta charsetName? s = none) (hword : StandsIn "<meta".toList s [] behind) :
    ¬ Usable behind k name := by
  unfold foundInMeta at h
  rw [dropWord?_eq_some_iff.2 hword] at h
  cases behind with
  | nil => exact not_usable_of_segment_eq_nil rfl
  | cons d rest =>
    dsimp only at h
    by_cases hd : d = '>'
    · subst hd
      exact not_usable_of_segment_eq_nil rfl
    · rw [if_neg (by simpa using hd), lastFound_eq_lastAnywhere charsetName?_append_stop] at h
      intro husable
      obtain ⟨before, after, hs, hfind, -⟩ := (usable_cons_iff hd).1 husable
      rw [eq_none_of_lastAnywhere rfl h before after hs] at hfind
      cases hfind

/-- The page gives its charset the name: in the first `meta` tag with a usable `charset=`, at the
last place where one stands. -/
def Declares (page name : List Char) : Prop :=
  ∃ before behind k, StandsIn "<meta".toList page before behind ∧ Usable behind k name ∧
    (∀ k' name', Usable behind k' name' → k' ≤ k) ∧
    ∀ before' behind' k' name', StandsIn "<meta".toList page before' behind' →
      Usable behind' k' name' → before.length ≤ before'.length

/-- **What the first pattern finds is what the page declares.** -/
theorem declares_of_firstMeta {page name : List Char}
    (h : firstMeta charsetName? page = some name) :
    Declares page name := by
  obtain ⟨before, after, hpage, hfind, hfirst⟩ := exists_of_firstMeta h
  obtain ⟨behind, k, hword, husable, hlast⟩ := exists_of_foundInMeta hfind
  refine ⟨before, behind, k, standsIn_iff.2 ⟨after, hpage, hword⟩, husable, hlast, ?_⟩
  intro before' behind' k' name' hmeta husable'
  obtain ⟨after', hpage', hword'⟩ := standsIn_iff.1 hmeta
  by_contra hearlier
  exact not_usable_of_foundInMeta (hfirst before' after' hpage' (by omega)) hword' husable'

/-- Where the first pattern finds nothing, no place in any tag is usable. -/
theorem not_usable_of_firstMeta {page before behind name : List Char} {k : Nat}
    (h : firstMeta charsetName? page = none) (hmeta : StandsIn "<meta".toList page before behind) :
    ¬ Usable behind k name := by
  obtain ⟨after, hpage, hword⟩ := standsIn_iff.1 hmeta
  exact not_usable_of_foundInMeta (eq_none_of_firstMeta h before after hpage) hword

/-- Where some place is usable, the first pattern finds a name. -/
theorem exists_firstMeta_of_usable {page before behind name : List Char} {k : Nat}
    (hmeta : StandsIn "<meta".toList page before behind) (husable : Usable behind k name) :
    ∃ name', firstMeta charsetName? page = some name' := by
  rw [← Option.ne_none_iff_exists']
  exact fun hnone => not_usable_of_firstMeta hnone hmeta husable

/-- A page declares one name at most. -/
theorem Declares.unique {page name name' : List Char} (h : Declares page name)
    (h' : Declares page name') : name = name' := by
  obtain ⟨before, behind, k, hmeta, husable, hlast, hfirst⟩ := h
  obtain ⟨before', behind', k', hmeta', husable', hlast', hfirst'⟩ := h'
  have htag : before.length = before'.length :=
    Nat.le_antisymm (hfirst _ _ _ _ hmeta' husable') (hfirst' _ _ _ _ hmeta husable)
  obtain ⟨-, rfl⟩ := hmeta.unique hmeta' htag
  obtain rfl : k = k' := Nat.le_antisymm (hlast' _ _ husable) (hlast _ _ husable')
  obtain ⟨front, after, hstands, hlength, -, hname⟩ := husable
  obtain ⟨front', after', hstands', hlength', -, hname'⟩ := husable'
  obtain ⟨-, rfl⟩ := hstands.unique hstands' (hlength.trans hlength'.symm)
  rw [← leadingName?_eq_some_iff_nameBehind] at hname hname'
  exact Option.some.inj (hname.symm.trans hname')

/-- The name that a page declares is the one that the first pattern finds. -/
theorem firstMeta_eq_some_iff {page name : List Char} :
    firstMeta charsetName? page = some name ↔ Declares page name := by
  refine ⟨declares_of_firstMeta, fun h => ?_⟩
  have ⟨_, _, _, hmeta, husable, _⟩ := h
  obtain ⟨name', hname'⟩ := exists_firstMeta_of_usable hmeta husable
  rw [hname', h.unique (declares_of_firstMeta hname')]

/-! ## Both patterns -/

/-- What is found in a tag is found somewhere behind its name. -/
theorem exists_found_of_firstMeta {find? : List Char → Option (List Char)} {page x : List Char}
    (h : firstMeta find? page = some x) :
    ∃ before behind s, StandsIn "<meta".toList page before behind ∧ s <:+: behind ∧
      find? s = some x := by
  obtain ⟨before, after, hpage, hfind, -⟩ := exists_of_firstMeta h
  unfold foundInMeta at hfind
  split at hfind
  · rename_i d rest hword
    split at hfind
    · cases hfind
    · obtain ⟨front, s, rfl, hs⟩ := exists_of_lastFound hfind
      refine ⟨before, _, s, standsIn_iff.2 ⟨after, hpage, dropWord?_eq_some_iff.1 hword⟩, ?_, hs⟩
      exact ⟨d :: front, [], by simp⟩
  · cases hfind

/-- What is found right behind `charset=`. -/
theorem bareCharsetName?_eq_some_iff {s name : List Char} :
    bareCharsetName? s = some name ↔
      ∃ after, StandsIn "charset=".toList s [] after ∧ leadingName? after = some name := by
  unfold bareCharsetName?
  simp only [Option.bind_eq_some_iff, dropWord?_eq_some_iff]

/-- What is found in quotes behind `content=` stands right behind a `charset=`. -/
theorem exists_bareCharsetName? {s name : List Char} (h : contentCharsetName? s = some name) :
    ∃ t, t <:+: s ∧ bareCharsetName? t = some name := by
  unfold contentCharsetName? at h
  split at h
  · rename_i q rest hword
    split at h
    · obtain ⟨before, t, hrest, hfind, -⟩ := exists_of_lastAnywhere rfl h
      obtain ⟨w, -, rfl⟩ := dropWord?_eq_some_iff.1 hword
      have hquoted : rest.takeWhile (!isQuote ·) <:+: [] ++ w ++ q :: rest :=
        (List.takeWhile_prefix _).isInfix.trans ⟨w ++ [q], [], by simp⟩
      refine ⟨t, List.IsInfix.trans ?_ hquoted, hfind⟩
      rw [hrest]
      exact (List.suffix_append before t).isInfix
    · cases h
  · cases h

/-- **Where no tag is followed by `charset=`, no name is found.** -/
theorem exists_mention_of_declaredName? {page name : List Char}
    (h : declaredName? page = some name) :
    ∃ before behind, StandsIn "<meta".toList page before behind ∧
      ∃ front after, StandsIn "charset=".toList behind front after := by
  unfold declaredName? at h
  rw [Option.or_eq_some_iff] at h
  rcases h with h | ⟨-, h⟩
  · obtain ⟨before, behind, s, hmeta, hs, hfind⟩ := exists_found_of_firstMeta h
    obtain ⟨after, hstands, -⟩ := charsetName?_eq_some_iff.1 hfind
    exact ⟨before, behind, hmeta, hstands.of_isInfix hs⟩
  · obtain ⟨before, behind, s, hmeta, hs, hfind⟩ := exists_found_of_firstMeta h
    obtain ⟨t, ht, hbare⟩ := exists_bareCharsetName? hfind
    obtain ⟨after, hstands, -⟩ := bareCharsetName?_eq_some_iff.1 hbare
    exact ⟨before, behind, hmeta, hstands.of_isInfix (ht.trans hs)⟩

/-- What a text begins with as a name is one. -/
theorem isName_of_leadingName? {s name : List Char} (h : leadingName? s = some name) :
    name ≠ [] ∧ ∀ c ∈ name, isNameChar c = true := by
  obtain ⟨rfl, hname⟩ := leadingName?_eq_some_iff.1 h
  exact ⟨hname, fun c hc => List.mem_takeWhile_imp hc⟩

/-- What a page declares is a name. -/
theorem isName_of_declaredName? {page name : List Char} (h : declaredName? page = some name) :
    name ≠ [] ∧ ∀ c ∈ name, isNameChar c = true := by
  unfold declaredName? at h
  rw [Option.or_eq_some_iff] at h
  rcases h with h | ⟨-, h⟩
  · obtain ⟨-, -, s, -, -, hfind⟩ := exists_found_of_firstMeta h
    obtain ⟨after, -, hname⟩ := charsetName?_eq_some_iff.1 hfind
    exact isName_of_leadingName? (leadingName?_eq_some_iff_nameBehind.2 hname)
  · obtain ⟨-, -, s, -, -, hfind⟩ := exists_found_of_firstMeta h
    obtain ⟨t, -, hbare⟩ := exists_bareCharsetName? hfind
    obtain ⟨after, -, hname⟩ := bareCharsetName?_eq_some_iff.1 hbare
    exact isName_of_leadingName? hname

/-! ## Labels -/

/-- The label for a name: in lower case, and the one that is meant where it is another. -/
def labelOf (name : List Char) : String :=
  (remapped.lookup (String.ofList (name.map Text.asciiLower))).getD
    (String.ofList (name.map Text.asciiLower))

/-- A character of a name is one in lower case too. -/
theorem isNameChar_asciiLower {c : Char} (h : isNameChar c = true) :
    isNameChar (Text.asciiLower c) = true := by
  have hascii : ∀ n < 128, isNameChar (Char.ofNat n) = true →
      isNameChar (Text.asciiLower (Char.ofNat n)) = true := by decide +kernel
  by_cases hc : c.toNat < 128
  · have := hascii c.toNat hc
    rw [Char.ofNat_toNat] at this
    exact this h
  · -- only ASCII letters have another form
    have hlower : Text.asciiLower c = c := by
      unfold Text.asciiLower
      rw [if_neg]
      intro hupper
      simp only [Bool.and_eq_true, decide_eq_true_eq, Char.le_def, UInt32.le_iff_toNat_le] at hupper
      have hz : 'Z'.val.toNat = 90 := rfl
      have hval : c.toNat = c.val.toNat := rfl
      omega
    rw [hlower]
    exact h

/-- The label for a name is not empty and has only characters of names. -/
theorem isName_labelOf {name : List Char} (hname : name ≠ [])
    (hchars : ∀ c ∈ name, isNameChar c = true) :
    labelOf name ≠ "" ∧ ∀ c ∈ (labelOf name).toList, isNameChar c = true := by
  unfold labelOf
  cases hlookup : remapped.lookup (String.ofList (name.map Text.asciiLower)) with
  | none =>
    rw [Option.getD_none]
    constructor
    · simpa using hname
    · intro c hc
      rw [String.toList_ofList] at hc
      obtain ⟨d, hd, rfl⟩ := List.mem_map.1 hc
      exact isNameChar_asciiLower (hchars d hd)
  | some label =>
    rw [Option.getD_some]
    have hremapped : ∀ entry ∈ remapped, entry.2 ≠ "" ∧
        entry.2.toList.all isNameChar = true := by decide +kernel
    obtain ⟨l₁, l₂, hsplit, -⟩ := List.lookup_eq_some_iff.1 hlookup
    have hentry : (String.ofList (name.map Text.asciiLower), label) ∈ remapped := by
      rw [hsplit]
      exact List.mem_append_right _ List.mem_cons_self
    obtain ⟨hne, hall⟩ := hremapped _ hentry
    exact ⟨hne, List.all_eq_true.1 hall⟩

/-- The declared charset is the label for the name that is found. -/
theorem declared_eq (bytes : List UInt8) :
    declared bytes = ((declaredName? (head bytes)).map labelOf).getD "utf-8" := by
  unfold declared
  cases declaredName? (head bytes) with
  | none => rfl
  | some name => rfl

/-- A page that declares a name is in the charset with the label for that name. -/
theorem declared_of_declares {bytes : List UInt8} {name : List Char}
    (h : Declares (head bytes) name) : declared bytes = labelOf name := by
  rw [declared_eq, declaredName?, firstMeta_eq_some_iff.2 h]
  rfl

/-- A page in which no tag is followed by `charset=` is in UTF-8. -/
theorem declared_of_noMention {bytes : List UInt8}
    (h : ∀ before behind, StandsIn "<meta".toList (head bytes) before behind →
      ∀ front after, ¬ StandsIn "charset=".toList behind front after) :
    declared bytes = "utf-8" := by
  rw [declared_eq]
  cases hname : declaredName? (head bytes) with
  | none => rfl
  | some name =>
    obtain ⟨before, behind, hmeta, front, after, hmention⟩ := exists_mention_of_declaredName? hname
    exact absurd hmention (h before behind hmeta front after)

/-- The label of a page is not empty and has only characters of names. -/
theorem isName_declared (bytes : List UInt8) :
    declared bytes ≠ "" ∧ ∀ c ∈ (declared bytes).toList, isNameChar c = true := by
  rw [declared_eq]
  cases hname : declaredName? (head bytes) with
  | none => exact ⟨by decide, List.all_eq_true.1 (by decide)⟩
  | some name =>
    obtain ⟨hne, hchars⟩ := isName_of_declaredName? hname
    exact isName_labelOf hne hchars

/-- **How the charset of a page is read.** If a `charset=` is usable behind some `<meta`, the first
such tag and the last such place in it declare a name, and the label for that name is the charset.
If no `<meta` is followed by `charset=`, the charset is UTF-8. In every case it is a label without
blanks, quotes, `;` and `>`. -/
theorem declared_reading (bytes : List UInt8) :
    ((∃ before behind k name, StandsIn "<meta".toList (head bytes) before behind ∧
        Usable behind k name) → ∃ name, Declares (head bytes) name) ∧
    (∀ name, Declares (head bytes) name → declared bytes = labelOf name) ∧
    ((∀ before behind, StandsIn "<meta".toList (head bytes) before behind →
        ∀ front after, ¬ StandsIn "charset=".toList behind front after) →
      declared bytes = "utf-8") ∧
    declared bytes ≠ "" ∧ ∀ c ∈ (declared bytes).toList, isNameChar c = true := by
  refine ⟨?_, fun name => declared_of_declares, declared_of_noMention, isName_declared bytes⟩
  rintro ⟨before, behind, k, name, hmeta, husable⟩
  obtain ⟨name', hname'⟩ := exists_firstMeta_of_usable hmeta husable
  exact ⟨name', firstMeta_eq_some_iff.1 hname'⟩

/-- A tag without a usable place is passed over, and of two places in the next the last counts. -/
example :
    declared ("<meta name=x><META x='charset=a' CharSet=' ASCII' charset=;>".toList.map fun c =>
      UInt8.ofNat c.toNat) = "windows-1252" := by
  decide +kernel

end ApiBindings.Charset
