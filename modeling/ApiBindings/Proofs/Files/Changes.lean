import ApiBindings.Files.Tree
import ApiBindings.Proofs.Entries
import ApiBindings.Proofs.Outcome
/-!
# Changes of a tree

What an operation leaves of the entries of a tree, and of the ways through it. A way ends where its
names lead, and stays open while no directory is lost (`locate_of_keepsDirectories`). Main
statements: a new entry is found at its location and nowhere else (`find?_set_self`,
`find?_set_of_ne`), what is appended to a file stands behind what was in it
(`content?_append_self`), and making directories puts directories where nothing was, and does
nothing else (`grows_makeDirectories`).
-/

namespace ApiBindings.Files

/-! ## Entries -/

/-- The bytes of the file at a location, if a file is there. -/
def Tree.content? (t : Tree) (loc : Location) : Option (List UInt8) :=
  match t.find? loc with
  | some (.file content) => some content
  | _ => none

/-- Anything but a directory stands at a location that can change. -/
theorem isAnchor_of_find?_ne {t : Tree} {loc : Location} (h : t.find? loc ≠ some .directory) :
    isAnchor loc = false := by
  rw [Bool.eq_false_iff]
  intro hanchor
  exact h (if_pos hanchor)

theorem find?_erase_of_ne (t : Tree) {loc other : Location} (h : other ≠ loc) :
    (t.erase loc).find? other = t.find? other := by
  have hlookup : (t.erase loc).entries.lookup other = t.entries.lookup other :=
    lookup_filter_of_ne h t.entries
  unfold Tree.find?
  rw [hlookup]

theorem find?_erase_self (t : Tree) {loc : Location} (h : isAnchor loc = false) :
    (t.erase loc).find? loc = none := by
  have hnone : (t.entries.filter (·.1 != loc)).lookup loc = none := by
    rw [List.lookup_eq_none_iff]
    intro entry hentry
    have hkey := (List.mem_filter.1 hentry).2
    simpa [bne_comm] using hkey
  rw [Tree.find?, h]
  exact hnone

/-- A new entry is found nowhere else. -/
theorem find?_set_of_ne (t : Tree) (e : Entry) {loc other : Location} (h : other ≠ loc) :
    (t.set loc e).find? other = t.find? other := by
  have hother : (other == loc) = false := beq_eq_false_iff_ne.2 h
  rw [← find?_erase_of_ne t h]
  unfold Tree.find? Tree.set
  rw [List.lookup_cons, hother]

/-- A new entry is found at its location. -/
theorem find?_set_self (t : Tree) (e : Entry) {loc : Location} (h : isAnchor loc = false) :
    (t.set loc e).find? loc = some e := by
  simp [Tree.find?, Tree.set, h]

/-- What stood at the location of a new entry does not matter. -/
theorem set_erase (t : Tree) (loc : Location) (e : Entry) :
    (t.erase loc).set loc e = t.set loc e := by
  simp [Tree.set, Tree.erase, List.filter_filter]

/-! ## Ways -/

/-- No directory is lost. -/
def Tree.KeepsDirectories (t t' : Tree) : Prop :=
  ∀ loc, t.find? loc = some .directory → t'.find? loc = some .directory

theorem Tree.KeepsDirectories.refl (t : Tree) : t.KeepsDirectories t := fun _ h => h

theorem Tree.KeepsDirectories.trans {t₁ t₂ t₃ : Tree} (h₁ : t₁.KeepsDirectories t₂)
    (h₂ : t₂.KeepsDirectories t₃) : t₁.KeepsDirectories t₃ := fun loc h => h₂ loc (h₁ loc h)

/-- A directory is lost only where an entry is taken away. -/
theorem keepsDirectories_erase {t : Tree} {loc : Location} (h : t.find? loc ≠ some .directory) :
    t.KeepsDirectories (t.erase loc) := by
  intro other hother
  have hne : other ≠ loc := by
    rintro rfl
    exact h hother
  rw [find?_erase_of_ne t hne]
  exact hother

theorem keepsDirectories_set {t : Tree} {loc : Location} (h : t.find? loc ≠ some .directory)
    (e : Entry) : t.KeepsDirectories (t.set loc e) := by
  intro other hother
  have hne : other ≠ loc := by
    rintro rfl
    exact h hother
  rw [find?_set_of_ne t e hne]
  exact hother

/-- **A way ends where its names lead**: directories decide whether it does, not where. -/
theorem eq_of_walk {t : Tree} {loc last : Location} {names : List String}
    (h : t.walk loc names = .ok last) : last = names.foldl descend loc := by
  fun_induction Tree.walk t loc names with
  | case1 =>
    cases h
    rfl
  | case2 => cases h
  | case3 => cases h
  | case4 => cases h
  | case5 loc name rest hfind hshort ih => exact ih h

theorem eq_of_locate {t : Tree} {p : Path} {loc : Location} (h : t.locate p = .ok loc) :
    loc = p.location := by
  unfold Tree.locate at h
  split at h
  · cases h
  · exact eq_of_walk h

/-- A way stays open while no directory is lost. -/
theorem walk_of_keepsDirectories {t t' : Tree} (hkeeps : t.KeepsDirectories t')
    {loc last : Location} {names : List String} (h : t.walk loc names = .ok last) :
    t'.walk loc names = .ok last := by
  induction names generalizing loc with
  | nil => exact h
  | cons name rest ih =>
    unfold Tree.walk at h
    split at h
    · cases h
    · cases h
    · rename_i hfind
      unfold Tree.walk
      rw [hkeeps loc hfind]
      dsimp only
      split at h
      · cases h
      · rename_i hshort
        rw [if_neg hshort]
        exact ih h

theorem locate_of_keepsDirectories {t t' : Tree} (hkeeps : t.KeepsDirectories t') {p : Path}
    {loc : Location} (h : t.locate p = .ok loc) : t'.locate p = .ok loc := by
  unfold Tree.locate at h ⊢
  split at h
  · cases h
  · rename_i hshort
    rw [if_neg hshort]
    exact walk_of_keepsDirectories hkeeps h

/-! ## Files -/

/-- What is read of a path is the file at its location. -/
theorem read_eq_ok_iff {t : Tree} {p : Path} {content : List UInt8} :
    t.read p = .ok content ↔
      t.locate p = .ok p.location ∧ t.find? p.location = some (.file content) := by
  unfold Tree.read
  rw [bind_eq_ok_iff]
  constructor
  · rintro ⟨loc, hlocate, hread⟩
    obtain rfl := eq_of_locate hlocate
    split at hread
    · cases hread
    · cases hread
    · rename_i hfind
      cases hread
      exact ⟨hlocate, hfind⟩
  · rintro ⟨hlocate, hfind⟩
    refine ⟨_, hlocate, ?_⟩
    rw [hfind]
    rfl

theorem content?_of_read {t : Tree} {p : Path} {content : List UInt8}
    (h : t.read p = .ok content) : t.content? p.location = some content := by
  rw [Tree.content?, (read_eq_ok_iff.1 h).2]

/-- A file is written where no directory is, whether there is one before or not. -/
theorem write_eq_ok_iff {t t' : Tree} {p : Path} {content : List UInt8} :
    t.write p content = .ok t' ↔
      t.locate p = .ok p.location ∧ t.find? p.location ≠ some .directory ∧
        t' = t.set p.location (.file content) := by
  unfold Tree.write
  rw [bind_eq_ok_iff]
  constructor
  · rintro ⟨loc, hlocate, hwrite⟩
    obtain rfl := eq_of_locate hlocate
    split at hwrite
    · cases hwrite
    · rename_i hfind
      cases hwrite
      exact ⟨hlocate, hfind, rfl⟩
  · rintro ⟨hlocate, hfind, rfl⟩
    refine ⟨_, hlocate, ?_⟩
    split
    · rename_i hdirectory
      exact absurd hdirectory hfind
    · rfl

/-- A file is taken away where there is one. -/
theorem remove_eq_ok_iff {t t' : Tree} {p : Path} :
    t.remove p = .ok t' ↔
      t.locate p = .ok p.location ∧ (∃ content, t.find? p.location = some (.file content)) ∧
        t' = t.erase p.location := by
  unfold Tree.remove
  rw [bind_eq_ok_iff]
  constructor
  · rintro ⟨loc, hlocate, hremove⟩
    obtain rfl := eq_of_locate hlocate
    split at hremove
    · cases hremove
    · cases hremove
    · rename_i content hfind
      cases hremove
      exact ⟨hlocate, ⟨content, hfind⟩, rfl⟩
  · rintro ⟨hlocate, ⟨content, hfind⟩, rfl⟩
    refine ⟨_, hlocate, ?_⟩
    rw [hfind]
    rfl

/-- A file is opened at its end where no directory is, and made if it is not there. -/
theorem openEnd_eq_ok_iff {t t' : Tree} {p : Path} :
    t.openEnd p = .ok t' ↔
      t.locate p = .ok p.location ∧
        ((∃ content, t.find? p.location = some (.file content)) ∧ t' = t ∨
          t.find? p.location = none ∧ t' = t.set p.location (.file [])) := by
  unfold Tree.openEnd
  rw [bind_eq_ok_iff]
  constructor
  · rintro ⟨loc, hlocate, hopen⟩
    obtain rfl := eq_of_locate hlocate
    split at hopen
    · cases hopen
    · rename_i content hfind
      cases hopen
      exact ⟨hlocate, Or.inl ⟨⟨content, hfind⟩, rfl⟩⟩
    · rename_i hfind
      cases hopen
      exact ⟨hlocate, Or.inr ⟨hfind, rfl⟩⟩
  · rintro ⟨hlocate, ⟨⟨content, hfind⟩, rfl⟩ | ⟨hfind, rfl⟩⟩
    · refine ⟨_, hlocate, ?_⟩
      rw [hfind]
      rfl
    · refine ⟨_, hlocate, ?_⟩
      rw [hfind]
      rfl

/-- Then it is there with what was in it. -/
theorem content?_of_openEnd {t t' : Tree} {p : Path} (h : t.openEnd p = .ok t') :
    t'.content? p.location = some ((t.content? p.location).getD []) := by
  obtain ⟨-, ⟨⟨content, hfind⟩, rfl⟩ | ⟨hfind, rfl⟩⟩ := openEnd_eq_ok_iff.1 h
  · simp [Tree.content?, hfind]
  · have hanchor : isAnchor p.location = false :=
      isAnchor_of_find?_ne (t := t) (by simp [hfind])
    simp [Tree.content?, hfind, find?_set_self t _ hanchor]

theorem find?_openEnd_of_ne {t t' : Tree} {p : Path} (h : t.openEnd p = .ok t') {loc : Location}
    (hne : loc ≠ p.location) : t'.find? loc = t.find? loc := by
  obtain ⟨-, ⟨-, rfl⟩ | ⟨-, rfl⟩⟩ := openEnd_eq_ok_iff.1 h
  · rfl
  · exact find?_set_of_ne t _ hne

/-- What is appended to a file stands behind what was in it. -/
theorem content?_append_self (t : Tree) (loc : Location) (bytes : List UInt8) :
    (t.append loc bytes).content? loc = (t.content? loc).map (· ++ bytes) := by
  unfold Tree.append
  split
  · rename_i content hfind
    have hanchor : isAnchor loc = false := isAnchor_of_find?_ne (t := t) (by simp [hfind])
    simp [Tree.content?, hfind, find?_set_self t _ hanchor]
  · rename_i hother
    have hnone : t.content? loc = none := by
      unfold Tree.content?
      split
      · rename_i content hfind
        exact absurd hfind (hother content)
      · rfl
    rw [hnone]
    rfl

theorem find?_append_of_ne (t : Tree) {loc other : Location} (h : other ≠ loc)
    (bytes : List UInt8) : (t.append loc bytes).find? other = t.find? other := by
  unfold Tree.append
  split
  · exact find?_set_of_ne t _ h
  · rfl

/-! ## Directories -/

/-- A location holds what it held, or a directory where nothing was. -/
def Tree.Keeps (t t' : Tree) (loc : Location) : Prop :=
  t'.find? loc = t.find? loc ∨ (t.find? loc = none ∧ t'.find? loc = some .directory)

/-- So the file that is there is as it was. -/
theorem Tree.Keeps.content?_eq {t t' : Tree} {loc : Location} (h : t.Keeps t' loc) :
    t'.content? loc = t.content? loc := by
  unfold Tree.content?
  rcases h with h | ⟨hnone, hdirectory⟩
  · rw [h]
  · rw [hnone, hdirectory]

/-- Directories have come where nothing was, and nothing else has changed. -/
def Tree.Grows (t t' : Tree) : Prop := ∀ loc, t.Keeps t' loc

theorem Tree.Grows.refl (t : Tree) : t.Grows t := fun _ => Or.inl rfl

theorem Tree.Grows.trans {t₁ t₂ t₃ : Tree} (h₁ : t₁.Grows t₂) (h₂ : t₂.Grows t₃) :
    t₁.Grows t₃ := by
  intro loc
  rcases h₂ loc with h₂ | ⟨hnone, hdirectory⟩
  · unfold Tree.Keeps
    rw [h₂]
    exact h₁ loc
  · rcases h₁ loc with h₁ | ⟨-, h₁⟩
    · exact Or.inr ⟨h₁ ▸ hnone, hdirectory⟩
    · rw [hnone] at h₁
      cases h₁

theorem grows_makeDirectory {t t' : Tree} {p : Path} (h : t.makeDirectory p = .ok t') :
    t.Grows t' := by
  unfold Tree.makeDirectory at h
  obtain ⟨loc, -, h⟩ := bind_eq_ok_iff.1 h
  cases hfind : t.find? loc with
  | some entry =>
    rw [hfind] at h
    cases h
  | none =>
    rw [hfind] at h
    cases h
    have hanchor : isAnchor loc = false := isAnchor_of_find?_ne (t := t) (by simp [hfind])
    intro other
    by_cases hother : other = loc
    · rw [hother]
      exact Or.inr ⟨hfind, find?_set_self t .directory hanchor⟩
    · exact Or.inl (find?_set_of_ne t .directory hother)

/-- A fault that is looked into changes nothing. -/
theorem excuse_tree (t : Tree) (p : Path) (fault : Fault) : (t.excuse p fault).1 = t := by
  unfold Tree.excuse
  split <;> rfl

theorem grows_makeAll (root : String) (names : List String) (t : Tree) :
    t.Grows (Tree.makeAll root names t).1 := by
  induction names generalizing t with
  | nil =>
    unfold Tree.makeAll
    split
    · rename_i hmake
      exact grows_makeDirectory hmake
    · rw [excuse_tree]
      exact .refl t
  | cons name above ih =>
    have habove := ih t
    unfold Tree.makeAll
    dsimp only
    split
    · rename_i hmake
      exact grows_makeDirectory hmake
    · generalize Tree.makeAll root above t = outcome at habove ⊢
      obtain ⟨t', fault?⟩ := outcome
      cases fault? with
      | some fault => exact habove
      | none =>
        dsimp only
        split
        · rename_i hmake
          exact habove.trans (grows_makeDirectory hmake)
        · exact habove
        · rw [excuse_tree]
          exact habove
    · rw [excuse_tree]
      exact .refl t

/-- **Making a directory, and those above it, does nothing else**, also where it fails. -/
theorem grows_makeDirectories (t : Tree) (p : Path) : t.Grows (t.makeDirectories p).1 :=
  grows_makeAll p.root p.parts.reverse t

/-! ## Names below a directory -/

/-- A name without a slash is a path of one step. -/
theorem ofString_of_name {name : String} (hslash : '/' ∉ name.toList) (hne : name ≠ "")
    (hdot : name ≠ ".") : Path.ofString name = ⟨"", [name]⟩ := by
  have hchars : ∀ c ∈ name.toList, (c == '/') = false := by
    intro c hc
    rw [beq_eq_false_iff_ne]
    rintro rfl
    exact hslash hc
  have hslashes : name.toList.takeWhile (· == '/') = [] := by
    cases hname : name.toList with
    | nil => rfl
    | cons c cs =>
      have hc : (c == '/') = false := hchars c (by simp [hname])
      rw [List.takeWhile_cons_of_neg (by simp [hc])]
  have hpieces : Text.pieces (· == '/') name.toList = [name.toList] :=
    Text.pieces_eq_singleton hchars
  have hkept : [name.toList].filter (fun p => !p.isEmpty && p != ['.']) = [name.toList] := by
    have hempty : name.toList ≠ [] := by simpa using hne
    have hsingle : name.toList ≠ ['.'] := fun h => hdot (String.toList_injective h)
    simp [hempty, hsingle]
  unfold Path.ofString
  dsimp only
  rw [hslashes, hpieces, hkept]
  simp

/-- **A name without a slash stays below its directory.** -/
theorem location_child {name : String} (hslash : '/' ∉ name.toList) (hlength : 2 < name.length)
    (dir : Path) : (dir.child name).location = dir.location ++ [name] := by
  have hne : ∀ other : String, other.length ≤ 2 → name ≠ other := by
    rintro other hother rfl
    omega
  have hpath : Path.ofString name = ⟨"", [name]⟩ :=
    ofString_of_name hslash (hne "" (by decide)) (hne "." (by decide))
  have hchild : dir.child name = { dir with parts := dir.parts ++ [name] } := by
    unfold Path.child
    rw [hpath]
    rfl
  rw [hchild]
  show (dir.parts ++ [name]).foldl descend dir.start = _
  rw [List.foldl_append]
  exact if_neg (hne ".." (by decide))

end ApiBindings.Files
