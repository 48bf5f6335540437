import ApiBindings.Output.Write
import ApiBindings.Proofs.Files.Changes
import ApiBindings.Settings
/-!
# What writing the modules leaves

The texts are put in their places one after another until one of them fails, so that behind an error
a front part of them is in place and the rest has not been touched: a former file is only removed
where its successor can be written. Main statements: a text is in its place or nothing has changed
(`place_cases`), a front part of several texts is in place (`write_cases`), and what is found in the
two module files and everywhere else when they have been written, or not (`write_modules`).
-/

namespace ApiBindings.Output

open Files (Path Tree Location)

/-! ## One text -/

/-- **A text is in its place, or nothing has changed.** -/
theorem place_cases (t : Tree) (p : Path) (text : String) :
    (∃ e, (place t p text).failure = some e ∧ (place t p text).files = t) ∨
      ((place t p text).failure = none ∧ t.locate p = .ok p.location ∧
        t.find? p.location ≠ some .directory ∧
        (place t p text).files = t.set p.location (.file (Charset.encodeUtf8 text))) := by
  by_cases hnul : p.hasNul = true
  · left
    unfold place
    rw [if_pos hnul]
    exact ⟨_, rfl, rfl⟩
  · unfold place
    rw [if_neg hnul]
    dsimp only
    cases t.look p with
    | error fault => exact Or.inl ⟨_, rfl, rfl⟩
    | ok found =>
      cases found with
      | none =>
        dsimp only
        cases hwrite : t.write p (Charset.encodeUtf8 text) with
        | error fault => exact Or.inl ⟨_, rfl, rfl⟩
        | ok t' =>
          obtain ⟨hlocate, hfind, rfl⟩ := Files.write_eq_ok_iff.1 hwrite
          exact Or.inr ⟨rfl, hlocate, hfind, rfl⟩
      | some entry =>
        dsimp only
        cases hremove : t.remove p with
        | error fault => exact Or.inl ⟨_, rfl, rfl⟩
        | ok t' =>
          -- behind the former file the new one can be written
          obtain ⟨hlocate, ⟨content, hfind⟩, rfl⟩ := Files.remove_eq_ok_iff.1 hremove
          have hfile : t.find? p.location ≠ some .directory := by
            rw [hfind]
            exact fun h => nomatch h
          have hwrite : (t.erase p.location).write p (Charset.encodeUtf8 text) =
              .ok (t.set p.location (.file (Charset.encodeUtf8 text))) := by
            rw [← Files.set_erase, Files.write_eq_ok_iff]
            refine ⟨Files.locate_of_keepsDirectories (Files.keepsDirectories_erase hfile) hlocate,
              ?_, rfl⟩
            rw [Files.find?_erase_self t (Files.isAnchor_of_find?_ne hfile)]
            exact fun h => nomatch h
          rw [hlocate]
          dsimp only
          rw [hwrite]
          exact Or.inr ⟨rfl, rfl, hfile, rfl⟩

/-! ## Several texts -/

/-- Some texts are in their places below a directory, and otherwise the tree is as it was. -/
structure Filled (dir : Path) (texts : List (String × String)) (t t' : Tree) : Prop where
  read : ∀ x ∈ texts, t'.read (dir.child x.1) = .ok (Charset.encodeUtf8 x.2)
  others : ∀ loc, (∀ x ∈ texts, loc ≠ (dir.child x.1).location) → t'.find? loc = t.find? loc
  directories : t.KeepsDirectories t'

/-- No text, no change. -/
theorem filled_nil (dir : Path) (t : Tree) : Filled dir [] t t where
  read := fun _ h => nomatch h
  others := fun _ _ => rfl
  directories := .refl t

/-- A text before others: theirs are other places. -/
theorem Filled.cons {dir : Path} {file text : String} {texts : List (String × String)}
    {t t' : Tree} (hlocate : t.locate (dir.child file) = .ok (dir.child file).location)
    (hfind : t.find? (dir.child file).location ≠ some .directory)
    (h : Filled dir texts
      (t.set (dir.child file).location (.file (Charset.encodeUtf8 text))) t')
    (hother : ∀ x ∈ texts, (dir.child file).location ≠ (dir.child x.1).location) :
    Filled dir ((file, text) :: texts) t t' := by
  have hdirectories : t.KeepsDirectories t' :=
    (Files.keepsDirectories_set hfind _).trans h.directories
  refine ⟨?_, ?_, hdirectories⟩
  · intro x hx
    rcases List.mem_cons.1 hx with rfl | hx
    · rw [Files.read_eq_ok_iff, h.others _ hother]
      exact ⟨Files.locate_of_keepsDirectories hdirectories hlocate,
        Files.find?_set_self t _ (Files.isAnchor_of_find?_ne hfind)⟩
    · exact h.read x hx
  · intro loc hloc
    rw [h.others loc fun x hx => hloc x (List.mem_cons_of_mem _ hx)]
    exact Files.find?_set_of_ne t _ (hloc (file, text) List.mem_cons_self)

/-- **A front part of the texts is in its places**, all of them unless there is an error. -/
theorem placeAll_filled (dir : Path) (texts : List (String × String)) (t : Tree)
    (hplaces : (texts.map fun x => (dir.child x.1).location).Nodup) :
    ∃ placed rest, texts = placed ++ rest ∧ Filled dir placed t (placeAll t dir texts).1 ∧
      ((placeAll t dir texts).2 = none → rest = []) := by
  induction texts generalizing t with
  | nil => exact ⟨[], [], rfl, filled_nil dir t, fun _ => rfl⟩
  | cons x texts ih =>
    obtain ⟨file, text⟩ := x
    obtain ⟨hother, hplaces⟩ := List.nodup_cons.1 hplaces
    unfold placeAll
    dsimp only
    rcases place_cases t (dir.child file) text with ⟨e, hfailure, hfiles⟩ |
      ⟨hfailure, hlocate, hfind, hfiles⟩
    · rw [hfailure, hfiles]
      exact ⟨[], (file, text) :: texts, rfl, filled_nil dir t, fun h => nomatch h⟩
    · rw [hfailure, hfiles]
      obtain ⟨placed, rest, rfl, hfilled, hall⟩ := ih _ hplaces
      refine ⟨(file, text) :: placed, rest, rfl, hfilled.cons hlocate hfind ?_, hall⟩
      intro x hx hlocation
      exact hother (List.mem_map.2 ⟨x, List.mem_append_left _ hx, hlocation.symm⟩)

/-! ## A directory of texts -/

/-- Making the output directory does nothing else. -/
theorem grows_prepare (t : Tree) (dir : Path) : t.Grows (prepare t dir).1 := by
  have hmake := Files.grows_makeDirectories t dir
  unfold prepare
  split
  · exact .refl t
  · generalize t.makeDirectories dir = outcome at hmake ⊢
    obtain ⟨t', fault?⟩ := outcome
    cases fault? <;> exact hmake

/-- **All that writing can do**: directories are made, and a front part of the texts is put in its
places, all of them unless there is an error. -/
theorem write_cases (t : Tree) (dir : String) (texts : List (String × String))
    (hplaces : (texts.map fun x => ((Path.ofString dir).child x.1).location).Nodup) :
    ∃ placed rest, texts = placed ++ rest ∧
      (∀ x ∈ placed, (write t dir texts).1.read ((Path.ofString dir).child x.1) =
        .ok (Charset.encodeUtf8 x.2)) ∧
      (∀ loc, (∀ x ∈ placed, loc ≠ ((Path.ofString dir).child x.1).location) →
        t.Keeps (write t dir texts).1 loc) ∧
      ∀ paths, (write t dir texts).2 = .ok paths →
        rest = [] ∧ paths = texts.map fun x => (Path.ofString dir).child x.1 := by
  have hgrows := grows_prepare t (Path.ofString dir)
  unfold write
  dsimp only
  generalize prepare t (Path.ofString dir) = prepared at hgrows ⊢
  obtain ⟨t', error?⟩ := prepared
  cases error? with
  | some e =>
    refine ⟨[], texts, rfl, ?_, fun loc _ => hgrows loc, ?_⟩
    · intro x hx
      cases hx
    · intro paths hpaths
      cases hpaths
  | none =>
    obtain ⟨placed, rest, htexts, hfilled, hall⟩ := placeAll_filled (Path.ofString dir) texts t'
      hplaces
    refine ⟨placed, rest, htexts, ?_⟩
    dsimp only
    generalize placeAll t' (Path.ofString dir) texts = outcome at hfilled hall ⊢
    obtain ⟨t'', error?⟩ := outcome
    have hkept : ∀ loc, (∀ x ∈ placed, loc ≠ ((Path.ofString dir).child x.1).location) →
        t.Keeps t'' loc := by
      intro loc hloc
      unfold Tree.Keeps
      rw [hfilled.others loc hloc]
      exact hgrows loc
    cases error? with
    | some e =>
      refine ⟨hfilled.read, hkept, ?_⟩
      intro paths hpaths
      cases hpaths
    | none =>
      refine ⟨hfilled.read, hkept, ?_⟩
      intro paths hpaths
      cases hpaths
      exact ⟨hall rfl, rfl⟩

/-- So all texts are in their places where there is no error. -/
theorem read_of_write {t : Tree} {dir : String} {texts : List (String × String)}
    {paths : List Path}
    (hplaces : (texts.map fun x => ((Path.ofString dir).child x.1).location).Nodup)
    (h : (write t dir texts).2 = .ok paths) :
    (∀ x ∈ texts, (write t dir texts).1.read ((Path.ofString dir).child x.1) =
      .ok (Charset.encodeUtf8 x.2)) ∧
      paths = texts.map fun x => (Path.ofString dir).child x.1 := by
  obtain ⟨placed, rest, htexts, hread, -, hall⟩ := write_cases t dir texts hplaces
  obtain ⟨rfl, hpaths⟩ := hall paths h
  rw [List.append_nil] at htexts
  subst htexts
  exact ⟨hread, hpaths⟩

/-- And whatever comes of it, no other location has changed. -/
theorem keeps_write {t : Tree} {dir : String} {texts : List (String × String)}
    (hplaces : (texts.map fun x => ((Path.ofString dir).child x.1).location).Nodup)
    {loc : Location} (h : ∀ x ∈ texts, loc ≠ ((Path.ofString dir).child x.1).location) :
    t.Keeps (write t dir texts).1 loc := by
  obtain ⟨placed, rest, htexts, -, hkept, -⟩ := write_cases t dir texts hplaces
  refine hkept loc ?_
  intro x hx
  exact h x (htexts ▸ List.mem_append_left rest hx)

/-! ## Two modules -/

/-- The module files of different modules are different places in the same directory. -/
theorem location_module {module : String} (h : '/' ∉ module.toList) (dir : Path) :
    (dir.child (module ++ ".py")).location = dir.location ++ [module ++ ".py"] := by
  refine Files.location_child ?_ ?_ dir
  · simp [h]
  · have hsuffix : ".py".length = 3 := by decide
    rw [String.length_append, hsuffix]
    omega

/-- So modules with different names have places of their own. -/
theorem location_modules_ne {s : Settings} (hmodules : s.typesModule ≠ s.operationsModule)
    (htypes : '/' ∉ s.typesModule.toList) (hoperations : '/' ∉ s.operationsModule.toList)
    (dir : Path) : (dir.child s.typesFile).location ≠ (dir.child s.operationsFile).location := by
  show (dir.child (s.typesModule ++ ".py")).location ≠
    (dir.child (s.operationsModule ++ ".py")).location
  rw [location_module htypes, location_module hoperations]
  intro h
  obtain ⟨-, hname⟩ := List.append_inj' h rfl
  exact hmodules (by simpa using hname)

/-- **What writing two modules leaves.** If it goes well, the two files hold exactly the bytes of
their texts. If not, each of them is as it was or holds its whole text, and the second is not as it
was only if the first holds its text. No other file changes, and nothing but directories is made. -/
theorem write_modules (t : Tree) (dir : String) (s : Settings) (types operations : String)
    (hmodules : s.typesModule ≠ s.operationsModule) (htypes : '/' ∉ s.typesModule.toList)
    (hoperations : '/' ∉ s.operationsModule.toList) :
    let outcome := write t dir [(s.typesFile, types), (s.operationsFile, operations)]
    let first := (Path.ofString dir).child s.typesFile
    let second := (Path.ofString dir).child s.operationsFile
    (∀ paths, outcome.2 = .ok paths →
      paths = [first, second] ∧
        outcome.1.read first = .ok (Charset.encodeUtf8 types) ∧
        outcome.1.read second = .ok (Charset.encodeUtf8 operations)) ∧
    (∀ e, outcome.2 = .error e →
      (t.Keeps outcome.1 first.location ∨
        outcome.1.content? first.location = some (Charset.encodeUtf8 types)) ∧
      (t.Keeps outcome.1 second.location ∨
        outcome.1.content? second.location = some (Charset.encodeUtf8 operations)) ∧
      (¬ t.Keeps outcome.1 second.location →
        outcome.1.content? first.location = some (Charset.encodeUtf8 types))) ∧
    ∀ loc, loc ≠ first.location → loc ≠ second.location →
      t.Keeps outcome.1 loc ∧ outcome.1.content? loc = t.content? loc := by
  intro outcome first second
  have hne : first.location ≠ second.location :=
    location_modules_ne hmodules htypes hoperations (Path.ofString dir)
  have hplaces : ([(s.typesFile, types), (s.operationsFile, operations)].map fun x =>
      ((Path.ofString dir).child x.1).location).Nodup := by
    simpa using hne
  refine ⟨?_, ?_, ?_⟩
  · intro paths hpaths
    obtain ⟨hread, hpaths⟩ := read_of_write hplaces hpaths
    exact ⟨hpaths, hread (s.typesFile, types) (by simp),
      hread (s.operationsFile, operations) (by simp)⟩
  · intro e _
    obtain ⟨placed, rest, htexts, hread, hkept, -⟩ := write_cases t dir _ hplaces
    -- the texts that are in place are none, the first, or both
    cases placed with
    | nil =>
      have hall : ∀ loc, t.Keeps outcome.1 loc := fun loc => hkept loc fun _ h => nomatch h
      exact ⟨Or.inl (hall _), Or.inl (hall _), fun h => absurd (hall _) h⟩
    | cons x placed =>
      obtain ⟨rfl, hbehind⟩ := List.cons.inj htexts
      have hfirst := Files.content?_of_read (hread (s.typesFile, types) List.mem_cons_self)
      refine ⟨Or.inr hfirst, ?_, fun _ => hfirst⟩
      cases placed with
      | nil =>
        left
        refine hkept second.location ?_
        intro x hx
        rw [List.mem_singleton.1 hx]
        exact hne.symm
      | cons y placed =>
        obtain ⟨rfl, -⟩ := List.cons.inj hbehind
        exact Or.inr (Files.content?_of_read
          (hread (s.operationsFile, operations) (by simp)))
  · intro loc hfirst hsecond
    have hkept : t.Keeps outcome.1 loc := by
      refine keeps_write hplaces ?_
      intro x hx
      rcases List.mem_cons.1 hx with rfl | hx
      · exact hfirst
      · rw [List.mem_singleton.1 hx]
        exact hsecond
    exact ⟨hkept, hkept.content?_eq⟩

/-- A directory with an old types module, where a directory stands in the way of the other one. -/
def blockedTree : Tree :=
  ⟨[(["out"], .directory), (["out", "models.py"], .file []), (["out", "api.py"], .directory)]⟩

/-- The types module is replaced, and the directory stays. -/
theorem write_modules_blockedTree :
    let outcome := write blockedTree "out" [("models.py", "A"), ("api.py", "B")]
    outcome.2 = .error (.unwrittenModule "out/api.py" .isDirectory) ∧
      outcome.1.content? ["out", "models.py"] = some [0x41] ∧
      blockedTree.Keeps outcome.1 ["out", "api.py"] ∧ blockedTree.Keeps outcome.1 ["out"] := by
  intro outcome
  have herror : outcome.2 = .error (.unwrittenModule "out/api.py" .isDirectory) := by
    decide +kernel
  have hmodels : ((Path.ofString "out").child "models.py").location = ["out", "models.py"] := by
    decide +kernel
  have hapi : ((Path.ofString "out").child "api.py").location = ["out", "api.py"] := by
    decide +kernel
  have hnew : outcome.1.content? ["out", "models.py"] = some [0x41] := by decide +kernel
  have hold : outcome.1.content? ["out", "api.py"] ≠ some (Charset.encodeUtf8 "B") := by
    decide +kernel
  obtain ⟨-, hfails, hothers⟩ := write_modules blockedTree "out" {} "A" "B" (by decide)
    (by decide) (by decide)
  obtain ⟨-, hsecond, -⟩ := hfails _ herror
  have hdirectory : blockedTree.Keeps outcome.1
      ((Path.ofString "out").child "api.py").location := by
    refine hsecond.resolve_right ?_
    intro h
    exact hold (hapi ▸ h)
  have hout : ∀ name, ["out"] ≠ ["out", name] := fun _ h => nomatch h
  refine ⟨herror, hnew, hapi ▸ hdirectory, (hothers ["out"] ?_ ?_).1⟩
  · show ["out"] ≠ ((Path.ofString "out").child "models.py").location
    rw [hmodels]
    exact hout _
  · show ["out"] ≠ ((Path.ofString "out").child "api.py").location
    rw [hapi]
    exact hout _

end ApiBindings.Output
