import ApiBindings.Log.Logger
import ApiBindings.Proofs.Files.Changes
import Mathlib.Data.List.Induction
import Mathlib.Data.List.Nodup
/-!
# What becomes of records

A logger is set up, again and again if one likes, and in between something is logged. Which files
are then attached, at which level, and what stands in them can be read off these events alone: each
set-up counts for all handlers, each file once, and a record goes to whatever is attached at that
time. Main statement: after any events the logger and all that it has written are what the events
say (`recorded_of_history`), one event at a time (`Recorded.apply`).
-/

namespace ApiBindings.Log

open Files (Tree Path Location)

/-! ## Events -/

/-- What happens to a logger: it is set up, or something is logged. -/
inductive Event where
  | setup (level : Int) (file : Option String)
  | record (stamp : String) (r : Record)
  deriving DecidableEq, Repr

/-- The level that a set-up sets. -/
def Event.level? : Event → Option Int
  | .setup level _ => some level
  | .record _ _ => none

/-- The path of the file that a set-up names: straight, and absolute if the working directory is
given by an absolute path. -/
def Event.path? (cwd : Path) : Event → Option Path
  | .setup _ file => (file.filter (!·.isEmpty)).map fun file => (cwd.child file).straight
  | .record _ _ => none

/-- A logger, and what has been written, after an event. -/
def Event.apply (cwd : Path) (s : Logger × Written) : Event → Except Error (Logger × Written)
  | .setup level file => do
    let (l, files) ← s.1.setup level file s.2.files cwd
    return (l, { s.2 with files })
  | .record stamp r => return (s.1, s.1.emit stamp s.2 r)

/-- A fresh logger, and what has been written, after several events, if every set-up succeeds. -/
def history (cwd : Path) (name : String) (t : Tree) (events : List Event) :
    Except Error (Logger × Written) :=
  events.foldlM (Event.apply cwd) ({ name }, ⟨"", t⟩)

/-! ## What the events say -/

/-- The level of the last set-up. -/
def lastLevel? (events : List Event) : Option Int := (events.filterMap Event.level?).getLast?

/-- The paths of the files that have been named, in the order in which they were named first. -/
def namedPaths (cwd : Path) (events : List Event) : List Path :=
  (events.filterMap (Event.path? cwd)).eraseDups

/-- The record is one for a logger of some name that stands at a level, as its handlers do. -/
def takes (name : String) (level : Int) (r : Record) : Bool :=
  let l : Logger := { name, level }
  l.hears r.source && 0 < r.level && l.effectiveLevel r.source ≤ r.level && level ≤ r.level

/-- The line that is written of an event; before the first set-up there is none. -/
def lineOf (name : String) (level? : Option Int) : Event → List String
  | .setup _ _ => []
  | .record stamp r => if level?.any (takes name · r) then [r.render stamp] else []

/-- The lines that are written of events, each at the level that is set by then. -/
def linesOf (name : String) : Option Int → List Event → List String
  | _, [] => []
  | level?, e :: rest => lineOf name level? e ++ linesOf name (e.level?.or level?) rest

/-- The handlers of a logger that is set up: the console, and files in order. -/
def handlersAt (level : Int) (paths : List Path) : List Handler :=
  ⟨.console, level⟩ :: paths.map fun path => ⟨.file path, level⟩

/-- The logger and all that is written are what the events say. Behind its old content a file has
the lines of what was logged since it was named first, if no other path that was named leads to
it. -/
structure Recorded (cwd : Path) (name : String) (t : Tree) (events : List Event) (l : Logger)
    (w : Written) : Prop where
  named : l.name = name
  fresh : lastLevel? events = none → l.handlers = []
  level : ∀ level, lastLevel? events = some level →
    l.level = level ∧ l.handlers = handlersAt level (namedPaths cwd events)
  console : w.console = String.join (linesOf name none events)
  others : ∀ loc, (∀ p ∈ namedPaths cwd events, p.location ≠ loc) →
    w.files.find? loc = t.find? loc
  content : ∀ before e after p, events = before ++ e :: after → e.path? cwd = some p →
    p ∉ namedPaths cwd before →
    (∀ q ∈ namedPaths cwd events, q.location = p.location → q = p) →
      w.files.content? p.location =
        some ((t.content? p.location).getD [] ++
          (linesOf name e.level? after).flatMap Charset.encodeUtf8)

/-! ## One more event -/

/-- What is before and behind a member of a list that is one longer. -/
theorem concat_eq_append_cons {α : Type} {xs before after : List α} {x y : α}
    (h : xs ++ [x] = before ++ y :: after) :
    (before = xs ∧ y = x ∧ after = []) ∨
      ∃ rest, after = rest ++ [x] ∧ xs = before ++ y :: rest := by
  rcases List.eq_nil_or_concat after with rfl | ⟨rest, z, rfl⟩
  · obtain ⟨rfl, hx⟩ := List.append_inj' h rfl
    exact Or.inl ⟨rfl, (List.cons.inj hx).1.symm, rfl⟩
  · rw [List.concat_eq_append, ← List.cons_append, ← List.append_assoc] at h
    obtain ⟨rfl, hx⟩ := List.append_inj' h rfl
    obtain rfl := (List.cons.inj hx).1
    exact Or.inr ⟨rest, List.concat_eq_append, rfl⟩

theorem lastLevel?_append (events more : List Event) :
    lastLevel? (events ++ more) = (lastLevel? more).or (lastLevel? events) := by
  unfold lastLevel?
  rw [List.filterMap_append, List.getLast?_append]

theorem lastLevel?_singleton (e : Event) : lastLevel? [e] = e.level? := by
  cases e <;> rfl

theorem linesOf_concat (name : String) (level? : Option Int) (events : List Event) (e : Event) :
    linesOf name level? (events ++ [e]) =
      linesOf name level? events ++ lineOf name ((lastLevel? events).or level?) e := by
  induction events generalizing level? with
  | nil => exact List.append_nil _
  | cons first events ih =>
    have hlast : lastLevel? (first :: events) = (lastLevel? events).or first.level? := by
      rw [← lastLevel?_singleton first, ← lastLevel?_append, List.singleton_append]
    rw [List.cons_append, linesOf, ih, linesOf, hlast, Option.or_assoc, List.append_assoc]

theorem eraseDups_concat {α : Type} [DecidableEq α] (xs : List α) (x : α) :
    (xs ++ [x]).eraseDups = xs.eraseDups ++ if x ∈ xs then [] else [x] := by
  rw [List.eraseDups_append]
  by_cases h : x ∈ xs
  · simp [List.removeAll, h]
  · simp [List.removeAll, h, List.eraseDups_cons]

/-- A file that was named before is not named anew. -/
theorem namedPaths_concat_of_mem {cwd : Path} {events : List Event} {e : Event}
    (h : ∀ p ∈ e.path? cwd, p ∈ namedPaths cwd events) :
    namedPaths cwd (events ++ [e]) = namedPaths cwd events := by
  unfold namedPaths at h ⊢
  rw [List.filterMap_append]
  cases hpath : e.path? cwd with
  | none =>
    rw [List.filterMap_cons_none hpath, List.filterMap_nil, List.append_nil]
  | some p =>
    have hp : p ∈ events.filterMap (Event.path? cwd) := List.mem_eraseDups.1 (h p hpath)
    rw [List.filterMap_cons_some hpath, List.filterMap_nil, eraseDups_concat,
      if_pos hp, List.append_nil]

/-- One that was not comes last. -/
theorem namedPaths_concat_of_notMem {cwd : Path} {events : List Event} {e : Event} {p : Path}
    (hpath : e.path? cwd = some p) (h : p ∉ namedPaths cwd events) :
    namedPaths cwd (events ++ [e]) = namedPaths cwd events ++ [p] := by
  unfold namedPaths at h ⊢
  rw [List.mem_eraseDups] at h
  rw [List.filterMap_append, List.filterMap_cons_some hpath, List.filterMap_nil, eraseDups_concat,
    if_neg h]

theorem nodup_namedPaths (cwd : Path) (events : List Event) : (namedPaths cwd events).Nodup := by
  induction events using List.reverseRecOn with
  | nil => exact List.nodup_nil
  | append_singleton events e ih =>
    by_cases h : ∀ p ∈ e.path? cwd, p ∈ namedPaths cwd events
    · rw [namedPaths_concat_of_mem h]
      exact ih
    · push Not at h
      obtain ⟨p, hpath, hnew⟩ := h
      rw [namedPaths_concat_of_notMem hpath hnew, ← List.concat_eq_append]
      exact ih.concat hnew

/-- The event that names a file sets a level, which is the last one or followed by others. -/
theorem lastLevel?_of_path {cwd : Path} {before after : List Event} {e : Event} {p : Path}
    (h : e.path? cwd = some p) :
    lastLevel? (before ++ e :: after) = (lastLevel? after).or e.level? := by
  rw [← List.singleton_append, lastLevel?_append, lastLevel?_append, lastLevel?_singleton]
  cases e with
  | setup level file => cases lastLevel? after <;> rfl
  | record stamp r => cases h

theorem mem_namedPaths {cwd : Path} {events : List Event} {e : Event} {p : Path} (he : e ∈ events)
    (h : e.path? cwd = some p) : p ∈ namedPaths cwd events :=
  List.mem_eraseDups.2 (List.mem_filterMap.2 ⟨e, he, h⟩)

theorem namedPaths_append_subset {cwd : Path} {events more : List Event} :
    namedPaths cwd events ⊆ namedPaths cwd (events ++ more) := by
  intro p hp
  obtain ⟨e, he, hpath⟩ := List.mem_filterMap.1 (List.mem_eraseDups.1 hp)
  exact mem_namedPaths (List.mem_append_left _ he) hpath

/-- Only a set-up names a file. -/
theorem namedPaths_of_noLevel {cwd : Path} {events : List Event} (h : lastLevel? events = none) :
    namedPaths cwd events = [] := by
  have hlevels : events.filterMap Event.level? = [] := List.getLast?_eq_none_iff.1 h
  have hpaths : events.filterMap (Event.path? cwd) = [] := by
    rw [List.filterMap_eq_nil_iff] at hlevels ⊢
    intro e he
    cases e with
    | setup level file => exact absurd (hlevels _ he) (by simp [Event.level?])
    | record stamp r => rfl
  rw [namedPaths, hpaths]
  rfl

/-! ## Handlers -/

/-- A level is set for the logger and for every handler. -/
theorem setLevel_handlers {l : Logger} {paths : List Path}
    (hl : l.handlers.map (·.sink) = .console :: paths.map .file) (level : Int) :
    (l.setLevel level).handlers = handlersAt level paths := by
  have hmap : (l.setLevel level).handlers = (l.handlers.map (·.sink)).map (⟨·, level⟩) := by
    simp [Logger.setLevel, Function.comp_def]
  rw [hmap, hl]
  simp [handlersAt, Function.comp_def]

/-- Only a file that is attached is found among the handlers. -/
theorem any_isFileAt_handlersAt (level : Int) (paths : List Path) (p : Path) :
    (handlersAt level paths).any (·.sink.isFileAt p) = true ↔ p ∈ paths := by
  simp [handlersAt, Sink.isFileAt]

/-- A file that is attached already is not opened; any other is opened and comes last. -/
theorem attach_of_handlersAt {cwd : Path} {file : String} {level : Int} {paths : List Path}
    {l l' : Logger} {t t' : Tree} (hl : l.handlers = handlersAt level paths)
    (h : l.attach cwd file t = .ok (l', t')) :
    (cwd.child file).straight ∈ paths ∧ l' = l ∧ t' = t ∨
      (cwd.child file).straight ∉ paths ∧
        l' = { l with
          handlers := handlersAt level paths ++ [⟨.file (cwd.child file).straight, 0⟩] } ∧
        t.openEnd (cwd.child file).straight = .ok t' := by
  unfold Logger.attach at h
  dsimp only at h
  rw [hl] at h
  split at h
  · rename_i hattached
    cases h
    exact Or.inl ⟨(any_isFileAt_handlersAt _ _ _).1 hattached, rfl, rfl⟩
  · rename_i hnew
    split at h
    · cases h
    · split at h
      · cases h
      · rename_i files hopen
        cases h
        exact Or.inr ⟨mt (any_isFileAt_handlersAt _ _ _).2 hnew, rfl, hopen⟩

theorem withConsole_name (l : Logger) : l.withConsole.name = l.name := by
  unfold Logger.withConsole
  split <;> rfl

/-- **All that a set-up does**: its level counts for the logger and every handler, and a file that
is named and not attached is opened and comes last. -/
theorem setup_of_handlersAt {cwd : Path} {level level₀ : Int} {file : Option String}
    {paths : List Path} {l l' : Logger} {t t' : Tree}
    (hl : l.withConsole.handlers = handlersAt level₀ paths)
    (h : l.setup level file t cwd = .ok (l', t')) :
    l'.name = l.name ∧ l'.level = level ∧
      ((∀ p ∈ (Event.setup level file).path? cwd, p ∈ paths) ∧
          l'.handlers = handlersAt level paths ∧ t' = t ∨
        ∃ p, (Event.setup level file).path? cwd = some p ∧ p ∉ paths ∧
          l'.handlers = handlersAt level (paths ++ [p]) ∧ t.openEnd p = .ok t') := by
  unfold Logger.setup at h
  unfold Event.path?
  dsimp only
  cases hfile : file.filter (!·.isEmpty) with
  | none =>
    rw [hfile] at h
    cases h
    refine ⟨withConsole_name l, rfl, Or.inl ⟨fun _ hp => (nomatch hp), ?_, rfl⟩⟩
    exact setLevel_handlers (by simp [hl, handlersAt, Function.comp_def]) level
  | some file =>
    rw [hfile] at h
    obtain ⟨⟨attached, files⟩, hattach, h⟩ := bind_eq_ok_iff.1 h
    cases h
    rcases attach_of_handlersAt hl hattach with ⟨hmem, rfl, rfl⟩ | ⟨hnew, rfl, hopen⟩
    · refine ⟨withConsole_name l, rfl, Or.inl ⟨?_, ?_, rfl⟩⟩
      · intro p hp
        exact Option.some.inj hp ▸ hmem
      · exact setLevel_handlers (by simp [hl, handlersAt, Function.comp_def]) level
    · refine ⟨withConsole_name l, rfl, Or.inr ⟨_, rfl, hnew, ?_, hopen⟩⟩
      exact setLevel_handlers (by simp [handlersAt, Function.comp_def]) level

/-! ## Lines -/

/-- A record goes to every handler or to none. -/
theorem emit_of_handlersAt {l : Logger} {level : Int} {paths : List Path} (hlevel : l.level = level)
    (hl : l.handlers = handlersAt level paths) (stamp : String) (w : Written) (r : Record) :
    l.emit stamp w r =
      if takes l.name level r then
        (handlersAt level paths).foldl (fun w h => h.sink.put (r.render stamp) w) w
      else w := by
  obtain ⟨name, level, handlers⟩ := l
  obtain rfl : level = _ := hlevel
  obtain rfl : handlers = handlersAt level paths := hl
  have hhandlers : ∀ h ∈ handlersAt level paths, h.level = level := by
    simp [handlersAt]
  -- what the logger checks, and then what every handler checks
  have htakes : takes name level r = true ↔
      ((⟨name, level, handlersAt level paths⟩ : Logger).hears r.source && 0 < r.level &&
        (⟨name, level, handlersAt level paths⟩ : Logger).effectiveLevel r.source ≤ r.level) = true ∧
      level ≤ r.level := by
    simp [takes, Logger.hears, Logger.effectiveLevel]
  unfold Logger.emit
  by_cases hlevel : level ≤ r.level
  · have hall : (handlersAt level paths).filter (·.level ≤ r.level) = handlersAt level paths := by
      refine List.filter_eq_self.2 fun h hh => ?_
      rw [hhandlers h hh]
      exact decide_eq_true hlevel
    rw [hall]
    congr 1
    simpa [hlevel] using htakes.symm
  · have hnone : (handlersAt level paths).filter (·.level ≤ r.level) = [] := by
      refine List.filter_eq_nil_iff.2 fun h hh => ?_
      rw [hhandlers h hh]
      exact mt of_decide_eq_true hlevel
    rw [hnone, if_neg (mt (fun h => (htakes.1 h).2) hlevel), List.foldl_nil, ite_self]

/-- A logger without handlers writes nothing. -/
theorem emit_of_noHandlers {l : Logger} (hl : l.handlers = []) (stamp : String) (w : Written)
    (r : Record) : l.emit stamp w r = w := by
  unfold Logger.emit
  rw [hl]
  split <;> rfl

/-- A line goes to the console and then to each file. -/
theorem put_handlersAt (line : String) (level : Int) (paths : List Path) (w : Written) :
    (handlersAt level paths).foldl (fun w h => h.sink.put line w) w =
      ⟨w.console ++ line,
        paths.foldl (fun t p => t.append p.location (Charset.encodeUtf8 line)) w.files⟩ := by
  have hfiles : ∀ w : Written, (paths.map fun path => (⟨.file path, level⟩ : Handler)).foldl
      (fun w h => h.sink.put line w) w =
        ⟨w.console,
          paths.foldl (fun t p => t.append p.location (Charset.encodeUtf8 line)) w.files⟩ := by
    induction paths with
    | nil => exact fun _ => rfl
    | cons p paths ih => exact fun w => ih _
  exact hfiles _

/-- Nothing is appended where none of the paths leads. -/
theorem find?_appendAll {paths : List Path} {loc : Location} (h : ∀ p ∈ paths, p.location ≠ loc)
    (bytes : List UInt8) (t : Tree) :
    (paths.foldl (fun t p => t.append p.location bytes) t).find? loc = t.find? loc := by
  induction paths generalizing t with
  | nil => rfl
  | cons p paths ih =>
    obtain ⟨hp, hpaths⟩ := List.forall_mem_cons.1 h
    rw [List.foldl_cons, ih hpaths, Files.find?_append_of_ne t hp.symm]

/-- Where one of the paths leads and no other, the bytes are appended once. -/
theorem content?_appendAll {paths : List Path} (hnodup : paths.Nodup) {p : Path} (hp : p ∈ paths)
    (h : ∀ q ∈ paths, q.location = p.location → q = p) (bytes : List UInt8) (t : Tree) :
    (paths.foldl (fun t p => t.append p.location bytes) t).content? p.location =
      (t.content? p.location).map (· ++ bytes) := by
  induction paths generalizing t with
  | nil => cases hp
  | cons q paths ih =>
    obtain ⟨hq, hpaths⟩ := List.forall_mem_cons.1 h
    obtain ⟨hnew, hrest⟩ := List.nodup_cons.1 hnodup
    rw [List.foldl_cons]
    by_cases hqp : q = p
    · -- the others lead elsewhere
      subst hqp
      have hothers : ∀ r ∈ paths, r.location ≠ q.location := by
        intro r hr hloc
        exact hnew (hpaths r hr hloc ▸ hr)
      rw [Files.Tree.content?, find?_appendAll hothers]
      exact Files.content?_append_self t q.location bytes
    · have hmem : p ∈ paths := (List.mem_cons.1 hp).resolve_left (Ne.symm hqp)
      rw [ih hrest hmem hpaths]
      have hne : p.location ≠ q.location := fun hloc => hqp (hq hloc.symm)
      rw [Files.Tree.content?, Files.find?_append_of_ne t hne]
      rfl

/-! ## Runs -/

theorem recorded_nil (cwd : Path) (name : String) (t : Tree) :
    Recorded cwd name t [] { name } ⟨"", t⟩ where
  named := rfl
  fresh _ := rfl
  level := fun _ h => nomatch h
  console := rfl
  others _ _ := rfl
  content := by simp

/-- Up to its first set-up a logger gets the console only, and later it has it. -/
theorem Recorded.withConsole {cwd : Path} {name : String} {t : Tree} {events : List Event}
    {l : Logger} {w : Written} (h : Recorded cwd name t events l w) :
    ∃ level, l.withConsole.handlers = handlersAt level (namedPaths cwd events) := by
  unfold Logger.withConsole
  cases hlevel : lastLevel? events with
  | none =>
    rw [h.fresh hlevel, namedPaths_of_noLevel hlevel]
    exact ⟨0, rfl⟩
  | some level =>
    rw [(h.level level hlevel).2]
    exact ⟨level, (h.level level hlevel).2⟩

/-- A record is written on the console and in every file that is attached, or nowhere. -/
theorem Recorded.emit_cases {cwd : Path} {name : String} {t : Tree} {events : List Event}
    {l : Logger} {w : Written} (h : Recorded cwd name t events l w) (stamp : String) (r : Record) :
    (lineOf name (lastLevel? events) (.record stamp r) = [] ∧ l.emit stamp w r = w) ∨
      (lineOf name (lastLevel? events) (.record stamp r) = [r.render stamp] ∧
        l.emit stamp w r =
          ⟨w.console ++ r.render stamp, (namedPaths cwd events).foldl
            (fun t p => t.append p.location (Charset.encodeUtf8 (r.render stamp))) w.files⟩) := by
  cases hlast : lastLevel? events with
  | none => exact Or.inl ⟨rfl, emit_of_noHandlers (h.fresh hlast) stamp w r⟩
  | some level =>
    obtain ⟨hlevel, hhandlers⟩ := h.level level hlast
    rw [emit_of_handlersAt hlevel hhandlers, h.named]
    cases htakes : takes name level r with
    | false => exact Or.inl ⟨by simp [lineOf, htakes], rfl⟩
    | true => exact Or.inr ⟨by simp [lineOf, htakes], put_handlersAt _ level _ w⟩

/-- **One more record.** -/
theorem Recorded.record {cwd : Path} {name : String} {t : Tree} {events : List Event}
    {l : Logger} {w : Written} (h : Recorded cwd name t events l w) (stamp : String) (r : Record) :
    Recorded cwd name t (events ++ [.record stamp r]) l (l.emit stamp w r) := by
  have hpaths : namedPaths cwd (events ++ [.record stamp r]) = namedPaths cwd events :=
    namedPaths_concat_of_mem fun _ hp => (nomatch hp)
  have hlast : lastLevel? (events ++ [.record stamp r]) = lastLevel? events := by
    rw [lastLevel?_append, lastLevel?_singleton]
    rfl
  have hemit := h.emit_cases stamp r
  refine ⟨h.named, ?_, ?_, ?_, ?_, ?_⟩
  · rw [hlast]
    exact h.fresh
  · rw [hlast, hpaths]
    exact h.level
  · rw [linesOf_concat, Option.or_none, String.join_append, ← h.console]
    rcases hemit with ⟨hline, hw⟩ | ⟨hline, hw⟩
    · rw [hline, hw]
      simp
    · rw [hline, hw]
      simp
  · rw [hpaths]
    intro loc hloc
    rcases hemit with ⟨-, hw⟩ | ⟨-, hw⟩
    · rw [hw]
      exact h.others loc hloc
    · rw [hw]
      exact (find?_appendAll hloc _ _).trans (h.others loc hloc)
  · rw [hpaths]
    intro before e after p hsplit hp hnew honly
    rcases concat_eq_append_cons hsplit with ⟨-, rfl, -⟩ | ⟨rest, rfl, hevents⟩
    · cases hp
    have hcontent := h.content before e rest p hevents hp hnew honly
    have hmem : p ∈ namedPaths cwd events := mem_namedPaths (by simp [hevents]) hp
    rw [linesOf_concat, ← lastLevel?_of_path hp, ← hevents, List.flatMap_append]
    rcases hemit with ⟨hline, hw⟩ | ⟨hline, hw⟩
    · rw [hline, hw, hcontent]
      simp
    · rw [hline, hw]
      show (List.foldl _ w.files _).content? _ = _
      rw [content?_appendAll (nodup_namedPaths cwd events) hmem honly, hcontent]
      simp

/-- What a set-up leaves: its level for the logger and all handlers, one handler more if the file is
new, and all files as they were, but for one that is new and comes into being. -/
theorem Recorded.of_setup {cwd : Path} {name : String} {t : Tree} {events : List Event}
    {l l' : Logger} {w : Written} {level : Int} {file : Option String} {files : Tree}
    (h : Recorded cwd name t events l w)
    (hsetup : l.setup level file w.files cwd = .ok (l', files)) :
    let e := Event.setup level file
    l'.name = name ∧ l'.level = level ∧
      l'.handlers = handlersAt level (namedPaths cwd (events ++ [e])) ∧
      (∀ loc, (∀ p ∈ e.path? cwd, p ∉ namedPaths cwd events → loc ≠ p.location) →
        files.find? loc = w.files.find? loc) ∧
      ∀ p ∈ e.path? cwd, p ∉ namedPaths cwd events →
        files.content? p.location = some ((w.files.content? p.location).getD []) := by
  intro e
  obtain ⟨_, hconsole⟩ := h.withConsole
  obtain ⟨hname, hlevel, hfiles⟩ := setup_of_handlersAt hconsole hsetup
  rw [h.named] at hname
  rcases hfiles with ⟨hold, hhandlers, rfl⟩ | ⟨p, hpath, hnew, hhandlers, hopen⟩
  · rw [namedPaths_concat_of_mem hold]
    exact ⟨hname, hlevel, hhandlers, fun _ _ => rfl, fun p hp hnew => absurd (hold p hp) hnew⟩
  · rw [namedPaths_concat_of_notMem hpath hnew]
    refine ⟨hname, hlevel, hhandlers, fun loc hloc => ?_, fun q hq _ => ?_⟩
    · exact Files.find?_openEnd_of_ne hopen (hloc p hpath hnew)
    · obtain rfl : p = q := Option.some.inj (hpath.symm.trans hq)
      exact Files.content?_of_openEnd hopen

/-- **One more set-up.** -/
theorem Recorded.setup {cwd : Path} {name : String} {t : Tree} {events : List Event}
    {l l' : Logger} {w : Written} {level : Int} {file : Option String} {files : Tree}
    (h : Recorded cwd name t events l w)
    (hsetup : l.setup level file w.files cwd = .ok (l', files)) :
    Recorded cwd name t (events ++ [.setup level file]) l' { w with files } := by
  obtain ⟨hname, hlevel, hhandlers, hkept, hopened⟩ := h.of_setup hsetup
  have hlast : lastLevel? (events ++ [.setup level file]) = some level := by
    rw [lastLevel?_append, lastLevel?_singleton]
    rfl
  have hlines : ∀ level? events, linesOf name level? (events ++ [.setup level file]) =
      linesOf name level? events := by
    intro level? events
    rw [linesOf_concat]
    exact List.append_nil _
  have hmem : ∀ p ∈ namedPaths cwd events, p ∈ namedPaths cwd (events ++ [.setup level file]) :=
    fun p hp => namedPaths_append_subset hp
  refine ⟨hname, fun hnone => ?_, ?_, ?_, ?_, ?_⟩
  · rw [hlast] at hnone
    cases hnone
  · rw [hlast]
    rintro _ ⟨⟩
    exact ⟨hlevel, hhandlers⟩
  · rw [hlines]
    exact h.console
  · intro loc hloc
    have hsame : files.find? loc = w.files.find? loc :=
      hkept loc fun p hp _ => (hloc p (mem_namedPaths (by simp) hp)).symm
    exact hsame.trans (h.others loc fun p hp => hloc p (hmem p hp))
  · intro before e after p hsplit hp hnew honly
    rcases concat_eq_append_cons hsplit with ⟨rfl, rfl, rfl⟩ | ⟨rest, rfl, hevents⟩
    · -- the file that is named last: nothing has been written to it so far
      have hothers : ∀ q ∈ namedPaths cwd before, q.location ≠ p.location := by
        intro q hq hloc
        exact hnew (honly q (hmem q hq) hloc ▸ hq)
      show files.content? p.location = _
      rw [hopened p hp hnew, Files.Tree.content?, h.others _ hothers]
      exact congrArg some (List.append_nil _).symm
    · -- one that was there, and that a new one would share its place with
      have hold : p ∈ namedPaths cwd events := mem_namedPaths (by simp [hevents]) hp
      have hne : ∀ q ∈ (Event.setup level file).path? cwd, q ∉ namedPaths cwd events →
          p.location ≠ q.location := by
        intro q hq hqnew hloc
        exact hqnew (honly q (mem_namedPaths (by simp) hq) hloc.symm ▸ hold)
      rw [hlines, Files.Tree.content?, hkept _ hne]
      exact h.content before e rest p hevents hp hnew fun q hq => honly q (hmem q hq)

/-- The logger and what has been written are what the events say. -/
theorem recorded_of_history {cwd : Path} {name : String} {t : Tree} {events : List Event}
    {l : Logger} {w : Written} (h : history cwd name t events = .ok (l, w)) :
    Recorded cwd name t events l w := by
  induction events using List.reverseRecOn generalizing l w with
  | nil =>
    cases h
    exact recorded_nil cwd name t
  | append_singleton events e ih =>
    unfold history at h
    rw [List.foldlM_append] at h
    obtain ⟨⟨l₀, w₀⟩, hbefore, hlast⟩ := bind_eq_ok_iff.1 h
    have hrecorded := ih hbefore
    cases e with
    | setup level file =>
      obtain ⟨⟨l₁, w₁⟩, happly, hlast⟩ := bind_eq_ok_iff.1 hlast
      cases hlast
      obtain ⟨⟨_, files⟩, hsetup, happly⟩ := bind_eq_ok_iff.1 happly
      cases happly
      exact hrecorded.setup hsetup
    | record stamp r =>
      cases hlast
      exact hrecorded.record stamp r

/-! ## Names -/

/-- A name stands above what has a dot behind it and then no other. -/
theorem mem_namesAboveAux {below name : List Char} (hname : name ≠ [])
    (hbelow : below.getLast? ≠ some '.') : name ∈ namesAboveAux (below ++ '.' :: name) := by
  induction below using namesAboveAux.induct with
  | case1 =>
    obtain ⟨c, rest, rfl⟩ := List.exists_cons_of_ne_nil hname
    exact List.mem_cons_self
  | case2 => exact absurd rfl hbelow
  | case3 c rest ih =>
    -- the cut at this dot, and those behind it
    refine List.mem_cons_of_mem _ (ih ?_)
    cases rest with
    | nil => exact fun h => nomatch h
    | cons d rest => simpa using hbelow
  | case4 c rest hlast hcut ih =>
    have hc : c ≠ '.' := by
      rintro rfl
      cases rest with
      | nil => exact hlast rfl rfl
      | cons d rest => exact hcut d rest rfl rfl
    have hskip : namesAboveAux (c :: (rest ++ '.' :: name)) =
        namesAboveAux (rest ++ '.' :: name) := by
      rw [namesAboveAux]
      · exact fun h => absurd h hc
      · exact fun _ _ h => absurd h hc
    rw [List.cons_append, hskip]
    refine ih ?_
    cases rest with
    | nil => exact fun h => nomatch h
    | cons d rest => simpa using hbelow

/-- **A logger gets what is logged on it or on a child of it.** -/
theorem hears_child (l : Logger) {child : String} (h : child.toList.head? ≠ some '.') :
    l.hears (l.name ++ "." ++ child) = true := by
  by_cases hempty : l.name.toList = []
  · have htop : isTop l.name = true := by
      rw [String.toList_eq_nil_iff.1 hempty]
      rfl
    simp [Logger.hears, htop]
  · have habove : l.name ∈ namesAbove (l.name ++ "." ++ child) := by
      refine List.mem_map.2 ⟨l.name.toList.reverse, ?_, ?_⟩
      · have hreverse : (l.name ++ "." ++ child).toList.reverse =
            child.toList.reverse ++ '.' :: l.name.toList.reverse := by
          simp
        rw [hreverse]
        refine mem_namesAboveAux (by simpa using hempty) ?_
        rw [List.getLast?_reverse]
        exact h
      · rw [List.reverse_reverse, String.ofList_toList]
    simp [Logger.hears, habove]

/-- **Logging neither loses nor doubles records.** At every time the logger and all that it has
written are what the events so far say, and all that is logged on it or on a child of it counts. -/
theorem recorded_of_events {cwd : Path} {name : String} {t : Tree} {events : List Event}
    {l : Logger} {w : Written} (h : history cwd name t events = .ok (l, w)) :
    (∀ before, before <+: events →
      ∃ l₀ w₀, history cwd name t before = .ok (l₀, w₀) ∧ Recorded cwd name t before l₀ w₀) ∧
    Recorded cwd name t events l w ∧ l.hears name = true ∧
    ∀ child : String, child.toList.head? ≠ some '.' → l.hears (name ++ "." ++ child) = true := by
  have hrecorded := recorded_of_history h
  refine ⟨?_, hrecorded, ?_, ?_⟩
  · rintro before ⟨after, rfl⟩
    unfold history at h
    rw [List.foldlM_append] at h
    obtain ⟨⟨l₀, w₀⟩, hbefore, -⟩ := bind_eq_ok_iff.1 h
    exact ⟨l₀, w₀, hbefore, recorded_of_history hbefore⟩
  · simp [Logger.hears, hrecorded.named]
  · intro child hchild
    rw [← hrecorded.named]
    exact hears_child l hchild

/-- One file under two spellings, and a level that changes. -/
theorem recorded_of_events_twoSpellings :
    ∃ l w, history .here "w" Tree.empty
        [.setup 10 (some "a.log"), .record "" ⟨"w", 20, "x"⟩, .setup 30 (some "d/../a.log"),
          .record "" ⟨"w.c", 20, "y"⟩, .record "" ⟨"w.c", 30, "z"⟩] = .ok (l, w) ∧
      l.handlers = [⟨.console, 30⟩, ⟨.file ⟨"", ["a.log"]⟩, 30⟩] ∧
      w.files.content? ["a.log"] =
        some (Charset.encodeUtf8 "w - INFO - x\nw.c - WARNING - z\n") := by
  obtain ⟨l, w, h⟩ : ∃ l w, history .here "w" Tree.empty
      [.setup 10 (some "a.log"), .record "" ⟨"w", 20, "x"⟩, .setup 30 (some "d/../a.log"),
        .record "" ⟨"w.c", 20, "y"⟩, .record "" ⟨"w.c", 30, "z"⟩] = .ok (l, w) := ⟨_, _, rfl⟩
  obtain ⟨-, hrecorded, -⟩ := recorded_of_events h
  refine ⟨l, w, h, ?_, ?_⟩
  · exact (hrecorded.level 30 rfl).2.trans (by decide +kernel)
  · have hcontent := hrecorded.content [] _ _ ⟨"", ["a.log"]⟩ rfl (by decide +kernel)
      (by decide +kernel) (by decide +kernel)
    exact hcontent.trans (by decide +kernel)

/-- What no event says: a record of level zero is lost, also where a logger and its file stand below
that level; and a root that is spelled with two slashes makes of one file two, which get each record
twice. -/
theorem lost_and_doubled :
    (∃ l w, history .here "w" Tree.empty
        [.setup (-1) (some "x.log"), .record "" ⟨"w", 0, "zero"⟩] = .ok (l, w) ∧
      l.hears "w" = true ∧ l.effectiveLevel "w" ≤ 0 ∧ (∀ h ∈ l.handlers, h.level ≤ 0) ∧
      w.files.content? ["x.log"] = some []) ∧
    ∃ l w, history .here "w" Tree.empty
        [.setup 20 (some "/x.log"), .setup 20 (some "//x.log"), .record "" ⟨"w", 20, "a"⟩] =
          .ok (l, w) ∧
      w.files.content? ["/", "x.log"] =
        some (Charset.encodeUtf8 "w - INFO - a\nw - INFO - a\n") := by
  refine ⟨⟨_, _, rfl, by decide +kernel, by decide +kernel, by decide +kernel, by decide +kernel⟩,
    _, _, rfl, by decide +kernel⟩

end ApiBindings.Log
