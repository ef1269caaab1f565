import Mathlib.Logic.Function.Basic
import Modelwright.Files.Store

namespace Modelwright.Store

/-! What the operations on files in memory do to the contents: each changes them where its paths
lead, as a disk does that allows it, or not at all. -/

variable {store changed : Store} {location other : Location} {path text : String}

theorem lookup_cons_eq (location other : Location) (entry : FileEntry)
    (entries : List (Location × FileEntry)) :
    ((location, entry) :: entries).lookup other =
      if other = location then some entry else entries.lookup other := by
  rw [List.lookup_cons]
  by_cases here : other = location
  · simp [here]
  · rw [beq_false_of_ne here, if_neg here]

theorem lookup_filter (entries : List (Location × FileEntry)) (location other : Location) :
    (entries.filter (·.1 != location)).lookup other =
      if other = location then none else entries.lookup other := by
  induction entries with
  | nil => simp
  | cons entry rest ih =>
      obtain ⟨place, entry⟩ := entry
      by_cases dropped : place = location
      · rw [List.filter_cons_of_neg (by simpa using dropped), ih, lookup_cons_eq, dropped]
        split
        · rfl
        · rfl
      · rw [List.filter_cons_of_pos (by simpa using dropped), lookup_cons_eq, ih, lookup_cons_eq]
        by_cases here : other = location
        · rw [if_neg fun same => dropped (same.symm.trans here), if_pos here, if_pos here]
        · rw [if_neg here, if_neg here]

theorem entryAt?_of_ne_nil (store : Store) (inside : location ≠ []) :
    store.entryAt? location = store.entries.lookup location := by
  rw [entryAt?, if_neg (by simpa using inside)]

theorem entryAt?_erase (store : Store) (inside : other ≠ []) :
    (store.erase location).entryAt? other =
      if other = location then none else store.entryAt? other := by
  rw [entryAt?_of_ne_nil _ inside, erase, lookup_filter, entryAt?_of_ne_nil _ inside]

theorem entryAt?_insert (store : Store) (entry : FileEntry) (inside : other ≠ []) :
    (store.insert location entry).entryAt? other =
      if other = location then some entry else store.entryAt? other := by
  rw [entryAt?_of_ne_nil _ inside, insert, lookup_cons_eq, ← entryAt?_of_ne_nil _ inside,
    entryAt?_erase _ inside]
  split
  · rfl
  · rfl

theorem contents?_root (store : Store) : store.contents? [] = none := rfl

theorem contents?_erase (store : Store) (location : Location) :
    (store.erase location).contents? = Function.update store.contents? location none := by
  funext other
  by_cases root : other = []
  · subst root
    rw [contents?_root, Function.update_apply, contents?_root, ite_self]
  · rw [contents?, entryAt?_erase _ root, Function.update_apply]
    by_cases here : other = location
    · rw [if_pos here, if_pos here]
    · rw [if_neg here, if_neg here, contents?]

theorem contents?_insert_file (store : Store) (inside : location ≠ []) (text : String) :
    (store.insert location (.file text)).contents? =
      Function.update store.contents? location (some text) := by
  funext other
  by_cases root : other = []
  · subst root
    rw [contents?_root, Function.update_of_ne inside.symm, contents?_root]
  · rw [contents?, entryAt?_insert _ _ root, Function.update_apply]
    by_cases here : other = location
    · rw [if_pos here, if_pos here]
    · rw [if_neg here, if_neg here, contents?]

theorem contents?_insert_directory (free : store.entryAt? location = none) :
    (store.insert location .directory).contents? = store.contents? := by
  funext other
  by_cases root : other = []
  · rw [root, contents?_root, contents?_root]
  · rw [contents?, entryAt?_insert _ _ root]
    by_cases here : other = location
    · rw [if_pos here, contents?, here, free]
    · rw [if_neg here, contents?]

theorem contents?_makeWay (store : Store) (segments : List (List Char)) (here : Location) :
    (store.makeWay segments here).1.contents? = store.contents? := by
  induction segments generalizing store here with
  | nil => rfl
  | cons segment rest ih =>
      rw [makeWay]
      cases step? segment here with
      | none => rfl
      | some next =>
          cases found : store.entryAt? next with
          | none =>
              simp only [found]
              rw [ih, contents?_insert_directory found]
          | some entry =>
              cases entry with
              | directory => simpa only [found] using ih store next
              | file contents => simp only [found]

theorem attempt_cases (change : Store → Option Store) (store : Store) :
    (∃ changed, change store = some changed ∧ (attempt change).run store = (true, changed)) ∨
      (attempt change).run store = (false, store) := by
  simp only [attempt, StateT.run]
  cases change store with
  | none => exact .inr rfl
  | some changed => exact .inl ⟨changed, rfl, rfl⟩

theorem contents?_createDirectories (store : Store) (path : String) :
    (store.createDirectories path).1.contents? = store.contents? := by
  unfold createDirectories
  cases segments? path with
  | none => rfl
  | some segments => exact store.contents?_makeWay segments []

theorem contents?_write? (written : store.write? path text = some changed) :
    ∃ location, store.locate? path = some location ∧
      changed.contents? = Function.update store.contents? location (some text) := by
  obtain ⟨location, leads, made⟩ := Option.bind_eq_some_iff.mp written
  split at made
  · cases made
  · next noDirectory =>
      have inside : location ≠ [] := by
        rintro rfl
        exact noDirectory (by simp [isDirectory, entryAt?])
      cases made
      exact ⟨location, leads, store.contents?_insert_file inside text⟩

theorem contents?_remove? (removed : store.remove? path = some changed) :
    ∃ location, store.locate? path = some location ∧
      changed.contents? = Function.update store.contents? location none := by
  obtain ⟨location, leads, made⟩ := Option.bind_eq_some_iff.mp removed
  obtain ⟨text, stands, erased⟩ := Option.bind_eq_some_iff.mp made
  cases erased
  exact ⟨location, leads, store.contents?_erase location⟩

theorem isDirectory_erase {text : String} (stands : store.contents? location = some text) :
    (store.erase location).isDirectory = store.isDirectory := by
  funext other
  by_cases root : other = []
  · rw [root]
    rfl
  · rw [isDirectory, isDirectory, entryAt?_erase _ root]
    by_cases here : other = location
    · rw [if_pos here, here]
      rw [contents?] at stands
      split at stands
      · next found => rw [found]; rfl
      · cases stands
    · rw [if_neg here]

theorem walk?_congr {second : Store} (same : store.isDirectory = second.isDirectory)
    (segments : List (List Char)) (here : Location) :
    store.walk? segments here = second.walk? segments here := by
  induction segments generalizing here with
  | nil => rfl
  | cons segment rest ih => rw [walk?, walk?, same, funext ih]

theorem contents?_rename? {source target : String}
    (renamed : store.rename? source target = some changed) :
    ∃ old new text, store.locate? source = some old ∧ store.locate? target = some new ∧
      store.contents? old = some text ∧ changed.contents? =
        Function.update (Function.update store.contents? old none) new (some text) := by
  obtain ⟨old, leads, made⟩ := Option.bind_eq_some_iff.mp renamed
  obtain ⟨text, stands, written⟩ := Option.bind_eq_some_iff.mp made
  obtain ⟨new, reaches, contents⟩ := contents?_write? written
  refine ⟨old, new, text, leads, ?_, stands, by rw [contents, contents?_erase]⟩
  rw [← reaches, locate?, locate?, funext fun segments =>
    walk?_congr (isDirectory_erase stands) segments []]

end Modelwright.Store
