import AisFeed.Storage
import Mathlib.Data.List.Infix

/-!
# Storage that grows

A file that is made closes no way (`walk_make`), so a path to which it is made leads to it
(`isStored_make`), and bytes that are added to it are found behind what it held
(`IsStored.append`). No other file changes (`file?_make_of_ne`, `file?_append_of_ne`).
-/

set_option autoImplicit false

namespace AisFeed.Storage

variable {s : Storage} {path : String} {r other : Route} {bytes : List UInt8}

/-! ## Files -/

theorem file?_make_self (absent : s.file? r = none) : (s.make r).file? r = some [] := by
  unfold file? at absent ⊢
  split at absent
  · cases absent
  · rename_i solid
    rw [Option.map_eq_none_iff] at absent
    rw [make, if_neg solid, List.find?_append, absent]
    simp

theorem file?_make_of_ne (ne : other ≠ r) : (s.make r).file? other = s.file? other := by
  unfold file? make
  rw [List.find?_append]
  simp [Ne.symm ne]

theorem find?_append (s : Storage) (r other : Route) (bytes : List UInt8) :
    (s.append r bytes).files.find? (fun f => f.1 = other) =
      (s.files.find? fun f => f.1 = other).map
        fun f => if f.1 = r then (f.1, f.2 ++ bytes) else f := by
  have place : ((fun f : Route × List UInt8 => decide (f.1 = other)) ∘
      fun f => if f.1 = r then (f.1, f.2 ++ bytes) else f) = fun f => decide (f.1 = other) := by
    funext f
    rw [Function.comp_apply]
    split <;> rfl
  rw [append, List.find?_map, place]

theorem file?_append_self {held : List UInt8} (solid : r ∉ s.voids) (found : s.file? r = some held) :
    (s.append r bytes).file? r = some (held ++ bytes) := by
  have open' : s.voids.contains r = false := by simpa using solid
  rw [file?, if_neg (by simpa using solid)] at found
  obtain ⟨f, first, rfl⟩ := Option.map_eq_some_iff.1 found
  have here : f.1 = r := by simpa using List.find?_some first
  have voids : (s.append r bytes).voids = s.voids := rfl
  rw [file?, voids, open', find?_append, first, Option.map_some, if_pos here]
  rfl

theorem file?_append_of_ne (ne : other ≠ r) : (s.append r bytes).file? other = s.file? other := by
  have voids : (s.append r bytes).voids = s.voids := rfl
  rw [file?, file?, voids, find?_append]
  cases first : s.files.find? fun f => f.1 = other with
  | none => rfl
  | some f =>
    have here : f.1 = other := by simpa using List.find?_some first
    have away : f.1 ≠ r := here ▸ ne
    rw [Option.map_some, ite_cond_eq_false _ _ (eq_false away)]

theorem isSome_file?_append : ((s.append r bytes).file? other).isSome = (s.file? other).isSome := by
  have voids : (s.append r bytes).voids = s.voids := rfl
  rw [file?, file?, voids]
  split
  · rfl
  · rw [find?_append, Option.isSome_map, Option.isSome_map, Option.isSome_map]

theorem append_nil (s : Storage) (r : Route) : s.append r [] = s := by
  have same : (fun f : Route × List UInt8 => if f.1 = r then (f.1, f.2 ++ []) else f) = id := by
    funext f
    rw [List.append_nil, ite_self, id]
  rw [append, same, List.map_id]

theorem append_append (s : Storage) (r : Route) (bytes more : List UInt8) :
    (s.append r bytes).append r more = s.append r (bytes ++ more) := by
  have both : ((fun f : Route × List UInt8 => if f.1 = r then (f.1, f.2 ++ more) else f) ∘
      fun f => if f.1 = r then (f.1, f.2 ++ bytes) else f) =
        fun f => if f.1 = r then (f.1, f.2 ++ (bytes ++ more)) else f := by
    funext f
    rw [Function.comp_apply]
    by_cases here : f.1 = r
    · rw [if_pos here, if_pos here, if_pos here, List.append_assoc]
    · rw [if_neg here, if_neg here, if_neg here]
  rw [append, append, List.map_map, both]
  rfl

/-! ## Directories -/

theorem isDirectory_append (s : Storage) (r other : Route) (bytes : List UInt8) :
    (s.append r bytes).isDirectory other = s.isDirectory other := by
  have routes : (s.append r bytes).files.map Prod.fst = s.files.map Prod.fst := by
    rw [append, List.map_map]
    apply List.map_congr_left
    intro f _
    rw [Function.comp_apply]
    split <;> rfl
  rw [isDirectory, routes]
  rfl

/-- The directories above a file that is made are there. -/
theorem isDirectory_make :
    (s.make r).isDirectory other = true ↔ s.isDirectory other = true ∨ other <+: r.dropLast := by
  have routes : (s.make r).files.map Prod.fst = s.files.map Prod.fst ++ [r] := by
    rw [make, List.map_append]
    rfl
  have rest : (s.make r).directories = s.directories ∧ (s.make r).voids = s.voids := ⟨rfl, rfl⟩
  simp only [isDirectory, routes, rest, Bool.or_eq_true, List.any_append, List.map_append,
    List.map_cons, List.map_nil, List.any_cons, List.any_nil, List.isPrefixOf_iff_prefix,
    Bool.or_false]
  tauto

/-! ## Ways -/

section Ways

variable {name : String} {names : List String} {found : Route}

/-- A name on the way is that of a directory, or there is a fault. -/
theorem placeOf_on_way (s : Storage) (r : Route) (name : String) :
    s.placeOf r name true = .directory ∨ ∃ error, s.placeOf r name true = .fault error := by
  unfold placeOf
  dsimp only
  split
  · exact Or.inl rfl
  split
  · exact Or.inr ⟨_, rfl⟩
  split
  · exact Or.inl rfl
  split
  · exact Or.inr ⟨_, rfl⟩
  · exact Or.inr ⟨_, rfl⟩

theorem walk_cons_eq_ok_iff :
    s.walk r (name :: names) = .ok found ↔
      s.placeOf r name true = .directory ∧ s.walk (r.follow name) names = .ok found := by
  rw [walk]
  obtain directory | ⟨error, fault⟩ := placeOf_on_way s r name
  · simp [directory]
  · simp [fault]

theorem placeOf_eq_directory_iff {asks : Bool} :
    s.placeOf r name asks = .directory ↔ Route.isRelative name = true ∨
      (Text.Utf8.bytesOf name).length ≤ longestName ∧ s.isDirectory (r.follow name) = true := by
  unfold placeOf
  grind

/-- A directory stays one when a file is made. -/
theorem placeOf_make_on_way (made : Route) (directory : s.placeOf r name true = .directory) :
    (s.make made).placeOf r name true = .directory := by
  obtain relative | ⟨short, there⟩ := placeOf_eq_directory_iff.1 directory
  · exact placeOf_eq_directory_iff.2 (Or.inl relative)
  · exact placeOf_eq_directory_iff.2 (Or.inr ⟨short, isDirectory_make.2 (Or.inl there)⟩)

/-- A file that is made closes no way. -/
theorem walk_make (made : Route) (way : s.walk r names = .ok found) :
    (s.make made).walk r names = .ok found := by
  induction names generalizing r with
  | nil => exact way
  | cons name names ih =>
    obtain ⟨directory, onward⟩ := walk_cons_eq_ok_iff.1 way
    exact walk_cons_eq_ok_iff.2 ⟨placeOf_make_on_way made directory, ih onward⟩

theorem placeOf_append_on_way (s : Storage) (r file : Route) (name : String) (bytes : List UInt8) :
    (s.append file bytes).placeOf r name true = s.placeOf r name true := by
  have there : ((s.append file bytes).file? (r.follow name)).isSome =
      (s.file? (r.follow name)).isSome := isSome_file?_append
  unfold placeOf
  dsimp only
  rw [isDirectory_append]
  cases before : s.file? (r.follow name) with
  | none =>
    rw [before, Option.isSome_none, Option.isSome_eq_false_iff, Option.isNone_iff_eq_none] at there
    rw [there]
  | some held =>
    rw [before, Option.isSome_some] at there
    obtain ⟨grown, after⟩ := Option.isSome_iff_exists.1 there
    rw [after]
    rfl

theorem walk_append (s : Storage) (r file : Route) (names : List String) (bytes : List UInt8) :
    (s.append file bytes).walk r names = s.walk r names := by
  induction names generalizing r with
  | nil => rfl
  | cons name names ih => rw [walk, walk, placeOf_append_on_way, ih]

theorem approach_append (s : Storage) (path : String) (file : Route) (bytes : List UInt8) :
    (s.append file bytes).approach path = s.approach path := by
  rw [approach, approach, walk_append]

theorem approach_eq_ok_iff {name? : Option String} :
    s.approach path = .ok (found, name?) ↔
      (path.toList.contains '\x00' = false ∧
        (Text.Utf8.bytesOf path).length ≤ longestPath ∧ path.isEmpty = false) ∧
      s.walk (Route.start path) (Route.names path).dropLast = .ok found ∧
        (Route.names path).getLast? = name? := by
  unfold approach
  dsimp only
  cases s.walk (Route.start path) (Route.names path).dropLast with
  | error error => grind [Except.map]
  | ok r => grind [Except.map]

theorem approach_make {name? : Option String} (made : Route)
    (way : s.approach path = .ok (found, name?)) :
    (s.make made).approach path = .ok (found, name?) := by
  obtain ⟨sound, walked, last⟩ := approach_eq_ok_iff.1 way
  exact approach_eq_ok_iff.2 ⟨sound, walk_make made walked, last⟩

/-! ## Places -/

/-- What can be looked up in the directory `d` is a file or could be one. -/
structure IsFileName (s : Storage) (d : Route) (name : String) : Prop where
  proper : Route.isRelative name = false
  short : (Text.Utf8.bytesOf name).length ≤ longestName
  notDirectory : s.isDirectory (d.follow name) = false

theorem placeOf_eq_file_iff {d : Route} {asks : Bool} :
    s.placeOf d name asks = .file r bytes ↔
      s.IsFileName d name ∧ asks = false ∧ r = d.follow name ∧ s.file? r = some bytes := by
  constructor
  · intro place
    unfold placeOf at place
    grind [IsFileName]
  · rintro ⟨⟨proper, short, notDirectory⟩, rfl, rfl, file⟩
    unfold placeOf
    grind

theorem placeOf_eq_vacant_iff {d : Route} {asks : Bool} :
    s.placeOf d name asks = .vacant r ↔
      s.IsFileName d name ∧ asks = false ∧ r = d.follow name ∧ s.file? r = none := by
  constructor
  · intro place
    unfold placeOf at place
    grind [IsFileName]
  · rintro ⟨⟨proper, short, notDirectory⟩, rfl, rfl, file⟩
    unfold placeOf
    grind

/-- A path leads to what its last name stands for in the directory that it leads to before. -/
theorem place_of_approach (way : s.approach path = .ok (found, some name)) :
    s.place path = s.placeOf found name (asksDirectory path) := by
  rw [place, way]

theorem exists_approach (noDirectory : s.place path ≠ .directory)
    (noFault : ∀ error, s.place path ≠ .fault error) :
    ∃ d name, s.approach path = .ok (d, some name) := by
  cases way : s.approach path with
  | error error => exact absurd (by rw [place, way]) (noFault error)
  | ok last =>
    obtain ⟨d, name?⟩ := last
    cases name? with
    | none => exact absurd (by rw [place, way]) noDirectory
    | some name => exact ⟨d, name, rfl⟩

theorem place_eq_file_iff :
    s.place path = .file r bytes ↔ ∃ d name, s.approach path = .ok (d, some name) ∧
      s.IsFileName d name ∧ asksDirectory path = false ∧ r = d.follow name ∧
        s.file? r = some bytes := by
  constructor
  · intro place
    obtain ⟨d, name, way⟩ := exists_approach (by rw [place]; nofun) (by rw [place]; nofun)
    rw [place_of_approach way] at place
    exact ⟨d, name, way, placeOf_eq_file_iff.1 place⟩
  · rintro ⟨d, name, way, last⟩
    rw [place_of_approach way]
    exact placeOf_eq_file_iff.2 last

theorem place_eq_vacant_iff :
    s.place path = .vacant r ↔ ∃ d name, s.approach path = .ok (d, some name) ∧
      s.IsFileName d name ∧ asksDirectory path = false ∧ r = d.follow name ∧
        s.file? r = none := by
  constructor
  · intro place
    obtain ⟨d, name, way⟩ := exists_approach (by rw [place]; nofun) (by rw [place]; nofun)
    rw [place_of_approach way] at place
    exact ⟨d, name, way, placeOf_eq_vacant_iff.1 place⟩
  · rintro ⟨d, name, way, last⟩
    rw [place_of_approach way]
    exact placeOf_eq_vacant_iff.2 last

end Ways

/-! ## Files that are made and grow -/

/-- A path leads to a file that holds the given bytes and takes more. -/
structure IsStored (s : Storage) (path : String) (r : Route) (bytes : List UInt8) : Prop where
  place : s.place path = .file r bytes
  solid : r ∉ s.voids

theorem isStored_make (vacant : s.place path = .vacant r) : (s.make r).IsStored path r [] := by
  obtain ⟨d, name, way, ⟨proper, short, notDirectory⟩, asks, rfl, absent⟩ :=
    place_eq_vacant_iff.1 vacant
  refine ⟨place_eq_file_iff.2 ⟨d, name, approach_make _ way, ⟨proper, short, ?_⟩, asks, rfl,
    file?_make_self absent⟩, ?_⟩
  · rw [← Bool.not_eq_true, isDirectory_make, not_or]
    refine ⟨by rw [notDirectory]; exact Bool.false_ne_true, fun inside => ?_⟩
    -- A way is not the start of the way to the directory above it, unless it is the empty one.
    have empty : d.follow name = [] := by
      have less := inside.length_le
      rw [List.length_dropLast] at less
      exact List.eq_nil_of_length_eq_zero (by omega)
    rw [empty] at notDirectory
    cases notDirectory
  · intro void
    have void' : s.voids.contains (d.follow name) = true := List.contains_iff_mem.2 void
    rw [file?, if_pos void'] at absent
    cases absent

theorem IsStored.append (stored : s.IsStored path r bytes) (more : List UInt8) :
    (s.append r more).IsStored path r (bytes ++ more) := by
  obtain ⟨place, solid⟩ := stored
  obtain ⟨d, name, way, ⟨proper, short, notDirectory⟩, asks, here, file⟩ :=
    place_eq_file_iff.1 place
  refine ⟨place_eq_file_iff.2 ⟨d, name, ?_, ⟨proper, short, ?_⟩, asks, here,
    file?_append_self solid file⟩, solid⟩
  · rw [approach_append, way]
  · rw [isDirectory_append, notDirectory]

theorem IsStored.bytesAt (stored : s.IsStored path r bytes) : s.bytesAt path = some bytes := by
  rw [Storage.bytesAt, stored.place]

theorem openToAppend_of_vacant (vacant : s.place path = .vacant r) :
    s.openToAppend path = .ok (s.make r, r) := by
  obtain ⟨d, name, way, -, asks, -, -⟩ := place_eq_vacant_iff.1 vacant
  rw [openToAppend, way, vacant]
  dsimp only
  rw [asks]
  rfl

theorem openToAppend_of_file (found : s.place path = .file r bytes) :
    s.openToAppend path = .ok (s, r) := by
  obtain ⟨d, name, way, -, asks, -, -⟩ := place_eq_file_iff.1 found
  rw [openToAppend, way, found]
  dsimp only
  rw [asks]
  rfl

/-- Where there is a fault nothing can be made. -/
theorem openToAppend_of_fault {error : IoError} (fault : s.place path = .fault error) :
    ∃ error, s.openToAppend path = .error error := by
  rw [openToAppend, fault]
  split
  · exact ⟨_, rfl⟩
  · split
    · exact ⟨_, rfl⟩
    · exact ⟨_, rfl⟩

end AisFeed.Storage
