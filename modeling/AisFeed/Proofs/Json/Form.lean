import AisFeed.Json.Form
import AisFeed.Proofs.Json.Reading
import Mathlib.Data.List.Nodup

/-!
# Forms that are read as they are written

`ReadsAs read j a` says that the text of the value `j` is read as `a`. There is one lemma for each
way to write a field, and `Tree.fields?_zip` for the object around the fields. A form is faithful if
all values of a range are read as they are written and no others are read at all; then its texts
round trip (`Form.IsFaithful.roundTrips`).
-/

set_option autoImplicit false

namespace AisFeed.Json

variable {α β : Type}

/-- The text of a value is read as `a`. -/
def ReadsAs (read : Tree → Option α) (j : Json) (a : α) : Prop :=
  ∃ t, j.spelling? = some t ∧ read t = some a

/-! ## Fields -/

section Fields

variable {bound n : Nat}

theorem readsAs_ofNat (fits : n ≤ bound) : ReadsAs (Tree.natAtMost? bound) (ofNat n) n := by
  have value : (Literal.ofInt n).nat? = some n := by
    simp [Literal.ofInt, Literal.nat?, Literal.isIntegral]
  refine ⟨.number (.ofInt n), rfl, ?_⟩
  simp only [Tree.natAtMost?, value]
  exact if_pos fits

theorem le_of_natAtMost? {t : Tree} (read : t.natAtMost? bound = some n) : n ≤ bound := by
  unfold Tree.natAtMost? at read
  split at read
  · split at read
    · split at read
      · cases read
        assumption
      · cases read
    · cases read
  · cases read

theorem le_of_optional? {t : Option Tree} {o : Option Nat}
    (read : Tree.optional? (Tree.natAtMost? bound) t = some o) : ∀ n ∈ o, n ≤ bound := by
  unfold Tree.optional? Tree.nullable? at read
  split at read
  · cases read
    exact fun n none => nomatch none
  · split at read
    · cases read
      exact fun n none => nomatch none
    · obtain ⟨n, small, rfl⟩ := Option.map_eq_some_iff.1 read
      intro m same
      cases same
      exact le_of_natAtMost? small

theorem readsAs_string (s : String) : ReadsAs Tree.text? (.string s) s :=
  ⟨.string s, rfl, rfl⟩

theorem readsAs_ofOption {write : α → Json} {read : Tree → Option α} {o : Option α}
    (reads : ∀ a ∈ o, ReadsAs read (write a) a) (full : read .null = none) :
    ReadsAs (Tree.nullable? read) (ofOption write o) o := by
  cases o with
  | none => exact ⟨.null, rfl, rfl⟩
  | some a =>
    obtain ⟨t, spelled, named⟩ := reads a rfl
    refine ⟨t, spelled, ?_⟩
    cases t with
    | null =>
      rw [full] at named
      cases named
    | _ => simp only [Tree.nullable?, named, Option.map_some]

theorem readsAs_array {write : α → Json} {read : Tree → Option β} {f : α → β}
    (reads : ∀ a, ReadsAs read (write a) (f a)) (as : List α) :
    ReadsAs (Tree.list? read) (.array (as.map write)) (as.map f) := by
  have all : ∃ ts, itemSpellings? (as.map write) = some ts ∧ ts.mapM read = some (as.map f) := by
    induction as with
    | nil => exact ⟨[], rfl, rfl⟩
    | cons a as ih =>
      obtain ⟨ts, spelled, named⟩ := ih
      obtain ⟨t, spelledFirst, namedFirst⟩ := reads a
      refine ⟨t :: ts, ?_, ?_⟩
      · simp [itemSpellings?, spelledFirst, spelled]
      · simp [namedFirst, named]
  obtain ⟨ts, spelled, named⟩ := all
  exact ⟨.array ts, by rw [spelling?, spelled, Option.map_some], named⟩

/-- One of some variants, by its name. -/
theorem readsAs_oneOf {variants : List (String × α)} {name : String} {a : α}
    (found : variants.find? (fun v => v.1 = name) = some (name, a)) :
    ReadsAs (Tree.oneOf? variants) (.string name) a := by
  refine ⟨.string name, rfl, ?_⟩
  simp only [Tree.oneOf?, Tree.variant?, Option.bind_eq_bind, Option.bind_some, found,
    Option.map_some]

end Fields

/-! ## Objects -/

namespace Tree

theorem map_find?_zip {names : List String} (distinct : names.Nodup) {trees : List Tree}
    (same : names.length = trees.length) :
    (names.map fun n => (((names.map some).zip trees).find? fun m => m.1 = some n).map Prod.snd) =
      trees.map some := by
  induction names generalizing trees with
  | nil =>
    rw [List.length_nil, eq_comm, List.length_eq_zero_iff] at same
    rw [same]
    rfl
  | cons name names ih =>
    cases trees with
    | nil => cases same
    | cons t trees =>
      obtain ⟨fresh, distinct⟩ := List.nodup_cons.1 distinct
      have later : ∀ n ∈ names,
          ((((name :: names).map some).zip (t :: trees)).find? fun m => m.1 = some n).map
            Prod.snd =
          (((names.map some).zip trees).find? fun m => m.1 = some n).map Prod.snd := by
        intro n mem
        have other : ¬ some name = some n := by
          rintro ⟨⟩
          exact fresh mem
        rw [List.map_cons, List.zip_cons_cons, List.find?_cons_of_neg (by simpa using other)]
      rw [List.map_cons, List.map_congr_left later, ih distinct (by simpa using same)]
      simp

/-- The fields of an object that has each of them once. -/
theorem fields?_zip {names : List String} (distinct : names.Nodup) {trees : List Tree}
    (same : names.length = trees.length) :
    fields? names (.object ((names.map some).zip trees)) = some (trees.map some) := by
  have keys : ((names.map some).zip trees).map Prod.fst = names.map some :=
    List.map_fst_zip (by simp [same])
  have named : ((names.map some).zip trees).all (fun m => m.1.isSome) = true := by
    refine List.all_eq_true.2 fun m mem => ?_
    obtain ⟨n, -, is⟩ := List.mem_map.1 (List.of_mem_zip mem).1
    rw [← is]
    rfl
  have once : names.all (fun n =>
      decide ((((names.map some).zip trees).countP fun m => m.1 = some n) ≤ 1)) = true := by
    refine List.all_eq_true.2 fun n _ => decide_eq_true ?_
    have apart : (names.map some).Nodup := distinct.map fun _ _ => Option.some.inj
    have count := List.nodup_iff_count_le_one.1 apart (some n)
    rw [← keys, List.count, List.countP_map] at count
    refine Nat.le_trans (Nat.le_of_eq (List.countP_congr fun m _ => ?_)) count
    simp
  simp only [fields?, named, once, Bool.and_self, if_true, map_find?_zip distinct same]

theorem onlyFields?_zip {names : List String} (distinct : names.Nodup) {trees : List Tree}
    (same : names.length = trees.length) :
    onlyFields? names (.object ((names.map some).zip trees)) = some (trees.map some) := by
  have known : ((names.map some).zip trees).all (fun m => m.1.any names.contains) = true := by
    refine List.all_eq_true.2 fun m mem => ?_
    obtain ⟨n, mem, is⟩ := List.mem_map.1 (List.of_mem_zip mem).1
    simpa [← is] using mem
  simp only [onlyFields?, known, if_true, fields?_zip distinct same]

end Tree

theorem memberSpellings?_eq_some {members : List (String × Json)} {trees : List Tree}
    (spelled : members.map (fun m => m.2.spelling?) = trees.map some) :
    memberSpellings? members = some (((members.map Prod.fst).map some).zip trees) := by
  induction members generalizing trees with
  | nil => rfl
  | cons m members ih =>
    cases trees with
    | nil => cases spelled
    | cons t trees =>
      rw [List.map_cons, List.map_cons] at spelled
      injection spelled with first later
      simp [memberSpellings?, first, ih later]

/-- An object, by what is made of the trees of its members. -/
theorem readsAs_object (names : List String) (trees : List Tree) {members : List (String × Json)}
    {read : Tree → Option α} {a : α} (keys : members.map Prod.fst = names)
    (distinct : names.Nodup) (spelled : members.map (fun m => m.2.spelling?) = trees.map some)
    (named : ∀ t, t.fields? names = some (trees.map some) →
      t.onlyFields? names = some (trees.map some) → read t = some a) :
    ReadsAs read (.object members) a := by
  have same : names.length = trees.length := by
    have count := congrArg List.length spelled
    rw [List.length_map, List.length_map] at count
    rw [← keys, List.length_map, count]
  refine ⟨.object ((names.map some).zip trees), ?_, ?_⟩
  · rw [spelling?, memberSpellings?_eq_some spelled, keys, Option.map_some]
  · exact named _ (Tree.fields?_zip distinct same) (Tree.onlyFields?_zip distinct same)

/-! ## Forms -/

namespace Form

/-- Values of a range are read as they are written, and no others are read. -/
structure IsFaithful (f : Form α) (Fits : α → Prop) : Prop where
  readsAs : ∀ a, Fits a → ReadsAs f.read? (f.write a) a
  fits : ∀ t a, f.read? t = some a → Fits a

/-- The text of a value of a range names that value. Any text that names a value is restated by a
text that stays as it is if it is restated. -/
structure RoundTrips (f : Form α) (Fits : α → Prop) : Prop where
  ofText?_text : ∀ a, Fits a → f.ofText? (f.text a) = some a
  restate? : ∀ text text', f.restate? text = some text' → f.restate? text' = some text'

theorem IsFaithful.roundTrips {f : Form α} {Fits : α → Prop} (faithful : f.IsFaithful Fits) :
    f.RoundTrips Fits := by
  have named : ∀ a, Fits a → f.ofText? (f.text a) = some a := by
    intro a fits
    obtain ⟨t, spelled, read⟩ := faithful.readsAs a fits
    rw [ofText?, text, Tree.ofText?_compact spelled, Option.bind_some, read]
  refine ⟨named, fun text text' restated => ?_⟩
  obtain ⟨a, read, rfl⟩ := Option.map_eq_some_iff.1 restated
  obtain ⟨t, -, ofTree⟩ := Option.bind_eq_some_iff.1 read
  rw [restate?, named a (faithful.fits t a ofTree), Option.map_some]

end Form

end AisFeed.Json
