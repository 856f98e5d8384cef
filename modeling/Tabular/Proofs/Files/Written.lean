import Tabular.Files

set_option autoImplicit false

/-! # Reading what was written

A file that is written is read back under its path (`read_of_write`). The path leads to the same
place afterwards: on the way it passes directories only, and the place that is written is none.
-/

namespace Tabular.Files

variable {f : Files} {place : Place}

/-- The place is known to be a directory without looking at the entries. -/
def Fixed (place : Place) : Prop := place.all (· = "..") = true ∨ place = ["/"]

theorem entry?_of_fixed (h : Fixed place) : f.entry? place = some .directory :=
  if_pos h

theorem entry?_of_not_fixed (h : ¬ Fixed place) :
    f.entry? place = f.entries.lookup ("/".intercalate place) :=
  if_neg h

theorem entry?_put_self (h : f.entry? place ≠ some .directory) (entry : Entry) :
    entry? (f.put place entry) place = some entry := by
  have hfixed : ¬ Fixed place := fun hf => h (entry?_of_fixed hf)
  rw [entry?_of_not_fixed hfixed]
  exact lookup_putPair_self _ _ _

/-- A place with another entry than the one that is written stays as it is. -/
theorem entry?_put_of_ne (h : f.entry? place ≠ some .directory) {other : Place}
    (ho : f.entry? other ≠ f.entry? place) (entry : Entry) :
    entry? (f.put place entry) other = f.entry? other := by
  have hfixed : ¬ Fixed place := fun hf => h (entry?_of_fixed hf)
  by_cases hother : Fixed other
  · rw [entry?_of_fixed hother, entry?_of_fixed hother]
  · rw [entry?_of_not_fixed hfixed, entry?_of_not_fixed hother] at ho
    rw [entry?_of_not_fixed hother, entry?_of_not_fixed hother]
    -- Two places with one name have one entry.
    have hne : "/".intercalate other ≠ "/".intercalate place := by
      intro he
      rw [he] at ho
      exact ho rfl
    exact lookup_putPair_of_ne hne _ _

/-- On its way a path passes directories only, so that it leads to the same place wherever these
are there. -/
theorem follow_of_directories {g : Files}
    (h : ∀ place, f.entry? place = some .directory → g.entry? place = some .directory)
    {start target : Place} {names : List String} (hf : f.follow start names = .ok target) :
    g.follow start names = .ok target := by
  induction names generalizing start with
  | nil => exact hf
  | cons name names ih =>
      unfold follow at hf ⊢
      split at hf
      · cases hf
      · cases hf
      · rename_i hd
        rw [h _ hd]
        -- Only whether there is a directory matters for the next name.
        by_cases hhere : name = "" ∨ name = "."
        · rw [if_pos hhere] at hf
          simp only [if_pos hhere]
          exact ih hf
        by_cases hup : name = ".."
        · rw [if_neg hhere, if_pos hup] at hf
          simp only [if_neg hhere, if_pos hup]
          exact ih hf
        · rw [if_neg hhere, if_neg hup] at hf
          simp only [if_neg hhere, if_neg hup]
          exact ih hf

theorem place?_of_directories {g : Files}
    (h : ∀ place, f.entry? place = some .directory → g.entry? place = some .directory)
    {path : String} {target : Place} (hp : f.place? path = .ok target) :
    g.place? path = .ok target := by
  unfold place? at hp ⊢
  split at hp
  · cases hp
  · exact follow_of_directories h hp
  · exact follow_of_directories h hp

theorem place?_put (h : f.entry? place ≠ some .directory) (entry : Entry) {path : String}
    {target : Place} (hp : f.place? path = .ok target) :
    (f.put place entry).place? path = .ok target := by
  refine place?_of_directories (fun other hd => ?_) hp
  rw [entry?_put_of_ne h (by rw [hd]; exact h.symm), hd]

theorem read_eq_ok_iff {path : String} {content : ByteArray} :
    f.read path = .ok content ↔
      ∃ place, f.place? path = .ok place ∧ f.entry? place = some (.file content) := by
  unfold read
  cases hp : f.place? path with
  | error fault => simp [bind, Except.bind]
  | ok place =>
      cases he : f.entry? place with
      | none => simp [bind, Except.bind, he]
      | some entry => cases entry <;> simp [bind, Except.bind, he]

theorem write_eq_ok_iff {g : Files} {path : String} {content : ByteArray} :
    f.write path content = .ok g ↔ ∃ place, f.place? path = .ok place ∧
      f.entry? place ≠ some .directory ∧ f.put place (.file content) = g := by
  unfold write
  cases hp : f.place? path with
  | error fault => simp [bind, Except.bind]
  | ok place =>
      cases he : f.entry? place with
      | none => simp [bind, Except.bind, he]
      | some entry => cases entry <;> simp [bind, Except.bind, he]

/-- A file that is written is read back. -/
theorem read_of_write {path : String} {content : ByteArray} {g : Files}
    (h : f.write path content = .ok g) : g.read path = .ok content := by
  obtain ⟨place, hp, hd, rfl⟩ := write_eq_ok_iff.mp h
  exact read_eq_ok_iff.mpr ⟨place, place?_put hd _ hp, entry?_put_self hd _⟩

/-! ## A path of one name -/

theorem split_p : Path.split "p" = ["p"] := by decide

theorem place?_p (f : Files) : f.place? "p" = .ok ["p"] := by
  rw [place?, split_p]
  rfl

theorem extension?_p : Path.extension? "p" = none := by
  rw [Path.extension?, Path.fileName?, Path.names, split_p]
  rfl

/-- No directory is made for a file in the working directory. -/
theorem makeParents_p (f : Files) : f.makeParents "p" = .ok f := by
  rw [makeParents, Path.names, split_p]
  rfl

end Tabular.Files
