import Tabular.Proofs.Files.Written

set_option autoImplicit false

/-! # Files that stay

Making directories only adds to what is there (`makeParents_extends`), so that a file which could
be read still has its content. Writing to such a file succeeds (`exists_write_of_read`).
-/

namespace Tabular.Files

variable {f g : Files}

/-! ## Files with more entries -/

/-- What is at a place in `f` is there in `g` as well. -/
def Extends (g f : Files) : Prop :=
  ∀ place entry, f.entry? place = some entry → g.entry? place = some entry

theorem Extends.refl (f : Files) : f.Extends f := fun _ _ h => h

theorem Extends.trans {f₁ f₂ f₃ : Files} (h : f₃.Extends f₂) (h' : f₂.Extends f₁) :
    f₃.Extends f₁ :=
  fun place entry he => h place entry (h' place entry he)

/-- A file keeps its content where there is more beside it. -/
theorem read_of_extends (h : g.Extends f) {path : String} {content : ByteArray}
    (hr : f.read path = .ok content) : g.read path = .ok content := by
  obtain ⟨place, hp, he⟩ := read_eq_ok_iff.mp hr
  exact read_eq_ok_iff.mpr
    ⟨place, place?_of_directories (fun place => h place .directory) hp, h place _ he⟩

/-- Putting something where nothing is adds to what is there. -/
theorem put_extends {place : Place} (h : f.entry? place = none) (entry : Entry) :
    Extends (f.put place entry) f := by
  intro other e ho
  rw [entry?_put_of_ne (by simp [h]) (by simp [h, ho]), ho]

/-! ## Making directories -/

theorem makeDirectory_extends {start : Place} {names : List String}
    (h : f.makeDirectory start names = .ok g) : g.Extends f := by
  unfold makeDirectory at h
  rcases hp : f.follow start names with fault | place
  · rw [hp] at h
    cases h
  · simp only [hp, bind, Except.bind] at h
    cases he : f.entry? place with
    | some entry =>
        rw [he] at h
        cases h
    | none =>
        rw [he] at h
        obtain rfl : f.put place .directory = g := Except.ok.inj h
        exact put_extends he .directory

/-- A directory is made, or is there already. -/
theorem extends_of_settled {start : Place} {names : List String}
    (h : (match f.makeDirectory start names with
      | .ok made => Except.ok made
      | .error fault => if f.isDirectory start names then .ok f else .error fault) = .ok g) :
    g.Extends f := by
  split at h
  · rename_i hm
    obtain rfl := Except.ok.inj h
    exact makeDirectory_extends hm
  · split at h
    · obtain rfl := Except.ok.inj h
      exact .refl f
    · cases h

theorem makeDirectories_extends {start : Place} {backwards : List String}
    (h : f.makeDirectories start backwards = .ok g) : g.Extends f := by
  induction backwards generalizing g with
  | nil =>
      obtain rfl : f = g := Except.ok.inj h
      exact .refl f
  | cons name rest ih =>
      rw [makeDirectories] at h
      split at h
      · -- The directory above is made first.
        simp only [bind, Except.bind] at h
        split at h
        · cases h
        · rename_i hrest
          exact (extends_of_settled h).trans (ih hrest)
      · exact extends_of_settled h

/-- The directories that a file needs are made beside what is there. -/
theorem makeParents_extends {path : String} (h : f.makeParents path = .ok g) : g.Extends f :=
  makeDirectories_extends h

/-! ## Writing -/

/-- A file that can be read can be written. -/
theorem exists_write_of_read {path : String} {content : ByteArray} (h : f.read path = .ok content)
    (other : ByteArray) : ∃ g, f.write path other = .ok g := by
  obtain ⟨place, hp, he⟩ := read_eq_ok_iff.mp h
  exact ⟨_, write_eq_ok_iff.mpr ⟨place, hp, by simp [he], rfl⟩⟩

end Tabular.Files
