import ApiStubs.Command.Workspace

/-!
# Writing files

What a write leaves behind, for every path and every workspace:

* `Workspace.Replaced w path content after` — the path now leads to a file of that content,
  and nothing else differs;
* `Workspace.replaced_of_write` — a write that succeeds does this.

A path is followed through directories, of which a write makes none: a file is only put
where its directory is. So every path is followed as before, up to the file itself
(`Workspace.findFrom_put`).
-/

namespace ApiStubs
namespace Command

namespace Location

theorem outer_inner (location : Location) (name : String) :
    (location.inner name).outer = location := by
  obtain ⟨base, names⟩ := location
  -- There is a first name, so the outer location is the one without the last of the names.
  have hcons : ∃ first more, names ++ [name] = first :: more :=
    List.exists_cons_of_ne_nil (List.append_ne_nil_of_right_ne_nil _ (List.cons_ne_nil _ _))
  obtain ⟨first, more, hcons⟩ := hcons
  rw [inner, outer, hcons]
  change Location.mk base (first :: more).dropLast = _
  rw [← hcons, List.dropLast_concat]

theorem contains_iff {location other : Location} :
    location.contains other = true ↔
      location.base = other.base ∧ location.names <+: other.names := by
  rw [contains, Bool.and_eq_true, decide_eq_true_iff, List.isPrefixOf_iff_prefix]

theorem contains_trans {a b c : Location} (hab : a.contains b = true)
    (hbc : b.contains c = true) : a.contains c = true := by
  rw [contains_iff] at hab hbc ⊢
  exact ⟨hab.1.trans hbc.1, hab.2.trans hbc.2⟩

end Location

namespace Workspace

variable {w : Workspace}

/-! ### Directories -/

/-- What lies around a directory is one. -/
theorem hasDirectory_of_contains {location : Location} (other : Location)
    (h : location.contains other = true) (hother : w.hasDirectory other = true) :
    w.hasDirectory location = true := by
  simp only [hasDirectory, Bool.or_eq_true, List.any_eq_true, List.isEmpty_iff] at hother ⊢
  rcases hother with (hnil | ⟨directory, hmem, hin⟩) | ⟨file, hmem, hin⟩
  · -- The place from which paths start is a directory, and only it lies around itself.
    have hprefix := (Location.contains_iff.mp h).2
    rw [hnil, List.prefix_nil] at hprefix
    exact .inl (.inl hprefix)
  · -- A directory that was listed, and what lies around it, is around the other place too.
    exact .inl (.inr ⟨directory, hmem, Location.contains_trans h hin⟩)
  · exact .inr ⟨file, hmem, Location.contains_trans h hin⟩

theorem hasDirectory_outer {location : Location} (h : w.hasDirectory location = true) :
    w.hasDirectory location.outer = true := by
  obtain ⟨base, names⟩ := location
  cases names with
  | nil => rfl
  | cons name names =>
    have hprefix : (name :: names).dropLast <+: name :: names := List.dropLast_prefix _
    exact hasDirectory_of_contains ⟨base, name :: names⟩
      (Location.contains_iff.mpr ⟨rfl, hprefix⟩) h

/-! ### Putting a file -/

theorem file?_put (w : Workspace) (location : Location) (content : ByteArray) :
    (w.put location content).file? location = some content := by
  simp [file?, put]

/-- **Frame.** Other files stay as they are. -/
theorem file?_put_of_ne {location other : Location} (h : other ≠ location)
    (content : ByteArray) : (w.put location content).file? other = w.file? other := by
  -- The look-up passes the files that are kept in the same way, since the other file is one of
  -- them.
  have hother : ∀ file : Location × ByteArray,
      decide ((file.1 != location) = true ∧ (file.1 == other) = true) = (file.1 == other) := by
    intro file
    by_cases heq : file.1 = other
    · simp [heq, h]
    · simp [heq]
  have hnew : (location == other) = false := beq_eq_false_iff_ne.mpr h.symm
  simp only [file?, put, List.find?_cons, hnew, List.find?_filter, hother]

/-- **Frame.** Where its directory is there, a file brings no directory and takes none. -/
theorem hasDirectory_put {location : Location} (h : w.hasDirectory location.outer = true)
    (content : ByteArray) (other : Location) :
    (w.put location content).hasDirectory other = w.hasDirectory other := by
  by_cases hcontains : other.contains location.outer = true
  · -- Around the new file there is only what has been around its directory before.
    rw [hasDirectory_of_contains _ hcontains h]
    simp [hasDirectory, put, hcontains]
  · -- The file that is replaced, if any, lies outside of the directory as well.
    have hothers : ∀ file : Location × ByteArray,
        (file.1 != location && other.contains file.1.outer) = other.contains file.1.outer := by
      intro file
      by_cases heq : file.1 = location
      · simp [heq, hcontains]
      · simp [heq]
    simp only [hasDirectory, put, List.any_cons, List.any_filter, hothers]
    simp [hcontains]

/-! ### Following paths -/

/-- Whether a path leads to a place where a file is or could be made. -/
def Leads (found : Except FileFault Found) (location : Location) : Prop :=
  found = .ok (.missing location) ∨ ∃ content, found = .ok (.file location content)

/-- **A file is found where it has been put.** What lies on the way to it has not changed. -/
theorem findFrom_put {start location : Location} {names : List String}
    (hstart : w.hasDirectory start = true) (h : Leads (w.findFrom start names) location)
    (content : ByteArray) :
    w.hasDirectory location.outer = true ∧
      (w.put location content).findFrom start names = .ok (.file location content) := by
  -- By induction on the names of the path; the cases are those that `findFrom` tells apart.
  induction names generalizing start with
  -- With no names left, a directory is found and no file, so there is nothing to write to.
  | nil => rcases h with h | ⟨old, h⟩ <;> cases h
  | cons name names ih =>
    rw [findFrom] at h ⊢
    by_cases hstay : name = "" ∨ name = "."
    · rw [if_pos hstay] at h ⊢
      exact ih hstart h
    rw [if_neg hstay] at h ⊢
    by_cases hup : name = ".."
    · rw [if_pos hup] at h ⊢
      exact ih (hasDirectory_outer hstart) h
    rw [if_neg hup] at h ⊢
    by_cases hlong : maxNameSize < name.utf8ByteSize
    · rw [if_pos hlong] at h
      rcases h with h | ⟨old, h⟩ <;> cases h
    rw [if_neg hlong] at h ⊢
    -- The step into a directory is the same after the file is put, as no directory has changed.
    by_cases hinner : w.hasDirectory (start.inner name) = true
    · simp only [hinner, if_true] at h
      obtain ⟨houter, hfind⟩ := ih hinner h
      refine ⟨houter, ?_⟩
      simp only [hasDirectory_put houter, hinner, if_true]
      exact hfind
    · -- The path ends here, and the directory in which it does has been there before.
      have hend : names = [] ∧ location = start.inner name := by
        simp only [hinner] at h
        cases hfile : w.file? (start.inner name) <;> cases names <;>
          rw [hfile] at h <;> rcases h with h | ⟨old, h⟩ <;> cases h <;> exact ⟨rfl, rfl⟩
      obtain ⟨rfl, rfl⟩ := hend
      have houter : w.hasDirectory (start.inner name).outer = true := by
        rw [Location.outer_inner]
        exact hstart
      refine ⟨houter, ?_⟩
      simp only [hasDirectory_put houter, hinner, file?_put]
      rfl

theorem find_put {path : String} {location : Location} (h : Leads (w.find path) location)
    (content : ByteArray) :
    w.hasDirectory location.outer = true ∧
      (w.put location content).find path = .ok (.file location content) := by
  unfold find follow at h ⊢
  -- A path that is empty or too long is an error, with and without the file.
  split at h
  · rcases h with h | ⟨old, h⟩ <;> cases h
  rename_i hpath
  split at h
  · rcases h with h | ⟨old, h⟩ <;> cases h
  rename_i hsize
  rw [if_neg hpath, if_neg hsize]
  exact findFrom_put rfl h content

/-! ### Reading and writing -/

/-- **One file replaced.** The path leads to a file of that content, and there is no other
change. -/
structure Replaced (w : Workspace) (path : String) (content : ByteArray) (after : Workspace) :
    Prop where
  /-- The file is there, with all of the content. -/
  reads : after.read path = .ok content
  /-- Every other file is as it was, or is still not there. -/
  frame : ∃ location, Leads (w.find path) location ∧ after.file? location = some content ∧
    ∀ other, other ≠ location → after.file? other = w.file? other
  /-- Directories are those that were there. -/
  directories : ∀ location, after.hasDirectory location = w.hasDirectory location

variable {path : String} {content : ByteArray} {after : Workspace}

/-- A write succeeds only where the path leads to a file or to the place for one. -/
theorem exists_put_of_write (h : w.write path content = .ok after) :
    ∃ location, Leads (w.find path) location ∧ after = w.put location content := by
  rw [write] at h
  split at h
  · -- A slash at the end asks for a directory, and such a path is never written to.
    cases haround : w.findAround path <;> rw [haround] at h <;> cases h
  · -- Otherwise the path has to lead to a file, or to a place where one is missing.
    split at h
    · cases h
    · cases h
    · rename_i location old hfind
      cases h
      exact ⟨location, .inr ⟨old, hfind⟩, rfl⟩
    · rename_i location hfind
      cases h
      exact ⟨location, .inl hfind, rfl⟩

/-- What can be written to can be written to with any content. -/
theorem exists_write (h : w.write path content = .ok after) (content' : ByteArray) :
    ∃ after', w.write path content' = .ok after' := by
  rw [write] at h ⊢
  split at h
  · cases haround : w.findAround path <;> rw [haround] at h <;> cases h
  · -- Whether a path can be written to is seen from where it leads, not from the content.
    rename_i hslash
    rw [if_neg hslash]
    cases hfind : w.find path with
    | error fault =>
      rw [hfind] at h
      cases h
    | ok found =>
      cases found with
      | directory location =>
        rw [hfind] at h
        cases h
      | file location old => exact ⟨_, rfl⟩
      | missing location => exact ⟨_, rfl⟩

/-- **A write that succeeds** replaces one file. -/
theorem replaced_of_write (h : w.write path content = .ok after) :
    w.Replaced path content after := by
  obtain ⟨location, hleads, rfl⟩ := exists_put_of_write h
  obtain ⟨houter, hfind⟩ := find_put hleads content
  refine ⟨?_, ⟨location, hleads, file?_put w location content, ?_⟩, ?_⟩
  · rw [read, hfind]
  · exact fun other hne => file?_put_of_ne hne content
  · exact hasDirectory_put houter content

end Workspace
end Command
end ApiStubs
