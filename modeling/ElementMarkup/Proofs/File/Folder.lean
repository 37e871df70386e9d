import ElementMarkup.File.Folder
import ElementMarkup.Proofs.Failure

/-!
# Writing files

A write that fails has made nothing but folders on the way to its file. Where a path leads does not
depend on the folder; the folder only decides whether the path can be followed. A path is not handed
to the system only if it holds the null character.
-/

set_option autoImplicit false

namespace ElementMarkup

theorem Folder.walk_ok {f : Folder} {here place : Path} {names : List String}
    (h : f.walk here names = .ok place) : place = names.foldl Path.step here := by
  induction names generalizing here with
  | nil =>
    simp only [walk, Except.ok.injEq] at h
    exact h.symm
  | cons name rest ih =>
    unfold walk at h
    split at h
    · exact ih h
    · split at h <;> contradiction

theorem Disk.locate_ok {d : Disk} {a : Access} {p place : Path} (h : d.locate a p = .ok place) :
    place = p.place := by
  unfold locate at h
  split at h
  · contradiction
  split at h
  · contradiction
  split at h
  · next hw =>
    cases h
    exact Folder.walk_ok hw
  · contradiction

/-- No file stands at a place or below it. -/
def Folder.Vacant (f : Folder) (place : Path) : Prop :=
  ∀ file ∈ f.files, file.1 ≠ place ∧ file.1.isBelow place = false

/-- A place that some names at the front of a path lead to, but not all of them, and that holds no
file. -/
def Folder.EmptyParent (f : Folder) (p place : Path) : Prop :=
  (∃ n < p.names.length, place = (p.upTo n).place) ∧ f.Vacant place

/-- The files and folders are what they were, but for new folders on the way to a file. -/
structure Folder.OnlyParents (p : Path) (f made : Folder) : Prop where
  files : made.files = f.files
  kept : ∀ q ∈ f.folders, q ∈ made.folders
  added : ∀ q ∈ made.folders, q ∈ f.folders ∨ f.EmptyParent p q

theorem Folder.EmptyParent.of_files {f g : Folder} {p q : Path} (h : f.EmptyParent p q)
    (hf : f.files = g.files) : g.EmptyParent p q :=
  ⟨h.1, fun file hm => h.2 file (hf ▸ hm)⟩

namespace Folder.OnlyParents

variable {p : Path} {f g k : Folder}

theorem refl (p : Path) (f : Folder) : OnlyParents p f f :=
  ⟨rfl, fun _ h => h, fun _ h => .inl h⟩

theorem trans (h : OnlyParents p f g) (h' : OnlyParents p g k) : OnlyParents p f k where
  files := h'.files.trans h.files
  kept q hq := h'.kept q (h.kept q hq)
  added q hq := by
    rcases h'.added q hq with hq | hq
    · exact h.added q hq
    · exact .inr (hq.of_files h.files)

end Folder.OnlyParents

theorem Folder.vacant_of_not {f : Folder} {place : Path} (hfolder : f.isFolder place = false)
    (hfile : f.isFile place = false) : f.Vacant place := by
  intro file hm
  simp only [isFolder, isFile, Bool.or_eq_false_iff, List.any_eq_false] at hfolder hfile
  have hbelow := hfolder.2 file hm
  have hplace := hfile file hm
  exact ⟨by simpa using hplace, by simpa using hbelow⟩

theorem Disk.ensure_ok {d made : Disk} {p : Path} (h : d.ensure p = .ok made) :
    made = d ∨ d.folder.Vacant p.place ∧
      made.folder = { d.folder with folders := p.place :: d.folder.folders } := by
  rcases bind_eq_ok_iff.1 h with ⟨place, hl, h⟩
  obtain rfl := locate_ok hl
  split at h
  · cases h
    exact .inl rfl
  · next hfolder =>
    split at h
    · cases h
    · next hfile =>
      cases h
      exact .inr ⟨Folder.vacant_of_not (by simpa using hfolder) (by simpa using hfile), rfl⟩

theorem Disk.ensure_onlyParents {d made : Disk} {p : Path} {n : Nat} (hn : n < p.names.length)
    (h : d.ensure (p.upTo n) = .ok made) : Folder.OnlyParents p d.folder made.folder := by
  rcases ensure_ok h with rfl | ⟨hv, hmade⟩
  · exact .refl p made.folder
  · rw [hmade]
    refine ⟨rfl, fun q hq => List.mem_cons_of_mem _ hq, fun q hq => ?_⟩
    rcases List.mem_cons.mp hq with rfl | hq
    · exact .inr ⟨⟨n, hn, rfl⟩, hv⟩
    · exact .inl hq

theorem Disk.makeUpTo_onlyParents (d : Disk) (p : Path) (n : Nat) (hn : n ≤ p.names.length - 1) :
    Folder.OnlyParents p d.folder (d.makeUpTo p n).2.folder := by
  induction n with
  | zero => exact .refl p d.folder
  | succ n ih =>
    have made := ih (by omega)
    have hn : n + 1 < p.names.length := by omega
    unfold makeUpTo
    split
    · next h => exact ensure_onlyParents hn h
    -- the folder around it is absent, and is made first
    · split
      · next h => exact h ▸ made
      · next h =>
        rw [h] at made
        split
        · next h => exact made.trans (ensure_onlyParents hn h)
        · exact made
    · exact .refl p d.folder

/-- A write that fails has made only folders that the file was to stand in. -/
theorem Disk.write_onlyParents {d : Disk} {p : Path} {bytes : List UInt8} {e : FileError}
    (h : (d.write p bytes).1 = .error e) :
    Folder.OnlyParents p d.folder (d.write p bytes).2.folder := by
  have made := d.makeUpTo_onlyParents p (p.names.length - 1) (Nat.le_refl _)
  unfold write at h ⊢
  split
  · next hm => exact hm ▸ made
  · next hm =>
    simp only [hm] at h made
    split
    · next hp => simp [hp] at h
    · exact made

/-- The path is at fault if the error says that it holds the null character. -/
def FileError.Blames (e : FileError) (p : Path) : Prop :=
  e.fault = .nullCharacter → e.path = p ∧ p.hasNull = true

theorem Folder.walk_error {f : Folder} {here : Path} {names : List String} {fault : FileFault}
    (h : f.walk here names = .error fault) : fault ≠ .nullCharacter := by
  induction names generalizing here with
  | nil => cases h
  | cons name rest ih =>
    unfold walk at h
    split at h
    · exact ih h
    · split at h <;> cases h <;> decide

theorem Disk.locate_blames {d : Disk} {a : Access} {p : Path} {e : FileError}
    (h : d.locate a p = .error e) : e.Blames p := by
  unfold locate at h
  split at h
  · next hn =>
    cases h
    exact fun _ => ⟨rfl, hn⟩
  split at h
  · cases h
    exact fun he => by cases he
  split at h
  · cases h
  · next hw =>
    cases h
    exact fun he => absurd he (Folder.walk_error hw)

theorem Disk.read_blames {d : Disk} {p : Path} {e : FileError} (h : d.read p = .error e) :
    e.Blames p := by
  rcases bind_eq_error_iff.1 h with h | ⟨place, -, h⟩
  · exact locate_blames h
  · dsimp only at h
    split at h
    · cases h
    · cases h
      unfold FileError.Blames
      dsimp only
      split <;> exact fun he => by cases he

theorem Disk.ensure_blames {d : Disk} {p : Path} {e : FileError} (h : d.ensure p = .error e) :
    e.Blames p := by
  rcases bind_eq_error_iff.1 h with h | ⟨place, -, h⟩
  · exact locate_blames h
  · split at h
    · cases h
    · split at h
      · cases h
        exact fun he => by cases he
      · cases h

theorem Disk.put_blames {d : Disk} {p : Path} {bytes : List UInt8} {e : FileError}
    (h : d.put p bytes = .error e) : e.Blames p := by
  rcases bind_eq_error_iff.1 h with h | ⟨place, -, h⟩
  · exact locate_blames h
  · dsimp only at h
    split at h
    · cases h
      exact fun he => by cases he
    · cases h

theorem Path.hasNull_of_upTo {p : Path} {n : Nat} (h : (p.upTo n).hasNull = true) :
    p.hasNull = true := by
  unfold hasNull upTo at h
  rw [List.any_eq_true] at h
  obtain ⟨name, hn, hc⟩ := h
  exact List.any_eq_true.2 ⟨name, List.mem_of_mem_take hn, hc⟩

theorem Disk.makeUpTo_null {d : Disk} {p : Path} {n : Nat} {e : FileError}
    (h : (d.makeUpTo p n).1 = .error e) (he : e.fault = .nullCharacter) : p.hasNull = true := by
  induction n generalizing e with
  | zero => cases h
  | succ n ih =>
    have hblame {g : Disk} {e : FileError} (h : g.ensure (p.upTo (n + 1)) = .error e)
        (he : e.fault = .nullCharacter) : p.hasNull = true :=
      Path.hasNull_of_upTo (ensure_blames h he).2
    unfold makeUpTo at h
    split at h
    · cases h
    · split at h
      · next hm =>
        cases h
        exact ih (by rw [hm]) he
      · split at h
        · cases h
        · next hensure =>
          cases h
          exact hblame hensure he
    · next hensure =>
      cases h
      exact hblame hensure he

theorem Disk.write_null {d : Disk} {p : Path} {bytes : List UInt8} {e : FileError}
    (h : (d.write p bytes).1 = .error e) (he : e.fault = .nullCharacter) : p.hasNull = true := by
  unfold write at h
  split at h
  · next hm =>
    cases h
    exact makeUpTo_null (by rw [hm]) he
  · split at h
    · cases h
    · next hput =>
      cases h
      exact (put_blames hput he).2

end ElementMarkup
